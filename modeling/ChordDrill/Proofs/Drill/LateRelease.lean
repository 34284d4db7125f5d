import ChordDrill.Proofs.Combo.Grammar
import ChordDrill.Proofs.Drill.Account

/-!
# ChordDrill.Proofs.Drill.LateRelease

A key pressed before the prompt and let go after it.

* `Flushed`     — a drill about to prompt, with the motions that its flush dropped.
* `LateRelease` — motions behind a flush with the release of a key whose press was dropped.

The flush drops the press only. The release is compared with the combo like any other motion,
unless the verdict is there before it; no combo that some text reads as goes on with it.
-/

namespace ChordDrill

open Motion

namespace Combo

/-- A key is released for the first time without a press only if it was held. -/
theorem Legal.mem_of_release {H H' : Finset Key} {ts : List Token} (h : Legal H ts H') {k : Key}
    {M M' : List Motion} (hts : ts.flatMap Token.motions = M ++ .release k :: M')
    (hM : ofKey k M = []) : k ∈ H := by
  have hne : ∀ {m : Motion} {M : List Motion}, ofKey k (m :: M) = [] →
      m.key ≠ k ∧ ofKey k M = [] := by
    intro m M h
    rw [ofKey, List.filter_cons] at h
    split at h
    · cases h
    · rename_i hk
      exact ⟨by simpa using hk, h⟩
  induction h generalizing M with
  | nil => simp at hts
  | @cons H H₁ H' t ts hm _ ih =>
    rw [List.flatMap_cons] at hts
    cases hm with
    | @press _ j hj =>
      rcases List.cons_eq_append_iff.mp hts with ⟨rfl, hcons⟩ | ⟨M, rfl, hrest⟩
      · cases hcons
      · obtain ⟨hjk, hM⟩ := hne hM
        exact Finset.mem_of_mem_insert_of_ne (ih hrest hM) (Ne.symm hjk)
    | @release _ j hj =>
      rcases List.cons_eq_append_iff.mp hts with ⟨rfl, hcons⟩ | ⟨M, rfl, hrest⟩
      · cases hcons
        exact hj
      · exact Finset.mem_of_mem_erase (ih hrest (hne hM).2)
    | @tap _ j =>
      change .press j :: .release j :: ts.flatMap Token.motions = _ at hts
      rcases List.cons_eq_append_iff.mp hts with ⟨rfl, hcons⟩ | ⟨M, rfl, hrest⟩
      · cases hcons
      · obtain ⟨hjk, hM⟩ := hne hM
        rcases List.cons_eq_append_iff.mp hrest with ⟨rfl, hcons⟩ | ⟨M, rfl, hbehind⟩
        · cases hcons
          exact absurd rfl hjk
        · exact ih hbehind (hne hM).2

end Combo

namespace Attempt

variable {E M M' : List Motion} {k : Key}

/-- The motion behind those that decide nothing is entered, whatever it is. -/
theorem entered_getElem? (ho : outcome E M = none) (M' : List Motion) :
    (matcherAfter E (M ++ M')).entered[M.length]? = M'.head? := by
  have hplace : (M ++ M')[M.length]? = M'.head? := by rw [← List.head?_drop, List.drop_left]
  have hstands := stands_feedAll E (M ++ M')
  cases ho' : outcome E (M ++ M') with
  | none => rw [(hstands.of_undecided ho').1, hplace]
  | some p =>
    obtain ⟨v, n⟩ := p
    have hn : ¬ n < M.length := by
      intro hlt
      have htake := outcome_take ho' M.length
      rw [List.take_left, if_pos hlt, ho] at htake
      cases htake
    rw [(hstands.of_decided ho').1, List.getElem?_take_of_lt (by omega), hplace]

theorem matcherAfter_of_decided {v : Verdict} {n : Nat} (ho : outcome E M = some (v, n))
    (M' : List Motion) : (matcherAfter E (M ++ M')).entered = M.take (n + 1) ∧
      (matcherAfter E (M ++ M')).verdict = some v := by
  have hd := outcome_eq_some_iff.mp ho
  have ho' := outcome_eq_some_iff.mpr (hd.append M')
  refine ⟨?_, ?_⟩
  · rw [((stands_feedAll E (M ++ M')).of_decided ho').1, List.take_append_of_le_length hd.lt]
  · rw [verdict_matcherAfter, ho']
    rfl

theorem release_leaves_combo {s : String} (hs : Combo.parse s = .ok E) (ho : outcome E M = none)
    (hM : ofKey k M = []) : E[M.length]? ≠ some (.release k) := by
  intro hE
  obtain ⟨t, rfl⟩ := prefix_of_undecided ho
  rw [← List.head?_drop, List.drop_left] at hE
  obtain ⟨M', rfl⟩ := List.head?_eq_some_iff.mp hE
  obtain ⟨ws, H, _, hl, hms⟩ := Combo.legal_of_parse hs
  rw [Combo.motionsOf, ← List.flatMap_map] at hms
  exact Finset.notMem_empty k (hl.mem_of_release hms.symm hM)

end Attempt

namespace Drill

open Attempt

/-- A drill about to prompt `a`, with nothing in its way, whose flush dropped the motions `Q`. -/
structure Flushed (a : Action) (Q : List Motion) (d : Drill) : Prop where
  connected : Connected d
  phase : d.phase = .prompting a
  queue : d.line.queue = []
  dropped : ∃ (d₀ : Drill) (acts : List Act), d₀.phase = .flushing a ∧
    (∀ x ∈ acts, x.Quiet) ∧ d₀.perform acts = d ∧ d.events = d₀.events ∧
    d₀.line.queue ++ sent acts = Q

/-- With the keys `H` down at first, a keyboard can make the motions `Q` and then `M₁`, the release
of `k` and `M₂`; and `k` was pressed among `Q` and is not touched in `M₁`. -/
structure LateRelease (H : Finset Key) (Q M₁ : List Motion) (k : Key) (M₂ : List Motion) :
    Prop where
  possible : Possible H (Q ++ (M₁ ++ .release k :: M₂))
  pressed : Left Q k
  untouched : ofKey k M₁ = []

theorem LateRelease.head?_ne {H : Finset Key} {Q M₁ M₂ : List Motion} {k : Key}
    (h : LateRelease H Q M₁ k M₂) : M₂.head? ≠ some (.release k) := by
  intro hhead
  obtain ⟨M, rfl⟩ := List.head?_eq_some_iff.mp hhead
  have hbehind := (possible_append.mp (possible_append.mp h.possible).2).2
  have hagain := (possible_cons.mp (possible_cons.mp hbehind).2).1
  simp [isPress, key, moveKeys] at hagain

section

variable {a : Action} {d : Drill} {H : Finset Key} {Q M₁ M₂ : List Motion} {k : Key}
  {acts acts' : List Act}

/-- The release of a key that was pressed before the prompt changes nothing in the account of the
session exactly if the verdict is there before it. If it comes earlier and the combo was read from a
text, it is accepted and fails the attempt at once. -/
theorem late_release_harmless_iff (hd : Flushed a Q d) (hlate : LateRelease H Q M₁ k M₂)
    (hacts : ∀ x ∈ acts, x.Quiet) (hsent : sent acts = M₁ ++ .release k :: M₂)
    (hacts' : ∀ x ∈ acts', x.Quiet) (hsent' : sent acts' = M₁ ++ M₂) :
    (account d.events.length (d.perform acts).settle =
        account d.events.length (d.perform acts').settle ↔ outcome a.combo M₁ ≠ none) ∧
    (∀ s, Combo.parse s = .ok a.combo → outcome a.combo M₁ = none →
      account d.events.length (d.perform acts).settle =
        (M₁ ++ [.release k], [.mismatched a.combo (M₁ ++ [.release k])])) := by
  have hwith := account_settle hd.connected hd.phase hd.queue hacts
  have hwithout := account_settle hd.connected hd.phase hd.queue hacts'
  rw [hsent] at hwith
  rw [hsent'] at hwithout
  rw [hwith, hwithout]
  refine ⟨⟨fun hsame ho => ?_, fun ho => ?_⟩, fun s hs ho => ?_⟩
  · -- The place behind `M₁` tells the two lists of accepted motions apart.
    have hentered := congrArg (fun p => p.1[M₁.length]?) hsame
    change (matcherAfter _ _).entered[_]? = (matcherAfter _ _).entered[_]? at hentered
    rw [entered_getElem? ho, entered_getElem? ho, List.head?_cons] at hentered
    exact hlate.head?_ne hentered.symm
  · obtain ⟨⟨v, n⟩, ho⟩ := Option.ne_none_iff_exists'.mp ho
    obtain ⟨hentered, hverdict⟩ := matcherAfter_of_decided ho (.release k :: M₂)
    obtain ⟨hentered', hverdict'⟩ := matcherAfter_of_decided ho M₂
    rw [hentered, hverdict, hentered', hverdict']
  · have hleave := release_leaves_combo hs ho hlate.untouched
    have hdecided := outcome_eq_some_iff.mpr (decided_of_leaving ho (.inr hleave))
    obtain ⟨hentered, hverdict⟩ := matcherAfter_of_decided hdecided M₂
    have hall : (M₁ ++ [Motion.release k]).take (M₁.length + 1) = M₁ ++ [.release k] :=
      List.take_of_length_le (by rw [List.length_append, List.length_singleton])
    rw [List.append_assoc, List.singleton_append] at hentered hverdict
    rw [hentered, hverdict, hall]
    rfl

end

/-! ## A key let go behind the prompt -/

def ctrlF : Action := ⟨[], [.press .ctrl, .press .letterF], "ctrl and f"⟩

/-- A drill over `ctrlF` whose flush dropped the press of `q`. -/
def ctrlFAfterQ : Drill :=
  drillAfter [ctrlF] { queue := [.press .letterQ] } true (List.replicate 3 .step)

theorem flushed_ctrlFAfterQ : Flushed ctrlF [.press .letterQ] ctrlFAfterQ where
  connected e := by
    cases e <;> simp [ctrlFAfterQ, drillAfter, perform, act, step, Breaks]
  phase := rfl
  queue := rfl
  dropped := by
    refine ⟨drillAfter [ctrlF] { queue := [.press .letterQ] } true [.step],
      List.replicate 2 .step, rfl, ?_, rfl, rfl, rfl⟩
    simp [Act.Quiet]

theorem quiet_sends (M : List Motion) : ∀ x ∈ M.map Act.send, x.Quiet := by
  intro x hx
  obtain ⟨m, _, rfl⟩ := List.mem_map.mp hx
  trivial

/-- Let go behind the verdict `q` changes nothing; let go before it, it fails the attempt. -/
theorem q_harmless_behind_verdict :
    account 0 (ctrlFAfterQ.perform ([.press .ctrl, .press .letterF, .release .letterQ,
      .release .letterF, .release .ctrl].map .send)).settle =
      account 0 (ctrlFAfterQ.perform ([.press .ctrl, .press .letterF,
        .release .letterF, .release .ctrl].map .send)).settle ∧
    account 0 (ctrlFAfterQ.perform ([.press .ctrl, .release .letterQ, .press .letterF,
      .release .letterF, .release .ctrl].map .send)).settle =
      ([.press .ctrl, .release .letterQ],
        [.mismatched ctrlF.combo [.press .ctrl, .release .letterQ]]) := by
  have hbehind : LateRelease ∅ [.press .letterQ] [.press .ctrl, .press .letterF] .letterQ
      [.release .letterF, .release .ctrl] := by
    refine ⟨?_, by decide, by decide⟩
    simp [possible_cons, possible_nil, moveKeys, key, isPress]
  have hbefore : LateRelease ∅ [.press .letterQ] [.press .ctrl] .letterQ
      [.press .letterF, .release .letterF, .release .ctrl] := by
    refine ⟨?_, by decide, by decide⟩
    simp [possible_cons, possible_nil, moveKeys, key, isPress]
  let ws : List Combo.Written := [.ofToken (.press .ctrl), .ofToken (.press .letterF)]
  have hlegal : Combo.Legal ∅ (ws.map Combo.Written.token) {.letterF, .ctrl} :=
    .cons (.press (by decide)) (.cons (.press (by decide)) .nil)
  have hletters : "↓ctrl↓f".toList = Combo.lettersOf ws := by decide
  have hparse : Combo.parse "↓ctrl↓f" = .ok ctrlF.combo := Combo.parse_of_legal hletters hlegal
  have hquiet := quiet_sends [.press .ctrl, .press .letterF, .release .letterF, .release .ctrl]
  exact ⟨(late_release_harmless_iff flushed_ctrlFAfterQ hbehind (quiet_sends _) rfl
      hquiet rfl).1.mpr (by decide),
    (late_release_harmless_iff flushed_ctrlFAfterQ hbefore (quiet_sends _) rfl
      hquiet rfl).2 _ hparse (by decide)⟩

/-- With the release of `q` between `ctrl` and `f` the attempt fails, without it it succeeds. -/
theorem q_fails_ctrlF :
    Flushed ctrlF [.press .letterQ] ctrlFAfterQ ∧
    LateRelease ∅ [.press .letterQ] [.press .ctrl] .letterQ
      [.press .letterF, .release .letterF, .release .ctrl] ∧
    account 0 (ctrlFAfterQ.perform ([.press .ctrl, .release .letterQ, .press .letterF,
      .release .letterF, .release .ctrl].map .send)).settle =
      ([.press .ctrl, .release .letterQ],
        [.mismatched ctrlF.combo [.press .ctrl, .release .letterQ]]) ∧
    account 0 (ctrlFAfterQ.perform ([.press .ctrl, .press .letterF,
      .release .letterF, .release .ctrl].map .send)).settle =
      ([.press .ctrl, .press .letterF], [.matched ctrlF.combo]) := by
  refine ⟨flushed_ctrlFAfterQ, ⟨?_, by decide, by decide⟩, by decide, by decide⟩
  simp [possible_cons, possible_nil, moveKeys, key, isPress]

end Drill

end ChordDrill
