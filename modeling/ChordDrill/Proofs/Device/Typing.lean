import ChordDrill.Proofs.Attempt.Classification
import ChordDrill.Proofs.Combo.Grammar
import ChordDrill.Proofs.Device.Holders

/-!
# ChordDrill.Proofs.Device.Typing

Which motions, and which combos, come out of a keyboard at all.

* `Key.scancode`, `Held.typed` — a scancode for each key, and the edges that type some motions with
  these scancodes alone.
* `Combo.TapsUp`               — no key is tapped while it is held.

A listener lets the motions of each key take turns, and motions that do can be typed
(`motionsFor_typed`). A combo may tap a held key, and then its motions do not take turns.
-/

namespace ChordDrill

open Motion

namespace Key

/-- The first scancode of a key. -/
def scancode (k : Key) : Scancode := ((scancodes.find? fun p => p.2 = k).map Prod.fst).getD 0

theorem ofScancode?_scancode (k : Key) : ofScancode? k.scancode = some k := by
  have h : ∀ j ∈ all, ofScancode? j.scancode = some j := by decide
  exact h k (mem_all k)

end Key

namespace Device.Held

/-! ## Typing -/

def typedEdge (m : Motion) : Edge := ⟨m.key.scancode, if m.isPress then 1 else 0⟩

def typed (ms : List Motion) : List Edge := ms.map typedEdge

variable {ms : List Motion} {m : Motion} {k : Key}

theorem eq_scancode_of_mem_down {c : Scancode} (hc : c ∈ (heldAfter (typed ms)).down)
    (hk : Key.ofScancode? c = some k) : c = k.scancode := by
  obtain ⟨e, he, _⟩ := (mem_down_heldAfter _ c).mp hc
  obtain ⟨hmem, hcode⟩ := List.mem_filter.mp (List.mem_of_getLast? he)
  obtain ⟨m, _, rfl⟩ := List.mem_map.mp hmem
  have hm : m.key.scancode = c := (of_decide_eq_true hcode).1
  rw [← hm, Key.ofScancode?_scancode] at hk
  rw [← hm, Option.some.inj hk]

theorem translate_typed (h : Possible ∅ (ms ++ [m])) (hms : motionsFor (typed ms) = ms) :
    ((heldAfter (typed ms)).translate (typedEdge m)).1 = some m := by
  have hdown := (possible_motionsFor (typed ms)).2
  rw [hms] at hdown
  have hm := (possible_cons.mp (possible_append.mp h).2).1
  have heffect := effect_translate (heldAfter (typed ms)) (typedEdge m)
  have hmoves := heffect.eq_some_iff (counted_heldAfter _) m.key
  have hafter := heffect.mem_down
  cases m with
  | press k =>
    have hup : k ∉ downAfter ∅ ms := by
      simp only [isPress, key, Bool.true_eq, Bool.not_eq_true'] at hm
      exact of_decide_eq_false hm
    have hdown' :
        k.scancode ∈ ((heldAfter (typed ms)).translate (typedEdge (.press k))).2.down := by
      rw [hafter, if_pos ⟨rfl, show (1 : Int32) ≠ 2 by decide⟩]
      exact show (1 : Int32) ≠ 0 by decide
    refine hmoves.1.mpr ⟨not_not.mp fun hne => hup ((hdown k).mpr hne), ?_⟩
    exact List.ne_nil_of_mem (mem_scancodesOf.mpr ⟨hdown', Key.ofScancode?_scancode k⟩)
  | release k =>
    have hdown' : k ∈ downAfter ∅ ms := by
      simp only [isPress, key, Bool.false_eq, Bool.not_eq_false'] at hm
      exact of_decide_eq_true hm
    refine hmoves.2.mpr ⟨(hdown k).mp hdown', List.eq_nil_iff_forall_not_mem.mpr fun c hc => ?_⟩
    -- Only the first scancode of the key can have been down.
    obtain ⟨hc, hk⟩ := mem_scancodesOf.mp hc
    rw [hafter] at hc
    split at hc
    · exact hc rfl
    · rename_i hne
      exact hne ⟨(eq_scancode_of_mem_down hc hk).symm, show (0 : Int32) ≠ 2 by decide⟩

theorem motionsFor_typed (h : Possible ∅ ms) : motionsFor (typed ms) = ms := by
  induction ms using List.reverseRecOn with
  | nil => rfl
  | append_singleton ms m ih =>
    have hms := ih (possible_append.mp h).1
    have htyped : typed (ms ++ [m]) = typed ms ++ [typedEdge m] := List.map_append
    rw [htyped, motionsFor_snoc, hms, translate_typed h hms]
    rfl

theorem exists_motionsFor_iff : (∃ es, motionsFor es = ms) ↔ Possible ∅ ms := by
  constructor
  · rintro ⟨es, rfl⟩
    exact (possible_motionsFor es).1
  · intro h
    exact ⟨typed ms, motionsFor_typed h⟩

end Device.Held

/-! ## Combos -/

namespace Combo

/-- No tap stands where its key is held. -/
def TapsUp (H : Finset Key) (ts : List Token) : Prop :=
  ∀ ts₁ k ts₂ H₁, ts = ts₁ ++ .tap k :: ts₂ → Legal H ts₁ H₁ → k ∉ H₁

variable {H H' : Finset Key} {t : Token} {ts : List Token}

theorem tapsUp_cons (hm : t.Moves H H') :
    TapsUp H (t :: ts) ↔ (∀ k, t = .tap k → k ∉ H) ∧ TapsUp H' ts := by
  constructor
  · intro h
    refine ⟨fun k ht => ?_, fun ts₁ k ts₂ H₁ hts hl => ?_⟩
    · exact h [] k ts H (by rw [ht, List.nil_append]) .nil
    · exact h (t :: ts₁) k ts₂ H₁ (by rw [hts, List.cons_append]) (.cons hm hl)
  · rintro ⟨hfirst, hrest⟩ ts₁ k ts₂ H₁ hts hl
    cases hl with
    | nil =>
      rw [List.nil_append, List.cons.injEq] at hts
      exact hfirst k hts.1
    | cons hm' hl =>
      rw [List.cons_append, List.cons.injEq] at hts
      obtain ⟨rfl, hts⟩ := hts
      exact hrest _ k ts₂ H₁ hts (hm.unique hm' ▸ hl)

/-- The motions of tokens that may all stand are possible unless a held key is tapped. -/
theorem Legal.possible_iff (h : Legal H ts H') :
    Possible H (ts.flatMap Token.motions) ↔ TapsUp H ts := by
  induction h with
  | nil =>
    refine ⟨fun _ ts₁ k ts₂ H₁ hts _ => ?_, fun _ => possible_nil _⟩
    exact absurd hts.symm (List.append_ne_nil_of_right_ne_nil ts₁ (List.cons_ne_nil _ _))
  | @cons H H₁ H' t ts hm _ ih =>
    rw [tapsUp_cons hm, ← ih, List.flatMap_cons]
    cases hm with
    | @press _ k hk =>
      change Possible H (.press k :: ts.flatMap Token.motions) ↔ _
      simp [possible_cons, isPress, key, moveKeys, hk]
    | @release _ k hk =>
      change Possible H (.release k :: ts.flatMap Token.motions) ↔ _
      simp [possible_cons, isPress, key, moveKeys, hk]
    | @tap _ k =>
      change Possible H (.press k :: .release k :: ts.flatMap Token.motions) ↔ _
      by_cases hk : k ∈ H
      · simp [possible_cons, isPress, key, hk]
      · simp [possible_cons, isPress, key, moveKeys, hk, Finset.erase_insert hk]

/-- A text says by its reader whether a held key is tapped. -/
theorem tapsUp_iff_held {s : String} {ws : List Written} {held : List Key}
    (hs : s.toList = lettersOf ws) (hp : replay [] (ws.map Written.token) = .ok held) :
    TapsUp ∅ (ws.map Written.token) ↔
      ∀ ws₁ w ws₂ k, ws = ws₁ ++ w :: ws₂ → w.token = .tap k →
        k ∉ ((Reader.ofText s).after (motionsOf ws₁).length).held := by
  have hbefore : ∀ ws₁ ws₂, ws = ws₁ ++ ws₂ → Legal ∅ (ws₁.map Written.token)
      ((Reader.ofText s).after (motionsOf ws₁).length).held.toFinset := by
    rintro ws₁ ws₂ rfl
    rw [List.map_append] at hp
    obtain ⟨held₁, hp₁⟩ := exists_replay_of_append hp
    rw [held_after hs hp₁]
    exact legal_of_replay hp₁
  constructor
  · intro h ws₁ w ws₂ k hws hw hk
    refine h (ws₁.map Written.token) k (ws₂.map Written.token) _ ?_ (hbefore ws₁ _ hws)
      (List.mem_toFinset.mpr hk)
    rw [hws, List.map_append, List.map_cons, hw]
  · intro h ts₁ k ts₂ H₁ hts hl hk
    obtain ⟨ws₁, ws', hws, rfl, hts'⟩ := List.map_eq_append_iff.mp hts
    obtain ⟨w, ws₂, rfl, hw, _⟩ := List.map_eq_cons_iff.mp hts'
    rw [hl.unique (hbefore ws₁ _ hws), List.mem_toFinset] at hk
    exact h ws₁ w ws₂ k hws hw hk

end Combo

/-! ## Typing a combo -/

namespace Device.Held

open Attempt Combo

theorem verdict_eq_matched_iff {E M : List Motion} :
    (matcherAfter E M).verdict = some (.matched E) ↔ E ≠ [] ∧ E <+: M := by
  rw [verdict_matcherAfter, Option.map_eq_some_iff]
  constructor
  · rintro ⟨⟨v, n⟩, ho, hv⟩
    cases hv
    cases outcome_eq_some_iff.mp ho with
    | matched hE hpre => exact ⟨hE, hpre⟩
  · rintro ⟨hE, hpre⟩
    exact ⟨_, outcome_eq_some_iff.mpr (.matched hE hpre), rfl⟩

theorem exists_matched_iff {ms : List Motion} :
    (∃ es, (matcherAfter ms (motionsFor es)).verdict = some (.matched ms)) ↔
      ms ≠ [] ∧ Possible ∅ ms := by
  constructor
  · rintro ⟨es, hes⟩
    obtain ⟨hne, M, hM⟩ := verdict_eq_matched_iff.mp hes
    have hpossible := (possible_motionsFor es).1
    rw [← hM] at hpossible
    exact ⟨hne, (possible_append.mp hpossible).1⟩
  · rintro ⟨hne, hpossible⟩
    obtain ⟨es, hes⟩ := exists_motionsFor_iff.mpr hpossible
    exact ⟨es, verdict_eq_matched_iff.mpr ⟨hne, by rw [hes]⟩⟩

/-- The motions that come out of a keyboard are those that take turns for each key, from its press
on. So the combo of a text can be typed to a match just if it is not empty and no key is tapped in
it while the reader holds the key. -/
theorem combo_typed_iff :
    (∀ ms, (∃ es, motionsFor es = ms) ↔ ∀ k, Alternates false (ofKey k ms)) ∧
    ∀ s ms, parse s = .ok ms →
      ∃ ws, s.toList = lettersOf ws ∧ (∀ ws', s.toList = lettersOf ws' → ws' = ws) ∧
        ((∃ es, (matcherAfter ms (motionsFor es)).verdict = some (.matched ms)) ↔
          ms ≠ [] ∧ ∀ ws₁ w ws₂ k, ws = ws₁ ++ w :: ws₂ → w.token = .tap k →
            k ∉ ((Reader.ofText s).after (motionsOf ws₁).length).held) := by
  refine ⟨fun ms => ?_, fun s ms h => ?_⟩
  · rw [exists_motionsFor_iff]
    simp [Possible]
  · obtain ⟨ws, held, hs, hp, hms⟩ := (Reader.atToken_ofText s).written_of_collect h
    have hlegal : Legal ∅ (ws.map Written.token) held.toFinset := legal_of_replay hp
    have hpossible := hlegal.possible_iff
    rw [List.flatMap_map, tapsUp_iff_held hs hp] at hpossible
    refine ⟨ws, hs, fun ws' hs' => lettersOf_injective (hs'.symm.trans hs), ?_⟩
    rw [exists_matched_iff, hms]
    exact and_congr_right fun _ => hpossible

/-- With `ctrl` held, `f` can be tapped and `ctrl` cannot. -/
theorem ctrl_untyped_while_held :
    parse "↓ctrl↓↑f" = .ok [.press .ctrl, .press .letterF, .release .letterF] ∧
    (∃ es, (matcherAfter [.press .ctrl, .press .letterF, .release .letterF]
      (motionsFor es)).verdict =
        some (.matched [.press .ctrl, .press .letterF, .release .letterF])) ∧
    parse "↓ctrl↓↑ctrl" = .ok [.press .ctrl, .press .ctrl, .release .ctrl] ∧
    ¬ ∃ es, (matcherAfter [.press .ctrl, .press .ctrl, .release .ctrl] (motionsFor es)).verdict =
      some (.matched [.press .ctrl, .press .ctrl, .release .ctrl]) := by
  have hl : ∀ k, Legal ∅ [.press .ctrl, .tap k] (insert Key.ctrl ∅) :=
    fun k => .cons (.press (by decide)) (.cons .tap .nil)
  have hs : "↓ctrl↓↑f".toList =
      lettersOf [.ofToken (.press .ctrl), .ofToken (.tap .letterF)] := by decide
  have hs' : "↓ctrl↓↑ctrl".toList =
      lettersOf [.ofToken (.press .ctrl), .ofToken (.tap .ctrl)] := by decide
  have hparse := parse_of_legal hs (hl .letterF)
  have hparse' := parse_of_legal hs' (hl .ctrl)
  obtain ⟨ws, _, hunique, htyped⟩ := combo_typed_iff.2 _ _ hparse
  obtain ⟨ws', _, hunique', htyped'⟩ := combo_typed_iff.2 _ _ hparse'
  refine ⟨hparse, htyped.mpr ⟨by decide, ?_⟩, hparse', fun h => ?_⟩
  · rw [← hunique _ hs]
    rintro (_ | ⟨w₁, _ | ⟨w₂, ws₁⟩⟩) w ws₂ k hws hw
    · cases hws
      cases hw
    · cases hws
      cases hw
      decide
    · simp at hws
  · refine (htyped'.mp h).2 [.ofToken (.press .ctrl)] (.ofToken (.tap .ctrl)) [] .ctrl ?_ rfl ?_
    · rw [← hunique' _ hs']
      rfl
    · decide

end Device.Held

end ChordDrill
