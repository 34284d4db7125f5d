import Mathlib.Data.List.Perm.Basic
import ChordDrill.Proofs.Attempt.Drain
import ChordDrill.Proofs.Combo.Grammar

/-!
# ChordDrill.Proofs.Attempt.Performance

A combo performed as it is written, and then let go.

* `Legal.foldl_tally`  — the count of the motions of a combo is the number of keys it leaves held.
* `notices_released`   — what a matcher says to a combo and some releases behind it.

Reader and matcher disagree on a held key that is tapped: one ignores the tap, the other counts its
release for the key. They agree on how many keys are held, which is all that ends an attempt.
-/

namespace ChordDrill

open Motion

namespace Combo

theorem Legal.foldl_tally {H H' : Finset Key} {ts : List Token} (h : Legal H ts H') :
    (ts.flatMap Token.motions).foldl tally H.card = H'.card := by
  induction h with
  | nil => rfl
  | @cons H H₁ H' t ts hm _ ih =>
    have hstep : t.motions.foldl tally H.card = H₁.card := by
      cases hm with
      | press hk =>
        rw [Finset.card_insert_of_notMem hk]
        rfl
      | release hk =>
        rw [Finset.card_erase_of_mem hk]
        rfl
      | tap => rfl
    rw [List.flatMap_cons, List.foldl_append, hstep, ih]

end Combo

namespace Attempt

theorem unanswered_released (M : List Motion) (rs : List Key) :
    unanswered (M ++ rs.map .release) = unanswered M - rs.length := by
  induction rs using List.reverseRecOn with
  | nil => rw [List.map_nil, List.append_nil, List.length_nil, Nat.sub_zero]
  | append_singleton rs k ih =>
    rw [List.map_append, ← List.append_assoc, List.map_singleton, unanswered_snoc, ih,
      List.length_append, List.length_singleton, ← Nat.sub_sub]
    rfl

theorem Stands.notices_eq {E M : List Motion} {ns : List Notice} {s : Matcher} {v : Verdict}
    {n : Nat} (h : Stands E M ns s) (ho : outcome E M = some (v, n)) :
    ns = (M.take (n + 1)).map .accepted ++ .verdict v ::
      (if s.stage = .readyForNext then [.readyForNext] else []) := by
  cases h with
  | comparing ho' _ _ _ _ =>
    rw [ho] at ho'
    cases ho'
  | draining ho' _ hs _ =>
    rw [ho] at ho'
    cases ho'
    simp [hs]
  | ready ho' _ hs _ =>
    rw [ho] at ho'
    cases ho'
    simp [hs]

section

variable {E M : List Motion}

theorem outcome_completed (hE : E ≠ []) (M : List Motion) :
    outcome E (E ++ M) = some (.matched E, E.length - 1) :=
  outcome_eq_some_iff.mpr (.matched hE (List.prefix_append E M))

/-- Before the last motion of the combo there is no verdict, and so no end. -/
theorem exists_last (hE : E ≠ []) :
    ∃ M m, E = M ++ [m] ∧ (matcherAfter E M).stage ≠ .readyForNext := by
  obtain ⟨M, m, hM⟩ := (List.eq_nil_or_concat E).resolve_left hE
  rw [List.concat_eq_append] at hM
  refine ⟨M, m, hM, fun hs => ?_⟩
  have ho : outcome E M = none := by
    refine outcome_eq_none_iff.mpr (.inr ⟨⟨[m], hM.symm⟩, fun he => ?_⟩)
    have hlen := congrArg List.length hM
    rw [← he, List.length_append, List.length_singleton] at hlen
    omega
  obtain ⟨v, hv⟩ := (stands_feedAll E M).verdict_of_ready hs
  rw [verdict_matcherAfter, ho] at hv
  cases hv

theorem pressed_completed (hE : E ≠ []) : (matcherAfter E E).pressed = unanswered E := by
  obtain ⟨M, m, hM, hs⟩ := exists_last hE
  have hcount := (pressed_matcherAfter E M).resolve_left hs
  have hfed := ((stands_feedAll E M).feed_ends hs m).1
  rw [← matcherAfter_snoc, hcount, ← unanswered_snoc, ← hM] at hfed
  exact hfed

/-- Behind the combo only the number of releases counts. -/
theorem stage_released (hE : E ≠ []) (rs : List Key) :
    (matcherAfter E (E ++ rs.map .release)).stage = .readyForNext ↔
      unanswered E ≤ rs.length := by
  have hsome : ∀ M, outcome E (E ++ M) ≠ none := by
    intro M
    simp [outcome_completed hE M]
  induction rs using List.reverseRecOn with
  | nil =>
    obtain ⟨M, m, hM, hs⟩ := exists_last hE
    have hnone := hsome []
    have hlast := stage_matcherAfter_snoc (E := E) (M := M) (m := m)
    rw [List.append_nil] at hnone
    rw [← hM] at hlast
    rw [List.map_nil, List.append_nil, hlast, or_iff_right hs, and_iff_right hnone,
      List.length_nil, Nat.le_zero]
  | append_singleton rs k ih =>
    have hsplit : E ++ (rs ++ [k]).map .release = E ++ rs.map .release ++ [.release k] := by
      rw [List.map_append, List.append_assoc, List.map_singleton]
    have hnone := hsome ((rs ++ [k]).map .release)
    have hcount := unanswered_released E (rs ++ [k])
    rw [hsplit] at hnone hcount ⊢
    rw [stage_matcherAfter_snoc, and_iff_right hnone, hcount, List.length_append,
      List.length_singleton, or_congr_left ih]
    omega

theorem notices_released (hE : E ≠ []) (rs : List Key) :
    noticesOf E (E ++ rs.map .release) = E.map .accepted ++ .verdict (.matched E) ::
      (if unanswered E ≤ rs.length then [.readyForNext] else []) := by
  have hlen : E.length - 1 + 1 = E.length :=
    Nat.sub_add_cancel (List.length_pos_of_ne_nil hE)
  have hnotices := (stands_feedAll E (E ++ rs.map .release)).notices_eq (outcome_completed hE _)
  rw [hlen, List.take_left] at hnotices
  simp only [hnotices, stage_released hE rs]

end

/-! ## Combos of a text -/

open Combo

/-- The motions of a text are matched with the last of them, and never before. Then as many keys
count as the reader holds at its end, and when these are let go, in whatever order, the attempt ends
with the last of them; if there are none, it ends with the verdict. -/
theorem performed_combo_drains {s : String} {ms : List Motion} (h : parse s = .ok ms)
    (hne : ms ≠ []) :
    ∃ P : List Key, P.Nodup ∧
      (∀ n, ms.length ≤ n →
        ((Reader.ofText s).after n).next.1 = none ∧ ((Reader.ofText s).after n).held = P) ∧
      (∀ ms₁, ms₁ <+: ms → ms₁ ≠ ms → noticesOf ms ms₁ = ms₁.map .accepted) ∧
      (matcherAfter ms ms).pressed = P.length ∧
      ∀ rs, rs.Perm P →
        (∀ rs₁, rs₁ <+: rs → rs₁ ≠ rs → noticesOf ms (ms ++ rs₁.map .release) =
          ms.map .accepted ++ [.verdict (.matched ms)]) ∧
        noticesOf ms (ms ++ rs.map .release) =
          ms.map .accepted ++ [.verdict (.matched ms), .readyForNext] := by
  obtain ⟨ws, P, hs, hp, hms⟩ := (Reader.atToken_ofText s).written_of_collect h
  have hnodup : P.Nodup := nodup_of_replay List.nodup_nil hp
  have hcount : unanswered ms = P.length := by
    have hlegal := (legal_of_replay hp).foldl_tally
    rw [List.flatMap_map, List.toFinset_card_of_nodup hnodup] at hlegal
    rw [hms]
    exact hlegal
  have hnotices : ∀ rs : List Key, noticesOf ms (ms ++ rs.map .release) =
      ms.map .accepted ++ .verdict (.matched ms) ::
        (if P.length ≤ rs.length then [.readyForNext] else []) := by
    intro rs
    rw [notices_released hne, hcount]
  refine ⟨P, hnodup, fun n hn => ?_, fun ms₁ hpre hlt => ?_, ?_,
    fun rs hperm => ⟨fun rs₁ hpre hlt => ?_, ?_⟩⟩
  · rw [hms] at hn
    exact held_at_end hs hp hn
  · have ho : outcome ms ms₁ = none := outcome_eq_none_iff.mpr (.inr ⟨hpre, hlt⟩)
    exact ((stands_feedAll ms ms₁).of_undecided ho).2
  · rw [pressed_completed hne, hcount]
  · have hlen : rs₁.length < rs.length :=
      Nat.lt_of_le_of_ne hpre.length_le fun he => hlt (hpre.eq_of_length he)
    rw [hnotices, if_neg (by rw [← hperm.length_eq]; omega)]
  · rw [hnotices, if_pos (Nat.le_of_eq hperm.length_eq.symm)]

/-- A held key is tapped. It counts once, and so does the key pressed after it. -/
theorem ctrl_tapped_while_held_drains :
    parse "↓ctrl↓↑ctrl↓f" =
      .ok [.press .ctrl, .press .ctrl, .release .ctrl, .press .letterF] ∧
    ((Reader.ofText "↓ctrl↓↑ctrl↓f").after 4).held = [.letterF, .ctrl] ∧
    (matcherAfter [.press .ctrl, .press .ctrl, .release .ctrl, .press .letterF]
      [.press .ctrl, .press .ctrl, .release .ctrl, .press .letterF]).pressed = 2 ∧
    .readyForNext ∈ noticesOf [.press .ctrl, .press .ctrl, .release .ctrl, .press .letterF]
      ([.press .ctrl, .press .ctrl, .release .ctrl, .press .letterF] ++
        [Key.ctrl, .letterF].map .release) := by
  let ws : List Written := [.ofToken (.press .ctrl), .ofToken (.tap .ctrl),
    .ofToken (.press .letterF)]
  have hs : "↓ctrl↓↑ctrl↓f".toList = lettersOf ws := by decide
  have hl : Legal ∅ (ws.map Written.token) (insert Key.letterF (insert Key.ctrl ∅)) :=
    .cons (.press (by decide)) (.cons .tap (.cons (.press (by decide)) .nil))
  have hparse : parse "↓ctrl↓↑ctrl↓f" =
      .ok [.press .ctrl, .press .ctrl, .release .ctrl, .press .letterF] := parse_of_legal hs hl
  have hheld : ((Reader.ofText "↓ctrl↓↑ctrl↓f").after 4).held = [.letterF, .ctrl] := by decide
  obtain ⟨P, _, hP, _, hpressed, hreleased⟩ := performed_combo_drains hparse (by decide)
  obtain rfl : P = [.letterF, .ctrl] := by rw [← hheld, (hP 4 (by decide)).2]
  have hready := (hreleased [.ctrl, .letterF] (by decide)).2
  exact ⟨hparse, hheld, hpressed, by rw [hready]; simp⟩

end Attempt

end ChordDrill
