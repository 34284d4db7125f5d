import Mathlib.Data.List.InsertIdx
import Mathlib.Data.List.Perm.Basic
import ChordDrill.Random.Choose

/-!
# ChordDrill.Proofs.Random.Distinct

All ways to choose give different positions.

* `Chosen` — some positions of a list, all different.

A swap leaves the positions that there are, so those at the beginning are different after it, too.
What is picked among the positions up to `j` is `j` itself if the draw is not a new one, and `j` was
not there to be drawn before (`chosen_pickFrom?`). Each way is given its own lemma, and
`chosen_positions?` is about whichever suits the numbers.
-/

namespace ChordDrill.Random

/-- `amount` positions of a list of `n`, all different. -/
structure Chosen (n amount : Nat) (ps : List Nat) : Prop where
  nodup : ps.Nodup
  lt : ∀ p ∈ ps, p < n
  length_eq : ps.length = amount

variable {n m amount i j count p limit : Nat} {ps qs chosen words : List Nat} {tape tape' : Tape}
  {places places' : Array Nat}

namespace Chosen

theorem nil : Chosen n 0 [] := ⟨List.nodup_nil, by simp, rfl⟩

theorem of_perm (h : Chosen n amount ps) (hq : qs.Perm ps) : Chosen n amount qs :=
  ⟨hq.nodup_iff.mpr h.nodup, fun p hp => h.lt p (hq.mem_iff.mp hp), hq.length_eq.trans h.length_eq⟩

theorem mono (h : Chosen n amount ps) (hle : n ≤ m) : Chosen m amount ps :=
  ⟨h.nodup, fun p hp => Nat.lt_of_lt_of_le (h.lt p hp) hle, h.length_eq⟩

theorem cons (h : Chosen n amount ps) (hp : p < n) (hnew : p ∉ ps) :
    Chosen n (amount + 1) (p :: ps) :=
  ⟨List.nodup_cons.mpr ⟨hnew, h.nodup⟩, List.forall_mem_cons.mpr ⟨hp, h.lt⟩,
    congrArg (· + 1) h.length_eq⟩

theorem range (n : Nat) : Chosen n n (List.range n) :=
  ⟨List.nodup_range, fun _ hp => List.mem_range.mp hp, List.length_range⟩

theorem take (h : Chosen n m ps) (hle : amount ≤ m) : Chosen n amount (ps.take amount) := by
  refine ⟨h.nodup.sublist (List.take_sublist amount ps),
    fun p hp => h.lt p (List.mem_of_mem_take hp), ?_⟩
  rw [List.length_take, h.length_eq, Nat.min_eq_left hle]

end Chosen

/-! ## Swaps -/

theorem swapIfInBounds_perm (places : Array Nat) (i j : Nat) :
    (places.swapIfInBounds i j).toList.Perm places.toList := by
  unfold Array.swapIfInBounds
  split
  · split
    · exact (Array.swap_perm _ _).toList
    · exact .rfl
  · exact .rfl

theorem shuffleFrom?_perm (h : shuffleFrom? places i count tape = some (places', tape')) :
    places'.toList.Perm places.toList := by
  induction count generalizing places i tape with
  | zero =>
    cases h
    exact .rfl
  | succ count ih =>
    rw [shuffleFrom?] at h
    split at h
    · exact (ih h).trans (swapIfInBounds_perm places i _)
    · cases h

theorem shuffleDown?_perm (h : shuffleDown? places i tape = some (places', tape')) :
    places'.toList.Perm places.toList := by
  induction i generalizing places tape with
  | zero =>
    cases h
    exact .rfl
  | succ i ih =>
    rw [shuffleDown?] at h
    split at h
    · exact (ih h).trans (swapIfInBounds_perm places (i + 1) _)
    · cases h

theorem chosen_shuffled? (hle : amount ≤ n) (h : shuffled? n amount tape = some (ps, tape')) :
    Chosen n amount ps := by
  rw [shuffled?] at h
  split at h
  · rename_i places rest hshuffle
    cases h
    have hperm := shuffleFrom?_perm hshuffle
    rw [Array.toList_range] at hperm
    exact ((Chosen.range n).of_perm hperm).take hle
  · cases h

theorem mixed?_perm (h : mixed? chosen tape = some (ps, tape')) : ps.Perm chosen := by
  rw [mixed?] at h
  split at h
  · rename_i places rest hdown
    cases h
    exact shuffleDown?_perm hdown
  · cases h

/-! ## Picks -/

/-- What is drawn joins those chosen, or `j` if it is one of them. -/
def Joins (pick : List Nat → Nat → Nat → List Nat) : Prop :=
  ∀ chosen t j, (pick chosen t j).Perm ((if t ∈ chosen then j else t) :: chosen)

theorem joins_pickInOrder : Joins pickInOrder := by
  intro chosen t j
  rw [pickInOrder]
  split
  · rename_i i hi
    obtain ⟨hlt, ht, _⟩ := List.idxOf?_eq_some_iff.mp hi
    rw [if_pos (ht ▸ List.getElem_mem hlt)]
    exact List.perm_insertIdx j chosen (Nat.le_of_lt hlt)
  · rename_i hnone
    rw [if_neg (List.idxOf?_eq_none_iff.mp hnone)]
    exact List.perm_append_singleton t chosen

theorem joins_pickAny : Joins pickAny := by
  intro chosen t j
  rw [pickAny]
  split
  · exact List.perm_append_singleton j chosen
  · exact List.perm_append_singleton t chosen

/-- All positions up to `j` may be drawn next. If the draw is chosen already, `j` is not. -/
theorem Chosen.pick {pick : List Nat → Nat → Nat → List Nat} {t : Nat} (hpick : Joins pick)
    (h : Chosen j amount ps) (ht : t ≤ j) :
    Chosen (j + 1) (amount + 1) (pick ps t j) := by
  refine Chosen.of_perm ?_ (hpick ps t j)
  have hmono := h.mono (Nat.le_succ j)
  split
  · exact hmono.cons (Nat.lt_succ_self j) fun hj => Nat.lt_irrefl j (h.lt j hj)
  · rename_i hnew
    exact hmono.cons (Nat.lt_succ_of_le ht) hnew

theorem chosen_pickFrom? {pick : List Nat → Nat → Nat → List Nat} (hpick : Joins pick)
    (hchosen : Chosen j amount chosen)
    (h : pickFrom? pick chosen j count tape = some (ps, tape')) :
    Chosen (j + count) (amount + count) ps := by
  induction count generalizing chosen j amount tape with
  | zero =>
    cases h
    exact hchosen
  | succ count ih =>
    rw [pickFrom?] at h
    split at h
    · rename_i t rest hfrom
      obtain ⟨_, ht⟩ := from?_mem (Nat.zero_le j) hfrom
      have hnext := ih (hchosen.pick hpick ht) h
      rwa [Nat.add_right_comm j, Nat.add_right_comm amount] at hnext
    · cases h

theorem chosen_picked? (hle : amount ≤ n) (h : picked? n amount tape = some (ps, tape')) :
    Chosen n amount ps := by
  have hpicked : ∀ {pick chosen rest}, Joins pick →
      pickFrom? pick [] (n - amount) amount tape = some (chosen, rest) →
      Chosen n amount chosen := by
    intro pick chosen rest hpick hfrom
    have hchosen := chosen_pickFrom? hpick Chosen.nil hfrom
    rwa [Nat.sub_add_cancel hle, Nat.zero_add] at hchosen
  rw [picked?] at h
  split at h
  · exact hpicked joins_pickInOrder h
  · split at h
    · rename_i chosen rest hfrom
      exact (hpicked joins_pickAny hfrom).of_perm (mixed?_perm h)
    · cases h

/-! ## Draws that are made again -/

theorem longWords_of_short (h : ∀ low high rest, tape ≠ low :: high :: rest) :
    longWords tape = [] := by
  rw [longWords]
  exact h

theorem lt_of_mem_longWords {w : Nat} (h : w ∈ longWords tape) : w < longLimit := by
  induction tape using longWords.induct with
  | case1 low high tape ih =>
    rcases List.mem_cons.mp h with rfl | h
    · exact long_lt low high
    · exact ih h
  | case2 tape hshort =>
    rw [longWords_of_short hshort] at h
    cases h

/-- A word is passed over, or it draws a position that is not chosen yet. -/
theorem redrawFrom?_cases (limit n count : Nat) (chosen : List Nat) (word : Nat) :
    ((∀ p, scaled? limit (fullZone limit n) n word = some p → p ∈ chosen) ∧
      ∀ words, redrawFrom? limit n (count + 1) chosen (word :: words) =
        redrawFrom? limit n (count + 1) chosen words) ∨
    ∃ p, scaled? limit (fullZone limit n) n word = some p ∧ p ∉ chosen ∧
      ∀ words, redrawFrom? limit n (count + 1) chosen (word :: words) =
        redrawFrom? limit n count (p :: chosen) words := by
  cases hscaled : scaled? limit (fullZone limit n) n word with
  | none =>
    refine .inl ⟨by simp, fun words => ?_⟩
    rw [redrawFrom?, hscaled]
  | some p =>
    by_cases hp : p ∈ chosen
    · refine .inl ⟨fun q hq => Option.some.inj hq ▸ hp, fun words => ?_⟩
      simp only [redrawFrom?, hscaled, if_pos hp]
    · refine .inr ⟨p, rfl, hp, fun words => ?_⟩
      simp only [redrawFrom?, hscaled, if_neg hp]

theorem redrawFrom?_zero (limit n : Nat) (chosen words : List Nat) :
    redrawFrom? limit n 0 chosen words = some chosen.reverse := by
  cases words <;> rfl

theorem chosen_redrawFrom? (hwords : ∀ w ∈ words, w < limit) (hle : amount + count ≤ n)
    (hchosen : Chosen n amount chosen) (h : redrawFrom? limit n count chosen words = some ps) :
    Chosen n (amount + count) ps := by
  induction words generalizing count chosen amount with
  | nil =>
    cases count with
    | zero =>
      cases h
      exact hchosen.of_perm (List.reverse_perm chosen)
    | succ count => cases h
  | cons word words ih =>
    obtain ⟨hword, hwords⟩ := List.forall_mem_cons.mp hwords
    cases count with
    | zero =>
      cases h
      exact hchosen.of_perm (List.reverse_perm chosen)
    | succ count =>
      rcases redrawFrom?_cases limit n count chosen word with ⟨_, heq⟩ | ⟨p, hp, hnew, heq⟩
      · rw [heq] at h
        exact ih hwords hle hchosen h
      · rw [heq] at h
        have hlt : p < n := scaled?_lt (by omega) hword hp
        have hnext := ih hwords (by omega) (hchosen.cons hlt hnew) h
        rwa [Nat.add_right_comm] at hnext

theorem chosen_redrawn? (hle : amount ≤ n) (h : redrawn? n amount tape = some ps) :
    Chosen n amount ps := by
  have hcount : 0 + amount ≤ n := by omega
  rw [← Nat.zero_add amount]
  rw [redrawn?] at h
  split at h
  · refine chosen_redrawFrom? ?_ hcount Chosen.nil h
    rw [List.forall_mem_map]
    exact fun w _ => w.toNat_lt
  · exact chosen_redrawFrom? (fun _ hw => lt_of_mem_longWords hw) hcount Chosen.nil h

theorem chosen_positions? {size : Nat} (h : positions? n size tape = some ps) :
    Chosen n (min size n) ps := by
  have hle : min size n ≤ n := Nat.min_le_right size n
  rw [positions?] at h
  cases hway : Way.suiting n (min size n) with
  | shuffle =>
    rw [hway] at h
    obtain ⟨s, hs, rfl⟩ := Option.map_eq_some_iff.mp h
    exact chosen_shuffled? hle hs
  | pick =>
    rw [hway] at h
    obtain ⟨s, hs, rfl⟩ := Option.map_eq_some_iff.mp h
    exact chosen_picked? hle hs
  | redraw =>
    rw [hway] at h
    exact chosen_redrawn? hle h

end ChordDrill.Random
