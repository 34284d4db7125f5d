import ChordDrill.Proofs.Attempt.Classification
import ChordDrill.Proofs.Motion.Alternation

/-!
# ChordDrill.Proofs.Attempt.Drain

When an attempt ends, and which keys it leaves down.

* `readyForNext_mem_iff` — the motion that ends an attempt: the first one with a verdict on the
  motions so far and as many releases as presses among them.
* `Leaks`                — an attempt can end while a key pressed in it is down.

The matcher counts releases without asking whose they are. Where a key is down from before the
attempt, its release stands in for that of a key pressed in the attempt (`leaks_of_stale`).
-/

namespace ChordDrill.Attempt

open Motion

theorem Matcher.pressed_track (s : Matcher) (m : Motion) :
    (s.track m).pressed = tally s.pressed m := by
  cases m <;> rfl

theorem Matcher.drain_ends (s : Matcher) :
    s.drain.2.pressed = s.pressed ∧ (.readyForNext ∈ s.drain.1 ↔ s.pressed = 0) ∧
    (s.drain.2.stage = .readyForNext ↔ s.pressed = 0) := by
  rcases s.drain_cases with ⟨h, hd⟩ | ⟨h, hd⟩
  · simp [hd, h]
  · simp [hd, h]

variable {E M : List Motion} {m : Motion} {H : Finset Key} {k q : Key}

/-- One feed before the end keeps the count; it is the end if there is a verdict and the count is
zero. -/
theorem Stands.feed_ends {ns : List Notice} {s : Matcher} (h : Stands E M ns s)
    (hs : s.stage ≠ .readyForNext) (m : Motion) :
    (s.feed m).2.pressed = tally s.pressed m ∧
    (.readyForNext ∈ (s.feed m).1 ↔ outcome E (M ++ [m]) ≠ none ∧ tally s.pressed m = 0) ∧
    ((s.feed m).2.stage = .readyForNext ↔
      outcome E (M ++ [m]) ≠ none ∧ tally s.pressed m = 0) := by
  have hp := s.pressed_track m
  cases h with
  | comparing ho hE hM hst hv =>
    have hsnoc := outcome_snoc (m := m) hE hM ho
    cases hj : (s.enter m).judge m with
    | none =>
      rw [hj, Option.map_none] at hsnoc
      rw [Matcher.feed_undecided hst hj]
      refine ⟨hp, ?_, ?_⟩
      · simp [hsnoc]
      · simp [hsnoc, hst]
    | some v =>
      rw [hj, Option.map_some] at hsnoc
      rw [Matcher.feed_decided hst hj]
      obtain ⟨hcount, hmem, hstage⟩ := ((s.enter m).conclude v).drain_ends
      have hc : ((s.enter m).conclude v).pressed = tally s.pressed m := hp
      rw [hc] at hcount hmem hstage
      refine ⟨hcount, ?_, ?_⟩
      · simp [hsnoc, hmem]
      · simp [hsnoc, hstage]
  | draining ho he hst hv =>
    obtain ⟨ho', _⟩ := take_of_outcome ho m
    rw [Matcher.feed_draining hst]
    obtain ⟨hcount, hmem, hstage⟩ := (s.track m).drain_ends
    rw [hp] at hcount hmem hstage
    refine ⟨hcount, ?_, ?_⟩
    · simp [ho', hmem]
    · simp [ho', hstage]
  | ready _ _ hst _ => exact absurd hst hs

theorem matcherAfter_snoc (E M : List Motion) (m : Motion) :
    matcherAfter E (M ++ [m]) = ((matcherAfter E M).feed m).2 := by
  rw [matcherAfter, Matcher.feedAll_snoc]
  rfl

/-- Up to the end the matcher holds the count of all motions. -/
theorem pressed_matcherAfter (E M : List Motion) :
    (matcherAfter E M).stage = .readyForNext ∨ (matcherAfter E M).pressed = unanswered M := by
  induction M using List.reverseRecOn with
  | nil => exact .inr rfl
  | append_singleton M m ih =>
    rw [matcherAfter_snoc]
    rcases ih with hready | hcount
    · rw [Matcher.feed_ready hready]
      exact .inl hready
    · by_cases hready : (matcherAfter E M).stage = .readyForNext
      · rw [Matcher.feed_ready hready]
        exact .inl hready
      · have hfeed := ((stands_feedAll E M).feed_ends hready m).1
        rw [unanswered_snoc, ← hcount]
        exact .inr hfeed

theorem readyForNext_mem_iff :
    .readyForNext ∈ ((matcherAfter E M).feed m).1 ↔ (matcherAfter E M).stage ≠ .readyForNext ∧
      outcome E (M ++ [m]) ≠ none ∧ unanswered (M ++ [m]) = 0 := by
  by_cases hready : (matcherAfter E M).stage = .readyForNext
  · simp [Matcher.feed_ready hready, hready]
  · have hcount := (pressed_matcherAfter E M).resolve_left hready
    rw [unanswered_snoc, ← hcount]
    have hfeed := ((stands_feedAll E M).feed_ends hready m).2.1
    exact ⟨fun h => ⟨hready, hfeed.mp h⟩, fun h => hfeed.mpr h.2⟩

theorem stage_matcherAfter_snoc :
    (matcherAfter E (M ++ [m])).stage = .readyForNext ↔
      (matcherAfter E M).stage = .readyForNext ∨
      outcome E (M ++ [m]) ≠ none ∧ unanswered (M ++ [m]) = 0 := by
  rw [matcherAfter_snoc]
  by_cases hready : (matcherAfter E M).stage = .readyForNext
  · simp [Matcher.feed_ready hready, hready]
  · have hcount := (pressed_matcherAfter E M).resolve_left hready
    rw [unanswered_snoc, ← hcount]
    have hfeed := ((stands_feedAll E M).feed_ends hready m).2.2
    exact ⟨fun h => .inr (hfeed.mp h), fun h => hfeed.mpr (h.resolve_left hready)⟩

/-- Motions after the end of an attempt change nothing. -/
theorem matcherAfter_append_of_ready (h : (matcherAfter E M).stage = .readyForNext)
    (M' : List Motion) : matcherAfter E (M ++ M') = matcherAfter E M := by
  induction M' using List.reverseRecOn with
  | nil => rw [List.append_nil]
  | append_singleton M' m ih =>
    rw [← List.append_assoc, matcherAfter_snoc, ih, Matcher.feed_ready h]

theorem stage_matcherAfter_append (h : (matcherAfter E M).stage = .readyForNext)
    (M' : List Motion) : (matcherAfter E (M ++ M')).stage = .readyForNext := by
  rw [matcherAfter_append_of_ready h]
  exact h

/-- Some motions, possible with the keys `H` down at first, end an attempt at the combo `E` and
leave a key down that they pressed. -/
def Leaks (E : List Motion) (H : Finset Key) : Prop :=
  ∃ M m, Possible H (M ++ [m]) ∧ .readyForNext ∈ ((matcherAfter E M).feed m).1 ∧
    ∃ k, Left (M ++ [m]) k

/-- The count is zero when an attempt ends, and exact if only keys left down were released. -/
theorem not_left_of_answering (hH : Possible H (M ++ [m]))
    (hready : .readyForNext ∈ ((matcherAfter E M).feed m).1) {M₁ M₂ : List Motion}
    (happ : M ++ [m] = M₁ ++ M₂) (hnone : ∀ k, ¬ Left M₁ k) (hM₂ : Answering M₁ M₂) (k : Key) :
    ¬ Left (M ++ [m]) k := by
  have hzero := (readyForNext_mem_iff.mp hready).2.2
  rw [happ] at hH hzero ⊢
  have hcard := hH.unanswered_eq hnone hM₂
  rw [hzero] at hcard
  have hempty := Finset.card_eq_zero.mp hcard.symm
  intro hk
  have hmem := left_iff_mem_downAfter.mp hk
  rw [hempty] at hmem
  exact Finset.notMem_empty k hmem

/-- While the count is zero, the press of one key and the release of another that is down from
before end the attempt, unless the combo goes on like that. -/
theorem leaks_of_stale (hM : Possible H M) (hstage : (matcherAfter E M).stage ≠ .readyForNext)
    (hzero : unanswered M = 0) (hk : k ∉ downAfter H M) (hq : q ∈ downAfter H M)
    (hE : ¬ M ++ [.press k] ++ [.release q] <+: E) : Leaks E H := by
  have hkq : k ≠ q := fun h => hk (h ▸ hq)
  have hone : unanswered (M ++ [.press k]) = 1 := by
    rw [unanswered_snoc, hzero]
    rfl
  refine ⟨M ++ [.press k], .release q, ?_, readyForNext_mem_iff.mpr ⟨?_, ?_, ?_⟩, k, ?_⟩
  · have hpress : Possible (downAfter H M) [.press k, .release q] := by
      refine possible_cons.mpr ⟨by simp [isPress, key, hk], possible_cons.mpr ⟨?_, possible_nil _⟩⟩
      simp [isPress, key, moveKeys, hq]
    rw [List.append_assoc]
    exact possible_append.mpr ⟨hM, hpress⟩
  · rw [Ne, stage_matcherAfter_snoc, hone]
    simp [hstage]
  · intro ho
    rcases outcome_eq_none_iff.mp ho with hnil | ⟨hpre, _⟩
    · simp at hnil
    · exact hE hpre
  · rw [unanswered_snoc, hone]
    rfl
  · rw [left_iff_mem_downAfter, downAfter_snoc, downAfter_snoc]
    exact Finset.mem_erase.mpr ⟨hkq, Finset.mem_insert_self k _⟩

/-! ## Which combos and keys leak -/

theorem exists_other_key (a b : Key) : ∃ c, c ≠ a ∧ c ≠ b := by
  have hcard : ({a, b} : Finset Key).card < ({.ctrl, .alt, .shift} : Finset Key).card :=
    Nat.lt_of_le_of_lt Finset.card_le_two (by decide)
  obtain ⟨c, _, hc⟩ := Finset.exists_mem_notMem_of_card_lt_card hcard
  exact ⟨c, by simpa using hc⟩

/-- With a key up and another down there are two such pairs, and the combo begins with one at
most. -/
theorem leaks_of_up_of_down (hk : k ∉ H) (hq : q ∈ H) : Leaks E H := by
  have hstart : ∀ {k q}, k ∉ H → q ∈ H → ¬ [.press k, .release q] <+: E → Leaks E H := by
    intro k q hk hq hE
    have hstage : (matcherAfter E []).stage ≠ .readyForNext := Stage.noConfusion
    exact leaks_of_stale (possible_nil H) hstage rfl hk hq hE
  by_cases hE : [.press k, .release q] <+: E
  · obtain ⟨t, rfl⟩ := hE
    obtain ⟨c, hck, hcq⟩ := exists_other_key k q
    by_cases hc : c ∈ H
    · exact hstart hk hc (by simp [hcq])
    · exact hstart hc hq (by simp [hck])
  · exact hstart hk hq hE

/-- With all keys down, a combo that goes on after a release lets its key be pressed again. -/
theorem leaks_of_all_down (hH : ∀ k, k ∈ H) {e : Motion} {es : List Motion} :
    Leaks (.release k :: e :: es) H := by
  have hdown : downAfter H [.release k] = H.erase k := rfl
  have hpossible : Possible H [.release k] :=
    possible_cons.mpr ⟨by simp [isPress, key, hH k], possible_nil _⟩
  have hstage : (matcherAfter (.release k :: e :: es) ([] ++ [.release k])).stage ≠
      .readyForNext := by
    have hnone : outcome (.release k :: e :: es) [.release k] = none :=
      outcome_eq_none_iff.mpr (.inr (by simp))
    rw [Ne, stage_matcherAfter_snoc, not_or]
    exact ⟨Stage.noConfusion, fun h => h.1 hnone⟩
  have hagain : ∀ {q}, q ≠ k → ¬ [.release k, .press k, .release q] <+: .release k :: e :: es →
      Leaks (.release k :: e :: es) H := by
    intro q hqk hE
    refine leaks_of_stale hpossible hstage rfl ?_ ?_ hE
    · rw [hdown]
      exact Finset.notMem_erase k H
    · rw [hdown]
      exact Finset.mem_erase.mpr ⟨hqk, hH q⟩
  obtain ⟨q, hqk, _⟩ := exists_other_key k k
  by_cases hE : [.release k, .press k, .release q] <+: .release k :: e :: es
  · obtain ⟨t, ht⟩ := hE
    obtain ⟨c, hck, hcq⟩ := exists_other_key k q
    exact hagain hck (by simp [← ht, hcq])
  · exact hagain hqk hE

/-- With all keys down the first motion is a release, and the count is zero after it. -/
theorem not_leaks_of_all_down (hH : ∀ k, k ∈ H)
    (hE : E.length ≤ 1 ∨ ∃ k, E.head? = some (.press k)) : ¬ Leaks E H := by
  rintro ⟨M, m, hM, hready, k, hk⟩
  have hfirst : ∀ m₀ M₀, M ++ [m] = m₀ :: M₀ → m₀ = .release m₀.key := by
    intro m₀ M₀ happ
    rw [happ] at hM
    have hm₀ := (possible_cons.mp hM).1
    cases m₀ with
    | press j => simp [isPress, key, hH j] at hm₀
    | release j => rfl
  cases M with
  | nil =>
    rw [hfirst m [] rfl] at hk
    have hmem := left_iff_mem_downAfter.mp hk
    simp [downAfter, moveKeys] at hmem
  | cons m₀ M =>
    have hm₀ := hfirst m₀ (M ++ [m]) rfl
    have hsome : outcome E [m₀] ≠ none := by
      intro ho
      rcases outcome_eq_none_iff.mp ho with hnil | ⟨⟨t, rfl⟩, hne⟩
      · cases hnil
      · rcases hE with hlen | ⟨j, hj⟩
        · have ht : t = [] := by
            refine List.length_eq_zero_iff.mp ?_
            simp only [List.length_append, List.length_singleton] at hlen
            omega
          exact hne (by rw [ht, List.append_nil])
        · rw [List.singleton_append, List.head?_cons, hm₀] at hj
          cases hj
    have hstage : (matcherAfter E ([] ++ [m₀])).stage = .readyForNext :=
      stage_matcherAfter_snoc.mpr (.inr ⟨hsome, by rw [hm₀]; rfl⟩)
    exact (readyForNext_mem_iff.mp hready).1 (stage_matcherAfter_append hstage M)

theorem not_leaks_of_none_down : ¬ Leaks E ∅ := by
  rintro ⟨M, m, hM, hready, k, hk⟩
  exact not_left_of_answering hM hready (List.nil_append _).symm not_left_nil hM.answering k hk

theorem leaks_iff : Leaks E H ↔ H ≠ ∅ ∧
    ((∀ k, k ∈ H) → 1 < E.length ∧ ∀ k, E.head? ≠ some (.press k)) := by
  constructor
  · intro h
    refine ⟨?_, fun hH => ⟨?_, fun k hk => ?_⟩⟩
    · rintro rfl
      exact not_leaks_of_none_down h
    · exact Nat.lt_of_not_le fun hlen => not_leaks_of_all_down hH (.inl hlen) h
    · exact not_leaks_of_all_down hH (.inr ⟨k, hk⟩) h
  · rintro ⟨hne, hall⟩
    obtain ⟨q, hq⟩ := Finset.nonempty_iff_ne_empty.mpr hne
    by_cases hH : ∀ k, k ∈ H
    · obtain ⟨hlen, hhead⟩ := hall hH
      match E, hlen, hhead with
      | .press j :: _ :: _, _, hhead => exact absurd rfl (hhead j)
      | .release j :: _ :: _, _, _ => exact leaks_of_all_down hH
    · obtain ⟨k, hk⟩ := not_forall.mp hH
      exact leaks_of_up_of_down hk hq

/-- No key pressed in an attempt at `E` is down when it ends, whatever motions are made, exactly
if no key was down before, or all were and the first motion decides. It holds of a single run if
from some moment without such keys on only keys pressed in the attempt are released. -/
theorem no_key_left_at_end_iff (E : List Motion) (H : Finset Key) :
    ((∀ M m, Possible H (M ++ [m]) → .readyForNext ∈ ((matcherAfter E M).feed m).1 →
      ∀ k, ¬ Left (M ++ [m]) k) ↔
      H = ∅ ∨ (∀ k, k ∈ H) ∧ (E.length ≤ 1 ∨ ∃ k, E.head? = some (.press k))) ∧
    (∀ M m, Possible H (M ++ [m]) → .readyForNext ∈ ((matcherAfter E M).feed m).1 →
      ∀ M₁ M₂, M ++ [m] = M₁ ++ M₂ → (∀ k, ¬ Left M₁ k) → Answering M₁ M₂ →
      ∀ k, ¬ Left (M ++ [m]) k) := by
  refine ⟨?_, fun M m hM hready M₁ M₂ => not_left_of_answering hM hready⟩
  have hleaks : (∀ M m, Possible H (M ++ [m]) → .readyForNext ∈ ((matcherAfter E M).feed m).1 →
      ∀ k, ¬ Left (M ++ [m]) k) ↔ ¬ Leaks E H := by
    constructor
    · rintro h ⟨M, m, hM, hready, k, hk⟩
      exact h M m hM hready k hk
    · intro h M m hM hready k hk
      exact h ⟨M, m, hM, hready, k, hk⟩
  rw [hleaks, leaks_iff, not_and_or, not_not, Classical.not_imp, not_and_or, Nat.not_lt,
    not_forall_not]

theorem no_key_left_at_end_from_none :
    Possible ∅ ([.press .ctrl, .press .letterF, .release .letterF] ++ [.release .ctrl]) ∧
    .readyForNext ∈ ((matcherAfter [.press .ctrl, .press .letterF]
      [.press .ctrl, .press .letterF, .release .letterF]).feed (.release .ctrl)).1 ∧
    ∀ k, ¬ Left ([.press .ctrl, .press .letterF, .release .letterF] ++ [.release .ctrl]) k := by
  have hM : Possible ∅ ([.press .ctrl, .press .letterF, .release .letterF] ++
      [.release .ctrl]) := by
    simp [possible_cons, possible_nil, moveKeys, key, isPress]
  have hready : .readyForNext ∈ ((matcherAfter [.press .ctrl, .press .letterF]
      [.press .ctrl, .press .letterF, .release .letterF]).feed (.release .ctrl)).1 := by
    decide
  exact ⟨hM, hready, (no_key_left_at_end_iff _ ∅).1.mpr (.inl rfl) _ _ hM hready⟩

/-- The release of `q`, which was down before, ends the attempt with `ctrl` down. -/
theorem ctrl_left_by_release_of_q :
    Possible {.letterQ} ([.press .ctrl] ++ [.release .letterQ]) ∧
    .readyForNext ∈ ((matcherAfter [.press .ctrl, .press .letterF] [.press .ctrl]).feed
      (.release .letterQ)).1 ∧
    Left ([.press .ctrl] ++ [.release .letterQ]) .ctrl := by
  refine ⟨?_, by decide, by decide⟩
  simp [possible_cons, possible_nil, moveKeys, key, isPress]

end ChordDrill.Attempt
