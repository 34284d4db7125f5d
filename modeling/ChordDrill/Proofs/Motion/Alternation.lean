import Mathlib.Data.Finset.Card
import ChordDrill.Keyboard

/-!
# ChordDrill.Proofs.Motion.Alternation

Motions that a keyboard can make: the motions of each key take turns.

* `downAfter`  — the keys down after some motions.
* `Alternates` — motions of one key that take turns.
* `Possible`   — motions that take turns for every key, from a set of keys that are down.
* `Left`       — a key pressed among some motions and not released since.
* `unanswered` — presses counted against releases, whatever their keys.

`possible_cons` and `possible_append` read `Possible` from the front, with the keys down as the
state; `left_iff_mem_downAfter` does the same for `Left`, from no key down. `unanswered_le` and
`unanswered_eq` compare the count with the keys left down. The keyboard that sees the motions holds
the keys that they leave down (`Keyboard.mem_pressed_observeAll`).
-/

namespace ChordDrill.Motion

def moveKeys (H : Finset Key) : Motion → Finset Key
  | .press k => insert k H
  | .release k => H.erase k

def downAfter (H : Finset Key) (ms : List Motion) : Finset Key := ms.foldl moveKeys H

/-- The motions of one key. -/
def ofKey (k : Key) (ms : List Motion) : List Motion := ms.filter fun m => m.key = k

/-- Presses and releases take turns; a release comes first if the key is down. -/
def Alternates : Bool → List Motion → Prop
  | _, [] => True
  | down, m :: ms => m.isPress = !down ∧ Alternates (!down) ms

/-- Motions that a keyboard can make with the keys `H` down at first. -/
def Possible (H : Finset Key) (ms : List Motion) : Prop :=
  ∀ k, Alternates (decide (k ∈ H)) (ofKey k ms)

/-- The last motion of the key is its press. -/
def Left (ms : List Motion) (k : Key) : Prop := (ofKey k ms).getLast? = some (.press k)

instance (ms : List Motion) (k : Key) : Decidable (Left ms k) :=
  inferInstanceAs (Decidable ((ofKey k ms).getLast? = some (press k)))

variable {H : Finset Key} {k : Key} {m : Motion} {ms : List Motion}

theorem mem_moveKeys_self : m.key ∈ moveKeys H m ↔ m.isPress = true := by
  cases m <;> simp [moveKeys, key, isPress]

theorem mem_moveKeys_of_ne (h : m.key ≠ k) : k ∈ moveKeys H m ↔ k ∈ H := by
  cases m with
  | press j =>
    have hj : k ≠ j := Ne.symm h
    rw [moveKeys, Finset.mem_insert, or_iff_right hj]
  | release j =>
    have hj : k ≠ j := Ne.symm h
    rw [moveKeys, Finset.mem_erase, and_iff_right hj]

@[simp] theorem ofKey_cons_self (m : Motion) (ms : List Motion) :
    ofKey m.key (m :: ms) = m :: ofKey m.key ms := by
  simp [ofKey]

theorem ofKey_cons_of_ne (h : m.key ≠ k) (ms : List Motion) : ofKey k (m :: ms) = ofKey k ms := by
  simp [ofKey, h]

theorem ofKey_snoc_self (ms : List Motion) (m : Motion) :
    ofKey m.key (ms ++ [m]) = ofKey m.key ms ++ [m] := by
  simp [ofKey, List.filter_append]

theorem ofKey_snoc_of_ne (h : m.key ≠ k) (ms : List Motion) :
    ofKey k (ms ++ [m]) = ofKey k ms := by
  simp [ofKey, List.filter_append, h]

theorem possible_nil (H : Finset Key) : Possible H [] := fun _ => trivial

/-- A possible list begins with a press of a key that is up or a release of one that is down. -/
theorem possible_cons :
    Possible H (m :: ms) ↔ m.isPress = !decide (m.key ∈ H) ∧ Possible (moveKeys H m) ms := by
  have hself : m.isPress = (!decide (m.key ∈ H)) →
      decide (m.key ∈ moveKeys H m) = !decide (m.key ∈ H) := by
    intro h
    rw [← h, Bool.decide_congr mem_moveKeys_self, Bool.decide_eq_true]
  have hother : ∀ {k}, m.key ≠ k → decide (k ∈ moveKeys H m) = decide (k ∈ H) :=
    fun hk => decide_eq_decide.mpr (mem_moveKeys_of_ne hk)
  constructor
  · intro h
    have hm := h m.key
    rw [ofKey_cons_self] at hm
    refine ⟨hm.1, fun k => ?_⟩
    by_cases hk : m.key = k
    · subst hk
      rw [hself hm.1]
      exact hm.2
    · have hrest := h k
      rw [ofKey_cons_of_ne hk] at hrest
      rw [hother hk]
      exact hrest
  · rintro ⟨hm, h⟩ k
    have hrest := h k
    by_cases hk : m.key = k
    · subst hk
      rw [hself hm] at hrest
      rw [ofKey_cons_self]
      exact ⟨hm, hrest⟩
    · rw [hother hk] at hrest
      rw [ofKey_cons_of_ne hk]
      exact hrest

theorem possible_append {ms' : List Motion} :
    Possible H (ms ++ ms') ↔ Possible H ms ∧ Possible (downAfter H ms) ms' := by
  induction ms generalizing H with
  | nil => exact ⟨fun h => ⟨possible_nil H, h⟩, fun h => h.2⟩
  | cons m ms ih => rw [List.cons_append, possible_cons, ih, possible_cons, and_assoc]; rfl

theorem downAfter_append (H : Finset Key) (ms ms' : List Motion) :
    downAfter H (ms ++ ms') = downAfter (downAfter H ms) ms' :=
  List.foldl_append

theorem downAfter_snoc (H : Finset Key) (ms : List Motion) (m : Motion) :
    downAfter H (ms ++ [m]) = moveKeys (downAfter H ms) m :=
  downAfter_append H ms [m]

theorem not_left_nil (k : Key) : ¬ Left [] k := by
  simp [Left, ofKey]

theorem downAfter_mono {D : Finset Key} (hD : D ⊆ H) (ms : List Motion) :
    downAfter D ms ⊆ downAfter H ms := by
  induction ms using List.reverseRecOn with
  | nil => exact hD
  | append_singleton ms m ih =>
    rw [downAfter_snoc, downAfter_snoc]
    cases m with
    | press k => exact Finset.insert_subset_insert k ih
    | release k => exact Finset.erase_subset_erase k ih

theorem left_iff_mem_downAfter : Left ms k ↔ k ∈ downAfter ∅ ms := by
  induction ms using List.reverseRecOn with
  | nil => simp [Left, ofKey, downAfter]
  | append_singleton ms m ih =>
    rw [downAfter_snoc, Left]
    by_cases hk : m.key = k
    · subst hk
      rw [mem_moveKeys_self, ofKey_snoc_self, List.getLast?_concat]
      cases m <;> simp [isPress, key]
    · rw [mem_moveKeys_of_ne hk, ofKey_snoc_of_ne hk, ← ih, Left]

/-! ## Counting presses against releases -/

/-- Count a press up and a release down, never below zero. -/
def tally (n : Nat) : Motion → Nat
  | .press _ => n + 1
  | .release _ => n - 1

/-- The count after some motions, from zero. -/
def unanswered (ms : List Motion) : Nat := ms.foldl tally 0

/-- Every release among `ms'`, which come after `ms`, is of a key left down. -/
def Answering (ms ms' : List Motion) : Prop :=
  ∀ ms₁ k ms₂, ms' = ms₁ ++ .release k :: ms₂ → Left (ms ++ ms₁) k

theorem unanswered_snoc (ms : List Motion) (m : Motion) :
    unanswered (ms ++ [m]) = tally (unanswered ms) m := by
  rw [unanswered, List.foldl_append]
  rfl

theorem Answering.of_append {ms₁ ms₂ : List Motion} (h : Answering ms (ms₁ ++ ms₂)) :
    Answering ms ms₁ := by
  rintro ms₃ k ms₄ rfl
  exact h ms₃ k (ms₄ ++ ms₂) (by simp)

theorem Possible.notMem_of_press (h : Possible H (ms ++ [.press k])) : k ∉ downAfter ∅ ms := by
  intro hk
  have hm := (possible_cons.mp (possible_append.mp h).2).1
  have hH : k ∈ downAfter H ms := downAfter_mono (Finset.empty_subset H) ms hk
  simp [isPress, key, hH] at hm

/-- A press adds a key that was not down, so the count never exceeds the keys left down; releases
of other keys can only make it smaller. -/
theorem Possible.unanswered_le (h : Possible H ms) :
    unanswered ms ≤ (downAfter ∅ ms).card := by
  induction ms using List.reverseRecOn with
  | nil => exact Nat.zero_le _
  | append_singleton ms m ih =>
    have hms := ih (possible_append.mp h).1
    rw [unanswered_snoc, downAfter_snoc]
    cases m with
    | press k =>
      rw [moveKeys, Finset.card_insert_of_notMem h.notMem_of_press]
      exact Nat.succ_le_succ hms
    | release k =>
      have herase := Finset.pred_card_le_card_erase (s := downAfter ∅ ms) (a := k)
      exact Nat.le_trans (Nat.sub_le_sub_right hms 1) herase

/-- The count is exact from a moment on when no key is left down, while only keys left down are
released. -/
theorem Possible.unanswered_eq {ms' : List Motion} (h : Possible H (ms ++ ms'))
    (hnone : ∀ k, ¬ Left ms k) (hms' : Answering ms ms') :
    unanswered (ms ++ ms') = (downAfter ∅ (ms ++ ms')).card := by
  induction ms' using List.reverseRecOn with
  | nil =>
    have hempty : downAfter ∅ ms = ∅ :=
      Finset.eq_empty_of_forall_notMem fun k hk => hnone k (left_iff_mem_downAfter.mpr hk)
    rw [List.append_nil] at h ⊢
    have hle := h.unanswered_le
    rw [hempty, Finset.card_empty] at hle ⊢
    exact Nat.le_zero.mp hle
  | append_singleton ms' m ih =>
    rw [← List.append_assoc] at h ⊢
    have heq := ih (possible_append.mp h).1 hms'.of_append
    rw [unanswered_snoc, downAfter_snoc, heq]
    cases m with
    | press k =>
      rw [moveKeys, Finset.card_insert_of_notMem h.notMem_of_press]
      rfl
    | release k =>
      have hk : k ∈ downAfter ∅ (ms ++ ms') := left_iff_mem_downAfter.mp (hms' ms' k [] rfl)
      rw [moveKeys, Finset.card_erase_of_mem hk]
      rfl

/-- With no key down at first, only keys left down can be released. -/
theorem Possible.answering (h : Possible ∅ ms) : Answering [] ms := by
  rintro ms₁ k ms₂ rfl
  have hm := (possible_cons.mp (possible_append.mp h).2).1
  simp only [isPress, key, Bool.false_eq, Bool.not_eq_false'] at hm
  exact left_iff_mem_downAfter.mpr (of_decide_eq_true hm)

/-- With no key down at first, the count is that of the keys down. -/
theorem Possible.unanswered_eq_card (h : Possible ∅ ms) :
    unanswered ms = (downAfter ∅ ms).card := by
  have h' : Possible ∅ ([] ++ ms) := h
  exact h'.unanswered_eq not_left_nil h.answering

end ChordDrill.Motion

namespace ChordDrill.Keyboard

theorem mem_pressed_observeAll {s : Keyboard} {H : Finset Key}
    (hs : ∀ k, k ∈ s.pressed ↔ k ∈ H) (ms : List Motion) (k : Key) :
    k ∈ (s.observeAll ms).pressed ↔ k ∈ Motion.downAfter H ms := by
  induction ms using List.reverseRecOn generalizing k with
  | nil => exact hs k
  | append_singleton ms m ih =>
    rw [observeAll_snoc, mem_pressed_observe, Motion.downAfter_snoc, ih]
    cases m with
    | press j =>
      rw [Motion.moveKeys, Finset.mem_insert]
      simp [eq_comm]
    | release j =>
      rw [Motion.moveKeys, Finset.mem_erase]
      simp [eq_comm, and_comm]

end ChordDrill.Keyboard
