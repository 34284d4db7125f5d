import ChordDrill.Key

/-!
# ChordDrill.Key.Tally

Counts per key, seen through `find?`: `find?_insert` and `find?_erase` say what the two updates do.
-/

namespace ChordDrill

/-- A finite table from keys to counts. There is no bound on a count here; a counter of 64 bits
holds those of any run. -/
structure Tally where
  entries : List (Key × Nat) := []
deriving DecidableEq, Repr

namespace Tally

/-- The count kept for a key, if there is one. -/
def find? (t : Tally) (k : Key) : Option Nat := t.entries.lookup k

/-- The count of a key; absent keys count zero. -/
def count (t : Tally) (k : Key) : Nat := (t.find? k).getD 0

/-- Forget a key. -/
def erase (t : Tally) (k : Key) : Tally := ⟨t.entries.filter fun e => e.1 != k⟩

/-- Set the count of a key. -/
def insert (t : Tally) (k : Key) (n : Nat) : Tally := ⟨(k, n) :: (t.erase k).entries⟩

/-- One more for a key. -/
def bump (t : Tally) (k : Key) : Tally := t.insert k (t.count k + 1)

theorem find?_erase (t : Tally) (k j : Key) :
    (t.erase k).find? j = if j = k then none else t.find? j := by
  obtain ⟨es⟩ := t
  simp only [find?, erase]
  induction es with
  | nil => simp
  | cons e es ih =>
    obtain ⟨i, n⟩ := e
    by_cases hik : i = k
    · subst hik
      have hdrop : ((i, n) :: es).filter (fun e => e.1 != i) = es.filter fun e => e.1 != i := by
        simp [List.filter]
      rw [hdrop, ih]
      by_cases hji : j = i
      · simp [hji]
      · have : (j == i) = false := by simp [hji]
        simp [hji, List.lookup_cons, this]
    · have hne : (i != k) = true := by simp [hik]
      by_cases hji : j = i
      · subst hji
        simp [List.filter, hne, hik]
      · have : (j == i) = false := by simp [hji]
        simp [List.filter, hne, List.lookup_cons, this, ih]

theorem find?_insert (t : Tally) (k j : Key) (n : Nat) :
    (t.insert k n).find? j = if j = k then some n else t.find? j := by
  by_cases h : j = k
  · subst h
    simp [insert, find?]
  · have hjk : (j == k) = false := by simp [h]
    have he : (t.insert k n).find? j = (t.erase k).find? j := by
      simp [insert, find?, List.lookup_cons, hjk]
    rw [he, find?_erase]
    simp [h]

theorem count_bump (t : Tally) (k j : Key) :
    (t.bump k).count j = if j = k then t.count k + 1 else t.count j := by
  simp only [bump, count, find?_insert]
  split <;> rfl

end Tally

end ChordDrill
