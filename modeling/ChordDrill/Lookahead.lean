/-!
# ChordDrill.Lookahead

A bounded window over a source of items. Looking ahead moves items from the source into the
window; nothing is taken twice and nothing is lost, so `upcoming` only shrinks from the front.

* `Lookahead.peek`     — the `n`-th upcoming item, counted from one.
* `Lookahead.next`     — take one item.
* `Lookahead.forward`  — drop up to `n` items.
-/

namespace ChordDrill

/-- A source of items with a window of items already pulled from it. -/
structure Lookahead (α : Type) where
  /-- Items still in the source. -/
  source : List α
  /-- Items pulled and not yet taken, oldest first. -/
  window : List α := []
  /-- The most items that the window may hold. -/
  capacity : Nat
  /-- Items pulled from the source so far. -/
  pulled : Nat := 0
deriving DecidableEq, Repr

namespace Lookahead

variable {α : Type}

def ofList (items : List α) (capacity : Nat) : Lookahead α :=
  { source := items, capacity := capacity }

/-- The items still to come, in order. -/
def upcoming (l : Lookahead α) : List α := l.window ++ l.source

/-- Pull so many items into the window, one after the other, or fewer if the source runs out. -/
def fill (l : Lookahead α) : Nat → Lookahead α
  | 0 => l
  | k + 1 =>
    match l.source with
    | [] => l
    | a :: source =>
      fill { l with window := l.window ++ [a], source := source, pulled := l.pulled + 1 } k

/-- The `n`-th upcoming item, counted from one, without taking it; `none` beyond the capacity or
the end. What was pulled stays in the window. -/
def peek (l : Lookahead α) (n : Nat) : Option α × Lookahead α :=
  if n = 0 ∨ l.capacity < n then (none, l)
  else
    let l' := l.fill (n - l.window.length)
    (l'.window[n - 1]?, l')

/-- Take the next item, from the window first. -/
def next (l : Lookahead α) : Option α × Lookahead α :=
  match l.window, l.source with
  | a :: window, _ => (some a, { l with window := window })
  | [], a :: source => (some a, { l with source := source, pulled := l.pulled + 1 })
  | [], [] => (none, l)

/-- Drop up to `n` upcoming items. -/
def forward (l : Lookahead α) : Nat → Lookahead α
  | 0 => l
  | n + 1 =>
    match l.next with
    | (some _, l') => l'.forward n
    | (none, l') => l'

theorem fill_eq (l : Lookahead α) (k : Nat) :
    l.fill k =
      { l with
        window := l.window ++ l.source.take k
        source := l.source.drop k
        pulled := l.pulled + min k l.source.length } := by
  induction k generalizing l with
  | zero => simp [fill]
  | succ k ih =>
    unfold fill
    split
    · rename_i hnil
      simp only [hnil, List.take_nil, List.drop_nil, List.append_nil, List.length_nil,
        Nat.min_zero, Nat.add_zero]
      rw [← hnil]
    · rename_i a source hcons
      rw [ih]
      simp [hcons, Nat.add_assoc, Nat.add_comm 1, Nat.add_min_add_right]

@[simp] theorem upcoming_fill (l : Lookahead α) (k : Nat) : (l.fill k).upcoming = l.upcoming := by
  simp [fill_eq, upcoming, List.append_assoc, List.take_append_drop]

@[simp] theorem capacity_fill (l : Lookahead α) (k : Nat) : (l.fill k).capacity = l.capacity := by
  rw [fill_eq]

/-- A filled window shows the upcoming items up to its `n`-th. -/
theorem getElem?_window_fill (l : Lookahead α) {n i : Nat} (h : i < n) :
    (l.fill (n - l.window.length)).window[i]? = l.upcoming[i]? := by
  simp only [fill_eq, upcoming, List.getElem?_append, List.getElem?_take]
  split
  · rfl
  · rw [if_pos (by omega)]

/-- Looking ahead shows what is to come. -/
theorem fst_peek (l : Lookahead α) {n : Nat} (hn : 0 < n) (hc : n ≤ l.capacity) :
    (l.peek n).1 = l.upcoming[n - 1]? := by
  rw [peek, if_neg (by omega)]
  exact getElem?_window_fill l (by omega)

@[simp] theorem upcoming_peek (l : Lookahead α) (n : Nat) : (l.peek n).2.upcoming = l.upcoming := by
  unfold peek
  split
  · rfl
  · exact upcoming_fill l _

@[simp] theorem capacity_peek (l : Lookahead α) (n : Nat) : (l.peek n).2.capacity = l.capacity := by
  unfold peek
  split
  · rfl
  · exact capacity_fill l _

theorem upcoming_next (l : Lookahead α) :
    l.next.1 = l.upcoming.head? ∧ l.next.2.upcoming = l.upcoming.tail := by
  obtain ⟨source, window, capacity, pulled⟩ := l
  cases window with
  | cons a window => simp [next, upcoming]
  | nil => cases source <;> simp [next, upcoming]

@[simp] theorem capacity_next (l : Lookahead α) : l.next.2.capacity = l.capacity := by
  unfold next
  split <;> rfl

/-- Dropping items drops what is to come. -/
theorem upcoming_forward (l : Lookahead α) (n : Nat) :
    (l.forward n).upcoming = l.upcoming.drop n := by
  induction n generalizing l with
  | zero => rfl
  | succ n ih =>
    obtain ⟨hhead, htail⟩ := upcoming_next l
    rw [forward]
    split
    · rename_i a l' h
      rw [h] at htail
      rw [ih, htail, List.drop_tail]
    · rename_i l' h
      rw [h] at hhead htail
      have hnil : l.upcoming = [] := List.head?_eq_none_iff.mp hhead.symm
      rw [htail, hnil]
      rfl

@[simp] theorem capacity_forward (l : Lookahead α) (n : Nat) :
    (l.forward n).capacity = l.capacity := by
  induction n generalizing l with
  | zero => rfl
  | succ n ih =>
    have hcap := capacity_next l
    rw [forward]
    split
    · rename_i a l' h
      rw [h] at hcap
      rw [ih, hcap]
    · rename_i l' h
      rw [h] at hcap
      exact hcap

end Lookahead

end ChordDrill
