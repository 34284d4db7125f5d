import ChordDrill.Lookahead

/-!
# ChordDrill.Proofs.Lookahead.Cursor

A lookahead against a plain cursor over the list of its items. Whatever is asked of both in whatever
order, they answer alike.

* `Request`           — what can be asked.
* `Cursor`            — a place in a list, and the items it ever had to see.
* `Lookahead.Follows` — a lookahead that stands where a cursor stands.

An item is in the window or still in the source, and a peek may fill the window only in part before
the source runs out. `Follows` says of both together that they are what is behind the cursor, and of
the window alone how long it is: as long as the items that were seen and not yet passed. One request
keeps it (`Follows.answer`), and so do all.
-/

namespace ChordDrill

/-- What can be asked of a lookahead. -/
inductive Request where
  | peek (n : Nat)
  | next
  | forward (n : Nat)
deriving DecidableEq, Repr

/-- A cursor over a list: how many items it has passed, and up to which item it ever had to see the
list. -/
structure Cursor where
  place : Nat := 0
  seen : Nat := 0
deriving DecidableEq, Repr

namespace Cursor

variable {α : Type}

/-- See the next `n` of `size` items, or as many as there are. -/
def look (size : Nat) (c : Cursor) (n : Nat) : Cursor :=
  { c with seen := max c.seen (min (c.place + n) size) }

/-- Pass the next `n` of `size` items, or as many as there are. -/
def pass (size : Nat) (c : Cursor) (n : Nat) : Cursor :=
  { c.look size n with place := min (c.place + n) size }

/-- What a cursor answers, with what may be looked at from a place limited to `capacity` items. -/
def answer (items : List α) (capacity : Nat) (c : Cursor) : Request → Option α
  | .peek n => if 0 < n ∧ n ≤ capacity then items[c.place + (n - 1)]? else none
  | .next => items[c.place]?
  | .forward _ => none

/-- The cursor behind a request. -/
def step (size capacity : Nat) (c : Cursor) : Request → Cursor
  | .peek n => if 0 < n ∧ n ≤ capacity then c.look size n else c
  | .next => c.pass size 1
  | .forward n => c.pass size n

/-- The cursor behind several requests. -/
def after (size capacity : Nat) (c : Cursor) (rs : List Request) : Cursor :=
  rs.foldl (step size capacity) c

/-- What a cursor answers to several requests. -/
def answers (items : List α) (capacity : Nat) (c : Cursor) : List Request → List (Option α)
  | [] => []
  | r :: rs =>
    c.answer items capacity r :: (c.step items.length capacity r).answers items capacity rs

theorem pass_succ (size : Nat) (c : Cursor) (n : Nat) :
    (c.pass size 1).pass size n = c.pass size (n + 1) := by
  simp only [pass, look, Cursor.mk.injEq]
  omega

theorem drop_pass (items : List α) (c : Cursor) (n : Nat) :
    items.drop (c.pass items.length n).place = (items.drop c.place).drop n := by
  rw [List.drop_drop, pass]
  rcases Nat.le_total (c.place + n) items.length with hle | hle
  · rw [Nat.min_eq_left hle]
  · rw [Nat.min_eq_right hle, List.drop_eq_nil_of_le (Nat.le_refl _), List.drop_eq_nil_of_le hle]

end Cursor

namespace Lookahead

variable {α : Type} {l : Lookahead α} {items : List α} {capacity : Nat} {c : Cursor}

/-- The answer to a request, and the lookahead behind it. -/
def answer (l : Lookahead α) : Request → Option α × Lookahead α
  | .peek n => l.peek n
  | .next => l.next
  | .forward n => (none, l.forward n)

/-- The lookahead behind several requests. -/
def after (l : Lookahead α) (rs : List Request) : Lookahead α :=
  rs.foldl (fun l r => (l.answer r).2) l

/-- The answers to several requests. -/
def answers (l : Lookahead α) : List Request → List (Option α)
  | [] => []
  | r :: rs => (l.answer r).1 :: (l.answer r).2.answers rs

/-- The lookahead stands where the cursor stands. -/
structure Follows (l : Lookahead α) (items : List α) (capacity : Nat) (c : Cursor) : Prop where
  /-- Nothing was lost, taken twice, or put in another order. -/
  upcoming_eq : l.upcoming = items.drop c.place
  /-- Only what had to be seen was pulled. -/
  pulled_eq : l.pulled = c.seen
  /-- What was pulled was passed or waits in the window. -/
  window_eq : l.pulled = c.place + l.window.length
  capacity_eq : l.capacity = capacity
  window_le : l.window.length ≤ capacity
  seen_le : c.seen ≤ items.length

theorem follows_ofList (items : List α) (capacity : Nat) :
    (ofList items capacity).Follows items capacity {} :=
  ⟨rfl, rfl, rfl, rfl, Nat.zero_le _, Nat.zero_le _⟩

/-! ## One request -/

/-- An item comes from the window if it holds one, else from the source. -/
theorem next_moves (l : Lookahead α) :
    l.next.2.window.length = l.window.length - 1 ∧
    l.next.2.pulled = l.pulled + min (1 - l.window.length) l.source.length := by
  obtain ⟨source, window, capacity, pulled⟩ := l
  cases window with
  | cons a window => simp [next]
  | nil => cases source <;> simp [next]

/-- A peek pulls what the window lacks, if the source has it. -/
theorem peek_moves (l : Lookahead α) {n : Nat} (hn : 0 < n) (hc : n ≤ l.capacity) :
    (l.peek n).2.window.length =
      l.window.length + min (n - l.window.length) l.source.length ∧
    (l.peek n).2.pulled = l.pulled + min (n - l.window.length) l.source.length := by
  rw [peek, if_neg (by omega)]
  simp [fill_eq]

theorem peek_of_not (l : Lookahead α) {n : Nat} (h : ¬ (0 < n ∧ n ≤ l.capacity)) :
    l.peek n = (none, l) := by
  rw [peek, if_pos (by omega)]

theorem next_of_upcoming_eq_nil (h : l.upcoming = []) : l.next = (none, l) := by
  obtain ⟨hwindow, hsource⟩ := List.append_eq_nil_iff.mp h
  simp only [next, hwindow, hsource]

namespace Follows

theorem length_source (h : l.Follows items capacity c) :
    l.source.length + c.seen = items.length := by
  have hlength := congrArg List.length h.upcoming_eq
  rw [upcoming, List.length_append, List.length_drop] at hlength
  have hpulled := h.pulled_eq
  have hwindow := h.window_eq
  have hseen := h.seen_le
  omega

theorem next (h : l.Follows items capacity c) :
    l.next.1 = items[c.place]? ∧ l.next.2.Follows items capacity (c.pass items.length 1) := by
  obtain ⟨hhead, htail⟩ := upcoming_next l
  rw [h.upcoming_eq] at hhead htail
  have hsource := h.length_source
  have hpulled := h.pulled_eq
  have hwindow := h.window_eq
  have hle := h.window_le
  have hseen := h.seen_le
  obtain ⟨hlength, hmoved⟩ := next_moves l
  refine ⟨by rw [hhead, List.head?_drop], by rw [htail, Cursor.drop_pass, List.drop_one], ?_, ?_,
    (capacity_next l).trans h.capacity_eq, by omega, ?_⟩
  all_goals
    simp only [Cursor.pass, Cursor.look]
    omega

theorem peek (h : l.Follows items capacity c) {n : Nat} (hn : 0 < n) (hc : n ≤ capacity) :
    (l.peek n).1 = items[c.place + (n - 1)]? ∧
    (l.peek n).2.Follows items capacity (c.look items.length n) := by
  have hsource := h.length_source
  have hpulled := h.pulled_eq
  have hwindow := h.window_eq
  have hle := h.window_le
  have hc' : n ≤ l.capacity := h.capacity_eq.symm ▸ hc
  obtain ⟨hlength, hmoved⟩ := peek_moves l hn hc'
  refine ⟨?_, (upcoming_peek l n).trans h.upcoming_eq, ?_, ?_,
    (capacity_peek l n).trans h.capacity_eq, by omega, ?_⟩
  · rw [fst_peek l hn hc', h.upcoming_eq, List.getElem?_drop]
  all_goals
    simp only [Cursor.look]
    omega

/-- Nothing is passed by no step, nor at the end. -/
theorem pass_eq_self (h : l.Follows items capacity c) {n : Nat} (hn : n = 0 ∨ l.upcoming = []) :
    c.pass items.length n = c := by
  have hn : n = 0 ∨ items.length ≤ c.place := by
    rwa [h.upcoming_eq, List.drop_eq_nil_iff] at hn
  have hwindow := h.window_eq
  have hpulled := h.pulled_eq
  have hseen := h.seen_le
  obtain ⟨place, seen⟩ := c
  simp only [Cursor.pass, Cursor.look, Cursor.mk.injEq] at hn hwindow hpulled hseen ⊢
  omega

theorem forward (h : l.Follows items capacity c) (n : Nat) :
    (l.forward n).Follows items capacity (c.pass items.length n) := by
  induction n generalizing l c with
  | zero =>
    rw [h.pass_eq_self (.inl rfl)]
    exact h
  | succ n ih =>
    obtain ⟨hitem, hnext⟩ := h.next
    rw [Lookahead.forward]
    split
    · rename_i a l' hl
      rw [hl] at hnext
      rw [← Cursor.pass_succ]
      exact ih hnext
    · rename_i l' hl
      rw [hl] at hitem
      have hend : l.upcoming = [] := by
        rw [h.upcoming_eq]
        exact List.drop_eq_nil_of_le (List.getElem?_eq_none_iff.mp hitem.symm)
      rw [next_of_upcoming_eq_nil hend] at hl
      cases hl
      rw [h.pass_eq_self (.inr hend)]
      exact h

/-- One request. -/
theorem answer (h : l.Follows items capacity c) (r : Request) :
    (l.answer r).1 = c.answer items capacity r ∧
    (l.answer r).2.Follows items capacity (c.step items.length capacity r) := by
  cases r with
  | peek n =>
    simp only [Lookahead.answer, Cursor.answer, Cursor.step]
    split
    · rename_i hn
      exact h.peek hn.1 hn.2
    · rename_i hn
      rw [← h.capacity_eq] at hn
      rw [peek_of_not l hn]
      exact ⟨rfl, h⟩
  | next => exact h.next
  | forward n => exact ⟨rfl, h.forward n⟩

/-- All requests. -/
theorem run (h : l.Follows items capacity c) (rs : List Request) :
    l.answers rs = c.answers items capacity rs ∧
    (l.after rs).Follows items capacity (c.after items.length capacity rs) := by
  induction rs generalizing l c with
  | nil => exact ⟨rfl, h⟩
  | cons r rs ih =>
    obtain ⟨hanswer, hstep⟩ := h.answer r
    obtain ⟨hanswers, hafter⟩ := ih hstep
    exact ⟨by rw [answers, Cursor.answers, hanswer, hanswers], hafter⟩

end Follows

end Lookahead

/-- Whatever is asked of a lookahead, it answers as a plain cursor over its items does, and behind
any number of requests it stands where the cursor stands: what it will yield is what the cursor has
not passed, what it pulled is passed or in the window, the window keeps to the capacity, and no item
was pulled that the cursor did not have to see. -/
theorem lookahead_follows_cursor {α : Type} (items : List α) (capacity : Nat) (rs : List Request) :
    (Lookahead.ofList items capacity).answers rs = Cursor.answers items capacity {} rs ∧
    ((Lookahead.ofList items capacity).after rs).Follows items capacity
      (Cursor.after items.length capacity {} rs) :=
  (Lookahead.follows_ofList items capacity).run rs

/-- A peek past the end keeps what it pulled, and the next peek sees it. -/
example : (Lookahead.ofList [1, 2] 3).answers [.peek 3, .next, .peek 1, .peek 4] =
      [none, some 1, some 2, none] ∧
    ((Lookahead.ofList [1, 2] 3).after [.peek 3, .next]).window = [2] := by decide

end ChordDrill
