import ChordDrill.Screen.Grid

/-!
# ChordDrill.Proofs.Screen.Painting

What a picture does to a grid, cell by cell.

* `Rect.Within`    — a rectangle inside another one.
* `lastSymbol?`    — the symbol that a picture leaves in a cell.
* `StaysInside`    — a picture that can be painted and leaves all cells outside an area alone.

The symbol of a marked cell is the one that its last mark put there, whatever was there before. So a
mark outside the area changes some grid, and a picture stays inside its area just if all its marks
do (`staysInside_iff`).
-/

namespace ChordDrill.Screen

open Text (Symbol)

/-! ## Rectangles -/

/-- A rectangle inside another one; it may be empty. -/
structure Rect.Within (r s : Rect) : Prop where
  left : s.x ≤ r.x
  top : s.y ≤ r.y
  right : r.right ≤ s.right
  bottom : r.bottom ≤ s.bottom

theorem Rect.contains_iff {r : Rect} {x y : Nat} :
    r.contains x y = true ↔ r.x ≤ x ∧ x < r.right ∧ r.y ≤ y ∧ y < r.bottom := by
  simp only [Rect.contains, Bool.and_eq_true, decide_eq_true_eq, and_assoc]

theorem Rect.Within.contains {r s : Rect} (h : r.Within s) {x y : Nat}
    (hc : r.contains x y = true) : s.contains x y = true := by
  have hleft := h.left
  have htop := h.top
  have hright := h.right
  have hbottom := h.bottom
  rw [Rect.contains_iff] at hc ⊢
  omega

/-! ## One mark -/

/-- The symbol that a mark leaves. -/
def Ink.symbol : Ink → Symbol
  | .put symbol _ => symbol
  | .blank => [' ']

theorem Cell.symbol_apply (c : Cell) (ink : Ink) : (c.apply ink).symbol = ink.symbol := by
  cases ink <;> rfl

/-- The symbol that the last mark of a picture leaves in a cell. -/
def lastSymbol? : List Mark → Nat → Nat → Option Symbol
  | [], _, _ => none
  | m :: ms, x, y =>
    (lastSymbol? ms x y).or (if x = m.x ∧ y = m.y then some m.ink.symbol else none)

theorem exists_lastSymbol? {ms : List Mark} {m : Mark} (hm : m ∈ ms) :
    ∃ symbol, lastSymbol? ms m.x m.y = some symbol := by
  induction ms with
  | nil => cases hm
  | cons m' ms ih =>
    rw [lastSymbol?]
    rcases List.mem_cons.mp hm with rfl | hm
    · cases lastSymbol? ms m.x m.y with
      | none => exact ⟨m.ink.symbol, by simp⟩
      | some symbol => exact ⟨symbol, rfl⟩
    · obtain ⟨symbol, hsome⟩ := ih hm
      exact ⟨symbol, by rw [hsome, Option.some_or]⟩

namespace Grid

variable {g g' : Grid} {m : Mark} {ms : List Mark} {x y : Nat}

@[simp] theorem area_filled (r : Rect) (c : Cell) : (filled r c).area = r := rfl

@[simp] theorem area_change (g : Grid) (column row : Nat) (ink : Ink) :
    (g.change column row ink).area = g.area := rfl

theorem cell?_of_not_contains (hc : g.area.contains x y = false) : g.cell? x y = none := by
  rw [cell?, hc]
  rfl

theorem exists_row (hc : g.area.contains x y = true) : ∃ row cell,
    g.rows[y - g.area.y]? = some row ∧ row[x - g.area.x]? = some cell ∧
      g.cell? x y = some cell := by
  obtain ⟨hx, hright, hy, hbottom⟩ := Rect.contains_iff.mp hc
  simp only [Rect.right, Rect.bottom] at hright hbottom
  have hrow : y - g.area.y < g.rows.size := by
    rw [g.size_rows]
    omega
  have hcolumn : x - g.area.x < g.rows[y - g.area.y].size := by
    rw [g.uniform _ (Array.getElem_mem hrow)]
    omega
  refine ⟨g.rows[y - g.area.y], g.rows[y - g.area.y][x - g.area.x],
    Array.getElem?_eq_getElem hrow, Array.getElem?_eq_getElem hcolumn, ?_⟩
  rw [cell?, if_pos hc, Array.getElem?_eq_getElem hrow, Option.bind_some,
    Array.getElem?_eq_getElem hcolumn]

theorem cell?_filled {r : Rect} (c : Cell) (hc : r.contains x y = true) :
    (filled r c).cell? x y = some c := by
  obtain ⟨row, cell, hrow, hcell, hfilled⟩ := exists_row (g := filled r c) (by rwa [area_filled])
  have hrow' := Array.eq_of_mem_replicate (Array.mem_of_getElem? hrow)
  rw [hrow'] at hcell
  rw [hfilled, Array.eq_of_mem_replicate (Array.mem_of_getElem? hcell)]

/-- A change of one cell leaves the others alone. -/
theorem cell?_change (hm : g.area.contains m.x m.y = true) (x y : Nat) :
    (g.change (m.x - g.area.x) (m.y - g.area.y) m.ink).cell? x y =
      if x = m.x ∧ y = m.y then (g.cell? x y).map (·.apply m.ink) else g.cell? x y := by
  by_cases hc : g.area.contains x y = true
  · obtain ⟨hx, -, hy, -⟩ := Rect.contains_iff.mp hc
    obtain ⟨hmx, -, hmy, -⟩ := Rect.contains_iff.mp hm
    have hcolumn : m.x - g.area.x = x - g.area.x ↔ x = m.x := by omega
    have hrow : m.y - g.area.y = y - g.area.y ↔ y = m.y := by omega
    obtain ⟨row, cell, hr, hcell, hsome⟩ := exists_row hc
    rw [hsome, cell?, area_change, if_pos hc]
    simp only [change, Array.getElem?_modify, hrow, hr]
    by_cases hy' : y = m.y
    · by_cases hx' : x = m.x
      · simp [hy', hx', Array.getElem?_modify, hx' ▸ hcell]
      · simp [hy', hx', Array.getElem?_modify, hcolumn, hcell]
    · simp [hy', hcell]
  · rw [Bool.not_eq_true] at hc
    rw [cell?_of_not_contains hc, cell?_of_not_contains (by rwa [area_change])]
    simp

/-- A mark either misses the grid or changes its one cell. -/
theorem mark_eq_some (hg : g.mark m = some g') : g.area.contains m.x m.y = true ∧
    g'.area = g.area ∧ ∀ x y, g'.cell? x y =
      if x = m.x ∧ y = m.y then (g.cell? x y).map (·.apply m.ink) else g.cell? x y := by
  unfold mark at hg
  split at hg
  · rename_i hm
    cases hg
    exact ⟨hm, area_change _ _ _ _, cell?_change hm⟩
  · cases hg

theorem exists_mark (hm : g.area.contains m.x m.y = true) : ∃ g', g.mark m = some g' :=
  ⟨_, if_pos hm⟩

/-! ## Pictures -/

theorem paint_cons_eq_some (hg : g.paint (m :: ms) = some g') :
    ∃ g'', g.mark m = some g'' ∧ g''.paint ms = some g' := by
  rw [paint] at hg
  split at hg
  · rename_i g'' hm
    exact ⟨g'', hm, hg⟩
  · cases hg

/-- A picture can be painted just if none of its marks misses the grid. -/
theorem exists_paint_iff :
    (∃ g', g.paint ms = some g') ↔ ∀ m ∈ ms, g.area.contains m.x m.y = true := by
  induction ms generalizing g with
  | nil => simp [paint]
  | cons m ms ih =>
    rw [List.forall_mem_cons]
    constructor
    · rintro ⟨g', hg⟩
      obtain ⟨g'', hm, hg⟩ := paint_cons_eq_some hg
      obtain ⟨hc, harea, -⟩ := mark_eq_some hm
      exact ⟨hc, harea ▸ ih.mp ⟨g', hg⟩⟩
    · rintro ⟨hc, hms⟩
      obtain ⟨g'', hm⟩ := exists_mark hc
      rw [paint, hm]
      exact ih.mpr ((mark_eq_some hm).2.1.symm ▸ hms)

/-- A cell without a mark stays as it is. -/
theorem cell?_paint_of_unmarked (hg : g.paint ms = some g')
    (hms : ∀ m ∈ ms, ¬ (x = m.x ∧ y = m.y)) : g'.cell? x y = g.cell? x y := by
  induction ms generalizing g with
  | nil =>
    cases hg
    rfl
  | cons m ms ih =>
    rw [List.forall_mem_cons] at hms
    obtain ⟨g'', hm, hg⟩ := paint_cons_eq_some hg
    rw [ih hg hms.2, (mark_eq_some hm).2.2, if_neg hms.1]

/-- The symbol of a cell. -/
def symbol? (g : Grid) (x y : Nat) : Option Symbol := (g.cell? x y).map Cell.symbol

theorem symbol?_mark (hg : g.mark m = some g') (x y : Nat) :
    g'.symbol? x y =
      (if x = m.x ∧ y = m.y then some m.ink.symbol else none).or (g.symbol? x y) := by
  obtain ⟨hc, -, hcells⟩ := mark_eq_some hg
  rw [symbol?, hcells]
  split
  · rename_i hxy
    obtain ⟨row, cell, -, -, hcell⟩ := exists_row hc
    rw [hxy.1, hxy.2, hcell]
    exact congrArg some (cell.symbol_apply m.ink)
  · rfl

theorem symbol?_paint (hg : g.paint ms = some g') (x y : Nat) :
    g'.symbol? x y = (lastSymbol? ms x y).or (g.symbol? x y) := by
  induction ms generalizing g with
  | nil =>
    cases hg
    rfl
  | cons m ms ih =>
    obtain ⟨g'', hm, hg⟩ := paint_cons_eq_some hg
    rw [ih hg, symbol?_mark hm, lastSymbol?, Option.or_assoc]

end Grid

/-! ## Staying inside -/

/-- Wherever the screen has its buffer and whatever is on it: the picture can be painted, and
painting it changes no cell outside the area. -/
def StaysInside (screen area : Rect) (ms : List Mark) : Prop :=
  ∀ g : Grid, g.area = screen → ∃ g', g.paint ms = some g' ∧
    ∀ x y, area.contains x y = false → g'.cell? x y = g.cell? x y

variable {screen area : Rect} {ms : List Mark}

theorem staysInside_of_marks (hwithin : area.Within screen)
    (hms : ∀ m ∈ ms, area.contains m.x m.y = true) : StaysInside screen area ms := by
  rintro g rfl
  obtain ⟨g', hg⟩ := Grid.exists_paint_iff.mpr fun m hm => hwithin.contains (hms m hm)
  refine ⟨g', hg, fun x y hout => Grid.cell?_paint_of_unmarked hg fun m hm hxy => ?_⟩
  rw [hxy.1, hxy.2, hms m hm] at hout
  cases hout

/-- On a screen that shows one symbol everywhere, a marked cell outside the area must show it still,
so it is the symbol of the last mark; but a screen of another symbol would say the same. -/
theorem marks_of_staysInside (hstays : StaysInside screen area ms) {m : Mark} (hm : m ∈ ms) :
    area.contains m.x m.y = true := by
  cases hout : area.contains m.x m.y with
  | true => rfl
  | false =>
    have hlast : ∀ symbol : Symbol, lastSymbol? ms m.x m.y = some symbol := by
      intro symbol
      obtain ⟨g, hg, hsame⟩ := hstays (.filled screen { symbol }) (Grid.area_filled _ _)
      have hscreen := Grid.exists_paint_iff.mp ⟨g, hg⟩ m hm
      rw [Grid.area_filled] at hscreen
      have hshown := Grid.symbol?_paint hg m.x m.y
      rw [Grid.symbol?, hsame _ _ hout, Grid.symbol?, Grid.cell?_filled _ hscreen] at hshown
      obtain ⟨last, hsome⟩ := exists_lastSymbol? hm
      rw [hsome] at hshown ⊢
      exact hshown.symm
    have hsame := (hlast ['a']).symm.trans (hlast ['b'])
    cases hsame

/-- A picture stays inside an area just if its marks do. -/
theorem staysInside_iff (hwithin : area.Within screen) :
    StaysInside screen area ms ↔ ∀ m ∈ ms, area.contains m.x m.y = true :=
  ⟨fun hstays _ hm => marks_of_staysInside hstays hm, staysInside_of_marks hwithin⟩

end ChordDrill.Screen
