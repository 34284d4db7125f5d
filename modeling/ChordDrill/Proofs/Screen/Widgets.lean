import ChordDrill.Proofs.Screen.Writing
import ChordDrill.Screen.KeyboardView
import ChordDrill.Screen.StatusBar

/-!
# ChordDrill.Proofs.Screen.Widgets

The pictures of the keyboard and of the status bar, and the area that each of them is given.

* `Cap.move`   — a key somewhere else.
* `Cap.Placed` — a key in a row of its area, with a label that fills it.
* `KeyboardView.Contained`, `StatusBar.Contained` — when a picture stays in its area.

Each group of keys moves with its area (`mainCaps_move`), so what all keys have in common is tried
on the groups at one place and holds at any other (`placed_caps`).

Keys are left out by the edges of the screen, and texts end there. So a picture reaches beyond its
area where the screen goes on behind it, and an area without a row is written to nevertheless.
`widgets_stay_inside_iff` has the exact condition. Columns are words: at most 76 columns from the
right end of the words, those of the last keys wrap, and elsewhere they are plain numbers
(`Cap.Placed.bounds`, `contained_iff_of_room`).
-/

namespace ChordDrill.Screen

variable {screen area : Rect}

/-! ## Keys -/

/-- The key so many columns to the right and rows down. -/
def Cap.move (columns : UInt16) (rows : Nat) (c : Cap) : Cap :=
  { c with x := c.x + columns, y := c.y + rows }

/-- A label that fills a key: each of its symbols takes one column. -/
def Legible (width : Nat) (label : String) : Prop :=
  let ss := Text.symbols (KeyboardView.centered width label).toList
  (∀ s ∈ ss, Narrow s) ∧ ss.length = width

instance (width : Nat) (label : String) : Decidable (Legible width label) :=
  inferInstanceAs (Decidable (_ ∧ _))

/-- A key of the first rows and columns, with a label that fills it. -/
def Cap.Of (rows columns : Nat) (c : Cap) : Prop :=
  c.y < rows ∧ 0 < c.width.toNat ∧ c.x.toNat + c.width.toNat ≤ columns ∧
    Legible c.width.toNat c.label

instance (rows columns : Nat) (c : Cap) : Decidable (c.Of rows columns) :=
  inferInstanceAs (Decidable (_ ∧ _))

/-- A key in a row of an area, with a label that fills it. Its column is counted from the left edge
of the area, as a word; it ends in the area if that has 76 columns. -/
structure Cap.Placed (area : Rect) (c : Cap) : Prop where
  top : area.y ≤ c.y
  bottom : c.y < area.bottom
  pos : 0 < c.width.toNat
  column : ∃ n, c.x.toNat = (area.x + n) % 0x10000 ∧ n + c.width.toNat ≤ max 76 area.width
  legible : Legible c.width.toNat c.label

theorem Cap.placed_of_move {cs : List Cap} {rows columns y : Nat}
    (hcs : ∀ c ∈ cs, c.Of rows columns) (htop : area.y ≤ y) (hbottom : y + rows ≤ area.bottom)
    (hright : columns ≤ max 76 area.width) :
    ∀ c ∈ cs.map (Cap.move (.ofNat area.x) y), c.Placed area := by
  rintro _ hmove
  obtain ⟨c, hc, rfl⟩ := List.mem_map.mp hmove
  obtain ⟨hrow, hpos, hcolumn, hlegible⟩ := hcs c hc
  refine ⟨?_, ?_, hpos, ⟨c.x.toNat, ?_, Nat.le_trans hcolumn hright⟩, hlegible⟩
  · change area.y ≤ c.y + y
    omega
  · change c.y + y < area.bottom
    omega
  · change (c.x + .ofNat area.x).toNat = _
    rw [UInt16.toNat_add, UInt16.toNat_ofNat', Nat.add_mod_mod, Nat.add_comm]

/-- Where the words go on for 76 columns, the key is at its column and does not end beyond them. -/
theorem Cap.Placed.bounds {c : Cap} (hc : c.Placed area) (hroom : area.x + 76 ≤ 0xFFFF) :
    area.x ≤ c.x.toNat ∧ c.x.toNat + c.width.toNat ≤ area.x + max 76 area.width ∧
      (c.x + c.width).toNat = c.x.toNat + c.width.toNat := by
  obtain ⟨n, hcolumn, hend⟩ := hc.column
  have hright := area.right_le
  rw [UInt16.toNat_add]
  omega

namespace KeyboardView

section Move

variable (x : UInt16) (y : Nat) (dx : UInt16) (dy : Nat)

theorem column_right_comm (k : UInt16) : x + dx + k = x + k + dx := by
  rw [UInt16.add_assoc, UInt16.add_comm dx, ← UInt16.add_assoc]

theorem rowCaps_move (row : KeyRow) :
    rowCaps (x + dx) (y + dy) row = (rowCaps x y row).map (Cap.move dx dy) := by
  induction row generalizing x with
  | nil => rfl
  | cons k row ih =>
    rw [rowCaps, column_right_comm _ dx, column_right_comm _ dx, ih]
    rfl

theorem functionCaps_move :
    functionCaps (x + dx) (y + dy) = (functionCaps x y).map (Cap.move dx dy) := by
  simp only [functionCaps, column_right_comm _ dx, rowCaps_move]
  rfl

theorem mainCaps_move : mainCaps (x + dx) (y + dy) = (mainCaps x y).map (Cap.move dx dy) := by
  simp only [mainCaps, afterRow, column_right_comm _ dx, Nat.add_right_comm _ dy, rowCaps_move,
    List.map_append]
  rfl

theorem arrowCaps_move : arrowCaps (x + dx) (y + dy) = (arrowCaps x y).map (Cap.move dx dy) := by
  simp only [arrowCaps, column_right_comm _ dx, Nat.add_right_comm _ dy]
  rfl

theorem navigationCaps_move :
    navigationCaps (x + dx) (y + dy) = (navigationCaps x y).map (Cap.move dx dy) := by
  simp only [navigationCaps, afterRow, column_right_comm _ dx, Nat.add_right_comm _ dy,
    rowCaps_move, List.map_flatMap]

end Move

theorem placed_caps (hheight : 5 ≤ area.height) : ∀ c ∈ caps area, c.Placed area := by
  have hfunctions : ∀ c ∈ functionCaps 1 0, c.Of 1 72 := by decide +kernel
  have hmain : ∀ c ∈ mainCaps 1 0, c.Of 5 72 := by decide +kernel
  have harrows : ∀ c ∈ arrowCaps 1 0, c.Of 5 76 := by decide +kernel
  have hnavigation : ∀ c ∈ navigationCaps 1 0, c.Of 2 88 := by decide +kernel
  have hx : UInt16.ofNat area.x + 1 = 1 + .ofNat area.x := UInt16.add_comm _ _
  have htop : area.y = 0 + area.y := (Nat.zero_add _).symm
  obtain ⟨y, hy, hle, hbottom⟩ : ∃ y, (if area.height ≥ 6 then area.y + 1 else area.y) = 0 + y ∧
      area.y ≤ y ∧ y + 5 ≤ area.bottom := by
    rw [Rect.bottom]
    split
    · exact ⟨area.y + 1, by omega, by omega, by omega⟩
    · exact ⟨area.y, by omega, by omega, by omega⟩
  have hfirst : ∀ c ∈ functionCaps (.ofNat area.x + 1) area.y, c.Placed area := by
    rw [hx, htop, functionCaps_move]
    exact Cap.placed_of_move hfunctions (by omega) (by rw [Rect.bottom]; omega) (by omega)
  simp only [caps, hy, hx, mainCaps_move, arrowCaps_move, navigationCaps_move,
    List.forall_mem_append]
  refine ⟨⟨⟨?_, Cap.placed_of_move hmain hle (by omega) (by omega)⟩, ?_⟩, ?_⟩
  · split
    · exact hx ▸ hfirst
    · exact List.forall_mem_nil _
  · split
    · exact Cap.placed_of_move harrows hle (by omega) (by omega)
    · exact List.forall_mem_nil _
  · split
    · exact Cap.placed_of_move hnavigation hle (by omega) (by omega)
    · exact List.forall_mem_nil _

/-- Whether the picture of the keyboard stays in its area: the text in place of a keyboard that has
no room, or each key that passes for one that the screen has room for, as far as it is drawn. -/
def Contained (screen area : Rect) : Prop :=
  if area.width < 40 ∨ area.height < 5 then
    (18 ≤ area.width ∨ area.right = screen.right) ∧ (0 < area.height ∨ area.width = 0)
  else
    ∀ c ∈ caps area, (c.x + c.width).toNat ≤ screen.right → c.x.toNat < screen.right →
      area.x ≤ c.x.toNat ∧ min (c.x.toNat + c.width.toNat) screen.right ≤ area.right

instance (screen area : Rect) : Decidable (Contained screen area) := by
  unfold Contained
  infer_instance

/-- At the far right of the widest screen the columns wrap, and the last function keys are drawn at
the left edge. -/
example : ¬ Contained (.new 0 0 65535 6) (.new 65490 0 45 6) := by decide +kernel

/-- Where the words go on for 76 columns, each key ends in the area if it ends on the screen. -/
theorem contained_iff_of_room (hroom : area.x + 76 ≤ 0xFFFF) (hwidth : 40 ≤ area.width)
    (hheight : 5 ≤ area.height) : Contained screen area ↔ ∀ c ∈ caps area,
      c.x.toNat + c.width.toNat ≤ screen.right → c.x.toNat + c.width.toNat ≤ area.right := by
  rw [Contained, if_neg (by omega)]
  refine forall₂_congr fun c hc => ?_
  have hplaced := placed_caps hheight c hc
  have hpos := hplaced.pos
  obtain ⟨hleft, -, hsum⟩ := hplaced.bounds hroom
  rw [hsum]
  omega

theorem stop_placeholder (right x : Nat) :
    stop right x placeholder = max x (min (x + 18) right) := by
  have hnarrow : ∀ s ∈ Text.symbols placeholder.toList, Narrow s := by decide +kernel
  have hlength : (Text.symbols placeholder.toList).length = 18 := by decide +kernel
  rw [stop, stopSymbols_of_narrow hnarrow, hlength]

theorem fits_iff (hwithin : area.Within screen) (hc : c.Placed area) :
    fits screen c = true ↔ (c.x + c.width).toNat ≤ screen.right := by
  have hrow : c.y < screen.bottom := Nat.lt_of_lt_of_le hc.bottom hwithin.bottom
  simp [fits, hrow]

theorem capMarks_inside_iff {p : Palette} {s : Keyboard} (hc : c.Placed area) :
    (∀ m ∈ capMarks p s screen c, area.contains m.x m.y = true) ↔
      (c.x.toNat < screen.right →
        area.x ≤ c.x.toNat ∧ min (c.x.toNat + c.width.toNat) screen.right ≤ area.right) := by
  have hpos := hc.pos
  have htop := hc.top
  have hbottom := hc.bottom
  have hstop : stop screen.right c.x.toNat (centered c.width.toNat c.label) =
      max c.x.toNat (min (c.x.toNat + c.width.toNat) screen.right) := by
    rw [stop, stopSymbols_of_narrow hc.legible.1, hc.legible.2]
  rw [capMarks, write_inside_iff, hstop]
  omega

theorem marks_inside_iff (hwithin : area.Within screen) {p : Palette} {s : Keyboard} :
    (∀ m ∈ marks p s screen area, area.contains m.x m.y = true) ↔ Contained screen area := by
  have hright := hwithin.right
  unfold marks Contained
  split
  · rw [write_inside_iff, stop_placeholder]
    simp only [Rect.right, Rect.bottom] at hright ⊢
    omega
  · rename_i hroom
    have hplaced : ∀ c ∈ caps area, c.Placed area := placed_caps (by omega)
    simp only [List.forall_mem_flatMap, List.mem_filter, and_imp]
    refine forall₂_congr fun c hc => ?_
    rw [fits_iff hwithin (hplaced c hc)]
    exact imp_congr_right fun _ => capMarks_inside_iff (hplaced c hc)

/-- With 76 columns there is room for all keys that are placed. -/
theorem contained_of_wide (hwidth : 76 ≤ area.width) (hheight : 0 < area.height) :
    Contained screen area := by
  have hwords := area.right_le
  rcases Nat.lt_or_ge area.height 5 with hlow | hhigh
  · rw [Contained, if_pos (.inr hlow)]
    exact ⟨.inl (by omega), .inl hheight⟩
  · refine (contained_iff_of_room (by omega) (by omega) hhigh).mpr fun c hc _ => ?_
    obtain ⟨-, hend, -⟩ := (placed_caps hhigh c hc).bounds (by omega)
    rw [Rect.right]
    omega

/-- On a screen of 20 columns and more, the keyboard in its frame leaves the frame alone but for
these widths, where a key ends on the right border. -/
theorem contained_inner_iff {width height : Nat} (hwidth : 20 ≤ width) :
    Contained (.new 0 0 width height) (Rect.inner (.new 0 0 width 8)) ↔
      width ∉ [42, 43, 46, 47, 48, 51, 52, 53, 56, 57, 58, 61, 62, 66, 69, 71, 73, 77] := by
  have htried : ∀ width < 78, 20 ≤ width →
      (Contained (.new 0 0 width 0) (Rect.inner (.new 0 0 width 8)) ↔
        width ∉ [42, 43, 46, 47, 48, 51, 52, 53, 56, 57, 58, 61, 62, 66, 69, 71, 73, 77]) := by
    decide +kernel
  rcases Nat.lt_or_ge width 78 with hlt | hge
  · exact htried width hlt hwidth
  · refine iff_of_true (contained_of_wide ?_ (Nat.succ_pos 5)) ?_
    · change 76 ≤ min width _ - 2
      omega
    · simp only [List.mem_cons, List.not_mem_nil, or_false]
      omega

end KeyboardView

/-! ## The status bar -/

namespace StatusBar

/-- Whether the picture of the status bar stays in its area. -/
def Contained (b : StatusBar) (p : Palette) (screen area : Rect) : Prop :=
  (∀ l ∈ b.labels p area, stop screen.right l.x l.text ≤ area.right) ∧
    (0 < area.height ∨ area.width = 0)

instance (b : StatusBar) (p : Palette) (screen area : Rect) :
    Decidable (b.Contained p screen area) :=
  inferInstanceAs (Decidable (_ ∧ _))

variable {b : StatusBar} {p : Palette}

/-- Each text begins in the area, or right behind it. -/
theorem label_bounds {l : Label} (hl : l ∈ b.labels p area) :
    area.x ≤ l.x ∧ l.x ≤ area.right := by
  rw [Rect.right]
  simp only [labels, List.cons_append, List.nil_append, List.mem_cons, List.mem_append,
    List.not_mem_nil, or_false] at hl
  rcases hl with rfl | hl | rfl
  · exact ⟨Nat.le_refl _, Nat.le_add_right _ _⟩
  · cases hmessage : b.message with
    | none =>
      rw [hmessage] at hl
      cases hl
    | some message =>
      rw [hmessage] at hl
      obtain rfl := List.mem_singleton.mp hl
      dsimp only
      omega
  · dsimp only
    omega

theorem stop_blank {right x : Nat} (hx : x < right) : stop right x " " = x + 1 := by
  have hnarrow : ∀ s ∈ Text.symbols " ".toList, Narrow s := by decide +kernel
  have hlength : (Text.symbols " ".toList).length = 1 := by decide +kernel
  rw [stop, stopSymbols_of_narrow hnarrow, hlength]
  omega

/-- The background stays in an area that has a row. -/
theorem background_inside_iff (hwithin : area.Within screen) {style : Style} :
    (∀ m ∈ (List.range area.width).flatMap
        fun i => write screen.right (area.x + i) area.y " " style,
      area.contains m.x m.y = true) ↔ 0 < area.height ∨ area.width = 0 := by
  have hright := hwithin.right
  have hcell : ∀ i < area.width, ((∀ m ∈ write screen.right (area.x + i) area.y " " style,
      area.contains m.x m.y = true) ↔ 0 < area.height) := by
    intro i hi
    rw [write_inside_iff, stop_blank (by rw [Rect.right] at hright; omega), Rect.right,
      Rect.bottom]
    omega
  rw [List.forall_mem_flatMap]
  simp only [List.mem_range]
  constructor
  · intro hinside
    rcases Nat.eq_zero_or_pos area.width with hwidth | hwidth
    · exact .inr hwidth
    · exact .inl ((hcell 0 hwidth).mp (hinside 0 hwidth))
  · intro hrow i hi
    exact (hcell i hi).mpr (by omega)

theorem label_inside_iff {l : Label} {right : Nat} (hl : l ∈ b.labels p area)
    (hrow : 0 < area.height ∨ area.width = 0) :
    (∀ m ∈ write right l.x area.y l.text l.style, area.contains m.x m.y = true) ↔
      stop right l.x l.text ≤ area.right := by
  obtain ⟨hleft, hright⟩ := label_bounds hl
  have hle : l.x ≤ stop right l.x l.text := le_stopSymbols right l.x _
  rw [write_inside_iff]
  simp only [Rect.right, Rect.bottom] at hright ⊢
  omega

theorem marks_inside_iff (hwithin : area.Within screen) :
    (∀ m ∈ b.marks p screen area, area.contains m.x m.y = true) ↔ b.Contained p screen area := by
  rw [marks, List.forall_mem_append, background_inside_iff hwithin, Contained, and_comm]
  refine and_congr_left fun hrow => ?_
  rw [List.forall_mem_flatMap]
  exact forall₂_congr fun l hl => label_inside_iff hl hrow

end StatusBar

/-! ## Both pictures -/

/-- Where the area ends with the screen and no column wraps, nothing can reach beyond it. -/
theorem contained_of_right_eq (hright : area.right = screen.right) (hroom : area.x + 76 ≤ 0xFFFF)
    (hheight : 0 < area.height) (p : Palette) (b : StatusBar) :
    KeyboardView.Contained screen area ∧ b.Contained p screen area := by
  constructor
  · by_cases hsmall : area.width < 40 ∨ area.height < 5
    · rw [KeyboardView.Contained, if_pos hsmall]
      exact ⟨.inr hright, .inl hheight⟩
    · refine (KeyboardView.contained_iff_of_room hroom (by omega) (by omega)).mpr ?_
      exact fun c _ hfits => hright ▸ hfits
  · refine ⟨fun l hl => ?_, .inl hheight⟩
    have hstop : stop screen.right l.x l.text ≤ max l.x screen.right := stopSymbols_le _ _ _
    have hx := (StatusBar.label_bounds hl).2
    omega

/-- Drawn into whatever area of the screen, the keyboard changes no cell outside it and misses no
cell of the screen just if every key that the screen has room for begins and ends in the area;
without room for a keyboard, just if the text in its place does. The status bar does so just if each
of its texts stops in the area. Both write to the first row even if the area has none. -/
theorem widgets_stay_inside_iff (hwithin : area.Within screen) (p : Palette) (s : Keyboard)
    (b : StatusBar) :
    (StaysInside screen area (KeyboardView.marks p s screen area) ↔
      KeyboardView.Contained screen area) ∧
    (StaysInside screen area (b.marks p screen area) ↔ b.Contained p screen area) :=
  ⟨(staysInside_iff hwithin).trans (KeyboardView.marks_inside_iff hwithin),
    (staysInside_iff hwithin).trans (StatusBar.marks_inside_iff hwithin)⟩

/-- In a frame on a screen of 80 columns there is room for both. -/
theorem frame_of_80_kept :
    Rect.Within (.new 1 1 78 6) (.new 0 0 80 24) ∧
    StaysInside (.new 0 0 80 24) (.new 1 1 78 6)
      (KeyboardView.marks .dark { pressed := [.ctrl] } (.new 0 0 80 24) (.new 1 1 78 6)) ∧
    StaysInside (.new 0 0 80 24) (.new 1 1 78 6)
      (StatusBar.marks ⟨"Training", "1/8", "00:07", "evdev", some "Evdev: 1 found"⟩ .dark
        (.new 0 0 80 24) (.new 1 1 78 6)) := by
  have hwithin : Rect.Within (.new 1 1 78 6) (.new 0 0 80 24) :=
    ⟨by decide, by decide, by decide, by decide⟩
  refine ⟨hwithin, (widgets_stay_inside_iff hwithin _ _ ⟨"", "", "", "", none⟩).1.mpr ?_,
    (widgets_stay_inside_iff hwithin _ {} _).2.mpr ?_⟩
  · decide +kernel
  · decide +kernel

/-- In a frame on a screen of 73 columns, the key for backspace ends on the right border. -/
theorem frame_of_73_broken :
    Rect.Within (.new 1 1 71 6) (.new 0 0 73 24) ∧
    ¬ StaysInside (.new 0 0 73 24) (.new 1 1 71 6)
      (KeyboardView.marks .dark {} (.new 0 0 73 24) (.new 1 1 71 6)) := by
  refine ⟨⟨by decide, by decide, by decide, by decide⟩, fun hstays => ?_⟩
  let style : Style := { bg := some Palette.dark.keyOff, fg := some Palette.dark.keyText }
  let border : Mark := { x := 72, y := 2, ink := .put [' '] style }
  have hmark : border ∈ KeyboardView.marks .dark {} (.new 0 0 73 24) (.new 1 1 71 6) := by
    decide +kernel
  have hinside := marks_of_staysInside hstays hmark
  revert hinside
  decide

end ChordDrill.Screen
