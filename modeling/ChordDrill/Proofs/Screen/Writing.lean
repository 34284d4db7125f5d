import ChordDrill.Proofs.Screen.Painting

/-!
# ChordDrill.Proofs.Screen.Writing

The cells that a text takes on the screen.

* `stop`   — the column behind a text, as far as it is written.
* `Narrow` — a symbol that is written and takes one column.

The marks of a text lie on its row, from its first column up to `stop`, and there is one for each of
these columns. So a text stays in an area just if it begins and stops there and the area has its
row, or if it is not written at all (`write_inside_iff`).
-/

namespace ChordDrill.Screen

open Text (Symbol)

/-- The column behind the symbols that are written. -/
def stopSymbols (right x : Nat) : List Symbol → Nat
  | [] => x
  | s :: ss =>
    if s.hasControl ∨ s.width = 0 then stopSymbols right x ss
    else if x + s.width ≤ right then stopSymbols right (x + s.width) ss
    else x

/-- The column behind a text, as far as it is written. -/
def stop (right x : Nat) (text : String) : Nat := stopSymbols right x (Text.symbols text.toList)

variable {right x y i : Nat} {style : Style} {ss : List Symbol} {m : Mark} {area : Rect}

theorem le_stopSymbols (right x : Nat) (ss : List Symbol) : x ≤ stopSymbols right x ss := by
  induction ss generalizing x with
  | nil => exact Nat.le_refl x
  | cons s ss ih =>
    rw [stopSymbols]
    split
    · exact ih x
    · split
      · exact Nat.le_trans (Nat.le_add_right x _) (ih _)
      · exact Nat.le_refl x

/-- Nothing is written beyond the right edge. -/
theorem stopSymbols_le (right x : Nat) (ss : List Symbol) :
    stopSymbols right x ss ≤ max x right := by
  induction ss generalizing x with
  | nil => exact Nat.le_max_left x right
  | cons s ss ih =>
    rw [stopSymbols]
    split
    · exact ih x
    · split
      · have hle := ih (x + s.width)
        omega
      · exact Nat.le_max_left x right

/-! ## The marks of a text -/

theorem mem_writeSymbols (hm : m ∈ writeSymbols right y style x ss) :
    m.y = y ∧ x ≤ m.x ∧ m.x < stopSymbols right x ss := by
  induction ss generalizing x with
  | nil => cases hm
  | cons s ss ih =>
    rw [writeSymbols] at hm
    rw [stopSymbols]
    split
    · rename_i hskip
      rw [if_pos hskip] at hm
      exact ih hm
    · rename_i hskip
      have hwidth : 0 < s.width := by omega
      rw [if_neg hskip] at hm
      split
      · rename_i hfits
        have hle := le_stopSymbols right (x + s.width) ss
        rw [if_pos hfits, List.mem_append, List.mem_cons, List.mem_map] at hm
        rcases hm with (rfl | ⟨j, hj, rfl⟩) | hm
        · exact ⟨rfl, Nat.le_refl x, by dsimp only; omega⟩
        · rw [List.mem_range] at hj
          exact ⟨rfl, by dsimp only; omega, by dsimp only; omega⟩
        · obtain ⟨hy, hx, hlt⟩ := ih hm
          exact ⟨hy, by omega, hlt⟩
      · rename_i hfits
        rw [if_neg hfits] at hm
        cases hm

theorem exists_mem_writeSymbols (y : Nat) (style : Style) (hx : x ≤ i)
    (hi : i < stopSymbols right x ss) :
    ∃ m ∈ writeSymbols right y style x ss, m.x = i ∧ m.y = y := by
  induction ss generalizing x with
  | nil =>
    rw [stopSymbols] at hi
    omega
  | cons s ss ih =>
    rw [stopSymbols] at hi
    rw [writeSymbols]
    split
    · rename_i hskip
      rw [if_pos hskip] at hi
      exact ih hx hi
    · rename_i hskip
      rw [if_neg hskip] at hi
      split
      · rename_i hfits
        rw [if_pos hfits] at hi
        by_cases hlt : i < x + s.width
        · rcases Nat.eq_or_lt_of_le hx with rfl | hx
          · exact ⟨_, List.mem_append_left _ List.mem_cons_self, rfl, rfl⟩
          · refine ⟨{ x := i, y, ink := .blank }, ?_, rfl, rfl⟩
            refine List.mem_append_left _ (List.mem_cons_of_mem _ (List.mem_map.mpr ?_))
            refine ⟨i - (x + 1), List.mem_range.mpr (by omega), ?_⟩
            rw [Nat.add_sub_cancel' hx]
        · obtain ⟨m, hm, hplace⟩ := ih (Nat.le_of_not_lt hlt) hi
          exact ⟨m, List.mem_append_right _ hm, hplace⟩
      · rename_i hfits
        rw [if_neg hfits] at hi
        omega

/-- A text stays in an area just if it begins and stops there, in one of its rows, or if none of it
is written. -/
theorem write_inside_iff {x : Nat} {text : String} :
    (∀ m ∈ write right x y text style, area.contains m.x m.y = true) ↔
      stop right x text = x ∨
        (area.x ≤ x ∧ stop right x text ≤ area.right ∧ area.y ≤ y ∧ y < area.bottom) := by
  have hle : x ≤ stop right x text := le_stopSymbols right x _
  constructor
  · intro hinside
    rcases Nat.eq_or_lt_of_le hle with hnone | hsome
    · exact .inl hnone.symm
    · -- the first and the last of its cells tell
      obtain ⟨first, hfirst, hfirstx, -⟩ := exists_mem_writeSymbols y style (Nat.le_refl x) hsome
      have hlast : stop right x text - 1 < stop right x text := by omega
      obtain ⟨last, hm, hlastx, hlasty⟩ := exists_mem_writeSymbols y style
        (Nat.le_sub_one_of_lt hsome) hlast
      obtain ⟨hleft, -⟩ := Rect.contains_iff.mp (hinside first hfirst)
      obtain ⟨-, hright, htop, hbottom⟩ := Rect.contains_iff.mp (hinside last hm)
      rw [hfirstx] at hleft
      rw [hlastx] at hright
      rw [hlasty] at htop hbottom
      exact .inr ⟨hleft, by omega, htop, hbottom⟩
  · intro hstop m hm
    obtain ⟨hmy, hmx, hlt⟩ := mem_writeSymbols hm
    change m.x < stop right x text at hlt
    rw [Rect.contains_iff, hmy]
    omega

/-! ## Narrow symbols -/

/-- A symbol that is written and takes one column. -/
def Narrow (s : Symbol) : Prop := s.hasControl = false ∧ s.width = 1

instance (s : Symbol) : Decidable (Narrow s) := inferInstanceAs (Decidable (_ ∧ _))

theorem stopSymbols_of_narrow (hnarrow : ∀ s ∈ ss, Narrow s) :
    stopSymbols right x ss = max x (min (x + ss.length) right) := by
  induction ss generalizing x with
  | nil =>
    rw [stopSymbols, List.length_nil]
    omega
  | cons s ss ih =>
    obtain ⟨⟨hcontrol, hwidth⟩, hnarrow⟩ := List.forall_mem_cons.mp hnarrow
    rw [stopSymbols, if_neg (by simp [hcontrol, hwidth]), hwidth, ih hnarrow, List.length_cons]
    split <;> omega

end ChordDrill.Screen
