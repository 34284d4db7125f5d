import ChordDrill.Text.CaseMap

/-!
# ChordDrill.Proofs.Text.LetterCase

The case mappings on ASCII, where they are those of single letters.

* `Ascii`           — texts of ASCII characters.
* `lower_of_ascii`  — such a text in lower case, letter by letter: there is no sigma in it.
* `ascii_toLower`   — a text in another letter case than an ASCII text is one itself.
-/

namespace ChordDrill.Text

def Ascii (cs : List Char) : Prop := ∀ c ∈ cs, c.toNat < 128

instance (cs : List Char) : Decidable (Ascii cs) :=
  List.decidableBAll (fun c : Char => c.toNat < 128) cs

variable {c : Char} {cs cs' : List Char}

/-- Only the first row of a table is about ASCII, if the others begin behind it. -/
theorem mapCase_of_ascii {expansions : List (Nat × List Nat)} {row : CaseShift}
    {rows : List CaseShift} (hexpansions : ∀ e ∈ expansions, 128 ≤ e.1)
    (hrows : ∀ s ∈ rows, 128 ≤ s.first) (hc : c.toNat < 128) :
    mapCase expansions (row :: rows) c = [( row.apply? c.toNat).getD c] := by
  have hnone : expansions.lookup c.toNat = none := by
    rw [List.lookup_eq_none_iff]
    intro e he
    have hle := hexpansions e he
    rw [bne_iff_ne]
    omega
  have hrest : rows.findSome? (fun s => s.apply? c.toNat) = none := by
    rw [List.findSome?_eq_none_iff]
    intro s hs
    have hle := hrows s hs
    exact if_neg (by omega)
  rw [mapCase, hnone, List.findSome?_cons]
  cases row.apply? c.toNat with
  | none => rw [hrest]
  | some d => rfl

/-- A property of all ASCII characters, tried on each of them. -/
theorem forall_ascii {P : Char → Prop} (h : ∀ n < 128, P (Char.ofNat n)) (hc : c.toNat < 128) :
    P c := by
  have hn := h c.toNat hc
  rwa [Char.ofNat_toNat] at hn

theorem lowerChar_of_ascii (hc : c.toNat < 128) : lowerChar c = [c.toLower] := by
  have hmap : mapCase lowerExpansions (⟨0x41, 0x5A, 1, 32⟩ :: lowerShifts.tail) c = _ :=
    mapCase_of_ascii (by decide) (by decide +kernel) hc
  have hrow := forall_ascii (P := fun c =>
    ( CaseShift.apply? ⟨0x41, 0x5A, 1, 32⟩ c.toNat).getD c = c.toLower) (by decide) hc
  rw [hrow] at hmap
  exact hmap

theorem upperChar_of_ascii (hc : c.toNat < 128) : upperChar c = [c.toUpper] := by
  have hmap : mapCase upperExpansions (⟨0x61, 0x7A, 1, -32⟩ :: upperShifts.tail) c = _ :=
    mapCase_of_ascii (by decide) (by decide +kernel) hc
  have hrow := forall_ascii (P := fun c =>
    ( CaseShift.apply? ⟨0x61, 0x7A, 1, -32⟩ c.toNat).getD c = c.toUpper) (by decide) hc
  rw [hrow] at hmap
  exact hmap

theorem lowerFrom_of_ascii (before : List Char) (h : Ascii cs) :
    lowerFrom before cs = cs.map Char.toLower := by
  induction cs generalizing before with
  | nil => rfl
  | cons c cs ih =>
    have hc : c.toNat < 128 := h c List.mem_cons_self
    have hsigma : c ≠ 'Σ' := by
      rintro rfl
      exact absurd hc (by decide)
    rw [lowerFrom, if_neg hsigma, lowerChar_of_ascii hc,
      ih (c :: before) fun d hd => h d (List.mem_cons_of_mem c hd)]
    rfl

theorem lower_of_ascii (h : Ascii cs) : lower cs = cs.map Char.toLower := lowerFrom_of_ascii [] h

theorem toNat_toLower_lt : c.toLower.toNat < 128 ↔ c.toNat < 128 := by
  by_cases hc : c.toNat < 128
  · exact iff_of_true (forall_ascii (P := fun c => c.toLower.toNat < 128) (by decide) hc) hc
  · have hupper : ¬ (c.val ≥ 'A'.val ∧ c.val ≤ 'Z'.val) := by
      rintro ⟨_, hle⟩
      have hle : c.toNat ≤ 90 := UInt32.le_iff_toNat_le.mp hle
      omega
    have hsame : c.toLower = c := dif_neg hupper
    rw [hsame]

theorem toLower_toLower (hc : c.toNat < 128) : c.toLower.toLower = c.toLower :=
  forall_ascii (P := fun c => c.toLower.toLower = c.toLower) (by decide) hc

theorem toLower_toUpper (hc : c.toNat < 128) : c.toUpper.toLower = c.toLower :=
  forall_ascii (P := fun c => c.toUpper.toLower = c.toLower) (by decide) hc

/-! ## Strings -/

variable {s : String}

theorem toList_toLower (s : String) : s.toLower.toList = s.toList.map Char.toLower :=
  String.toList_map

theorem ascii_toLower : Ascii s.toLower.toList ↔ Ascii s.toList := by
  rw [toList_toLower, Ascii, List.forall_mem_map]
  exact forall₂_congr fun c _ => toNat_toLower_lt

theorem lowerString_of_ascii (h : Ascii s.toList) : lowerString s = s.toLower := by
  rw [lowerString, lower_of_ascii h, ← String.toList_inj, String.toList_ofList, toList_toLower]

theorem lowerString_toLower (h : Ascii s.toList) : lowerString s.toLower = lowerString s := by
  rw [lowerString_of_ascii (ascii_toLower.mpr h), lowerString_of_ascii h, ← String.toList_inj,
    toList_toLower, toList_toLower, List.map_map]
  exact List.map_congr_left fun c hc => toLower_toLower (h c hc)

theorem toLower_append (s t : String) : (s ++ t).toLower = s.toLower ++ t.toLower := by
  rw [← String.toList_inj, String.toList_append, toList_toLower, toList_toLower, toList_toLower,
    String.toList_append, List.map_append]

/-! ## Strings with another one between them -/

variable {sep : String} {parts : List String}

theorem ascii_append {t : String} (hs : Ascii s.toList) (ht : Ascii t.toList) :
    Ascii (s ++ t).toList := by
  rw [String.toList_append]
  exact List.forall_mem_append.mpr ⟨hs, ht⟩

theorem ascii_intercalate (hsep : Ascii sep.toList) (h : ∀ part ∈ parts, Ascii part.toList) :
    Ascii (sep.intercalate parts).toList := by
  induction parts with
  | nil => simp [Ascii]
  | cons part parts ih =>
    obtain ⟨hpart, hparts⟩ := List.forall_mem_cons.mp h
    cases parts with
    | nil =>
      rw [String.intercalate_singleton]
      exact hpart
    | cons next parts =>
      rw [String.intercalate_cons_cons]
      exact ascii_append (ascii_append hpart hsep) (ih hparts)

theorem toLower_intercalate (sep : String) (parts : List String) :
    (sep.intercalate parts).toLower = sep.toLower.intercalate (parts.map String.toLower) := by
  induction parts with
  | nil =>
    rw [← String.toList_inj, toList_toLower]
    simp
  | cons part parts ih =>
    cases parts with
    | nil => simp
    | cons next parts =>
      rw [String.intercalate_cons_cons, toLower_append, toLower_append, ih]
      exact String.intercalate_cons_cons.symm

end ChordDrill.Text
