import Mathlib.Data.Nat.BitIndices
import Mathlib.Data.Nat.Digits.Defs
import Mathlib.Tactic.IntervalCases
import ChordDrill.Device.Discovery
import ChordDrill.Proofs.Text.Words

/-!
# ChordDrill.Proofs.Device.KeyboardTest

Which nodes of the input directory pass for keyboards, said without reading a file.

* `WritesNumber`  — a word of hexadecimal digits and its value.
* `SetsBits`      — a word of a capability file and the bits that it sets.
* `Capable`       — a capability file that sets more than fifty bits.
* `Node.Keyboard` — the test by the two files; the second one counts only without the first.
* `Node.Passes`   — an event node that passes the test (`passes_iff`).
-/

namespace ChordDrill.Device

/-- A digit of either case. -/
def IsHexDigit (c : Char) (d : Nat) : Prop :=
  d < 16 ∧ (c = d.digitChar ∨ c = d.digitChar.toUpper)

instance (c : Char) (d : Nat) : Decidable (IsHexDigit c d) :=
  inferInstanceAs (Decidable (d < 16 ∧ (c = d.digitChar ∨ c = d.digitChar.toUpper)))

/-- Hexadecimal digits, perhaps behind a plus, of a number of 64 bits. -/
def WritesNumber (word : List Char) (v : Nat) : Prop :=
  ∃ cs ds, (word = cs ∨ word = '+' :: cs) ∧ ds ≠ [] ∧ List.Forall₂ IsHexDigit cs ds ∧
    Nat.ofDigits 16 ds.reverse = v ∧ v < 0x10000000000000000

/-- The bits that a word sets: those of its number, and none if it writes no number. -/
inductive SetsBits (word : List Char) : Nat → Prop where
  | number {v : Nat} : WritesNumber word v → SetsBits word v.bitIndices.length
  | none : (∀ v, ¬ WritesNumber word v) → SetsBits word 0

/-- The words of the text set more than fifty bits together. -/
def Capable (caps : String) : Prop :=
  ∃ ws ns, Text.WordsOf Text.isBlank caps.toList ws ∧ List.Forall₂ SetsBits ws ns ∧
    50 < ns.foldr (· + ·) 0

/-- The capabilities alone decide where they can be read, and the name of the device elsewhere. -/
def Node.Keyboard (n : Node) : Prop :=
  match readable? n.capabilities with
  | some caps => Capable caps
  | none => ∃ label, readable? n.label = some label ∧
      ("keyboard".toList <:+: Text.lower label.toList ∨ "kbd".toList <:+: Text.lower label.toList)

/-- An event node that is a keyboard. -/
def Node.Passes (n : Node) : Prop := "event".toList <+: n.name.toList ∧ n.Keyboard

variable {c : Char} {d v : Nat} {cs word : List Char} {ds ns : List Nat} {ws : List (List Char)}

/-! ## Numbers -/

theorem exists_offset {low high : Char} (h : low ≤ c ∧ c ≤ high) :
    ∃ k ≤ high.toNat - low.toNat, c = Char.ofNat (low.toNat + k) ∧ c.toNat - low.toNat = k := by
  have hlow : low.toNat ≤ c.toNat := UInt32.le_iff_toNat_le.mp h.1
  have hhigh : c.toNat ≤ high.toNat := UInt32.le_iff_toNat_le.mp h.2
  refine ⟨c.toNat - low.toNat, Nat.sub_le_sub_right hhigh _, ?_, rfl⟩
  rw [Nat.add_sub_cancel' hlow, Char.ofNat_toNat]

theorem hexDigit?_eq_some_iff : Text.hexDigit? c = some d ↔ IsHexDigit c d := by
  constructor
  · intro h
    unfold Text.hexDigit? at h
    split at h
    · rename_i hc
      obtain ⟨k, hk, rfl, hsub⟩ := exists_offset hc
      rw [hsub, Option.some.injEq] at h
      subst h
      change k ≤ 9 at hk
      interval_cases k <;> decide
    · split at h
      · rename_i hc
        obtain ⟨k, hk, rfl, hsub⟩ := exists_offset hc
        rw [hsub, Option.some.injEq] at h
        subst h
        change k ≤ 5 at hk
        interval_cases k <;> decide
      · split at h
        · rename_i hc
          obtain ⟨k, hk, rfl, hsub⟩ := exists_offset hc
          rw [hsub, Option.some.injEq] at h
          subst h
          change k ≤ 5 at hk
          interval_cases k <;> decide
        · cases h
  · rintro ⟨hd, hc⟩
    interval_cases d <;> rcases hc with rfl | rfl <;> rfl

theorem digit?_eq_some_iff : Text.digit? 16 c = some d ↔ IsHexDigit c d := by
  rw [Text.digit?, Option.filter_eq_some_iff, hexDigit?_eq_some_iff]
  exact ⟨fun h => h.1, fun h => ⟨h, decide_eq_true h.1⟩⟩

theorem mapM_digit?_eq_some_iff :
    cs.mapM (Text.digit? 16) = some ds ↔ List.Forall₂ IsHexDigit cs ds := by
  induction cs generalizing ds with
  | nil => simp [eq_comm]
  | cons c cs ih =>
    simp only [List.mapM_cons, Option.bind_eq_bind, Option.bind_eq_some_iff, ih,
      digit?_eq_some_iff, List.forall₂_cons_left_iff]
    constructor
    · rintro ⟨d, hd, ds, hds, h⟩
      cases h
      exact ⟨d, ds, hd, hds, rfl⟩
    · rintro ⟨d, ds, hd, hds, rfl⟩
      exact ⟨d, hd, ds, hds, rfl⟩

theorem ofDigits_eq (base : Nat) (ds : List Nat) :
    Text.ofDigits base ds = Nat.ofDigits base ds.reverse := by
  induction ds using List.reverseRecOn with
  | nil => rfl
  | append_singleton ds d ih =>
    rw [Text.ofDigits, List.foldl_append, List.reverse_append, List.reverse_singleton,
      List.singleton_append, Nat.ofDigits_cons, ← ih]
    exact Nat.add_comm _ _

theorem number?_eq_some_iff : Text.number? 16 cs = some v ↔
    ∃ ds, ds ≠ [] ∧ List.Forall₂ IsHexDigit cs ds ∧ Nat.ofDigits 16 ds.reverse = v := by
  unfold Text.number?
  constructor
  · intro h
    split at h
    · cases h
    · cases h
    · rename_i ds hne hds
      cases h
      exact ⟨ds, fun h => hne (h ▸ rfl), mapM_digit?_eq_some_iff.mp hds, (ofDigits_eq 16 ds).symm⟩
  · rintro ⟨ds, hne, hds, rfl⟩
    rw [mapM_digit?_eq_some_iff.mpr hds, ← ofDigits_eq]
    cases ds with
    | nil => exact absurd rfl hne
    | cons d ds => rfl

/-- A plus is no digit, so the digits of a word are told from it. -/
theorem capabilityWord?_eq_some_iff : capabilityWord? word = some v ↔ WritesNumber word v := by
  have hplus : ∀ {cs : List Char} {ds : List Nat}, ¬ List.Forall₂ IsHexDigit ('+' :: cs) ds := by
    rintro cs (_ | ⟨d, ds⟩) h
    · cases h
    · have hd := hexDigit?_eq_some_iff.mpr (List.forall₂_cons.mp h).1
      cases hd
  unfold capabilityWord?
  dsimp only
  rw [Option.filter_eq_some_iff, number?_eq_some_iff, decide_eq_true_iff]
  constructor
  · rintro ⟨⟨ds, hne, hds, hv⟩, hlt⟩
    split at hds
    · exact ⟨_, ds, .inr rfl, hne, hds, hv, hlt⟩
    · exact ⟨_, ds, .inl rfl, hne, hds, hv, hlt⟩
  · rintro ⟨cs, ds, hword, hne, hds, hv, hlt⟩
    refine ⟨⟨ds, hne, ?_, hv⟩, hlt⟩
    split
    · rcases hword with rfl | hword
      · exact absurd hds hplus
      · cases hword
        exact hds
    · rename_i hno
      rcases hword with rfl | rfl
      · exact hds
      · exact absurd rfl (hno cs)

/-! ## Bits -/

theorem bitCount_eq (hv : v < 0x10000000000000000) : bitCount v = v.bitIndices.length := by
  rw [bitCount, List.countP_eq_length_filter]
  refine List.Perm.length_eq ((List.perm_ext_iff_of_nodup (List.nodup_range.filter _)
    Nat.bitIndices_nodup).mpr fun i => ?_)
  rw [List.mem_filter, Nat.mem_bitIndices, List.mem_range, and_iff_right_iff_imp]
  intro hi
  by_contra hge
  have hpow : 2 ^ 64 ≤ 2 ^ i := Nat.pow_le_pow_right Nat.two_pos (Nat.not_lt.mp hge)
  have hle : 2 ^ i ≤ v := Nat.ge_two_pow_of_testBit hi
  omega

theorem setsBits_iff {n : Nat} :
    SetsBits word n ↔ ((capabilityWord? word).map bitCount).getD 0 = n := by
  constructor
  · rintro (⟨hv⟩ | hnone)
    · obtain ⟨_, _, _, _, _, _, hlt⟩ := id hv
      rw [capabilityWord?_eq_some_iff.mpr hv, Option.map_some, Option.getD_some, bitCount_eq hlt]
    · have hword : capabilityWord? word = none := by
        rw [Option.eq_none_iff_forall_ne_some]
        exact fun v hv => hnone v (capabilityWord?_eq_some_iff.mp hv)
      rw [hword, Option.map_none, Option.getD_none]
  · rintro rfl
    cases hword : capabilityWord? word with
    | none =>
      refine .none fun v hv => ?_
      rw [capabilityWord?_eq_some_iff.mpr hv] at hword
      cases hword
    | some v =>
      have hv := capabilityWord?_eq_some_iff.mp hword
      obtain ⟨_, _, _, _, _, _, hlt⟩ := id hv
      rw [Option.map_some, Option.getD_some, bitCount_eq hlt]
      exact .number hv

theorem forall₂_setsBits_iff : List.Forall₂ SetsBits ws ns ↔
    ws.map (fun word => ((capabilityWord? word).map bitCount).getD 0) = ns := by
  have hfun : SetsBits = fun word n => ((capabilityWord? word).map bitCount).getD 0 = n := by
    funext word n
    exact propext setsBits_iff
  rw [hfun, ← List.forall₂_map_left_iff, List.forall₂_eq_eq_eq]

theorem foldr_bitCount (ws : List (List Char)) :
    (ws.filterMap capabilityWord?).foldr (fun word n => bitCount word + n) 0 =
      (ws.map fun word => ((capabilityWord? word).map bitCount).getD 0).foldr (· + ·) 0 := by
  induction ws with
  | nil => rfl
  | cons word ws ih =>
    cases hword : capabilityWord? word with
    | none =>
      rw [List.filterMap_cons_none hword, List.map_cons, List.foldr_cons, hword, ih]
      exact (Nat.zero_add _).symm
    | some v =>
      rw [List.filterMap_cons_some hword, List.map_cons, List.foldr_cons, List.foldr_cons, hword,
        ih]
      rfl

theorem capable_iff (caps : String) : Capable caps ↔ 50 < capabilityCount caps.toList := by
  have hwords := Text.wordsOf_words caps.toList
  rw [capabilityCount, foldr_bitCount]
  constructor
  · rintro ⟨ws, ns, hws, hns, hlt⟩
    rw [← hws.unique hwords, forall₂_setsBits_iff.mp hns]
    exact hlt
  · intro hlt
    exact ⟨_, _, hwords, forall₂_setsBits_iff.mpr rfl, hlt⟩

/-! ## The test -/

theorem occurs_iff {part : List Char} : occurs part cs = true ↔ part <:+: cs := by
  induction cs with
  | nil => rw [occurs, List.isEmpty_iff, List.infix_nil]
  | cons c cs ih =>
    rw [occurs, Bool.or_eq_true, List.isPrefixOf_iff_prefix, ih, List.infix_cons_iff]

theorem isKeyboard_iff (n : Node) : n.isKeyboard = true ↔ n.Keyboard := by
  unfold Node.isKeyboard Node.Keyboard
  cases readable? n.capabilities with
  | some caps => exact decide_eq_true_iff.trans (capable_iff caps).symm
  | none =>
    cases readable? n.label with
    | none => simp
    | some label =>
      simp only [Bool.or_eq_true, occurs_iff, Option.some.injEq, exists_eq_left']

theorem passes_iff (n : Node) :
    (n.name.startsWith "event" && n.isKeyboard) = true ↔ n.Passes := by
  rw [Bool.and_eq_true, String.startsWith_string_iff, isKeyboard_iff, Node.Passes]

instance (n : Node) : Decidable n.Passes := decidable_of_iff _ (passes_iff n)

end ChordDrill.Device
