import Mathlib.Data.List.Nodup
import ChordDrill.Proofs.Toml.Quoted
import ChordDrill.Toml.Document

/-!
# ChordDrill.Proofs.Toml.Rendered

A rendered document reads as its sections. Each reader takes the letters of one piece and leaves
what follows them, so the pieces are put together in the order of the text.
-/

namespace ChordDrill.Toml

variable {c : Char} {cs rest tail : List Char}

/-! ## Numbers -/

theorem isDigit_bounds (h : c.isDigit = true) : '0' ≤ c ∧ c ≤ '9' := by
  simpa [Char.isDigit, Char.le_def] using h

theorem digit?_of_isDigit (h : c.isDigit = true) :
    Text.digit? 10 c = some (c.toNat - '0'.toNat) := by
  obtain ⟨hlo, hhi⟩ := isDigit_bounds h
  have hlt : c.toNat - '0'.toNat < 10 := by
    have hle : c.toNat ≤ '9'.toNat := UInt32.le_iff_toNat_le.mp hhi
    have hnine : '9'.toNat = 57 := rfl
    have hzero : '0'.toNat = 48 := rfl
    omega
  simp only [Text.digit?, Text.hexDigit?, hlo, hhi, and_self, if_true, Option.filter_some, hlt,
    decide_true]

theorem digitRun?_of_isDigit (hne : cs ≠ []) (h : ∀ c ∈ cs, c.isDigit = true) :
    digitRun? 10 cs = some (cs.map fun c => c.toNat - '0'.toNat) := by
  induction cs with
  | nil => exact absurd rfl hne
  | cons c cs ih =>
    obtain ⟨hc, hcs⟩ := List.forall_mem_cons.mp h
    cases cs with
    | nil => rw [digitRun?, digit?_of_isDigit hc]; rfl
    | cons c' cs =>
      rw [digitRun?, digit?_of_isDigit hc]
      · simp only [ih (List.cons_ne_nil _ _) hcs, Option.map_some, List.map_cons]
      · simp
      · intro _ h
        cases h
        exact absurd (hcs '_' List.mem_cons_self) (by decide)

theorem toDigits_no_leading_zero (n : Nat) (h : 0 < n) :
    ∃ c cs, Nat.toDigits 10 n = c :: cs ∧ c ≠ '0' := by
  induction n using Nat.strongRecOn with
  | _ n ih =>
    by_cases hlt : n < 10
    · rw [Nat.toDigits_of_lt_base hlt]
      exact ⟨n.digitChar, [], rfl, fun h0 => by rw [Nat.digitChar_eq_zero] at h0; omega⟩
    · obtain ⟨c, cs, hcs, hc⟩ := ih (n / 10) (by omega) (by omega)
      rw [Nat.toDigits_of_base_le (by omega) (by omega), hcs]
      exact ⟨c, _, rfl, hc⟩

theorem ofDigits_toDigits (n : Nat) :
    Text.ofDigits 10 ((Nat.toDigits 10 n).map fun c => c.toNat - '0'.toNat) = n := by
  rw [Text.ofDigits, List.foldl_map, ← Nat.ofDigitChars_eq_foldl, Nat.ofDigitChars_ten_toDigits]

theorem isDigit_toDigits (n : Nat) : ∀ c ∈ Nat.toDigits 10 n, c.isDigit = true :=
  fun _ hc => Nat.isDigit_of_mem_toDigits (by decide) (by decide) hc

/-- The digits of a number have no zero in front. -/
theorem decimalRun?_toDigits (n : Nat) :
    (decimalRun? (Nat.toDigits 10 n)).map (Text.ofDigits 10) = some n := by
  have hrun := digitRun?_of_isDigit Nat.toDigits_ne_nil (isDigit_toDigits n)
  have hmap : decimalRun? (Nat.toDigits 10 n) =
      some ((Nat.toDigits 10 n).map fun c => c.toNat - '0'.toNat) := by
    rw [decimalRun?, hrun]
    split
    · rename_i h
      rcases Nat.eq_zero_or_pos n with rfl | hpos
      · cases h
      · obtain ⟨c, cs, hcs, hc⟩ := toDigits_no_leading_zero n hpos
        obtain ⟨hlo, -⟩ := isDigit_bounds (isDigit_toDigits n c (hcs ▸ List.mem_cons_self))
        have hle : '0'.toNat ≤ c.toNat := UInt32.le_iff_toNat_le.mp hlo
        have hne : c.toNat ≠ '0'.toNat := fun heq => hc (Char.toNat_inj.mp heq)
        rw [hcs] at h
        simp only [List.map_cons, Option.some.injEq, List.cons.injEq] at h
        omega
    · rfl
  rw [hmap, Option.map_some, ofDigits_toDigits]

theorem splitSign_of_isDigit (h : ∀ c ∈ cs, c.isDigit = true) : splitSign cs = (false, cs) := by
  unfold splitSign
  split
  · exact absurd (h '-' List.mem_cons_self) (by decide)
  · exact absurd (h '+' List.mem_cons_self) (by decide)
  · rfl

theorem integer?_toDigits {n : Nat} (h : n < integerLimit) :
    integer? (Nat.toDigits 10 n) = some (n : Int) := by
  have hdigits := isDigit_toDigits n
  have hvalue := decimalRun?_toDigits n
  have hsign := splitSign_of_isDigit hdigits
  generalize Nat.toDigits 10 n = cs at hdigits hvalue hsign
  unfold integer?
  split
  · exact absurd (hdigits 'x' (by simp)) (by decide)
  · exact absurd (hdigits 'o' (by simp)) (by decide)
  · exact absurd (hdigits 'b' (by simp)) (by decide)
  · obtain ⟨ds, hds, hn⟩ := Option.map_eq_some_iff.mp hvalue
    have hlow : -(integerLimit : Int) ≤ n := by omega
    have hhigh : (n : Int) < integerLimit := by omega
    simp only [hsign, hds, Option.map_some, hn, Option.filter_some, hlow, hhigh, decide_true,
      Bool.and_self, Bool.false_eq_true, if_true, if_false]

/-! ## Words -/

theorem takeWhile_word (h : cs.all (fun c => !endsWord c) = true) (rest : List Char) :
    (cs ++ '\n' :: rest).takeWhile (fun c => !endsWord c) = cs := by
  rw [List.takeWhile_append_of_pos (List.all_eq_true.mp h),
    List.takeWhile_cons_of_neg (by decide), List.append_nil]

theorem dropWhile_word (h : cs.all (fun c => !endsWord c) = true) (rest : List Char) :
    (cs ++ '\n' :: rest).dropWhile (fun c => !endsWord c) = '\n' :: rest := by
  rw [List.dropWhile_append_of_pos (List.all_eq_true.mp h),
    List.dropWhile_cons_of_neg (by decide)]

/-- A word that a line end follows. -/
theorem word?_line (cs : List Char) (h : cs.all (fun c => !endsWord c) = true)
    (rest : List Char) :
    word? (cs ++ '\n' :: rest) = (ofWord? cs).map fun v => (v, '\n' :: rest) := by
  simp only [word?, takeWhile_word h, dropWhile_word h]
  exact if_neg Bool.false_ne_true

theorem ofWord?_toDigits {n : Nat} (h : n < integerLimit) :
    ofWord? (Nat.toDigits 10 n) = some (.integer n) := by
  have hdigits := isDigit_toDigits n
  have hvalue := integer?_toDigits h
  have htrue : Nat.toDigits 10 n ≠ "true".toList := fun heq =>
    absurd (hdigits 't' (heq ▸ by decide)) (by decide)
  have hfalse : Nat.toDigits 10 n ≠ "false".toList := fun heq =>
    absurd (hdigits 'f' (heq ▸ by decide)) (by decide)
  simp only [ofWord?, htrue, hfalse, if_false, hvalue]

theorem endsWord_of_isDigit (h : c.isDigit = true) : endsWord c = false := by
  by_contra hends
  simp only [endsWord, isSpacer, Bool.not_eq_false, Bool.or_eq_true, beq_iff_eq] at hends
  rcases hends with ((((((rfl | rfl) | rfl) | rfl) | rfl) | rfl) | rfl) | rfl <;> cases h

/-! ## Blanks and line ends -/

/-- A character at which no filler begins. -/
def Solid (c : Char) : Prop := isSpacer c = false ∧ c ≠ '\n' ∧ c ≠ '\r' ∧ c ≠ '#'

instance : Decidable (Solid c) := inferInstanceAs (Decidable (_ ∧ _))

theorem skipLines_of_solid (h : Solid c) (cs : List Char) : skipLines (c :: cs) = c :: cs := by
  obtain ⟨hspacer, hline, hreturn, -⟩ := h
  have hblank : c ≠ ' ' ∧ c ≠ '\t' := by
    constructor <;> rintro rfl <;> cases hspacer
  rw [skipLines] <;> simp [hline, hreturn, hblank]

theorem skipFiller_eq (cs : List Char) :
    skipFiller cs =
      match skipLines cs with
      | '#' :: rest => skipFiller (rest.dropWhile isPlain)
      | rest => rest := by
  rw [skipFiller]
  split
  · rename_i rest h
    rw [h]
    rfl
  · rename_i h
    split
    · rename_i rest heq
      exact absurd heq (h rest)
    · rfl

theorem skipFiller_of_solid (h : Solid c) (cs : List Char) : skipFiller (c :: cs) = c :: cs := by
  rw [skipFiller_eq, skipLines_of_solid h]
  split
  · rename_i heq
    cases heq
    exact absurd rfl h.2.2.2
  · rfl

theorem skipFiller_congr {ds : List Char} (h : skipLines cs = skipLines ds) :
    skipFiller cs = skipFiller ds := by
  rw [skipFiller_eq, skipFiller_eq, h]

@[simp] theorem skipFiller_newline (cs : List Char) : skipFiller ('\n' :: cs) = skipFiller cs :=
  skipFiller_congr (by rw [skipLines])

@[simp] theorem skipFiller_blank (cs : List Char) : skipFiller (' ' :: cs) = skipFiller cs :=
  skipFiller_congr (by rw [skipLines])

theorem skipFiller_nil : skipFiller [] = [] := by
  rw [skipFiller]
  rfl

theorem skipSpacers_of_solid (h : Solid c) (cs : List Char) : skipSpacers (c :: cs) = c :: cs :=
  List.dropWhile_cons_of_neg (by simp [h.1])

/-! ## Values -/

theorem quoted_head (cs : List Char) :
    ∃ q tail, quoted cs = q :: tail ∧ (q = '"' ∨ q = '\'') := by
  unfold quoted
  split
  · exact ⟨'"', _, rfl, .inl rfl⟩
  · exact ⟨'\'', _, rfl, .inr rfl⟩
  · exact ⟨'"', _, rfl, .inl rfl⟩
  · exact ⟨'\'', _, rfl, .inr rfl⟩

theorem value?_quoted (h : Unquoted rest) (depth : Nat) (s : String) :
    value? depth (quoted s.toList ++ rest) = some (.string s, rest) := by
  have hread : string? (quoted s.toList ++ rest) = some (s, rest) := by
    rw [string?_quoted h, String.ofList_toList]
  obtain ⟨q, tail, hquoted, rfl | rfl⟩ := quoted_head s.toList
  · rw [hquoted, List.cons_append] at hread ⊢
    rw [value?, hread, Option.map_some]
  · rw [hquoted, List.cons_append] at hread ⊢
    rw [value?, hread, Option.map_some]

theorem value?_word (h : c ≠ '"' ∧ c ≠ '\'' ∧ c ≠ '[' ∧ c ≠ '\x7b') (depth : Nat)
    (cs : List Char) :
    value? depth (c :: cs) = word? (c :: cs) := by
  obtain ⟨h₁, h₂, h₃, h₄⟩ := h
  rw [value?] <;> simp [h₁, h₂, h₃, h₄]

theorem skipFiller_quoted (cs rest : List Char) :
    skipFiller (quoted cs ++ rest) = quoted cs ++ rest := by
  obtain ⟨q, tail, hquoted, rfl | rfl⟩ := quoted_head cs
  · rw [hquoted, List.cons_append, skipFiller_of_solid (by decide)]
  · rw [hquoted, List.cons_append, skipFiller_of_solid (by decide)]

theorem quoted_ne_bracket (cs rest : List Char) : quoted cs ++ rest ≠ ']' :: tail := by
  obtain ⟨q, t, hquoted, rfl | rfl⟩ := quoted_head cs
  all_goals
    rw [hquoted]
    intro h
    cases h

section

variable {item : List Char → Option (Value × List Char)}
  (hitem : ∀ (s : String) rest, Unquoted rest →
    item (quoted s.toList ++ rest) = some (.string s, rest))
include hitem

theorem items?_last (n : Nat) (s : String) (h : skipFiller cs = quoted s.toList ++ tail)
    (htail : Unquoted tail) (hrest : skipFiller tail = ']' :: rest) :
    items? item (n + 1) cs = some ([.string s], rest) := by
  rw [items?, h]
  split
  · rename_i heq
    exact absurd heq (quoted_ne_bracket _ _)
  · simp only [hitem s tail htail, hrest]

theorem items?_comma (n : Nat) (s : String) (h : skipFiller cs = quoted s.toList ++ tail)
    (htail : Unquoted tail) (hrest : skipFiller tail = ',' :: rest) :
    items? item (n + 1) cs =
      (items? item n rest).map fun (vs, rest) => (.string s :: vs, rest) := by
  rw [items?, h]
  split
  · rename_i heq
    exact absurd heq (quoted_ne_bracket _ _)
  · simp only [hitem s tail htail, hrest]

/-- By induction on the strings, each on a line of its own. -/
theorem items?_lines (l : List String) (n : Nat) (h : l.length < n) (rest : List Char) :
    items? item n ('\n' :: (l.flatMap Simple.lineLetters ++ ']' :: rest)) =
      some (l.map .string, rest) := by
  induction l generalizing n with
  | nil =>
    obtain ⟨n, rfl⟩ := Nat.exists_eq_add_one_of_ne_zero (Nat.ne_of_gt h)
    rw [items?, List.flatMap_nil, List.nil_append, skipFiller_newline,
      skipFiller_of_solid (by decide)]
    rfl
  | cons s l ih =>
    obtain ⟨n, rfl⟩ := Nat.exists_eq_add_one_of_ne_zero (Nat.ne_zero_of_lt h)
    have hskip : skipFiller ('\n' :: ((s :: l).flatMap Simple.lineLetters ++ ']' :: rest)) =
        quoted s.toList ++ ',' :: '\n' :: (l.flatMap Simple.lineLetters ++ ']' :: rest) := by
      have hblanks : "    ".toList = [' ', ' ', ' ', ' '] := rfl
      simp only [List.flatMap_cons, Simple.lineLetters, hblanks, List.append_assoc,
        List.cons_append, List.nil_append, skipFiller_newline, skipFiller_blank, skipFiller_quoted]
    rw [items?_comma hitem n s hskip ⟨by simp, by simp⟩ (skipFiller_of_solid (by decide) _),
      ih n (Nat.lt_of_succ_lt_succ h)]
    rfl

end

theorem length_le_flatMap {α : Type} {f : α → List Char} (h : ∀ a, f a ≠ []) (l : List α) :
    l.length ≤ (l.flatMap f).length := by
  induction l with
  | nil => exact Nat.le_refl 0
  | cons a l ih =>
    have hpos := List.length_pos_of_ne_nil (h a)
    rw [List.flatMap_cons, List.length_append, List.length_cons]
    omega

theorem value?_strings (depth : Nat) (l : List String) (rest : List Char) :
    value? (depth + 1) ((Simple.strings l).letters ++ rest) =
      some (.array false (l.map .string), rest) := by
  have hitem : ∀ (s : String) (rest : List Char), Unquoted rest →
      value? depth (quoted s.toList ++ rest) = some (.string s, rest) :=
    fun s rest h => value?_quoted h depth s
  match l with
  | [] =>
    rw [Simple.letters, List.cons_append, value?, items?]
    simp [skipFiller_of_solid (c := ']') (by decide)]
  | [s] =>
    rw [Simple.letters, List.cons_append, List.cons_append, List.append_assoc,
      List.singleton_append, value?,
      items?_last hitem _ s (skipFiller_quoted _ _) ⟨by simp, by simp⟩
        (skipFiller_of_solid (by decide) _)]
    rfl
  | s :: s' :: l =>
    have hletters : (Simple.strings (s :: s' :: l)).letters ++ rest =
        '[' :: '\n' :: ((s :: s' :: l).flatMap Simple.lineLetters ++ ']' :: rest) := by
      simp [Simple.letters]
    have hlength := length_le_flatMap (f := Simple.lineLetters)
      (fun s => by simp [Simple.lineLetters]) (s :: s' :: l)
    rw [hletters, value?, items?_lines hitem]
    · rfl
    · simp only [List.length_cons, List.length_append] at hlength ⊢
      omega

/-- The letters of a value, up to the end of the line, read as the value. -/
theorem value?_letters {v : Simple} (h : v.fits = true) (depth : Nat) (rest : List Char) :
    value? (depth + 1) (v.letters ++ '\n' :: rest) = some (v.value, '\n' :: rest) := by
  cases v with
  | natural n =>
    have hfits : n < integerLimit := of_decide_eq_true h
    have hdigits := isDigit_toDigits n
    have hends : (Nat.toDigits 10 n).all (fun c => !endsWord c) = true :=
      List.all_eq_true.mpr fun c hc => by rw [endsWord_of_isDigit (hdigits c hc)]; rfl
    have hword := word?_line _ hends rest
    obtain ⟨c, cs, hcs⟩ := List.exists_cons_of_ne_nil (Nat.toDigits_ne_nil (b := 10) (n := n))
    have hc := hdigits c (hcs ▸ List.mem_cons_self)
    have hplain : c ≠ '"' ∧ c ≠ '\'' ∧ c ≠ '[' ∧ c ≠ '\x7b' := by
      refine ⟨?_, ?_, ?_, ?_⟩ <;> rintro rfl <;> cases hc
    rw [Simple.letters, hcs, List.cons_append, value?_word hplain, ← List.cons_append, ← hcs, hword,
      ofWord?_toDigits hfits, Option.map_some, Simple.value]
  | boolean b =>
    cases b with
    | true =>
      exact (value?_word (by decide) _ _).trans (word?_line "true".toList (by decide) rest)
    | false =>
      exact (value?_word (by decide) _ _).trans (word?_line "false".toList (by decide) rest)
  | string s => exact value?_quoted ⟨by simp, by simp⟩ (depth + 1) s
  | strings l => exact value?_strings depth l ('\n' :: rest)

/-! ## Keys -/

/-- A key that needs no quotes. -/
def Bare (k : String) : Prop := k.toList ≠ [] ∧ k.toList.all isBareKey = true

instance (k : String) : Decidable (Bare k) := inferInstanceAs (Decidable (_ ∧ _))

theorem solid_of_isBareKey (h : isBareKey c = true) : Solid c := by
  refine ⟨?_, ?_, ?_, ?_⟩
  · by_contra hspacer
    simp only [isSpacer, Bool.not_eq_false, Bool.or_eq_true, beq_iff_eq] at hspacer
    rcases hspacer with rfl | rfl <;> cases h
  all_goals rintro rfl; cases h

theorem Bare.head {k : String} (hk : Bare k) : ∃ c cs, k.toList = c :: cs ∧ isBareKey c = true := by
  obtain ⟨c, cs, hcs⟩ := List.exists_cons_of_ne_nil hk.1
  exact ⟨c, cs, hcs, List.all_eq_true.mp hk.2 c (hcs ▸ List.mem_cons_self)⟩

theorem simpleKey?_bare {k : String} (hk : Bare k) (hc : isBareKey c = false) (tail : List Char) :
    simpleKey? (k.toList ++ c :: tail) = some (k, c :: tail) := by
  have htake : (k.toList ++ c :: tail).takeWhile isBareKey = k.toList := by
    rw [List.takeWhile_append_of_pos (List.all_eq_true.mp hk.2),
      List.takeWhile_cons_of_neg (by simp [hc]), List.append_nil]
  have hdrop : (k.toList ++ c :: tail).dropWhile isBareKey = c :: tail := by
    rw [List.dropWhile_append_of_pos (List.all_eq_true.mp hk.2),
      List.dropWhile_cons_of_neg (by simp [hc])]
  rw [simpleKey?, htake, hdrop]
  split
  · rename_i hnil
    exact absurd hnil hk.1
  · rw [String.ofList_toList]

/-- A bare key without a dot behind it. -/
theorem keyPath?_bare {k : String} (hk : Bare k) (hc : isBareKey c = false)
    (hdot : ∀ t, skipSpacers (c :: tail) ≠ '.' :: t) :
    keyPath? (k.toList ++ c :: tail) = some (([], k), skipSpacers (c :: tail)) := by
  obtain ⟨c', cs, hcs, hc'⟩ := hk.head
  have hspacers : skipSpacers (k.toList ++ c :: tail) = k.toList ++ c :: tail := by
    rw [hcs, List.cons_append, skipSpacers_of_solid (solid_of_isBareKey hc')]
  have hdotted : dottedKey? depthLimit (k.toList ++ c :: tail) =
      some ([k], skipSpacers (c :: tail)) := by
    rw [depthLimit, dottedKey?, hspacers, simpleKey?_bare hk hc]
    dsimp only
    split
    · rename_i heq
      exact absurd heq (hdot _)
    · rfl
  rw [keyPath?, hdotted]
  rfl

/-! ## Lines -/

/-- The name of a section as a header. -/
theorem statement?_header {k : String} (hk : Bare k) (rest : List Char) :
    statement? ('[' :: k.toList ++ ']' :: rest) = some (.header (.table [] k), rest) := by
  have hspacers : skipSpacers (']' :: rest) = ']' :: rest := skipSpacers_of_solid (by decide) rest
  have hpath : keyPath? (k.toList ++ ']' :: rest) = some (([], k), ']' :: rest) := by
    rw [keyPath?_bare hk (by decide) (by simp [hspacers]), hspacers]
  obtain ⟨c, cs, hcs, hc⟩ := hk.head
  have hbracket : c ≠ '[' := by
    rintro rfl
    cases hc
  rw [hcs] at hpath ⊢
  rw [List.cons_append, List.cons_append, statement?]
  · rw [← List.cons_append, hpath]
    rfl
  · simp [hbracket]

theorem letters_head (v : Simple) : ∃ c cs, v.letters = c :: cs ∧ Solid c := by
  match v with
  | .natural n =>
    obtain ⟨c, cs, hcs⟩ := List.exists_cons_of_ne_nil (Nat.toDigits_ne_nil (b := 10) (n := n))
    have hdigit := isDigit_toDigits n c (hcs ▸ List.mem_cons_self)
    exact ⟨c, cs, hcs, solid_of_isBareKey (by simp [isBareKey, Char.isAlphanum, hdigit])⟩
  | .boolean true => exact ⟨'t', _, rfl, by decide⟩
  | .boolean false => exact ⟨'f', _, rfl, by decide⟩
  | .string s =>
    obtain ⟨q, tail, hquoted, rfl | rfl⟩ := quoted_head s.toList
    · exact ⟨'"', tail, hquoted, by decide⟩
    · exact ⟨'\'', tail, hquoted, by decide⟩
  | .strings [] => exact ⟨'[', _, rfl, by decide⟩
  | .strings [_] => exact ⟨'[', _, rfl, by decide⟩
  | .strings (_ :: _ :: _) => exact ⟨'[', _, rfl, by decide⟩

/-- An entry of a section as a pair. -/
theorem statement?_entry {k : String} {v : Simple} (hk : Bare k) (hv : v.fits = true)
    (rest : List Char) :
    statement? (k.toList ++ ' ' :: '=' :: ' ' :: (v.letters ++ '\n' :: rest)) =
      some (.pair [] k v.value, '\n' :: rest) := by
  have hequals : ∀ cs, skipSpacers (' ' :: '=' :: cs) = '=' :: cs :=
    fun cs => skipSpacers_of_solid (c := '=') (by decide) cs
  have hvalue : ∀ cs, skipSpacers (' ' :: (v.letters ++ cs)) = v.letters ++ cs := by
    obtain ⟨c, tail, hletters, hc⟩ := letters_head v
    intro cs
    rw [hletters]
    exact skipSpacers_of_solid hc (tail ++ cs)
  have hpath : keyPath? (k.toList ++ ' ' :: '=' :: ' ' :: (v.letters ++ '\n' :: rest)) =
      some (([], k), '=' :: ' ' :: (v.letters ++ '\n' :: rest)) := by
    rw [keyPath?_bare hk (by decide) (by simp [hequals]), hequals]
  have hpair : pair? (value? depthLimit)
      (k.toList ++ ' ' :: '=' :: ' ' :: (v.letters ++ '\n' :: rest)) =
        some (([], k, v.value), '\n' :: rest) := by
    rw [pair?, hpath]
    simp only [hvalue, depthLimit, value?_letters hv, Option.map_some]
  obtain ⟨c, cs, hcs, hc⟩ := hk.head
  have hbracket : c ≠ '[' := by
    rintro rfl
    cases hc
  rw [statement?, hpair]
  · rfl
  all_goals simp [hcs, hbracket]

/-! ## Documents -/

/-- One more line of a document. -/
theorem statements?_line {x : Statement} (n : Nat) (hc : Solid c)
    (h : statement? (c :: cs) = some (x, '\n' :: rest)) :
    statements? (n + 1) (c :: cs) = (statements? n rest).map (x :: ·) := by
  rw [statements?, skipFiller_of_solid hc]
  simp only [h, endLine?]
  rfl

/-- An empty line does not count. -/
theorem statements?_newline (n : Nat) (cs : List Char) :
    statements? n ('\n' :: cs) = statements? n cs := by
  cases n with
  | zero => rfl
  | succ n => rw [statements?, statements?, skipFiller_newline]

/-- A section whose text reads as its table: its name and its keys need no quotes, no key stands
twice, and its values can be written. -/
structure Section.Plain (s : Section) : Prop where
  name : Bare s.name
  keys : ∀ k ∈ s.entries.map Prod.fst, Bare k
  distinct : (s.entries.map Prod.fst).Nodup
  fits : s.fits = true

theorem Section.plain_of_keys {s : Section} (name : String) (keys : List String)
    (hname : s.name = name) (hkeys : s.entries.map Prod.fst = keys)
    (h : Bare name ∧ (∀ k ∈ keys, Bare k) ∧ keys.Nodup) (hfits : s.fits = true) : s.Plain := by
  subst hname hkeys
  exact ⟨h.1, h.2.1, h.2.2, hfits⟩

/-- The statements of a section. -/
def Section.statements (s : Section) : List Statement :=
  .header (.table [] s.name) :: s.entries.map fun e => .pair [] e.1 e.2.value

theorem statements?_entries {es : List (String × Simple)}
    (h : ∀ e ∈ es, Bare e.1 ∧ e.2.fits = true) (n : Nat) (rest : List Char) :
    statements? (n + es.length) (es.flatMap Section.entryLetters ++ rest) =
      (statements? n rest).map ((es.map fun e => .pair [] e.1 e.2.value) ++ ·) := by
  induction es with
  | nil => simp
  | cons e es ih =>
    obtain ⟨⟨hbare, hfits⟩, hes⟩ := List.forall_mem_cons.mp h
    obtain ⟨c, cs, hcs, hc⟩ := hbare.head
    have hstatement := statement?_entry hbare hfits (es.flatMap Section.entryLetters ++ rest)
    have hletters : (e :: es).flatMap Section.entryLetters ++ rest =
        e.1.toList ++ ' ' :: '=' :: ' ' ::
          (e.2.letters ++ '\n' :: (es.flatMap Section.entryLetters ++ rest)) := by
      simp [Section.entryLetters]
    rw [hcs, List.cons_append] at hstatement hletters
    rw [hletters, List.length_cons, ← Nat.add_assoc,
      statements?_line _ (solid_of_isBareKey hc) hstatement, ih hes, Option.map_map]
    rfl

theorem statements?_section {s : Section} (h : s.Plain) (n : Nat) (rest : List Char) :
    statements? (n + s.statements.length) (s.letters ++ rest) =
      (statements? n rest).map (s.statements ++ ·) := by
  have hentries : ∀ e ∈ s.entries, Bare e.1 ∧ e.2.fits = true := fun e he =>
    ⟨h.keys e.1 (List.mem_map_of_mem he), List.all_eq_true.mp h.fits e he⟩
  have hletters : s.letters ++ rest =
      '[' :: s.name.toList ++ ']' :: '\n' :: (s.entries.flatMap Section.entryLetters ++ rest) := by
    simp [Section.letters]
  have hstatement :=
    statement?_header h.name ('\n' :: (s.entries.flatMap Section.entryLetters ++ rest))
  rw [List.cons_append] at hstatement hletters
  rw [hletters, Section.statements, List.length_cons, List.length_map, ← Nat.add_assoc,
    statements?_line _ (by decide) hstatement, statements?_entries hentries, Option.map_map]
  rfl

/-- By induction on the sections. -/
theorem statements?_sections {ss : List Section} (h : ∀ s ∈ ss, s.Plain) (n : Nat) :
    statements? (n + 1 + (ss.flatMap Section.statements).length)
      (List.intercalate ['\n'] (ss.map Section.letters)) =
        some (ss.flatMap Section.statements) := by
  induction ss with
  | nil => simp [statements?, skipFiller_nil]
  | cons s ss ih =>
    obtain ⟨hs, hss⟩ := List.forall_mem_cons.mp h
    have hrest : ∀ rest, statements? (n + 1 + (ss.flatMap Section.statements).length) rest =
        some (ss.flatMap Section.statements) →
        statements? (n + 1 + ((s :: ss).flatMap Section.statements).length) (s.letters ++ rest) =
          some ((s :: ss).flatMap Section.statements) := by
      intro rest hrest
      rw [List.flatMap_cons, List.length_append, Nat.add_comm s.statements.length, ← Nat.add_assoc,
        statements?_section hs, hrest, Option.map_some]
    cases ss with
    | nil =>
      rw [List.map_cons, List.map_nil, List.intercalate_singleton, ← List.append_nil s.letters]
      exact hrest [] (ih hss)
    | cons s' ss =>
      rw [List.map_cons, List.map_cons, List.intercalate_cons_cons, List.append_assoc,
        List.singleton_append]
      refine hrest _ ?_
      rw [statements?_newline]
      exact ih hss

/-- Each statement has letters of its own. -/
theorem length_statements_le (ss : List Section) :
    (ss.flatMap Section.statements).length ≤
      (List.intercalate ['\n'] (ss.map Section.letters)).length := by
  have hsection : ∀ s : Section, s.statements.length ≤ s.letters.length := by
    intro s
    have hentries := length_le_flatMap (f := Section.entryLetters)
      (fun e => by simp [Section.entryLetters]) s.entries
    simp only [Section.statements, Section.letters, List.length_cons, List.length_append,
      List.length_map]
    omega
  induction ss with
  | nil => exact Nat.le_refl 0
  | cons s ss ih =>
    have hs := hsection s
    cases ss with
    | nil => simpa [List.intercalate_singleton] using hs
    | cons s' ss =>
      rw [List.flatMap_cons, List.length_append, List.map_cons, List.map_cons,
        List.intercalate_cons_cons, List.length_append, List.length_append]
      rw [List.map_cons] at ih
      omega

theorem blocks_pairs (es : List (String × Simple)) (rest : List Statement) :
    blocks ((es.map fun e => .pair [] e.1 e.2.value) ++ rest) =
      ((es.map fun e => ([], e.1, e.2.value)) ++ (blocks rest).1, (blocks rest).2) := by
  induction es with
  | nil => rfl
  | cons e es ih => rw [List.map_cons, List.cons_append, blocks, ih]; rfl

theorem blocks_sections (ss : List Section) :
    blocks (ss.flatMap Section.statements) =
      ([], ss.map fun s => (.table [] s.name, s.entries.map fun e => ([], e.1, e.2.value))) := by
  induction ss with
  | nil => rfl
  | cons s ss ih =>
    rw [List.flatMap_cons, Section.statements, List.cons_append, blocks, blocks_pairs, ih,
      List.append_nil]
    rfl

/-! ## Tables -/

namespace Table

theorem get?_eq_none {t : Table} {k : String} (h : k ∉ t.map Prod.fst) : t.get? k = none := by
  rw [get?, List.lookup_eq_none_iff]
  intro e he
  have hne : k ≠ e.1 := fun heq => h (heq ▸ List.mem_map_of_mem he)
  exact bne_iff_ne.mpr hne

theorem set_new {t : Table} {k : String} (h : k ∉ t.map Prod.fst) (v : Value) :
    t.set k v = t ++ [(k, v)] := by
  induction t with
  | nil => rfl
  | cons e t ih =>
    obtain ⟨hne, hnotin⟩ := not_or.mp (List.mem_cons.not.mp h)
    rw [set, if_neg (fun heq => hne heq.symm), ih hnotin, List.cons_append]

theorem pair?_new {t : Table} {k : String} (h : k ∉ t.map Prod.fst) (v : Value) :
    t.pair? [] k v = some (t ++ [(k, v)]) := by
  simp [pair?, reach, get?_eq_none h]

/-- Pairs with new keys come to stand behind the table, in order. -/
theorem pairs?_new (es : List (String × Simple)) (t : Table)
    (h : (t.map Prod.fst ++ es.map Prod.fst).Nodup) :
    t.pairs? (es.map fun e => ([], e.1, e.2.value)) =
      some (t ++ es.map fun e => (e.1, e.2.value)) := by
  induction es generalizing t with
  | nil => simp [pairs?]
  | cons e es ih =>
    have hnew : e.1 ∉ t.map Prod.fst := fun hin =>
      List.disjoint_of_nodup_append h hin List.mem_cons_self
    have hrest := ih (t ++ [(e.1, e.2.value)]) (by simpa using h)
    rw [List.map_cons, pairs?, pair?_new hnew]
    simpa using hrest

theorem open?_new {t : Table} {k : String} (h : k ∉ t.map Prod.fst)
    (body : Table → Option Table) {sub : Table} (hbody : body [] = some sub) :
    t.open? [] k body = some (t ++ [(k, .table .header sub)]) := by
  simp [open?, reach, get?_eq_none h, hbody, set_new h]

end Table

/-- By induction on the sections: each opens a new table and fills it. -/
theorem addBlocks_sections {ss : List Section} (hs : ∀ s ∈ ss, s.Plain) (t : Table)
    (h : (t.map Prod.fst ++ ss.map Section.name).Nodup) :
    addBlocks t
        (ss.map fun s => (.table [] s.name, s.entries.map fun e => ([], e.1, e.2.value))) =
      some (t ++ ss.map fun s => (s.name, .table .header s.table)) := by
  induction ss generalizing t with
  | nil => simp [addBlocks]
  | cons s ss ih =>
    obtain ⟨hplain, hss⟩ := List.forall_mem_cons.mp hs
    have hnew : s.name ∉ t.map Prod.fst := fun hin =>
      List.disjoint_of_nodup_append h hin List.mem_cons_self
    have hbody : Table.pairs? [] (s.entries.map fun e => ([], e.1, e.2.value)) = some s.table :=
      Table.pairs?_new s.entries [] hplain.distinct
    have hrest := ih hss (t ++ [(s.name, .table .header s.table)]) (by simpa using h)
    have hopen := Table.open?_new hnew
      (fun sub => sub.pairs? (s.entries.map fun e => ([], e.1, e.2.value))) hbody
    rw [List.map_cons, addBlocks]
    simp only [hopen]
    simpa using hrest

theorem skipMark_render (ss : List Section) : skipMark (render ss).toList = (render ss).toList := by
  rw [render, String.toList_ofList]
  match ss with
  | [] => rfl
  | [s] => rfl
  | s :: s' :: ss =>
    rw [List.map_cons, List.map_cons, List.intercalate_cons_cons]
    rfl

/-- A rendered document reads as a table for each of its sections. -/
theorem document?_render {ss : List Section} (h : ∀ s ∈ ss, s.Plain)
    (hnames : (ss.map Section.name).Nodup) :
    document? (render ss) = some (ss.map fun s => (s.name, .table .header s.table)) := by
  have hfuel := length_statements_le ss
  have hstatements : statements? ((render ss).toList.length + 1) (render ss).toList =
      some (ss.flatMap Section.statements) := by
    rw [render, String.toList_ofList]
    obtain ⟨n, hn⟩ := Nat.exists_eq_add_of_le hfuel
    rw [hn, Nat.add_comm _ n, Nat.add_right_comm]
    exact statements?_sections h n
  rw [document?, skipMark_render, hstatements]
  simp only [blocks_sections, Table.pairs?]
  exact addBlocks_sections h [] hnames

end ChordDrill.Toml
