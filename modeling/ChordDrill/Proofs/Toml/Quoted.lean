import Mathlib.Data.List.Infix
import Mathlib.Tactic.SplitIfs
import ChordDrill.Toml.Printer

/-!
# ChordDrill.Proofs.Toml.Quoted

Any text in quotes reads as itself (`string?_quoted`).

A basic string is read character by character, each with its escape. In a text of several lines the
quotes that close it are the first three in a row with no quote behind them, so the induction has
to know how many bare quotes stand right before the place: the writer escapes the third one, and
the form without escapes is taken only if no third one comes (`longestRun`).
-/

namespace ChordDrill.Toml

variable {c : Char} {cs e rest t : List Char}

/-! ## Escapes -/

theorem char?_toNat (c : Char) : Text.char? c.toNat = some c := by
  have hvalid : c.toNat.isValidChar := c.valid
  rw [Text.char?, dif_pos hvalid]
  exact congrArg some (Char.ext rfl)

theorem number?_hexLetters {n : Nat} (h : n < 128) :
    Text.number? 16 ['0', '0', hexLetter (n / 16), hexLetter (n % 16)] = some n := by
  have hall : ∀ n : Fin 128,
      Text.number? 16 ['0', '0', hexLetter (n.val / 16), hexLetter (n.val % 16)] = some n.val := by
    decide +kernel
  exact hall ⟨n, h⟩

/-- A character written with a backslash and the letters `e`. -/
structure Escapes (c : Char) (e : List Char) : Prop where
  reads : ∀ rest, escape? (e ++ rest) = some (c, e.length)
  goesOn : ∀ rest, newline? (skipSpacers (e ++ rest)) = none

theorem escapes_code (h : c.toNat < 128) :
    Escapes c ['u', '0', '0', hexLetter (c.toNat / 16), hexLetter (c.toNat % 16)] := by
  constructor
  · intro rest
    simp [escape?, Text.fixedNumber?, number?_hexLetters h, char?_toNat]
  · intro rest
    rfl

/-- A character stands for itself or is written with a backslash. -/
theorem escapeLetters_cases (c : Char) :
    (escapeLetters c = [c] ∧ isPlain c = true ∧ c ≠ '"' ∧ c ≠ '\\') ∨
    ∃ e, escapeLetters c = '\\' :: e ∧ Escapes c e := by
  unfold escapeLetters
  -- seven characters have a letter of their own
  iterate 7
    split
    · rename_i h
      subst h
      exact .inr ⟨_, rfl, fun _ => rfl, fun _ => rfl⟩
  split
  · rename_i hquote hbackslash hplain
    exact .inl ⟨rfl, hplain, hquote, hbackslash⟩
  · rename_i hplain
    have hlt : c.toNat < 128 := by
      simp only [isPlain, Bool.or_eq_true, Bool.and_eq_true, decide_eq_true_eq, bne_iff_ne,
        not_or, not_and_or, not_le] at hplain
      omega
    exact .inr ⟨_, rfl, escapes_code hlt⟩

/-! ## Basic strings -/

theorem basicRest_escapeLetters (c : Char) (rest : List Char) :
    basicRest (escapeLetters c ++ rest) =
      (basicRest rest).map fun (text, rest) => (c :: text, rest) := by
  rcases escapeLetters_cases c with ⟨he, hplain, hquote, hbackslash⟩ | ⟨e, he, hesc⟩
  · rw [he, List.singleton_append]
    simp [basicRest, hplain]
  · rw [he, List.cons_append, basicRest, hesc.reads]
    simp

theorem basicRest_escaped (cs rest : List Char) :
    basicRest (cs.flatMap escapeLetters ++ '"' :: rest) = some (cs, rest) := by
  induction cs with
  | nil => simp [basicRest]
  | cons c cs ih =>
    rw [List.flatMap_cons, List.append_assoc, basicRest_escapeLetters, ih]
    rfl

/-! ## Basic strings of several lines -/

/-- A quote with less than two more behind it belongs to the text. -/
theorem multiBasicRest_quote (h : ∀ cs, t ≠ '"' :: '"' :: cs) :
    multiBasicRest ('"' :: t) = (multiBasicRest t).map fun (text, rest) => ('"' :: text, rest) := by
  rw [multiBasicRest]
  · rw [if_pos (by decide)]
  all_goals simp [h]

theorem multiBasicRest_newline (t : List Char) :
    multiBasicRest ('\n' :: t) =
      (multiBasicRest t).map fun (text, rest) => ('\n' :: text, rest) := by
  rw [multiBasicRest]

theorem multiBasicRest_escapeLetters (c : Char) (rest : List Char) :
    multiBasicRest (escapeLetters c ++ rest) =
      (multiBasicRest rest).map fun (text, rest) => (c :: text, rest) := by
  rcases escapeLetters_cases c with ⟨he, hplain, hquote, hbackslash⟩ | ⟨e, he, hesc⟩
  · have hline : c ≠ '\n' ∧ c ≠ '\r' := by
      constructor <;> rintro rfl <;> cases hplain
    rw [he, List.singleton_append, multiBasicRest]
    · rw [if_pos hplain]
    all_goals simp [hquote, hbackslash, hline]
  · rw [he, List.cons_append, multiBasicRest]
    simp [hesc.goesOn, hesc.reads]

/-- The closing quotes of several lines, and what follows them. -/
def closing (q : Char) (rest : List Char) : List Char := q :: q :: q :: rest

theorem multiBasicRest_closing (h : rest.head? ≠ some '"') :
    multiBasicRest (closing '"' rest) = some ([], rest) ∧
    multiBasicRest ('"' :: closing '"' rest) = some (['"'], rest) ∧
    multiBasicRest ('"' :: '"' :: closing '"' rest) = some (['"', '"'], rest) := by
  have hno : ∀ cs, rest ≠ '"' :: cs := by
    rintro cs rfl
    exact h rfl
  refine ⟨?_, ?_, ?_⟩
  · rw [closing, multiBasicRest] <;> simp [hno]
  · rw [closing, multiBasicRest]; simp [hno]
  · rw [closing, multiBasicRest]

/-- Only a bare quote is written as one. -/
theorem quote_of_multiBasicLetters {q : Nat} {tail : List Char}
    (h : multiBasicLetters q (c :: cs) ++ tail = '"' :: t) :
    c = '"' ∧ q < 2 ∧ multiBasicLetters (q + 1) cs ++ tail = t := by
  rw [multiBasicLetters] at h
  split at h
  · rename_i hc
    obtain ⟨rfl, hq⟩ := hc
    cases h
    exact ⟨rfl, hq, rfl⟩
  split at h
  · rename_i hc
    subst hc
    cases h
  · rcases escapeLetters_cases c with ⟨he, _, hquote, _⟩ | ⟨e, he, _⟩
    · rw [he] at h
      cases h
      exact absurd rfl hquote
    · rw [he] at h
      cases h

/-- By induction on the text. A quote is taken together with two more ones only at the very end: of
quotes in a row at most two are bare. -/
theorem multiBasicRest_letters (h : rest.head? ≠ some '"') (q : Nat) (cs : List Char) :
    multiBasicRest (multiBasicLetters q cs ++ closing '"' rest) = some (cs, rest) := by
  obtain ⟨hnone, hone, htwo⟩ := multiBasicRest_closing h
  induction cs generalizing q with
  | nil => exact hnone
  | cons c cs ih =>
    rw [multiBasicLetters]
    split
    · rename_i hc
      obtain ⟨rfl, hq⟩ := hc
      rw [List.cons_append]
      by_cases hno : ∀ t, multiBasicLetters (q + 1) cs ++ closing '"' rest ≠ '"' :: '"' :: t
      · rw [multiBasicRest_quote hno, ih]
        rfl
      · obtain ⟨t, ht⟩ := not_forall_not.mp hno
        cases cs with
        | nil => exact hone
        | cons c cs =>
          obtain ⟨rfl, hq', ht'⟩ := quote_of_multiBasicLetters ht
          cases cs with
          | nil =>
            rw [multiBasicLetters, if_pos ⟨rfl, hq'⟩]
            exact htwo
          | cons c cs =>
            obtain ⟨_, hq'', _⟩ := quote_of_multiBasicLetters ht'
            omega
    split
    · rename_i hc
      subst hc
      rw [List.cons_append, multiBasicRest_newline, ih]
      rfl
    · rw [List.append_assoc, multiBasicRest_escapeLetters, ih]
      rfl

/-! ## Literal strings -/

theorem literalRest_plain (hp : ∀ c ∈ cs, isPlain c = true) (hq : '\'' ∉ cs) (rest : List Char) :
    literalRest (cs ++ '\'' :: rest) = some (cs, rest) := by
  induction cs with
  | nil => rw [List.nil_append, literalRest]
  | cons c cs ih =>
    obtain ⟨hc, hcs⟩ := List.forall_mem_cons.mp hp
    obtain ⟨hne, hnotin⟩ := not_or.mp (List.mem_cons.not.mp hq)
    rw [List.cons_append, literalRest, if_pos hc, ih hcs hnotin]
    · rfl
    · exact fun h => hne h.symm

theorem multiLiteralRest_quote (h : ∀ cs, t ≠ '\'' :: '\'' :: cs) :
    multiLiteralRest ('\'' :: t) =
      (multiLiteralRest t).map fun (text, rest) => ('\'' :: text, rest) := by
  rw [multiLiteralRest]
  · rw [if_pos (by decide)]
  all_goals simp [h]

theorem multiLiteralRest_closing (h : rest.head? ≠ some '\'') :
    multiLiteralRest (closing '\'' rest) = some ([], rest) ∧
    multiLiteralRest ('\'' :: closing '\'' rest) = some (['\''], rest) ∧
    multiLiteralRest ('\'' :: '\'' :: closing '\'' rest) = some (['\'', '\''], rest) := by
  have hno : ∀ cs, rest ≠ '\'' :: cs := by
    rintro cs rfl
    exact h rfl
  refine ⟨?_, ?_, ?_⟩
  · rw [closing, multiLiteralRest] <;> simp [hno]
  · rw [closing, multiLiteralRest]; simp [hno]
  · rw [closing, multiLiteralRest]

theorem le_longestRun (q : Char) (k : Nat) (cs : List Char) : k ≤ longestRun q k cs := by
  induction cs generalizing k with
  | nil => exact Nat.le_refl k
  | cons c cs ih =>
    rw [longestRun]
    split
    · exact Nat.le_trans (Nat.le_succ k) (ih (k + 1))
    · exact Nat.le_max_left _ _

/-- By induction on the text, with the apostrophes right before it counted in the bound. -/
theorem multiLiteralRest_letters (h : rest.head? ≠ some '\'') {k : Nat}
    (hl : ∀ c ∈ cs, isPlain c = true ∨ c = '\n') (hrun : longestRun '\'' k cs ≤ 2) :
    multiLiteralRest (cs ++ closing '\'' rest) = some (cs, rest) := by
  obtain ⟨hnone, hone, htwo⟩ := multiLiteralRest_closing h
  induction cs generalizing k with
  | nil => exact hnone
  | cons c cs ih =>
    obtain ⟨hc, hcs⟩ := List.forall_mem_cons.mp hl
    rw [longestRun] at hrun
    rw [List.cons_append]
    split at hrun
    · rename_i hquote
      subst hquote
      by_cases hno : ∀ t, cs ++ closing '\'' rest ≠ '\'' :: '\'' :: t
      · rw [multiLiteralRest_quote hno, ih hcs hrun]
        rfl
      · obtain ⟨t, ht⟩ := not_forall_not.mp hno
        match cs, ht, hrun with
        | [], _, _ => exact hone
        | [c], ht, _ =>
          cases ht
          exact htwo
        | c :: c' :: cs, ht, hrun =>
          cases ht
          simp only [longestRun, if_true] at hrun
          have := le_longestRun '\'' (k + 1 + 1 + 1) cs
          omega
    · rename_i hquote
      have ih' := ih hcs (Nat.le_trans (Nat.le_max_right _ _) hrun)
      rcases hc with hplain | rfl
      · have hline : c ≠ '\n' ∧ c ≠ '\r' := by
          constructor <;> rintro rfl <;> cases hplain
        rw [multiLiteralRest, if_pos hplain, ih']
        · rfl
        all_goals simp [hquote, hline]
      · rw [multiLiteralRest, ih']
        rfl

/-! ## All forms -/

/-- Not three of the same quotes open a string of one line. -/
theorem string?_eq_lineString? (h : ∀ t, cs ≠ '"' :: '"' :: '"' :: t)
    (h' : ∀ t, cs ≠ '\'' :: '\'' :: '\'' :: t) : string? cs = lineString? cs := by
  unfold string?
  split
  · exact absurd rfl (h _)
  · exact absurd rfl (h' _)
  · rfl

theorem formOf_literal (h : formOf cs = .literal) :
    (∀ c ∈ cs, isPlain c = true) ∧ '\'' ∉ cs := by
  simp only [formOf] at h
  split_ifs at h with hbasic hliteral
  exact ⟨List.all_eq_true.mp hliteral.1, hliteral.2⟩

theorem formOf_multiLiteral (h : formOf cs = .multiLiteral) :
    (∀ c ∈ cs, isPlain c = true ∨ c = '\n') ∧ longestRun '\'' 0 cs ≤ 2 := by
  simp only [formOf] at h
  split_ifs at h with hbasic hliteral hmultiBasic hmultiLiteral
  refine ⟨fun c hc => ?_, hmultiLiteral.2⟩
  simpa using List.all_eq_true.mp hmultiLiteral.1 c hc

theorem skipNewline_of_plain (hc : isPlain c = true) (cs : List Char) :
    skipNewline (c :: cs) = c :: cs := by
  have hnone : newline? (c :: cs) = none := by
    unfold newline?
    split
    · rename_i h
      cases h
      cases hc
    · rename_i h
      cases h
      cases hc
    · rfl
  rw [skipNewline, hnone, Option.getD_none]

/-- A text of several lines begins right behind its opening. -/
theorem skipNewline_opening {body : List Char}
    (h : '\n' ∉ cs → ∃ c tail, body = c :: tail ∧ isPlain c = true) :
    skipNewline (opening cs ++ body) = body := by
  unfold opening
  split
  · rfl
  · rename_i hno
    obtain ⟨c, tail, rfl, hc⟩ := h hno
    exact skipNewline_of_plain hc tail

theorem head_multiBasicLetters (h : '\n' ∉ cs) (rest : List Char) :
    ∃ c tail, multiBasicLetters 0 cs ++ closing '"' rest = c :: tail ∧ isPlain c = true := by
  cases cs with
  | nil => exact ⟨'"', _, rfl, by decide⟩
  | cons c cs =>
    rw [multiBasicLetters]
    split
    · rename_i hc
      exact ⟨c, _, rfl, hc.1 ▸ by decide⟩
    split
    · rename_i hc
      exact absurd (hc ▸ List.mem_cons_self) h
    · rcases escapeLetters_cases c with ⟨he, hplain, _⟩ | ⟨e, he, _⟩
      · rw [he]
        exact ⟨c, _, rfl, hplain⟩
      · rw [he]
        exact ⟨'\\', _, rfl, by decide⟩

theorem head_literal (h : ∀ c ∈ cs, isPlain c = true ∨ c = '\n') (hno : '\n' ∉ cs)
    (rest : List Char) :
    ∃ c tail, cs ++ closing '\'' rest = c :: tail ∧ isPlain c = true := by
  cases cs with
  | nil => exact ⟨'\'', _, rfl, by decide⟩
  | cons c cs =>
    refine ⟨c, _, rfl, ?_⟩
    rcases h c List.mem_cons_self with hplain | rfl
    · exact hplain
    · exact absurd List.mem_cons_self hno

/-- What may follow a string: no quote, which would be taken into it. -/
def Unquoted (rest : List Char) : Prop := rest.head? ≠ some '"' ∧ rest.head? ≠ some '\''

/-- Any text that is quoted reads as itself, whichever form was taken for it. -/
theorem string?_quoted (hrest : Unquoted rest) (cs : List Char) :
    string? (quoted cs ++ rest) = some (String.ofList cs, rest) := by
  obtain ⟨h, h'⟩ := hrest
  unfold quoted
  split
  · have hline : ∀ t,
        '"' :: (cs.flatMap escapeLetters ++ '"' :: rest) ≠ '"' :: '"' :: '"' :: t := by
      intro t ht
      cases cs with
      | nil =>
        cases ht
        exact h rfl
      | cons c cs =>
        rw [List.flatMap_cons] at ht
        rcases escapeLetters_cases c with ⟨he, _, hquote, _⟩ | ⟨e, he, _⟩
        · rw [he] at ht
          simp only [List.cons_append, List.cons.injEq] at ht
          exact hquote ht.2.1
        · rw [he] at ht
          cases ht
    rw [List.cons_append, List.cons_append, List.append_assoc, List.singleton_append,
      string?_eq_lineString? hline (by simp), lineString?, basicRest_escaped, Option.map_some]
  · rename_i hf
    obtain ⟨hplain, hquote⟩ := formOf_literal hf
    have hline : ∀ t, '\'' :: (cs ++ '\'' :: rest) ≠ '\'' :: '\'' :: '\'' :: t := by
      intro t ht
      cases cs with
      | nil =>
        cases ht
        exact h' rfl
      | cons c cs =>
        simp only [List.cons_append, List.cons.injEq] at ht
        exact hquote (ht.2.1 ▸ List.mem_cons_self)
    rw [List.cons_append, List.cons_append, List.append_assoc, List.singleton_append,
      string?_eq_lineString? (by simp) hline, lineString?, literalRest_plain hplain hquote,
      Option.map_some]
  · have hbody : skipNewline (opening cs ++ (multiBasicLetters 0 cs ++ closing '"' rest)) = _ :=
      skipNewline_opening fun hno => head_multiBasicLetters hno rest
    simp only [List.append_assoc, List.cons_append, List.nil_append, string?]
    rw [closing] at hbody
    rw [hbody, ← closing, multiBasicRest_letters h, Option.map_some]
  · rename_i hf
    obtain ⟨hlines, hrun⟩ := formOf_multiLiteral hf
    have hbody : skipNewline (opening cs ++ (cs ++ closing '\'' rest)) = _ :=
      skipNewline_opening fun hno => head_literal hlines hno rest
    simp only [List.append_assoc, List.cons_append, List.nil_append, string?]
    rw [closing] at hbody
    rw [hbody, ← closing, multiLiteralRest_letters h' hlines hrun, Option.map_some]

end ChordDrill.Toml
