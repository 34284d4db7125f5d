import ChordDrill.Combo.Token

/-!
# ChordDrill.Proofs.Combo.Written

Combos as texts, said without a reader.

* `Key.Spells`      — the texts that stand for a key.
* `Combo.Written`   — a token as it is written, with a spelling of its key.
* `Combo.lettersOf` — the text of a list of written tokens.

No spelling is empty and none holds a mark, so the marks of a token end where its spelling begins
and the spelling ends at the next mark (`Written.takeWhile_letters` and its companions). Hence a
text has at most one list of written tokens (`lettersOf_injective`).
-/

namespace ChordDrill

namespace Key

/-- A key is spelled by its canonical name; three keys have a character as well. -/
inductive Spells : Key → List Char → Prop where
  | canonical (k : Key) : Spells k k.name.toList
  | tab : Spells .tab ['\t']
  | enter : Spells .enter ['\r']
  | space : Spells .space [' ']

theorem read?_letters (k : Key) : read? k.letters = some k := by
  have h : ∀ j ∈ all, read? j.letters = some j := by decide +kernel
  exact h k (mem_all k)

theorem letters_unmarked (k : Key) :
    k.letters ≠ [] ∧ ∀ c ∈ k.letters, Combo.isMark c = false := by
  have h : ∀ j ∈ all, j.letters ≠ [] ∧ j.letters.any Combo.isMark = false := by
    decide +kernel
  obtain ⟨hne, hany⟩ := h k (mem_all k)
  exact ⟨hne, fun c hc => eq_false_of_ne_true (List.any_eq_false.mp hany c hc)⟩

theorem read?_eq_some_iff {raw : List Char} {k : Key} : read? raw = some k ↔ Spells k raw := by
  constructor
  · intro h
    unfold read? at h
    split at h
    · rename_i p hp
      have hraw := List.find?_some hp
      simp only [beq_iff_eq] at hraw
      have hmem := List.mem_of_find?_eq_some hp
      simp only [synonyms, List.mem_cons, List.not_mem_nil, or_false] at hmem
      subst hraw
      rcases hmem with rfl | rfl | rfl
      · cases h
        exact .tab
      · cases h
        exact .enter
      · cases h
        exact .space
    · have hraw := List.find?_some h
      simp only [beq_iff_eq] at hraw
      rw [← hraw]
      exact .canonical k
  · intro h
    cases h with
    | canonical => exact read?_letters k
    | tab => rfl
    | enter => rfl
    | space => rfl

namespace Spells

variable {k j : Key} {raw : List Char}

/-- A text spells at most one key. -/
theorem unique (h : Spells k raw) (h' : Spells j raw) : k = j := by
  have he := read?_eq_some_iff.mpr h
  rw [read?_eq_some_iff.mpr h'] at he
  cases he
  rfl

theorem ne_nil (h : Spells k raw) : raw ≠ [] := by
  cases h with
  | canonical => exact (letters_unmarked k).1
  | tab => exact List.cons_ne_nil _ _
  | enter => exact List.cons_ne_nil _ _
  | space => exact List.cons_ne_nil _ _

theorem not_isMark (h : Spells k raw) : ∀ c ∈ raw, Combo.isMark c = false := by
  cases h with
  | canonical => exact (letters_unmarked k).2
  | tab => exact List.forall_mem_singleton.mpr rfl
  | enter => exact List.forall_mem_singleton.mpr rfl
  | space => exact List.forall_mem_singleton.mpr rfl

end Spells

end Key

namespace Combo

/-- A token as it is written: its marks and a spelling of its key. -/
structure Written where
  token : Token
  spelling : List Char
  spells : token.key.Spells spelling

/-- A text that is empty or begins with a mark: what may follow a written token. -/
def Opens (cs : List Char) : Prop := ∀ c, cs.head? = some c → isMark c = true

namespace Token

variable {t u : Token}

theorem marks_ne_nil (t : Token) : t.marks ≠ [] := by
  cases t <;> exact List.cons_ne_nil _ _

theorem isMark_of_mem_marks (t : Token) : ∀ c ∈ t.marks, isMark c = true := by
  cases t <;> simp [marks, isMark]

/-- The marks tell the kind of a token. -/
theorem eq_of_marks_eq (hm : t.marks = u.marks) (hk : t.key = u.key) : t = u := by
  cases t <;> cases u <;> simp_all [marks, key, pressMark, releaseMark]

theorem of_ofMarks? {run : List Char} {make : Key → Token} (h : ofMarks? run = some make)
    (k : Key) : run = (make k).marks ∧ (make k).key = k := by
  unfold ofMarks? at h
  split at h
  · rename_i hrun
    cases h
    exact ⟨hrun, rfl⟩
  · split at h
    · rename_i hrun
      cases h
      exact ⟨hrun, rfl⟩
    · split at h
      · rename_i hrun
        cases h
        exact ⟨hrun, rfl⟩
      · cases h

theorem ofMarks?_marks (t : Token) : ∃ make, ofMarks? t.marks = some make ∧ make t.key = t := by
  cases t with
  | press k => exact ⟨.press, rfl, rfl⟩
  | release k => exact ⟨.release, rfl, rfl⟩
  | tap k => exact ⟨.tap, rfl, rfl⟩

theorem ofRuns_eq_ok_iff {run raw : List Char} :
    ofRuns run raw = .ok t ↔ run = t.marks ∧ t.key.Spells raw := by
  rw [← Key.read?_eq_some_iff]
  constructor
  · intro h
    unfold ofRuns at h
    split at h
    · cases h
    · rename_i make hmake
      split at h
      · rename_i k hk
        cases h
        obtain ⟨hrun, hkey⟩ := of_ofMarks? hmake k
        exact ⟨hrun, by rw [hkey]; exact hk⟩
      · cases h
  · rintro ⟨rfl, hk⟩
    obtain ⟨make, hmake, ht⟩ := t.ofMarks?_marks
    simp only [ofRuns, hmake, hk, ht]

end Token

namespace Written

def letters (w : Written) : List Char := w.token.marks ++ w.spelling

/-- A token under its canonical name. -/
def ofToken (t : Token) : Written := ⟨t, t.key.letters, .canonical t.key⟩

variable {w w' : Written} {rest : List Char}

theorem ext (ht : w.token = w'.token) (hs : w.spelling = w'.spelling) : w = w' := by
  cases w
  cases w'
  cases ht
  cases hs
  rfl

theorem letters_ne_nil (w : Written) : w.letters ≠ [] := by
  simp [letters, Token.marks_ne_nil]

theorem opens_letters (w : Written) (rest : List Char) : Opens (w.letters ++ rest) := by
  intro c hc
  obtain ⟨m, ms, hm⟩ := List.exists_cons_of_ne_nil w.token.marks_ne_nil
  have hmem : m ∈ w.token.marks := by rw [hm]; exact List.mem_cons_self
  rw [letters, hm, List.cons_append, List.cons_append, List.head?_cons] at hc
  cases hc
  exact w.token.isMark_of_mem_marks c hmem

/-- The spelling of a key does not begin with a mark. -/
theorem head_spelling (w : Written) (rest : List Char) :
    ∃ c cs, w.spelling ++ rest = c :: cs ∧ isMark c = false := by
  obtain ⟨c, cs, hc⟩ := List.exists_cons_of_ne_nil w.spells.ne_nil
  refine ⟨c, cs ++ rest, by rw [hc, List.cons_append], w.spells.not_isMark c ?_⟩
  rw [hc]
  exact List.mem_cons_self

theorem takeWhile_letters (w : Written) (rest : List Char) :
    (w.letters ++ rest).takeWhile isMark = w.token.marks := by
  obtain ⟨c, cs, hcs, hc⟩ := w.head_spelling rest
  rw [letters, List.append_assoc, List.takeWhile_append_of_pos w.token.isMark_of_mem_marks, hcs,
    List.takeWhile_cons_of_neg (by rw [hc]; exact Bool.false_ne_true), List.append_nil]

theorem dropWhile_letters (w : Written) (rest : List Char) :
    (w.letters ++ rest).dropWhile isMark = w.spelling ++ rest := by
  obtain ⟨c, cs, hcs, hc⟩ := w.head_spelling rest
  rw [letters, List.append_assoc, List.dropWhile_append_of_pos w.token.isMark_of_mem_marks, hcs,
    List.dropWhile_cons_of_neg (by rw [hc]; exact Bool.false_ne_true)]

theorem not_isMark_spelling (w : Written) : ∀ c ∈ w.spelling, (!isMark c) = true := by
  intro c hc
  rw [w.spells.not_isMark c hc]
  rfl

theorem takeWhile_spelling (w : Written) (h : Opens rest) :
    (w.spelling ++ rest).takeWhile (fun c => !isMark c) = w.spelling := by
  rw [List.takeWhile_append_of_pos w.not_isMark_spelling]
  cases rest with
  | nil => simp
  | cons c cs =>
    rw [List.takeWhile_cons_of_neg (by rw [h c rfl]; exact Bool.false_ne_true), List.append_nil]

theorem dropWhile_spelling (w : Written) (h : Opens rest) :
    (w.spelling ++ rest).dropWhile (fun c => !isMark c) = rest := by
  rw [List.dropWhile_append_of_pos w.not_isMark_spelling]
  cases rest with
  | nil => rfl
  | cons c cs => rw [List.dropWhile_cons_of_neg (by rw [h c rfl]; exact Bool.false_ne_true)]

end Written

/-- The text of a list of written tokens. -/
def lettersOf (ws : List Written) : List Char := ws.flatMap Written.letters

@[simp] theorem lettersOf_nil : lettersOf [] = [] := rfl

@[simp] theorem lettersOf_cons (w : Written) (ws : List Written) :
    lettersOf (w :: ws) = w.letters ++ lettersOf ws := rfl

theorem lettersOf_append (ws ws' : List Written) :
    lettersOf (ws ++ ws') = lettersOf ws ++ lettersOf ws' := List.flatMap_append

theorem opens_nil : Opens [] := by
  intro c hc
  cases hc

theorem Opens.lettersOf_append {tail : List Char} (h : Opens tail) (ws : List Written) :
    Opens (lettersOf ws ++ tail) := by
  cases ws with
  | nil => exact h
  | cons w ws =>
    rw [lettersOf_cons, List.append_assoc]
    exact w.opens_letters _

theorem opens_lettersOf (ws : List Written) : Opens (lettersOf ws) := by
  rw [← List.append_nil (lettersOf ws)]
  exact opens_nil.lettersOf_append ws

/-- A text has at most one list of written tokens. -/
theorem lettersOf_injective {ws ws' : List Written} (h : lettersOf ws = lettersOf ws') :
    ws = ws' := by
  induction ws generalizing ws' with
  | nil =>
    cases ws' with
    | nil => rfl
    | cons w' ws' =>
      have := (List.append_eq_nil_iff.mp h.symm).1
      exact absurd this w'.letters_ne_nil
  | cons w ws ih =>
    cases ws' with
    | nil =>
      have := (List.append_eq_nil_iff.mp h).1
      exact absurd this w.letters_ne_nil
    | cons w' ws' =>
      simp only [lettersOf_cons] at h
      have hmarks := congrArg (List.takeWhile isMark) h
      rw [w.takeWhile_letters, w'.takeWhile_letters] at hmarks
      have htail := congrArg (List.dropWhile isMark) h
      rw [w.dropWhile_letters, w'.dropWhile_letters] at htail
      have hspelling := congrArg (List.takeWhile fun c => !isMark c) htail
      rw [w.takeWhile_spelling (opens_lettersOf ws),
        w'.takeWhile_spelling (opens_lettersOf ws')] at hspelling
      have hrest := congrArg (List.dropWhile fun c => !isMark c) htail
      rw [w.dropWhile_spelling (opens_lettersOf ws),
        w'.dropWhile_spelling (opens_lettersOf ws')] at hrest
      have hkey : w.token.key = w'.token.key :=
        w.spells.unique (by rw [hspelling]; exact w'.spells)
      rw [Written.ext (Token.eq_of_marks_eq hmarks hkey) hspelling, ih hrest]

end Combo

end ChordDrill
