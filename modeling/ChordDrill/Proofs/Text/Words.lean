import Mathlib.Data.List.SplitBy
import ChordDrill.Text.Blank
import ChordDrill.Text.Parts

/-!
# ChordDrill.Proofs.Text.Words

What stands between the separators of a text.

* `WordsOf` — the words of a text: as long as they can be, none of them empty.

A text has one list of words (`WordsOf.unique`). Cutting it at a character and leaving out the empty
parts gives its words between these characters (`wordsOf_splitOn`), and `words` gives those between
white space (`wordsOf_words`).
-/

namespace ChordDrill.Text

/-- The words of a text, for characters that are separators or not. Any number of separators stand
before, between and behind them. -/
inductive WordsOf (sep : Char → Bool) : List Char → List (List Char) → Prop where
  | nil : WordsOf sep [] []
  | skip {c : Char} {cs : List Char} {ws : List (List Char)} :
      sep c = true → WordsOf sep cs ws → WordsOf sep (c :: cs) ws
  | word {w cs : List Char} {ws : List (List Char)} : w ≠ [] → (∀ c ∈ w, sep c = false) →
      (∀ c ∈ cs.head?, sep c = true) → WordsOf sep cs ws → WordsOf sep (w ++ cs) (w :: ws)

variable {sep : Char → Bool} {c : Char} {w cs cs' : List Char} {ws ws' : List (List Char)}

theorem takeWhile_word (hw : ∀ c ∈ w, sep c = false) (hcs : ∀ c ∈ cs.head?, sep c = true) :
    (w ++ cs).takeWhile (fun c => !sep c) = w := by
  rw [List.takeWhile_append_of_pos (by simpa using hw)]
  cases cs with
  | nil => simp
  | cons c cs => simp [hcs c (by simp)]

namespace WordsOf

theorem of_skip (hc : sep c = true) (h : WordsOf sep (c :: cs) ws) : WordsOf sep cs ws := by
  generalize htext : c :: cs = text at h
  cases h with
  | nil => cases htext
  | skip _ h =>
    cases htext
    exact h
  | @word w _ _ hne hw _ _ =>
    obtain ⟨c', w', rfl⟩ := List.exists_cons_of_ne_nil hne
    cases htext
    rw [hw c List.mem_cons_self] at hc
    cases hc

/-- The first word is all that stands before the first separator behind it. -/
theorem of_word (hne : w ≠ []) (hw : ∀ c ∈ w, sep c = false) (hcs : ∀ c ∈ cs.head?, sep c = true)
    (h : WordsOf sep (w ++ cs) ws) : ∃ ws', ws = w :: ws' ∧ WordsOf sep cs ws' := by
  have htake := takeWhile_word hw hcs
  obtain ⟨c, w, rfl⟩ := List.exists_cons_of_ne_nil hne
  generalize htext : c :: w ++ cs = text at h
  cases h with
  | nil => cases htext
  | skip hc _ =>
    cases htext
    rw [hw c List.mem_cons_self] at hc
    cases hc
  | @word w' cs' ws' _ hw' hcs' h =>
    rw [htext, takeWhile_word hw' hcs'] at htake
    subst htake
    rw [List.append_cancel_left htext]
    exact ⟨ws', rfl, h⟩

theorem unique (h : WordsOf sep cs ws) (h' : WordsOf sep cs ws') : ws = ws' := by
  induction h generalizing ws' with
  | nil =>
    generalize htext : [] = text at h'
    cases h' with
    | nil => rfl
    | skip _ _ => cases htext
    | word hne _ _ _ => exact absurd (List.append_eq_nil_iff.mp htext.symm).1 hne
  | skip hc _ ih => exact ih (h'.of_skip hc)
  | word hne hw hcs _ ih =>
    obtain ⟨ws'', rfl, h''⟩ := h'.of_word hne hw hcs
    rw [ih h'']

theorem skip_append (hw : ∀ c ∈ w, sep c = true) (h : WordsOf sep cs ws) :
    WordsOf sep (w ++ cs) ws := by
  induction w with
  | nil => exact h
  | cons c w ih =>
    exact .skip (hw c List.mem_cons_self) (ih fun d hd => hw d (List.mem_cons_of_mem c hd))

/-- What stands between two separators is a word unless it is empty. -/
theorem run (hw : ∀ c ∈ w, sep c = false) (hcs : ∀ c ∈ cs.head?, sep c = true)
    (h : WordsOf sep cs ws) : WordsOf sep (w ++ cs) ([w].filter (· ≠ []) ++ ws) := by
  by_cases hne : w = []
  · subst hne
    exact h
  · rw [List.filter_singleton, decide_eq_true hne]
    exact .word hne hw hcs h

/-- Texts one behind the other, if the second one begins with a separator. -/
theorem append (h : WordsOf sep cs ws) (h' : WordsOf sep cs' ws')
    (hcs' : ∀ c ∈ cs'.head?, sep c = true) : WordsOf sep (cs ++ cs') (ws ++ ws') := by
  induction h with
  | nil => exact h'
  | skip hc _ ih => exact .skip hc ih
  | @word w cs ws hne hw hcs _ ih =>
    rw [List.append_assoc]
    refine .word hne hw ?_ ih
    cases cs with
    | nil => exact hcs'
    | cons c cs => exact hcs

theorem mem_of_mem (h : WordsOf sep cs ws) (hw : w ∈ ws) : ∀ c ∈ w, c ∈ cs := by
  induction h with
  | nil => cases hw
  | skip _ _ ih => exact fun c hc => List.mem_cons_of_mem _ (ih hw c hc)
  | word _ _ _ _ ih =>
    intro c hc
    rw [List.mem_append]
    rcases List.mem_cons.mp hw with rfl | hw
    · exact .inl hc
    · exact .inr (ih hw c hc)

/-- Characters in place of others, where separators stay what they are. -/
theorem map {f : Char → Char} (hf : ∀ c, sep (f c) = sep c) (h : WordsOf sep cs ws) :
    WordsOf sep (cs.map f) (ws.map (List.map f)) := by
  induction h with
  | nil => exact .nil
  | skip hc _ ih => exact .skip ((hf _).trans hc) ih
  | @word w cs ws hne hw hcs _ ih =>
    rw [List.map_append]
    refine .word (fun h => hne (List.map_eq_nil_iff.mp h)) ?_ ?_ ih
    · rw [List.forall_mem_map]
      exact fun c hc => (hf c).trans (hw c hc)
    · cases cs with
      | nil => simp
      | cons c cs =>
        rw [List.map_cons, List.head?_cons]
        intro d hd
        rw [← Option.some.inj hd, hf]
        exact hcs c rfl

end WordsOf

/-- Words joined with a separator. -/
theorem wordsOf_intercalate (hc : sep c = true)
    (hws : ∀ w ∈ ws, w ≠ [] ∧ ∀ d ∈ w, sep d = false) : WordsOf sep ([c].intercalate ws) ws := by
  induction ws with
  | nil => exact .nil
  | cons w ws ih =>
    obtain ⟨hne, hw⟩ := hws w List.mem_cons_self
    have hrest := ih fun v hv => hws v (List.mem_cons_of_mem w hv)
    cases ws with
    | nil =>
      have hone := WordsOf.word hne hw (by simp) (@WordsOf.nil sep)
      rw [List.append_nil] at hone
      rw [List.intercalate_singleton]
      exact hone
    | cons v ws =>
      rw [List.intercalate_cons_cons, List.append_assoc]
      exact .word hne hw (by simpa using hc) (.skip hc hrest)

/-- By induction on the length: the text up to the first separator is a word or empty. -/
theorem wordsOf_splitOn (sep : Char) (cs : List Char) :
    WordsOf (· == sep) cs ((cs.splitOn sep).filter (· ≠ [])) := by
  induction hn : cs.length using Nat.strong_induction_on generalizing cs with
  | _ n ih =>
    by_cases hsep : sep ∈ cs
    · obtain ⟨w, rest, rfl, hw⟩ := List.eq_append_cons_of_mem hsep
      have hlt : rest.length < n := by
        rw [← hn, List.length_append, List.length_cons]
        omega
      have hrest : WordsOf (· == sep) (sep :: rest) ((rest.splitOn sep).filter (· ≠ [])) :=
        .skip (beq_self_eq_true sep) (ih _ hlt rest rfl)
      have hrun : ∀ c ∈ w, (c == sep) = false := by
        intro c hc
        rw [beq_eq_false_iff_ne]
        rintro rfl
        exact hw hc
      have hfilter : (w :: rest.splitOn sep).filter (· ≠ []) =
          [w].filter (· ≠ []) ++ (rest.splitOn sep).filter (· ≠ []) := List.filter_append [w] _
      rw [List.splitOn_append_cons_self_of_not_mem hw, hfilter]
      exact hrest.run hrun (by simp)
    · have hrun : ∀ c ∈ cs, (c == sep) = false := by
        intro c hc
        rw [beq_eq_false_iff_ne]
        rintro rfl
        exact hsep hc
      have hsingle : cs.splitOn sep = [cs] := List.splitOnP_eq_singleton hrun
      have hcs := WordsOf.nil.run hrun (by simp)
      rw [List.append_nil, List.append_nil] at hcs
      rw [hsingle]
      exact hcs

/-! ## Runs -/

theorem sep_of_mem_run (h : (c :: cs).IsChain fun a b => sep a == sep b) {d : Char}
    (hd : d ∈ c :: cs) : sep d = sep c := by
  induction cs generalizing c with
  | nil => rw [List.mem_singleton.mp hd]
  | cons c' cs ih =>
    obtain ⟨hc, hcs⟩ := List.isChain_cons_cons.mp h
    rcases List.mem_cons.mp hd with rfl | hd
    · rfl
    · rw [ih hcs hd, eq_of_beq hc]

/-- Runs of separators are passed over, and the other runs are the words. By induction on the runs:
behind a word the next run is one of separators, as two neighbours differ. -/
theorem wordsOf_flatten {runs : List (List Char)} (hne : [] ∉ runs)
    (hsame : ∀ run ∈ runs, run.IsChain fun a b => sep a == sep b)
    (hnext : runs.IsChain fun a b =>
      ∃ (ha : a ≠ []) (hb : b ≠ []), (sep (a.getLast ha) == sep (b.head hb)) = false) :
    WordsOf sep runs.flatten (runs.filter fun run => run.any fun c => !sep c) := by
  induction runs with
  | nil => exact .nil
  | cons run runs ih =>
    have hrest := ih (fun h => hne (List.mem_cons_of_mem run h))
      (fun r hr => hsame r (List.mem_cons_of_mem run hr)) hnext.tail
    obtain ⟨c, cs, rfl⟩ := List.exists_cons_of_ne_nil fun h => hne (h ▸ List.mem_cons_self)
    have hall : ∀ d ∈ c :: cs, sep d = sep c := fun d hd =>
      sep_of_mem_run (hsame _ List.mem_cons_self) hd
    rw [List.flatten_cons]
    cases hc : sep c with
    | true =>
      have hnone : ((c :: cs).any fun d => !sep d) = false := by
        rw [List.any_eq_false]
        intro d hd
        simp [hall d hd, hc]
      rw [List.filter_cons_of_neg (by simp [hnone])]
      exact hrest.skip_append fun d hd => (hall d hd).trans hc
    | false =>
      rw [List.filter_cons_of_pos (by simp [hc])]
      refine .word (List.cons_ne_nil c cs) (fun d hd => (hall d hd).trans hc) ?_ hrest
      cases runs with
      | nil => simp
      | cons next runs =>
        obtain ⟨⟨_, hb, hdiffer⟩, _⟩ := List.isChain_cons_cons.mp hnext
        obtain ⟨c', cs', rfl⟩ := List.exists_cons_of_ne_nil hb
        have hlast := hall _ (List.getLast_mem (List.cons_ne_nil c cs))
        rw [hlast, hc, List.head_cons] at hdiffer
        simpa using hdiffer

theorem wordsOf_words (cs : List Char) : WordsOf isBlank cs (words cs) := by
  obtain ⟨hflat, hne, hsame, hnext⟩ :=
    List.splitBy_eq_iff.mp (rfl : cs.splitBy (fun a b => isBlank a == isBlank b) = _)
  have h := wordsOf_flatten hne hsame hnext
  rw [← hflat] at h
  exact h

end ChordDrill.Text
