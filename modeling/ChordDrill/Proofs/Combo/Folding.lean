import Mathlib.Data.List.Infix
import ChordDrill.Combo.Tokens

/-!
# ChordDrill.Proofs.Combo.Folding

Folding motions into tokens, said without an order of reading. A list of tokens is folded if no
press in it stands right before the release of its key; such a pair would be a tap. A list of
motions has one folded list of tokens that stands for it, and `tokenize` gives this list.
-/

namespace ChordDrill.Combo

def Folded (ts : List Token) : Prop := ∀ k, ¬ [Token.press k, Token.release k] <:+: ts

variable {t : Token} {ts : List Token} {ms : List Motion} {k : Key}

theorem folded_nil : Folded [] := by
  intro k h
  cases List.infix_nil.mp h

theorem folded_cons_iff : Folded (t :: ts) ↔
    (∀ k, t = .press k → ts.head? ≠ some (.release k)) ∧ Folded ts := by
  have hpair : ∀ k, [Token.press k, Token.release k] <+: t :: ts ↔
      t = .press k ∧ ts.head? = some (.release k) := by
    intro k
    rw [List.cons_prefix_cons, List.singleton_prefix_iff_head?_eq_some, eq_comm]
  simp only [Folded, List.infix_cons_iff, not_or, hpair, not_and, forall_and]

/-- Only a release begins with the release of its key. -/
theorem head?_motions : (ts.flatMap Token.motions).head? = some (.release k) ↔
    ts.head? = some (.release k) := by
  cases ts with
  | nil => simp
  | cons t ts => cases t <;> simp [Token.motions]

/-- Folding brings a folded list back. By induction on the list: behind a press the motions that
follow do not begin with the release of its key, so the press stays one. -/
theorem Folded.tokenize_motions (h : Folded ts) : tokenize (ts.flatMap Token.motions) = ts := by
  induction ts with
  | nil => rw [List.flatMap_nil, tokenize_nil]
  | cons t ts ih =>
    obtain ⟨hpress, hts⟩ := folded_cons_iff.mp h
    rw [List.flatMap_cons]
    cases t with
    | press k =>
      have hhead : (ts.flatMap Token.motions).head? ≠ some (.release k) :=
        fun hk => hpress k rfl (head?_motions.mp hk)
      show tokenize (.press k :: ts.flatMap Token.motions) = _
      rw [tokenize_press hhead, ih hts]
    | release k =>
      show tokenize (.release k :: ts.flatMap Token.motions) = _
      rw [tokenize_release, ih hts]
    | tap k =>
      show tokenize (.press k :: .release k :: ts.flatMap Token.motions) = _
      rw [tokenize_tap, ih hts]

/-- A press is split off only where the release of its key does not follow. -/
theorem head?_of_split? {rest : List Motion} (h : Tokens.split? ms = some (.press k, rest)) :
    rest.head? ≠ some (.release k) := by
  unfold Tokens.split? at h
  split at h
  · cases h
  · cases h
  · split at h
    · cases h
    · rename_i hr
      cases h
      exact hr

theorem folded_tokenize (ms : List Motion) : Folded (tokenize ms) := by
  induction ms using Tokens.splitInduction with
  | nil =>
    rw [tokenize_nil]
    exact folded_nil
  | cons t ms rest hs ih =>
    rw [tokenize_of_split? hs, folded_cons_iff]
    refine ⟨?_, ih⟩
    rintro k rfl hk
    have hrest := head?_motions.mpr hk
    rw [motions_tokenize] at hrest
    exact head?_of_split? hs hrest

/-- The tokens of a list of motions are the only folded list of tokens that stands for it. -/
theorem tokenize_eq_iff_folded (ms : List Motion) (ts : List Token) :
    tokenize ms = ts ↔ ts.flatMap Token.motions = ms ∧ Folded ts := by
  constructor
  · rintro rfl
    exact ⟨motions_tokenize ms, folded_tokenize ms⟩
  · rintro ⟨rfl, hf⟩
    exact hf.tokenize_motions

end ChordDrill.Combo
