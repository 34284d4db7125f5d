import ChordDrill.Combo.Token
import ChordDrill.Lookahead

/-!
# ChordDrill.Combo.Tokens

Motions read as tokens, with one motion of lookahead.

* `Tokens.next`    — the next token; a press followed at once by the release of its key is a tap.
* `Tokens.toList`  — all tokens that are left.
* `tokenize`       — the tokens of a list of motions, with one equation for each of its forms.
-/

namespace ChordDrill.Combo

/-- Motions read up to some place. -/
structure Tokens where
  motions : Lookahead Motion

namespace Tokens

def ofMotions (ms : List Motion) : Tokens := ⟨.ofList ms 1⟩

/-- The token that a motion opens, given the motions behind it. -/
def opened (m : Motion) (l : Lookahead Motion) : Token × Tokens :=
  match m with
  | .release k => (.release k, ⟨l⟩)
  | .press k =>
    let (ahead, l) := l.peek 1
    if ahead = some (.release k) then (.tap k, ⟨l.forward 1⟩) else (.press k, ⟨l⟩)

/-- The next token, `none` at the end. -/
def next (s : Tokens) : Option Token × Tokens :=
  match s.motions.next with
  | (none, l) => (none, ⟨l⟩)
  | (some m, l) =>
    let (t, s') := opened m l
    (some t, s')

/-- Opening a token takes no motion back. -/
theorem upcoming_opened_le (m : Motion) (l : Lookahead Motion) :
    (opened m l).2.motions.upcoming.length ≤ l.upcoming.length := by
  cases m with
  | release k => exact Nat.le_refl _
  | press k =>
    simp only [opened]
    split
    · simp [Lookahead.upcoming_forward]
    · simp

theorem upcoming_next_lt {s s' : Tokens} {t : Token} (h : s.next = (some t, s')) :
    s'.motions.upcoming.length < s.motions.upcoming.length := by
  obtain ⟨hhead, htail⟩ := Lookahead.upcoming_next s.motions
  unfold next at h
  split at h
  · cases h
  · rename_i m l hl
    rw [hl] at hhead htail
    have hs' : (opened m l).2 = s' := by
      simp only [Prod.mk.injEq] at h
      exact h.2
    have hle := upcoming_opened_le m l
    rw [hs'] at hle
    cases hu : s.motions.upcoming with
    | nil => rw [hu] at hhead; cases hhead
    | cons a ms =>
      rw [hu] at htail
      simp only [List.tail_cons] at htail
      rw [htail] at hle
      simp only [List.length_cons]
      omega

/-- All tokens that are left. -/
def toList (s : Tokens) : List Token :=
  match h : s.next with
  | (none, _) => []
  | (some t, s') =>
    have : s'.motions.upcoming.length < s.motions.upcoming.length := upcoming_next_lt h
    t :: s'.toList
termination_by s.motions.upcoming.length

end Tokens

/-- The tokens of a list of motions. -/
def tokenize (ms : List Motion) : List Token := (Tokens.ofMotions ms).toList

/-! ## The equations of `tokenize` -/

namespace Tokens

/-- The first token of a list of motions, and the motions behind it. -/
def split? : List Motion → Option (Token × List Motion)
  | [] => none
  | .release k :: ms => some (.release k, ms)
  | .press k :: ms =>
    if ms.head? = some (.release k) then some (.tap k, ms.tail) else some (.press k, ms)

variable {s s' : Tokens} {t : Token} {ms rest : List Motion}

theorem next_of_nil (h : s.motions.upcoming = []) : s.next.1 = none := by
  obtain ⟨hhead, _⟩ := Lookahead.upcoming_next s.motions
  rw [h] at hhead
  unfold next
  split
  · rfl
  · rename_i m l hl
    rw [hl] at hhead
    cases hhead

/-- With one motion of lookahead the next token is the first one of what is to come. -/
theorem next_of_split? (hc : 1 ≤ s.motions.capacity)
    (h : split? s.motions.upcoming = some (t, rest)) :
    ∃ s', s.next = (some t, s') ∧ s'.motions.upcoming = rest ∧ 1 ≤ s'.motions.capacity := by
  obtain ⟨hhead, htail⟩ := Lookahead.upcoming_next s.motions
  have hcap := Lookahead.capacity_next s.motions
  cases hu : s.motions.upcoming with
  | nil => rw [hu] at h; cases h
  | cons m ms =>
    rw [hu] at h hhead htail
    obtain ⟨first, l, hl⟩ : ∃ first l, s.motions.next = (first, l) := ⟨_, _, rfl⟩
    rw [hl] at hhead htail hcap
    simp only [List.head?_cons, List.tail_cons] at hhead htail hcap
    subst hhead
    cases m with
    | release k =>
      cases h
      exact ⟨⟨l⟩, by simp only [next, hl, opened], htail, by simpa only [hcap] using hc⟩
    | press k =>
      have hpeek : (l.peek 1).1 = ms.head? := by
        rw [Lookahead.fst_peek l (by omega) (by omega), htail, List.head?_eq_getElem?]
      simp only [split?] at h
      split at h
      · rename_i hr
        cases h
        refine ⟨⟨(l.peek 1).2.forward 1⟩, by simp only [next, hl, opened, hpeek, if_pos hr], ?_, ?_⟩
        · rw [Lookahead.upcoming_forward, Lookahead.upcoming_peek, htail, List.drop_one]
        · rw [Lookahead.capacity_forward, Lookahead.capacity_peek, hcap]
          exact hc
      · rename_i hr
        cases h
        refine ⟨⟨(l.peek 1).2⟩, by simp only [next, hl, opened, hpeek, if_neg hr], ?_, ?_⟩
        · rw [Lookahead.upcoming_peek, htail]
        · rw [Lookahead.capacity_peek, hcap]
          exact hc

theorem toList_of_next_none (h : s.next.1 = none) : s.toList = [] := by
  rw [toList]
  split
  · rfl
  · rename_i t s' hs
    rw [hs] at h
    cases h

theorem toList_of_next_some (h : s.next = (some t, s')) : s.toList = t :: s'.toList := by
  rw [toList]
  split
  · rename_i hs
    rw [h] at hs
    cases hs
  · rename_i t' s'' hs
    rw [h] at hs
    cases hs
    rfl

theorem length_split?_lt (h : split? ms = some (t, rest)) : rest.length < ms.length := by
  unfold split? at h
  split at h
  · cases h
  · cases h
    simp
  · split at h <;> cases h <;> simp only [List.length_cons, List.length_tail] <;> omega

theorem split?_eq_none (h : split? ms = none) : ms = [] := by
  unfold split? at h
  split at h
  · rfl
  · cases h
  · split at h <;> cases h

/-- A property of lists of motions holds if it passes from the motions behind a token to those
that the token opens. -/
theorem splitInduction {P : List Motion → Prop} (nil : P [])
    (cons : ∀ t ms rest, split? ms = some (t, rest) → P rest → P ms) (ms : List Motion) : P ms := by
  induction hn : ms.length using Nat.strongRecOn generalizing ms with
  | ind n ih =>
    cases hs : split? ms with
    | none =>
      rw [split?_eq_none hs]
      exact nil
    | some p =>
      obtain ⟨t, rest⟩ := p
      exact cons t ms rest hs (ih rest.length (hn ▸ length_split?_lt hs) rest rfl)

/-- The tokens that are left are those of the motions to come. -/
theorem toList_eq_tokenize (hc : 1 ≤ s.motions.capacity) :
    s.toList = tokenize s.motions.upcoming := by
  generalize hu : s.motions.upcoming = ms
  induction ms using splitInduction generalizing s with
  | nil =>
    rw [toList_of_next_none (next_of_nil hu), tokenize, toList_of_next_none (next_of_nil rfl)]
  | cons t ms rest hs ih =>
    obtain ⟨a, hna, hua, hca⟩ := next_of_split? hc (hu ▸ hs)
    obtain ⟨b, hnb, hub, hcb⟩ := next_of_split? (s := ofMotions ms) (Nat.le_refl 1) hs
    rw [toList_of_next_some hna, tokenize, toList_of_next_some hnb, ih hca hua, ih hcb hub]

theorem motions_of_split? (h : split? ms = some (t, rest)) : ms = t.motions ++ rest := by
  unfold split? at h
  split at h
  · cases h
  · cases h
    rfl
  · rename_i k ms
    split at h
    · rename_i hr
      cases h
      obtain ⟨tail, rfl⟩ := List.head?_eq_some_iff.mp hr
      rfl
    · cases h
      rfl

end Tokens

theorem tokenize_of_split? {ms rest : List Motion} {t : Token}
    (h : Tokens.split? ms = some (t, rest)) : tokenize ms = t :: tokenize rest := by
  obtain ⟨s', hs', hu, hc⟩ := Tokens.next_of_split? (s := .ofMotions ms) (Nat.le_refl 1) h
  rw [tokenize, Tokens.toList_of_next_some hs', Tokens.toList_eq_tokenize hc, hu]

@[simp] theorem tokenize_nil : tokenize [] = [] := Tokens.toList_of_next_none rfl

@[simp] theorem tokenize_release (k : Key) (ms : List Motion) :
    tokenize (.release k :: ms) = .release k :: tokenize ms :=
  tokenize_of_split? rfl

/-- A press and the release of its key right behind it are one tap. -/
@[simp] theorem tokenize_tap (k : Key) (ms : List Motion) :
    tokenize (.press k :: .release k :: ms) = .tap k :: tokenize ms :=
  tokenize_of_split? (by simp [Tokens.split?])

/-- Any other press stands on its own. -/
theorem tokenize_press {k : Key} {ms : List Motion} (h : ms.head? ≠ some (.release k)) :
    tokenize (.press k :: ms) = .press k :: tokenize ms :=
  tokenize_of_split? (by simp [Tokens.split?, h])

/-- The tokens of a list of motions stand for just these motions. -/
theorem motions_tokenize (ms : List Motion) : (tokenize ms).flatMap Token.motions = ms := by
  induction ms using Tokens.splitInduction with
  | nil => rw [tokenize_nil, List.flatMap_nil]
  | cons t ms rest hs ih =>
    rw [tokenize_of_split? hs, List.flatMap_cons, ih]
    exact (Tokens.motions_of_split? hs).symm

end ChordDrill.Combo
