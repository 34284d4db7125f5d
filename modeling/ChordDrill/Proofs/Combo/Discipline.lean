import Mathlib.Data.Finset.Basic
import Mathlib.Data.Finset.Dedup
import ChordDrill.Combo.Tokens

/-!
# ChordDrill.Proofs.Combo.Discipline

Where a token may stand, said over the set of held keys.

* `Token.Moves`   — a token that may stand, and the held keys behind it.
* `Token.Refused` — a token that may not stand, and its fault.
* `Legal`         — a list of tokens that may all stand, and the held keys behind it.
* `Offends`       — a list of tokens with one that may not stand, and the fault of the first one.

`replay` decides both (`legal_iff_replay`, `replay_eq_error_iff`). Folding the motions of a legal
list again keeps it legal with the same keys held (`Legal.tokenize_motions`): a press folds only
with the release of its own key right behind it, and a tap needs and changes nothing.
-/

namespace ChordDrill.Combo

namespace Token

/-- A press adds its key, which is not held; a release takes away its key, which is held; a tap
stands anywhere and changes nothing. -/
inductive Moves : Token → Finset Key → Finset Key → Prop where
  | press {H : Finset Key} {k : Key} : k ∉ H → Moves (.press k) H (insert k H)
  | release {H : Finset Key} {k : Key} : k ∈ H → Moves (.release k) H (H.erase k)
  | tap {H : Finset Key} {k : Key} : Moves (.tap k) H H

/-- A press of a held key and a release of a key that is not held. -/
inductive Refused : Token → Finset Key → Fault → Prop where
  | press {H : Finset Key} {k : Key} : k ∈ H → Refused (.press k) H (.doublePress k)
  | release {H : Finset Key} {k : Key} : k ∉ H → Refused (.release k) H (.releaseWithoutPress k)

end Token

/-- A list of tokens that may all stand where they do. -/
inductive Legal : Finset Key → List Token → Finset Key → Prop where
  | nil {H : Finset Key} : Legal H [] H
  | cons {H H' H'' : Finset Key} {t : Token} {ts : List Token} :
      t.Moves H H' → Legal H' ts H'' → Legal H (t :: ts) H''

/-- A list of tokens whose first one out of place has this fault. -/
inductive Offends : Finset Key → List Token → Fault → Prop where
  | here {H : Finset Key} {t : Token} {ts : List Token} {e : Fault} :
      t.Refused H e → Offends H (t :: ts) e
  | later {H H' : Finset Key} {t : Token} {ts : List Token} {e : Fault} :
      t.Moves H H' → Offends H' ts e → Offends H (t :: ts) e

/-! ## The executable discipline -/

namespace Token

variable {held held' : List Key} {H : Finset Key} {t : Token} {e : Fault}

theorem moves_of_act (h : t.act held = .ok held') : t.Moves held.toFinset held'.toFinset := by
  cases t with
  | press k =>
    simp only [act] at h
    split at h
    · cases h
    · rename_i hk
      cases h
      rw [List.toFinset_cons]
      exact .press (by simpa using hk)
  | release k =>
    simp only [act] at h
    split at h
    · rename_i hk
      cases h
      have herase : (held.filter (· ≠ k)).toFinset = held.toFinset.erase k := by
        ext j
        simp [and_comm]
      rw [herase]
      exact .release (by simpa using hk)
    · cases h
  | tap k =>
    cases h
    exact .tap

theorem refused_of_act (h : t.act held = .error e) : t.Refused held.toFinset e := by
  cases t with
  | press k =>
    simp only [act] at h
    split at h
    · rename_i hk
      cases h
      exact .press (by simpa using hk)
    · cases h
  | release k =>
    simp only [act] at h
    split at h
    · cases h
    · rename_i hk
      cases h
      exact .release (by simpa using hk)
  | tap k => cases h

theorem nodup_of_act (hn : held.Nodup) (h : t.act held = .ok held') : held'.Nodup := by
  cases t with
  | press k =>
    simp only [act] at h
    split at h
    · cases h
    · rename_i hk
      cases h
      exact List.nodup_cons.mpr ⟨hk, hn⟩
  | release k =>
    simp only [act] at h
    split at h
    · cases h
      exact hn.filter _
    · cases h
  | tap k =>
    cases h
    exact hn

/-- What a token does is fixed by the held keys. -/
theorem Moves.unique {H₁ H₂ : Finset Key} (h₁ : t.Moves H H₁) (h₂ : t.Moves H H₂) : H₁ = H₂ := by
  cases h₁ <;> cases h₂ <;> rfl

/-- The fault of a token is fixed by the held keys. -/
theorem Refused.unique {e' : Fault} (h : t.Refused H e) (h' : t.Refused H e') : e = e' := by
  cases h <;> cases h' <;> rfl

/-- A token that may stand has no fault. -/
theorem Moves.not_refused {H' : Finset Key} (h : t.Moves H H') : ¬ t.Refused H e := by
  intro hr
  cases h with
  | press hk =>
    cases hr with
    | press hk' => exact hk hk'
  | release hk =>
    cases hr with
    | release hk' => exact hk' hk
  | tap => cases hr

end Token

section Replay

variable {held held' : List Key} {H H' : Finset Key} {ts : List Token} {e : Fault}

theorem legal_of_replay (h : replay held ts = .ok held') :
    Legal held.toFinset ts held'.toFinset := by
  induction ts generalizing held with
  | nil =>
    cases h
    exact .nil
  | cons t ts ih =>
    simp only [replay] at h
    split at h
    · rename_i next ha
      exact .cons (Token.moves_of_act ha) (ih h)
    · cases h

theorem nodup_of_replay (hn : held.Nodup) (h : replay held ts = .ok held') : held'.Nodup := by
  induction ts generalizing held with
  | nil =>
    cases h
    exact hn
  | cons t ts ih =>
    simp only [replay] at h
    split at h
    · rename_i next ha
      exact ih (Token.nodup_of_act hn ha) h
    · cases h

/-- The tokens before some others stand as they do without them. -/
theorem exists_replay_of_append {ts' : List Token} (h : replay held (ts ++ ts') = .ok held') :
    ∃ next, replay held ts = .ok next := by
  induction ts generalizing held with
  | nil => exact ⟨held, rfl⟩
  | cons t ts ih =>
    simp only [List.cons_append, replay] at h ⊢
    split at h
    · exact ih h
    · cases h

theorem offends_of_replay (h : replay held ts = .error e) : Offends held.toFinset ts e := by
  induction ts generalizing held with
  | nil => cases h
  | cons t ts ih =>
    simp only [replay] at h
    split at h
    · rename_i next ha
      exact .later (Token.moves_of_act ha) (ih h)
    · rename_i e' ha
      cases h
      exact .here (Token.refused_of_act ha)

theorem Legal.unique {H₁ H₂ : Finset Key} (h₁ : Legal H ts H₁) (h₂ : Legal H ts H₂) :
    H₁ = H₂ := by
  induction h₁ with
  | nil =>
    cases h₂
    rfl
  | cons hm _ ih =>
    cases h₂ with
    | cons hm' hl => exact ih (hm.unique hm' ▸ hl)

/-- A list is not both legal and out of place. -/
theorem Legal.not_offends (h : Legal H ts H') : ¬ Offends H ts e := by
  induction h with
  | nil =>
    intro ho
    cases ho
  | cons hm _ ih =>
    intro ho
    cases ho with
    | here hr => exact hm.not_refused hr
    | later hm' ho => exact ih (hm.unique hm' ▸ ho)

theorem Offends.unique {e' : Fault} (h : Offends H ts e) (h' : Offends H ts e') : e = e' := by
  induction h with
  | here hr =>
    cases h' with
    | here hr' => exact hr.unique hr'
    | later hm _ => exact absurd hr hm.not_refused
  | later hm _ ih =>
    cases h' with
    | here hr => exact absurd hr hm.not_refused
    | later hm' ho => exact ih (hm.unique hm' ▸ ho)

theorem legal_iff_replay :
    Legal held.toFinset ts H ↔ ∃ held', replay held ts = .ok held' ∧ held'.toFinset = H := by
  constructor
  · intro h
    cases hr : replay held ts with
    | ok held' => exact ⟨held', rfl, (legal_of_replay hr).unique h⟩
    | error e => exact absurd (offends_of_replay hr) h.not_offends
  · rintro ⟨held', hr, rfl⟩
    exact legal_of_replay hr

theorem replay_eq_error_iff : replay held ts = .error e ↔ Offends held.toFinset ts e := by
  constructor
  · exact offends_of_replay
  · intro h
    cases hr : replay held ts with
    | ok held' => exact absurd h (legal_of_replay hr).not_offends
    | error e' => rw [(offends_of_replay hr).unique h]

end Replay

/-! ## Folding -/

/-- Folding the motions of a legal list into tokens again keeps it legal. By induction on the
list: only a press can turn into another token, and then the release behind it undoes it. -/
theorem Legal.tokenize_motions {H H' : Finset Key} {ts : List Token} (h : Legal H ts H') :
    Legal H (tokenize (ts.flatMap Token.motions)) H' := by
  induction h with
  | nil =>
    rw [List.flatMap_nil, tokenize_nil]
    exact .nil
  | @cons H _ _ t ts hm _ ih =>
    rw [List.flatMap_cons]
    cases hm with
    | @press _ k hk =>
      by_cases hr : (ts.flatMap Token.motions).head? = some (.release k)
      · obtain ⟨ms, hms⟩ := List.head?_eq_some_iff.mp hr
        rw [hms, tokenize_release] at ih
        rw [hms]
        show Legal H (tokenize (.press k :: .release k :: ms)) _
        rw [tokenize_tap]
        cases ih with
        | cons hrel hrest =>
          cases hrel with
          | release _ =>
            rw [Finset.erase_insert hk] at hrest
            exact .cons .tap hrest
      · show Legal H (tokenize (.press k :: ts.flatMap Token.motions)) _
        rw [tokenize_press hr]
        exact .cons (.press hk) ih
    | @release _ k hk =>
      show Legal H (tokenize (.release k :: ts.flatMap Token.motions)) _
      rw [tokenize_release]
      exact .cons (.release hk) ih
    | @tap _ k =>
      show Legal H (tokenize (.press k :: .release k :: ts.flatMap Token.motions)) _
      rw [tokenize_tap]
      exact .cons .tap ih

end ChordDrill.Combo
