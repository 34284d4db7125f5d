import ChordDrill.Combo.Printer
import ChordDrill.Proofs.Combo.Grammar

/-!
# ChordDrill.Proofs.Combo.RoundTrip

Reading what was written. The compact text of any list of motions is the text of its tokens under
their canonical names, so the grammar decides what reading it gives: the same motions if the tokens
may all stand, and else the fault of the first one that may not. The lists that come out of some
text are just those whose tokens may all stand, for folding the motions of a legal list is harmless
(`Legal.tokenize_motions`).
-/

namespace ChordDrill.Combo

/-- The tokens of a list of motions, each under its canonical name. -/
def writtenOf (ms : List Motion) : List Written := (tokenize ms).map .ofToken

theorem toList_compact (ms : List Motion) : (compact ms).toList = lettersOf (writtenOf ms) := by
  rw [compact, String.toList_ofList, compactLetters, lettersOf, writtenOf, List.flatMap_map]
  rfl

theorem map_token_writtenOf (ms : List Motion) :
    (writtenOf ms).map Written.token = tokenize ms := by
  rw [writtenOf, List.map_map]
  exact List.map_id _

theorem motionsOf_writtenOf (ms : List Motion) : motionsOf (writtenOf ms) = ms := by
  rw [motionsOf, writtenOf, List.flatMap_map]
  exact motions_tokenize ms

section

variable {ms : List Motion} {H : Finset Key} {e : Fault}

theorem parse_compact_of_legal (h : Legal ∅ (tokenize ms) H) : parse (compact ms) = .ok ms := by
  rw [← map_token_writtenOf] at h
  rw [parse_of_legal (toList_compact ms) h, motionsOf_writtenOf]

theorem parse_compact_of_offends (h : Offends ∅ (tokenize ms) e) :
    parse (compact ms) = .error e := by
  rw [← map_token_writtenOf] at h
  exact parse_of_offends (toList_compact ms) h

/-- The motions of any text that reads without a fault fold into tokens that may all stand. -/
theorem legal_tokenize_of_parse {s : String} (h : parse s = .ok ms) :
    ∃ H, Legal ∅ (tokenize ms) H := by
  obtain ⟨ws, H, _, hl, rfl⟩ := legal_of_parse h
  have hf := hl.tokenize_motions
  rw [List.flatMap_map] at hf
  exact ⟨H, hf⟩

end

theorem legal_or_offends (ts : List Token) : (∃ H, Legal ∅ ts H) ∨ ∃ e, Offends ∅ ts e := by
  cases h : replay [] ts with
  | ok held => exact .inl ⟨held.toFinset, legal_of_replay h⟩
  | error e => exact .inr ⟨e, offends_of_replay h⟩

theorem Offends.fault {H : Finset Key} {ts : List Token} {e : Fault} (h : Offends H ts e) :
    ∃ k, e = .doublePress k ∨ e = .releaseWithoutPress k := by
  induction h with
  | here hr =>
    cases hr with
    | press _ => exact ⟨_, .inl rfl⟩
    | release _ => exact ⟨_, .inr rfl⟩
  | later _ _ ih => exact ih

/-- Reading the compact text of any list of motions gives the list back if its tokens may all
stand, and the fault of the first one that may not otherwise, never another fault or other motions.
The lists that some text reads as are those whose tokens may all stand. -/
theorem parse_compact_iff_legal (ms : List Motion) :
    (∀ ms', parse (compact ms) = .ok ms' ↔ ms' = ms ∧ ∃ H, Legal ∅ (tokenize ms) H) ∧
    (∀ e, parse (compact ms) = .error e ↔ Offends ∅ (tokenize ms) e) ∧
    (∀ e, parse (compact ms) = .error e →
      ∃ k, e = .doublePress k ∨ e = .releaseWithoutPress k) ∧
    ((∃ s, parse s = .ok ms) ↔ ∃ H, Legal ∅ (tokenize ms) H) := by
  have herror : ∀ e, parse (compact ms) = .error e ↔ Offends ∅ (tokenize ms) e := by
    intro e
    refine ⟨fun h => ?_, parse_compact_of_offends⟩
    rcases legal_or_offends (tokenize ms) with ⟨H, hl⟩ | ⟨e', ho⟩
    · rw [parse_compact_of_legal hl] at h
      cases h
    · rw [parse_compact_of_offends ho] at h
      cases h
      exact ho
  refine ⟨fun ms' => ⟨fun h => ?_, ?_⟩, herror, fun e h => ((herror e).mp h).fault, ?_, ?_⟩
  · rcases legal_or_offends (tokenize ms) with ⟨H, hl⟩ | ⟨e, ho⟩
    · rw [parse_compact_of_legal hl] at h
      cases h
      exact ⟨rfl, H, hl⟩
    · rw [parse_compact_of_offends ho] at h
      cases h
  · rintro ⟨rfl, H, hl⟩
    exact parse_compact_of_legal hl
  · rintro ⟨s, hs⟩
    exact legal_tokenize_of_parse hs
  · rintro ⟨H, hl⟩
    exact ⟨compact ms, parse_compact_of_legal hl⟩

/-- A key that is held may be tapped, but not pressed twice. -/
theorem parse_compact_ctrl_twice :
    parse (compact [.press .ctrl, .press .ctrl, .release .ctrl]) =
      .ok [.press .ctrl, .press .ctrl, .release .ctrl] ∧
    parse (compact [.press .ctrl, .press .ctrl]) = .error (.doublePress .ctrl) := by
  have htap : tokenize [.press .ctrl, .press .ctrl, .release .ctrl] =
      [.press .ctrl, .tap .ctrl] := by
    rw [tokenize_press (by decide), tokenize_tap, tokenize_nil]
  have hpress : tokenize [.press .ctrl, .press .ctrl] = [.press .ctrl, .press .ctrl] := by
    rw [tokenize_press (by decide), tokenize_press (by decide), tokenize_nil]
  have hl : Legal ∅ [.press .ctrl, .tap .ctrl] (insert Key.ctrl ∅) :=
    .cons (.press (by decide)) (.cons .tap .nil)
  have ho : Offends ∅ [.press .ctrl, .press .ctrl] (.doublePress .ctrl) :=
    .later (.press (by decide)) (.here (.press (by decide)))
  exact ⟨((parse_compact_iff_legal _).1 _).mpr ⟨rfl, _, htap ▸ hl⟩,
    ((parse_compact_iff_legal _).2.1 _).mpr (hpress ▸ ho)⟩

end ChordDrill.Combo
