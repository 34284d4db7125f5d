import ChordDrill.Combo.Printer
import ChordDrill.Proofs.Combo.RoundTrip

/-!
# ChordDrill.Proofs.Combo.Rendering

Both texts of a list of motions tell the motions, also where no reader would accept the text.

* `compact_injective`       — a text has no two lists of written tokens (`lettersOf_injective`), and
  the tokens of a list of motions stand for just these motions.
* `toList_pretty_filter_ne` — the text for the screen is the other one with separators put in, for
  no token contains one. So it tells as much.
-/

namespace ChordDrill.Combo

theorem separator_notMem_key (k : Key) : separator ∉ k.letters := by
  have h : ∀ j ∈ Key.all, separator ∉ j.letters := by decide +kernel
  exact h k k.mem_all

theorem separator_notMem_token (t : Token) : separator ∉ t.letters := by
  have hmarks : separator ∉ t.marks := by
    cases t with
    | press _ => exact (by decide : separator ∉ [pressMark])
    | release _ => exact (by decide : separator ∉ [releaseMark])
    | tap _ => exact (by decide : separator ∉ [pressMark, releaseMark])
  rw [Token.letters, List.mem_append, not_or]
  exact ⟨hmarks, separator_notMem_key t.key⟩

theorem filter_ne_separator {cs : List Char} (h : separator ∉ cs) :
    cs.filter (· ≠ separator) = cs := by
  rw [List.filter_eq_self]
  intro c hc
  exact decide_eq_true fun he => h (he ▸ hc)

/-- Between parts without separators, deleting the separators puts the parts together. -/
theorem filter_intercalate_separator {parts : List (List Char)}
    (h : ∀ part ∈ parts, separator ∉ part) :
    (List.intercalate [separator] parts).filter (· ≠ separator) = parts.flatten := by
  induction parts with
  | nil => rfl
  | cons part parts ih =>
    obtain ⟨hpart, hparts⟩ := List.forall_mem_cons.mp h
    cases parts with
    | nil => rw [List.intercalate_singleton, filter_ne_separator hpart, List.flatten_singleton]
    | cons next parts =>
      have hsep : [separator].filter (· ≠ separator) = [] := by decide
      rw [List.intercalate_cons_cons, List.filter_append, List.filter_append,
        filter_ne_separator hpart, hsep, ih hparts, List.append_nil, ← List.flatten_cons]

theorem toList_pretty_filter_ne (ms : List Motion) :
    (pretty ms).toList.filter (· ≠ separator) = (compact ms).toList := by
  have hparts : ∀ part ∈ (tokenize ms).map Token.letters, separator ∉ part := by
    intro part hp
    obtain ⟨t, _, rfl⟩ := List.mem_map.mp hp
    exact separator_notMem_token t
  rw [pretty, String.toList_ofList, prettyLetters, filter_intercalate_separator hparts, compact,
    String.toList_ofList, compactLetters, List.flatMap_def]

theorem compact_injective : Function.Injective compact := by
  intro ms ms' h
  have hwritten : writtenOf ms = writtenOf ms' := by
    apply lettersOf_injective
    rw [← toList_compact, ← toList_compact, h]
  rw [← motionsOf_writtenOf ms, hwritten, motionsOf_writtenOf]

theorem pretty_injective : Function.Injective pretty := by
  intro ms ms' h
  apply compact_injective
  rw [← String.toList_inj, ← toList_pretty_filter_ne, h, toList_pretty_filter_ne]

/-- Neither text is shared by two lists of motions, and deleting the separators from the text for
the screen gives the one for files. -/
theorem texts_tell_motions :
    Function.Injective compact ∧ Function.Injective pretty ∧
    ∀ ms, String.ofList ((pretty ms).toList.filter (· ≠ separator)) = compact ms := by
  refine ⟨compact_injective, pretty_injective, fun ms => ?_⟩
  rw [toList_pretty_filter_ne, String.ofList_toList]

end ChordDrill.Combo
