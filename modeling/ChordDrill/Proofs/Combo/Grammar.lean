import ChordDrill.Combo.Reader
import ChordDrill.Proofs.Combo.Discipline
import ChordDrill.Proofs.Combo.Written

/-!
# ChordDrill.Proofs.Combo.Grammar

The reader accepts just the texts of the grammar: lists of written tokens that may all stand where
they do. The main result says which motions come out, that the tokens are fixed by the text, and
which keys the reader holds at its end.

* `Reader.Yields`  — calls of `next` that all yield a motion.
* `Reader.AtToken` — a reader between two tokens; only there a text is taken apart.

From a reader between two tokens, a token that may stand yields its motions and leads to the next
such reader (`AtToken.yields_token`); a run of characters that is no token, or a token that may not
stand, ends the reading with its fault. Both directions follow by induction, on the written tokens
(`AtToken.yields_written`) and on the characters left (`AtToken.written_of_collect`).
-/

namespace ChordDrill.Combo

namespace Reader

inductive Yields : Reader → List Motion → Reader → Prop where
  | refl {r : Reader} : Yields r [] r
  | cons {r r' r'' : Reader} {m : Motion} {ms : List Motion} :
      r.next = (some (.ok m), r') → Yields r' ms r'' → Yields r (m :: ms) r''

structure AtToken (r : Reader) : Prop where
  pending : r.pending = none
  failed : r.failed = false

variable {r r' r'' : Reader} {m : Motion} {ms ms' : List Motion} {e : Fault} {t : Token}
  {held : List Key}

theorem atToken_ofText (s : String) : AtToken (ofText s) := ⟨rfl, rfl⟩

/-! ## Collecting what is yielded -/

theorem collect_of_none (h : r.next.1 = none) : r.collect = .ok [] := by
  rw [collect]
  split
  · rfl
  · rename_i hn
    rw [hn] at h
    cases h
  · rename_i hn
    rw [hn] at h
    cases h

theorem collect_of_fault (h : r.next = (some (.error e), r')) : r.collect = .error e := by
  rw [collect]
  split
  · rename_i hn
    rw [h] at hn
    cases hn
  · rename_i hn
    rw [h] at hn
    cases hn
    rfl
  · rename_i hn
    rw [h] at hn
    cases hn

theorem collect_of_motion (h : r.next = (some (.ok m), r')) :
    r.collect =
      match r'.collect with
      | .ok ms => .ok (m :: ms)
      | .error e => .error e := by
  rw [collect]
  split
  · rename_i hn
    rw [h] at hn
    cases hn
  · rename_i hn
    rw [h] at hn
    cases hn
  · rename_i hn
    rw [h] at hn
    cases hn
    rfl

namespace Yields

theorem trans (h : Yields r ms r') (h' : Yields r' ms' r'') : Yields r (ms ++ ms') r'' := by
  induction h with
  | refl => exact h'
  | cons hn _ ih => exact .cons hn (ih h')

theorem collect_ok (h : Yields r ms r') (hc : r'.collect = .ok ms') :
    r.collect = .ok (ms ++ ms') := by
  induction h with
  | refl => exact hc
  | cons hn _ ih =>
    rw [collect_of_motion hn, ih hc]
    rfl

theorem collect_error (h : Yields r ms r') (hc : r'.collect = .error e) :
    r.collect = .error e := by
  induction h with
  | refl => exact hc
  | cons hn _ ih => rw [collect_of_motion hn, ih hc]

theorem after_length (h : Yields r ms r') : r.after ms.length = r' := by
  induction h with
  | refl => rfl
  | cons hn _ ih => rw [List.length_cons, after, hn, ih]

end Yields

theorem after_add (r : Reader) (n k : Nat) : r.after (n + k) = (r.after n).after k := by
  induction n generalizing r with
  | zero => rw [Nat.zero_add, after]
  | succ n ih =>
    rw [Nat.succ_add, after, after]
    exact ih r.next.2

theorem after_of_end (h : r.next = (none, r)) (n : Nat) : r.after n = r := by
  induction n with
  | zero => rfl
  | succ n ih => rw [after, h, ih]

/-! ## Between two tokens -/

namespace AtToken

theorem next_of_end (h : AtToken r) (hr : r.rest = []) : r.next = (none, r) := by
  simp only [next, h.pending, h.failed, hr, List.isEmpty_nil, Bool.or_true, if_true]

theorem next_of_rest (h : AtToken r) (hr : r.rest ≠ []) :
    r.next = (some r.readToken.1, r.readToken.2) := by
  have hempty : r.rest.isEmpty = false := by
    cases hc : r.rest with
    | nil => exact absurd hc hr
    | cons c cs => rfl
  simp only [next, h.pending, h.failed, hempty, Bool.or_false, Bool.false_eq_true, if_false]

theorem collect_of_unread (h : AtToken r) (hr : r.rest ≠ [])
    (ht : Token.ofRuns r.run r.raw = .error e) : r.collect = .error e := by
  have hn := h.next_of_rest hr
  simp only [readToken, ht] at hn
  exact collect_of_fault hn

theorem collect_of_refused (h : AtToken r) (hr : r.rest ≠ [])
    (ht : Token.ofRuns r.run r.raw = .ok t) (ha : t.act r.held = .error e) :
    r.collect = .error e := by
  have hn := h.next_of_rest hr
  simp only [readToken, ht, ha] at hn
  exact collect_of_fault hn

theorem skip (h : AtToken r) (held : List Key) : AtToken { r.skip with held := held } :=
  ⟨h.pending, h.failed⟩

/-- A token that may stand yields its motions. A tap needs two calls: the second one pays the
release that the first one owes. -/
theorem yields_token (h : AtToken r) (hr : r.rest ≠ [])
    (ht : Token.ofRuns r.run r.raw = .ok t) (ha : t.act r.held = .ok held) :
    Yields r t.motions { r.skip with held := held } := by
  have hn := h.next_of_rest hr
  simp only [readToken, ht, ha] at hn
  cases t with
  | press k => exact .cons hn .refl
  | release k => exact .cons hn .refl
  | tap k =>
    have hpaid : Reader.next { r.skip with held := held, pending := some (.release k) } =
        (some (.ok (.release k)), { r.skip with held := held }) := by
      have hskip : r.skip.pending = none := h.pending
      simp only [next, hskip]
    exact .cons hn (.cons hpaid .refl)

variable {w : Written} {ws : List Written} {tail : List Char}

theorem ofRuns_written (hr : r.rest = w.letters ++ tail) (ho : Opens tail) :
    Token.ofRuns r.run r.raw = .ok w.token := by
  rw [Token.ofRuns_eq_ok_iff, run, raw, hr, w.takeWhile_letters, w.dropWhile_letters,
    w.takeWhile_spelling ho]
  exact ⟨rfl, w.spells⟩

theorem skip_written (hr : r.rest = w.letters ++ tail) (ho : Opens tail) :
    r.skip.rest = tail := by
  rw [Reader.skip, hr, w.dropWhile_letters, w.dropWhile_spelling ho]

theorem rest_ne_nil (hr : r.rest = w.letters ++ tail) : r.rest ≠ [] := by
  rw [hr]
  intro h
  exact w.letters_ne_nil (List.append_eq_nil_iff.mp h).1

/-- Tokens that may all stand yield their motions, whatever follows them, if it cannot be taken for
a part of the last one. -/
theorem yields_before (h : AtToken r) (hr : r.rest = lettersOf ws ++ tail) (ho : Opens tail)
    (hp : replay r.held (ws.map Written.token) = .ok held) :
    ∃ r', Yields r (ws.flatMap fun w => w.token.motions) r' ∧ AtToken r' ∧
      r'.rest = tail ∧ r'.held = held := by
  induction ws generalizing r with
  | nil =>
    cases hp
    exact ⟨r, .refl, h, hr, rfl⟩
  | cons w ws ih =>
    have hr' : r.rest = w.letters ++ (lettersOf ws ++ tail) := by
      rw [hr, lettersOf_cons, List.append_assoc]
    have ho' := ho.lettersOf_append ws
    simp only [List.map_cons, replay] at hp
    split at hp
    · rename_i next ha
      have hy := h.yields_token (rest_ne_nil hr') (ofRuns_written hr' ho') ha
      obtain ⟨r', hy', hat, hend, hheld⟩ := ih (h.skip next) (skip_written hr' ho') hp
      exact ⟨r', hy.trans hy', hat, hend, hheld⟩
    · cases hp

/-- A text of tokens that may all stand yields their motions and nothing else. -/
theorem yields_written (h : AtToken r) (hr : r.rest = lettersOf ws)
    (hp : replay r.held (ws.map Written.token) = .ok held) :
    ∃ r', Yields r (ws.flatMap fun w => w.token.motions) r' ∧ AtToken r' ∧ r'.rest = [] ∧
      r'.held = held := by
  have hr' : r.rest = lettersOf ws ++ [] := by rw [hr, List.append_nil]
  exact h.yields_before hr' opens_nil hp

/-- A text of tokens of which one may not stand ends with the fault of the first one. -/
theorem collect_written_error (h : AtToken r) (hr : r.rest = lettersOf ws)
    (hp : replay r.held (ws.map Written.token) = .error e) : r.collect = .error e := by
  induction ws generalizing r with
  | nil => cases hp
  | cons w ws ih =>
    have ho := opens_lettersOf ws
    simp only [List.map_cons, replay] at hp
    split at hp
    · rename_i next ha
      have hy := h.yields_token (rest_ne_nil hr) (ofRuns_written hr ho) ha
      exact hy.collect_error (ih (h.skip next) (skip_written hr ho) hp)
    · rename_i e' ha
      cases hp
      exact h.collect_of_refused (rest_ne_nil hr) (ofRuns_written hr ho) ha

/-- Whatever is read without a fault is a text of tokens that may all stand. By induction on the
characters left; the reader takes the two runs apart, and they make up a written token. -/
theorem written_of_collect (h : AtToken r) (hc : r.collect = .ok ms) :
    ∃ ws held, r.rest = lettersOf ws ∧ replay r.held (ws.map Written.token) = .ok held ∧
      ms = ws.flatMap fun w => w.token.motions := by
  induction hn : r.rest.length using Nat.strongRecOn generalizing r ms with
  | ind n ih =>
    by_cases hr : r.rest = []
    · rw [collect_of_none (by rw [h.next_of_end hr])] at hc
      cases hc
      exact ⟨[], r.held, hr, rfl, rfl⟩
    · cases ht : Token.ofRuns r.run r.raw with
      | error e =>
        rw [h.collect_of_unread hr ht] at hc
        cases hc
      | ok t =>
        cases ha : t.act r.held with
        | error e =>
          rw [h.collect_of_refused hr ht ha] at hc
          cases hc
        | ok next =>
          have hy := h.yields_token hr ht ha
          cases hc' : ({ r.skip with held := next } : Reader).collect with
          | error e =>
            rw [hy.collect_error hc'] at hc
            cases hc
          | ok ms' =>
            rw [hy.collect_ok hc'] at hc
            cases hc
            obtain ⟨ws, held, hrest, hp, hms⟩ :=
              ih r.skip.rest.length (hn ▸ rest_skip_lt r hr) (h.skip next) hc' rfl
            obtain ⟨hmarks, hspells⟩ := Token.ofRuns_eq_ok_iff.mp ht
            refine ⟨⟨t, r.raw, hspells⟩ :: ws, held, ?_, ?_, ?_⟩
            · rw [lettersOf_cons, ← hrest, Written.letters, ← hmarks, List.append_assoc]
              exact (runs_append_skip r).symm
            · simp only [List.map_cons, replay, ha]
              exact hp
            · rw [List.flatMap_cons, ← hms]

end AtToken

end Reader

/-! ## The grammar -/

/-- The motions of a list of written tokens. -/
def motionsOf (ws : List Written) : List Motion := ws.flatMap fun w => w.token.motions

variable {s : String} {ws : List Written} {H : Finset Key}

/-- The whole reading of a legal text, from its first character to its end. -/
theorem yields_of_legal (hs : s.toList = lettersOf ws) (hl : Legal ∅ (ws.map Written.token) H) :
    ∃ r, (Reader.ofText s).Yields (motionsOf ws) r ∧ r.next = (none, r) ∧ r.held.toFinset = H := by
  have hl' : Legal ([] : List Key).toFinset (ws.map Written.token) H := hl
  obtain ⟨held, hp, hH⟩ := legal_iff_replay.mp hl'
  obtain ⟨r, hy, hat, hend, hheld⟩ := (Reader.atToken_ofText s).yields_written hs hp
  exact ⟨r, hy, hat.next_of_end hend, hheld ▸ hH⟩

theorem parse_of_legal (hs : s.toList = lettersOf ws) (hl : Legal ∅ (ws.map Written.token) H) :
    parse s = .ok (motionsOf ws) := by
  obtain ⟨r, hy, hend, _⟩ := yields_of_legal hs hl
  have hc := hy.collect_ok (Reader.collect_of_none (by rw [hend]))
  rw [List.append_nil] at hc
  exact hc

theorem parse_of_offends {e : Fault} (hs : s.toList = lettersOf ws)
    (ho : Offends ∅ (ws.map Written.token) e) : parse s = .error e := by
  have ho' : Offends ([] : List Key).toFinset (ws.map Written.token) e := ho
  exact (Reader.atToken_ofText s).collect_written_error hs (replay_eq_error_iff.mpr ho')

theorem legal_of_parse {ms : List Motion} (h : parse s = .ok ms) :
    ∃ ws H, s.toList = lettersOf ws ∧ Legal ∅ (ws.map Written.token) H ∧ ms = motionsOf ws := by
  obtain ⟨ws, held, hs, hp, hms⟩ := (Reader.atToken_ofText s).written_of_collect h
  exact ⟨ws, held.toFinset, hs, legal_of_replay hp, hms⟩

/-- Behind some tokens of a text the reader holds what they leave held. -/
theorem held_after {ws' : List Written} {held : List Key} (hs : s.toList = lettersOf (ws ++ ws'))
    (hp : replay [] (ws.map Written.token) = .ok held) :
    ((Reader.ofText s).after (motionsOf ws).length).held = held := by
  have hs' : (Reader.ofText s).rest = lettersOf ws ++ lettersOf ws' := by
    rw [← lettersOf_append, ← hs, Reader.ofText]
  obtain ⟨r, hy, _, _, hheld⟩ :=
    (Reader.atToken_ofText s).yields_before hs' (opens_lettersOf ws') hp
  rw [motionsOf, hy.after_length, hheld]

theorem held_at_end {held : List Key} {n : Nat} (hs : s.toList = lettersOf ws)
    (hp : replay [] (ws.map Written.token) = .ok held) (hn : (motionsOf ws).length ≤ n) :
    ((Reader.ofText s).after n).next.1 = none ∧ ((Reader.ofText s).after n).held = held := by
  obtain ⟨r, hy, hat, hend, hheld⟩ := (Reader.atToken_ofText s).yields_written hs hp
  have hstop := hat.next_of_end hend
  obtain ⟨k, rfl⟩ := Nat.exists_eq_add_of_le hn
  rw [Reader.after_add, motionsOf, hy.after_length, Reader.after_of_end hstop, hstop]
  exact ⟨rfl, hheld⟩

/-- The reader accepts the texts of the grammar and no others, yields the motions of their tokens,
and holds at its end what the discipline holds there. A text has at most one list of tokens. -/
theorem parse_eq_ok_iff_written (s : String) (ms : List Motion) :
    (parse s = .ok ms ↔
      ∃ ws H, s.toList = lettersOf ws ∧ Legal ∅ (ws.map Written.token) H ∧ ms = motionsOf ws) ∧
    (∀ ws ws', s.toList = lettersOf ws → s.toList = lettersOf ws' → ws = ws') ∧
    (∀ ws H, s.toList = lettersOf ws → Legal ∅ (ws.map Written.token) H →
      ∀ n, (motionsOf ws).length ≤ n →
        ((Reader.ofText s).after n).next.1 = none ∧
        ((Reader.ofText s).after n).held.toFinset = H) := by
  refine ⟨⟨legal_of_parse, ?_⟩, ?_, ?_⟩
  · rintro ⟨ws, H, hs, hl, rfl⟩
    exact parse_of_legal hs hl
  · intro ws ws' hs hs'
    exact lettersOf_injective (hs.symm.trans hs')
  · intro ws H hs hl n hn
    obtain ⟨r, hy, hend, hH⟩ := yields_of_legal hs hl
    have hafter : (Reader.ofText s).after n = r := by
      obtain ⟨k, rfl⟩ := Nat.exists_eq_add_of_le hn
      rw [Reader.after_add, hy.after_length, Reader.after_of_end hend]
    rw [hafter, hend]
    exact ⟨rfl, hH⟩

/-- A tap under a synonym while another key is held. -/
theorem parse_ctrl_tap_tab :
    parse "↓ctrl↓↑\t" = .ok [.press .ctrl, .press .tab, .release .tab] ∧
    ((Reader.ofText "↓ctrl↓↑\t").after 3).held.toFinset = {.ctrl} := by
  let ws : List Written := [.ofToken (.press .ctrl), ⟨.tap .tab, ['\t'], .tab⟩]
  have hs : "↓ctrl↓↑\t".toList = lettersOf ws := by decide
  have hl : Legal ∅ (ws.map Written.token) (insert Key.ctrl ∅) :=
    .cons (.press (by decide)) (.cons .tap .nil)
  have h := parse_eq_ok_iff_written "↓ctrl↓↑\t" [.press .ctrl, .press .tab, .release .tab]
  exact ⟨h.1.mpr ⟨ws, _, hs, hl, rfl⟩, (h.2.2 ws _ hs hl 3 (by decide)).2⟩

end ChordDrill.Combo
