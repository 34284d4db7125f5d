import ChordDrill.Proofs.Combo.Grammar

/-!
# ChordDrill.Proofs.Combo.Rejection

Where reading a text breaks off, and why.

* `Spoiled`           — why a run of marks and the text behind it are no token that may stand.
* `Reader.FailsAfter` — a reader that yields some motions, one fault, and then nothing.
* `Break`             — a text taken apart: a part that reads, the two runs behind it, the rest.
* `BreaksOff`         — a text taken apart at its fault.

A text with a fault has such a taking apart, by induction on the characters left
(`AtToken.breaks_of_collect`). It has no other one: the motions yielded before the fault tell where
the reader stands, and what is left there tells the runs. The part that reads could only end too
early inside the name of its last key, and then this key would have two spellings of which one
begins the other.
-/

namespace ChordDrill

namespace Key.Spells

variable {k : Key} {raw more : List Char}

/-- No spelling of a key goes on to another one. -/
theorem eq_nil_of_append (h : Spells k raw) (h' : Spells k (raw ++ more)) : more = [] := by
  generalize hl : raw ++ more = longer at h'
  cases h with
  | canonical =>
    cases h' with
    | canonical => exact List.append_right_eq_self.mp hl
    | tab => simp [name] at hl
    | enter => simp [name] at hl
    | space => simp [name] at hl
  | tab =>
    cases h' with
    | canonical => simp [name] at hl
    | tab => simpa using hl
  | enter =>
    cases h' with
    | canonical => simp [name] at hl
    | enter => simpa using hl
  | space =>
    cases h' with
    | canonical => simp [name] at hl
    | space => simpa using hl

end Key.Spells

namespace Combo

/-! ## Faults -/

/-- The runs of marks that open a token. -/
def tokenRuns : List (List Char) := [[pressMark], [releaseMark], [pressMark, releaseMark]]

/-- The marks are judged first, then the key, and the held keys last. -/
inductive Spoiled (H : Finset Key) (marks raw : List Char) : Fault → Prop where
  | invalidMotion : marks ∉ tokenRuns → Spoiled H marks raw (.invalidMotion marks)
  | unknownKey : marks ∈ tokenRuns → (∀ k, ¬ Key.Spells k raw) →
      Spoiled H marks raw (.unknownKey raw)
  | releaseWithoutPress {k : Key} : marks = [releaseMark] → Key.Spells k raw → k ∉ H →
      Spoiled H marks raw (.releaseWithoutPress k)
  | doublePress {k : Key} : marks = [pressMark] → Key.Spells k raw → k ∈ H →
      Spoiled H marks raw (.doublePress k)

namespace Token

variable {run raw : List Char} {e : Fault} {t : Token} {m : Motion}

theorem ofMarks?_eq_none_iff : ofMarks? run = none ↔ run ∉ tokenRuns := by
  simp only [ofMarks?, tokenRuns, List.mem_cons, List.not_mem_nil, or_false, not_or]
  constructor
  · intro h
    split at h
    · cases h
    · split at h
      · cases h
      · split at h
        · cases h
        · rename_i htap hrelease hpress
          exact ⟨hpress, hrelease, htap⟩
  · rintro ⟨hpress, hrelease, htap⟩
    rw [if_neg htap, if_neg hrelease, if_neg hpress]

theorem spoiled_of_ofRuns (h : ofRuns run raw = .error e) (H : Finset Key) :
    Spoiled H run raw e := by
  unfold ofRuns at h
  split at h
  · rename_i hm
    cases h
    exact .invalidMotion (ofMarks?_eq_none_iff.mp hm)
  · rename_i make hm
    split at h
    · cases h
    · rename_i hk
      cases h
      refine .unknownKey ?_ ?_
      · by_contra hrun
        rw [ofMarks?_eq_none_iff.mpr hrun] at hm
        cases hm
      · intro k hs
        rw [Key.read?_eq_some_iff.mpr hs] at hk
        cases hk

theorem spoiled_of_act {held : List Key} (h : ofRuns run raw = .ok t)
    (ha : t.act held = .error e) : Spoiled held.toFinset run raw e := by
  obtain ⟨rfl, hs⟩ := ofRuns_eq_ok_iff.mp h
  cases refused_of_act ha with
  | press hk => exact .doublePress rfl hs hk
  | release hk => exact .releaseWithoutPress rfl hs hk

/-- The first motion of a token tells its key. -/
theorem key_of_head? (h : t.motions.head? = some m) : t.key = m.key := by
  cases t <;> cases h <;> rfl

theorem exists_head? (t : Token) : ∃ m, t.motions.head? = some m := by
  cases t <;> exact ⟨_, rfl⟩

end Token

/-! ## Readers that fail -/

namespace Reader

/-- Calls of `next` yield the motions, then the fault, then nothing; from the fault on the reader
holds the keys `H`. -/
def FailsAfter (r : Reader) (ms : List Motion) (e : Fault) (H : Finset Key) : Prop :=
  ∃ a b, r.Yields ms a ∧ a.next = (some (.error e), b) ∧
    ∀ n, (b.after n).next.1 = none ∧ (b.after n).held.toFinset = H

variable {r r' a b : Reader} {ms ms' : List Motion} {m : Motion} {e : Fault}

/-- Motions yielded from a reader are a beginning of those that it yields before a fault. -/
theorem Yields.goes_on (h : Yields r ms r') (hy : Yields r ms' a)
    (ha : a.next = (some (.error e), b)) : ∃ ms'', ms' = ms ++ ms'' ∧ Yields r' ms'' a := by
  induction h generalizing ms' with
  | refl => exact ⟨ms', rfl, hy⟩
  | cons hn _ ih =>
    cases hy with
    | refl =>
      rw [ha] at hn
      cases hn
    | cons hn' hy' =>
      rw [hn] at hn'
      cases hn'
      obtain ⟨ms'', rfl, hy''⟩ := ih hy'
      exact ⟨ms'', rfl, hy''⟩

theorem Yields.next_of_cons (h : Yields r (m :: ms) a) : ∃ r', r.next = (some (.ok m), r') := by
  cases h with
  | cons hn _ => exact ⟨_, hn⟩

/-- Two failing runs from one reader yield the same motions and fail in the same place. -/
theorem Yields.eq_of_faults {a' b' : Reader} {e' : Fault} (h : Yields r ms a)
    (ha : a.next = (some (.error e), b)) (h' : Yields r ms' a')
    (ha' : a'.next = (some (.error e'), b')) : ms = ms' ∧ a = a' := by
  obtain ⟨more, rfl, hmore⟩ := h.goes_on h' ha'
  cases hmore with
  | refl => exact ⟨(List.append_nil ms).symm, rfl⟩
  | cons hn _ =>
    rw [ha] at hn
    cases hn

theorem readToken_eq_ok (h : r.readToken.1 = .ok m) :
    ∃ t, Token.ofRuns r.run r.raw = .ok t ∧ t.motions.head? = some m := by
  unfold readToken at h
  split at h
  · cases h
  · rename_i t ht
    refine ⟨t, ht, ?_⟩
    split at h
    · cases h
    · cases t <;> cases h <;> rfl

theorem spoiled_of_readToken (h : r.readToken.1 = .error e) :
    Spoiled r.held.toFinset r.run r.raw e := by
  unfold readToken at h
  split at h
  · rename_i e' ht
    cases h
    exact Token.spoiled_of_ofRuns ht _
  · rename_i t ht
    split at h
    · rename_i e' ha
      cases h
      exact Token.spoiled_of_act ht ha
    · cases h

namespace AtToken

/-- A fault changes nothing but that no call yields anything any more. -/
theorem stays_failed (h : AtToken r) (hr : r.rest ≠ []) (he : r.readToken.1 = .error e) :
    ∃ b, r.next = (some (.error e), b) ∧ b.next = (none, b) ∧ b.held = r.held := by
  refine ⟨r.readToken.2, by rw [h.next_of_rest hr, he], ?_⟩
  have hfailed : r.readToken.2 = { r.skip with failed := true } := by
    unfold readToken at he ⊢
    split at he
    · rfl
    · split at he
      · rfl
      · cases he
  have hpending : r.skip.pending = none := h.pending
  rw [hfailed]
  exact ⟨by simp [Reader.next, hpending], rfl⟩

/-- A fault comes up behind tokens that may all stand. -/
theorem breaks_of_collect (h : AtToken r) (hc : r.collect = .error e) :
    ∃ ws a, Yields r (motionsOf ws) a ∧ AtToken a ∧ r.rest = lettersOf ws ++ a.rest ∧
      replay r.held (ws.map Written.token) = .ok a.held ∧ a.rest ≠ [] ∧
      a.readToken.1 = .error e := by
  induction hn : r.rest.length using Nat.strongRecOn generalizing r with
  | ind n ih =>
    have hr : r.rest ≠ [] := by
      intro hr
      rw [collect_of_none (by rw [h.next_of_end hr])] at hc
      cases hc
    cases ht : Token.ofRuns r.run r.raw with
    | error e' =>
      rw [h.collect_of_unread hr ht] at hc
      cases hc
      exact ⟨[], r, .refl, h, rfl, rfl, hr, by simp only [readToken, ht]⟩
    | ok t =>
      cases ha : t.act r.held with
      | error e' =>
        rw [h.collect_of_refused hr ht ha] at hc
        cases hc
        exact ⟨[], r, .refl, h, rfl, rfl, hr, by simp only [readToken, ht, ha]⟩
      | ok next =>
        have hy := h.yields_token hr ht ha
        cases hc' : ({ r.skip with held := next } : Reader).collect with
        | ok ms =>
          rw [hy.collect_ok hc'] at hc
          cases hc
        | error e' =>
          rw [hy.collect_error hc'] at hc
          cases hc
          obtain ⟨ws, a, hy', hat, hrest, hp, hne, he⟩ :=
            ih r.skip.rest.length (hn ▸ rest_skip_lt r hr) (h.skip next) hc' rfl
          obtain ⟨hmarks, hspells⟩ := Token.ofRuns_eq_ok_iff.mp ht
          refine ⟨⟨t, r.raw, hspells⟩ :: ws, a, hy.trans hy', hat, ?_, ?_, hne, he⟩
          · rw [lettersOf_cons, List.append_assoc, ← hrest, Written.letters, ← hmarks,
              List.append_assoc]
            exact (runs_append_skip r).symm
          · simp only [List.map_cons, replay, ha]
            exact hp

end AtToken

end Reader

/-! ## Taking a text apart -/

structure Break where
  good : List Char
  marks : List Char
  raw : List Char
  behind : List Char

/-- What follows the part that reads. -/
def Break.bad (b : Break) : List Char := b.marks ++ (b.raw ++ b.behind)

/-- The text reads up to the break like the good part alone, with its motions `ms` and its held
keys `H`, and then has the fault `e` and nothing more. Both runs are as long as they can be. -/
structure BreaksOff (s : String) (b : Break) (ms : List Motion) (H : Finset Key) (e : Fault) :
    Prop where
  text : s.toList = b.good ++ b.bad
  marks : b.bad.takeWhile isMark = b.marks
  raw : (b.raw ++ b.behind).takeWhile (fun c => !isMark c) = b.raw
  accepted : parse (String.ofList b.good) = .ok ms
  held : ((Reader.ofText (String.ofList b.good)).after ms.length).held.toFinset = H
  fails : (Reader.ofText s).FailsAfter ms e H

section

variable {s : String} {b b' : Break} {ms ms' : List Motion} {H H' : Finset Key} {e e' : Fault}

/-- The two runs that come next in a reader, behind a good part. -/
theorem exists_break (good : List Char) (r : Reader) :
    ∃ b : Break, b.good = good ∧ b.bad = r.rest ∧ b.marks = r.run ∧ b.raw = r.raw ∧
      b.bad.takeWhile isMark = b.marks ∧
      (b.raw ++ b.behind).takeWhile (fun c => !isMark c) = b.raw := by
  have hbad : r.run ++ (r.raw ++ r.skip.rest) = r.rest := Reader.runs_append_skip r
  refine ⟨⟨good, r.run, r.raw, r.skip.rest⟩, rfl, hbad, rfl, rfl, ?_, ?_⟩
  · exact congrArg (List.takeWhile isMark) hbad
  · simp only [Reader.raw, Reader.skip, List.takeWhile_append_dropWhile]

theorem exists_breaksOff (h : parse s = .error e) :
    ∃ b ms H, BreaksOff s b ms H e ∧ Spoiled H b.marks b.raw e := by
  obtain ⟨ws, a, hy, hat, hrest, hp, hne, he⟩ := (Reader.atToken_ofText s).breaks_of_collect h
  obtain ⟨r, hn, hstop, hheld⟩ := hat.stays_failed hne he
  obtain ⟨b, hgood, hbad, hmarks, hraw, hm, hr⟩ := exists_break (lettersOf ws) a
  have hl : (String.ofList (lettersOf ws)).toList = lettersOf ws := String.toList_ofList
  refine ⟨b, motionsOf ws, a.held.toFinset, ⟨?_, hm, hr, ?_, ?_, ?_⟩, ?_⟩
  · rw [hgood, hbad]
    exact hrest
  · rw [hgood]
    exact parse_of_legal hl (legal_of_replay hp)
  · rw [hgood, (held_at_end hl hp (Nat.le_refl _)).2]
  · refine ⟨a, r, hy, hn, fun n => ?_⟩
    rw [Reader.after_of_end hstop, hstop, hheld]
    exact ⟨rfl, rfl⟩
  · rw [hmarks, hraw]
    exact Reader.spoiled_of_readToken he

theorem BreaksOff.parse_eq (h : BreaksOff s b ms H e) : parse s = .error e := by
  obtain ⟨a, r, hy, hn, _⟩ := h.fails
  exact hy.collect_error (Reader.collect_of_fault hn)

/-- Behind a part that reads, a reader that yields just its motions and then fails has not taken
anything of the rest. If the rest begins with a mark this is how tokens end. Else it would go on
with the name of the last key; but the reader yields a motion of this key, so the longer name would
be the key's as well. -/
theorem BreaksOff.rest_eq {a r : Reader} (h : BreaksOff s b ms H e)
    (hy : (Reader.ofText s).Yields ms a) (hn : a.next = (some (.error e), r)) :
    a.rest = b.bad := by
  obtain ⟨ws, K, hgood, hl, rfl⟩ := legal_of_parse h.accepted
  rw [String.toList_ofList] at hgood
  have hrest : (Reader.ofText s).rest = lettersOf ws ++ b.bad := by
    rw [← hgood]
    exact h.text
  have hl' : Legal ([] : List Key).toFinset (ws.map Written.token) K := hl
  obtain ⟨held, hp, _⟩ := legal_iff_replay.mp hl'
  by_cases ho : Opens b.bad
  · obtain ⟨a', hy', _, hrest', _⟩ := (Reader.atToken_ofText s).yields_before hrest ho hp
    have ha : a' = a := by rw [← hy'.after_length, ← hy.after_length, motionsOf]
    rw [← ha, hrest']
  · obtain ⟨c, cs, hc, hmark⟩ : ∃ c cs, b.bad = c :: cs ∧ isMark c = false := by
      simp only [Opens, not_forall, Bool.not_eq_true] at ho
      obtain ⟨c, hc, hmark⟩ := ho
      obtain ⟨cs, hcs⟩ := List.head?_eq_some_iff.mp hc
      exact ⟨c, cs, hcs, hmark⟩
    cases ws using List.reverseRecOn with
    | nil =>
      cases hy with
      | refl => exact hrest
    | append_singleton ws w =>
      exfalso
      have hrest' : (Reader.ofText s).rest = lettersOf ws ++ (w.letters ++ b.bad) := by
        rw [hrest, lettersOf_append, lettersOf_cons, lettersOf_nil, List.append_nil,
          List.append_assoc]
      rw [List.map_append] at hp
      obtain ⟨next, hp'⟩ := exists_replay_of_append hp
      obtain ⟨a', hy', hat, hleft, _⟩ :=
        (Reader.atToken_ofText s).yields_before hrest' (w.opens_letters b.bad) hp'
      -- the last token of the good part is still to be yielded, from the reader `a'`
      obtain ⟨more, hmore, hy''⟩ := hy'.goes_on hy hn
      have hlast : more = w.token.motions := by
        rw [motionsOf, List.flatMap_append] at hmore
        simpa using (List.append_cancel_left hmore).symm
      obtain ⟨m, hm⟩ := w.token.exists_head?
      obtain ⟨ms, hms⟩ := List.head?_eq_some_iff.mp hm
      rw [hlast, hms] at hy''
      obtain ⟨r', hr'⟩ := hy''.next_of_cons
      rw [hat.next_of_rest (Reader.AtToken.rest_ne_nil hleft)] at hr'
      obtain ⟨t, ht, htm⟩ := Reader.readToken_eq_ok (by simpa using (Prod.mk.inj hr').1)
      obtain ⟨_, hspells⟩ := Token.ofRuns_eq_ok_iff.mp ht
      rw [Token.key_of_head? htm, ← Token.key_of_head? hm, Reader.raw, hleft, w.dropWhile_letters,
        List.takeWhile_append_of_pos w.not_isMark_spelling, hc,
        List.takeWhile_cons_of_pos (by rw [hmark]; rfl)] at hspells
      cases w.spells.eq_nil_of_append hspells

theorem BreaksOff.unique (h : BreaksOff s b ms H e) (h' : BreaksOff s b' ms' H' e') :
    b = b' ∧ H = H' := by
  obtain ⟨a, r, hy, hn, hstop⟩ := h.fails
  obtain ⟨a', r', hy', hn', hstop'⟩ := h'.fails
  obtain ⟨hms, ha⟩ := hy.eq_of_faults hn hy' hn'
  subst hms ha
  rw [hn] at hn'
  cases hn'
  have hbad : b.bad = b'.bad := (h.rest_eq hy hn).symm.trans (h'.rest_eq hy' hn)
  have hgood : b.good = b'.good := by
    have htext := h.text.symm.trans h'.text
    rw [hbad] at htext
    exact List.append_cancel_right htext
  have hmarks : b.marks = b'.marks := by rw [← h.marks, ← h'.marks, hbad]
  have htail : b.raw ++ b.behind = b'.raw ++ b'.behind := by
    rw [Break.bad, Break.bad, hmarks] at hbad
    exact List.append_cancel_left hbad
  have hraw : b.raw = b'.raw := by rw [← h.raw, ← h'.raw, htail]
  have hbehind : b.behind = b'.behind := by
    rw [hraw] at htail
    exact List.append_cancel_left htail
  refine ⟨?_, (hstop 0).2.symm.trans (hstop' 0).2⟩
  cases b
  cases b'
  cases hgood
  cases hmarks
  cases hraw
  cases hbehind
  rfl

end

/-- A text is rejected with a fault exactly if it breaks off with this fault somewhere. There is
only one such place, and the runs there and the keys held there fix the fault. -/
theorem parse_eq_error_iff_breaksOff (s : String) :
    (∀ e, parse s = .error e ↔ ∃ b ms H, BreaksOff s b ms H e) ∧
    (∀ b ms H e b' ms' H' e', BreaksOff s b ms H e → BreaksOff s b' ms' H' e' → b = b') ∧
    (∀ b ms H e, BreaksOff s b ms H e → Spoiled H b.marks b.raw e) := by
  refine ⟨fun e => ⟨fun h => ?_, ?_⟩, ?_, ?_⟩
  · obtain ⟨b, ms, H, hb, _⟩ := exists_breaksOff h
    exact ⟨b, ms, H, hb⟩
  · rintro ⟨b, ms, H, hb⟩
    exact hb.parse_eq
  · intro b ms H e b' ms' H' e' h h'
    exact (h.unique h').1
  · intro b ms H e h
    obtain ⟨b', ms', H', hb, hs⟩ := exists_breaksOff h.parse_eq
    obtain ⟨rfl, rfl⟩ := h.unique hb
    exact hs

/-- The release that a tap owes comes before the fault of the token behind it. -/
theorem breaksOff_behind_tap :
    BreaksOff "↓a↓↑b↓a" ⟨"↓a↓↑b".toList, ['↓'], ['a'], []⟩
      [.press .letterA, .press .letterB, .release .letterB] {.letterA} (.doublePress .letterA) ∧
    parse "↓a↓↑b↓a" = .error (.doublePress .letterA) ∧
    Spoiled {.letterA} ['↓'] ['a'] (.doublePress .letterA) := by
  let ws : List Written := [.ofToken (.press .letterA), .ofToken (.tap .letterB)]
  have hs : (String.ofList "↓a↓↑b".toList).toList = lettersOf ws := by decide
  have hp : replay [] (ws.map Written.token) = .ok [.letterA] := by decide
  have hb : BreaksOff "↓a↓↑b↓a" ⟨"↓a↓↑b".toList, ['↓'], ['a'], []⟩
      [.press .letterA, .press .letterB, .release .letterB] {.letterA}
      (.doublePress .letterA) := by
    have hheld := (held_at_end hs hp (Nat.le_refl 3)).2
    refine ⟨by decide, by decide, by decide, parse_of_legal hs (legal_of_replay hp), ?_, ?_⟩
    · exact congrArg List.toFinset hheld
    · refine ⟨_, _, .cons rfl (.cons rfl (.cons rfl .refl)), rfl, fun n => ?_⟩
      rw [Reader.after_of_end rfl]
      exact ⟨rfl, by decide⟩
  have h := parse_eq_error_iff_breaksOff "↓a↓↑b↓a"
  exact ⟨hb, (h.1 _).mpr ⟨_, _, _, hb⟩, h.2.2 _ _ _ _ hb⟩

end Combo

end ChordDrill
