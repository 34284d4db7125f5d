import ChordDrill.Proofs.Combo.Grammar

/-!
# ChordDrill.Proofs.Combo.Scan

The reader against the bytes of its text. Its cursor counts bytes, and texts hold characters of one
to four bytes; yet the cursor never stands inside a character, and each token that is read moves it.

* `Reader.At`      — the position of the text at which a reader stands.
* `Reader.Reads`   — the next call reads a token.
* `Reader.yielded` — what so many calls yield.
* `Reader.left`    — a bound on what is still to be yielded.

A position of a string is a byte between two of its characters, so `At` is the invariant of the
cursor (`At.next`). A tap yields twice, but its two marks alone are two characters; so what is left
gets less with each item (`left_next_le`), and a text gives at most one item for each character.
-/

namespace ChordDrill.Combo

/-! ## Bytes and positions -/

theorem byteLength_cons (c : Char) (cs : List Char) :
    byteLength (c :: cs) = c.utf8Size + byteLength cs := rfl

theorem byteLength_eq (cs : List Char) : byteLength cs = (String.ofList cs).utf8ByteSize := by
  induction cs with
  | nil => rfl
  | cons c cs ih =>
    rw [byteLength_cons, ih, String.ofList_cons, String.utf8ByteSize_append,
      String.utf8ByteSize_singleton]

theorem byteLength_append (cs ds : List Char) :
    byteLength (cs ++ ds) = byteLength cs + byteLength ds := by
  rw [byteLength_eq, String.ofList_append, String.utf8ByteSize_append, byteLength_eq, byteLength_eq]

theorem byteLength_pos {cs : List Char} (h : cs ≠ []) : 0 < byteLength cs := by
  cases cs with
  | nil => exact absurd rfl h
  | cons c cs => exact Nat.add_pos_left c.utf8Size_pos _

/-- Wherever a text is cut in two, it has a position. -/
theorem exists_splits {s a b : String} (h : s = a ++ b) : ∃ p : s.Pos, p.Splits a b := by
  have hvalid : a.rawEndPos.IsValid s := by
    rw [h]
    exact String.Pos.Raw.isValid_rawEndPos.append_right b
  exact ⟨s.pos a.rawEndPos hvalid, h, rfl⟩

theorem byteIdx_of_splits {s a b : String} {p : s.Pos} (h : p.Splits a b) :
    p.offset.byteIdx = a.utf8ByteSize := by
  rw [h.offset_eq_rawEndPos, String.byteIdx_rawEndPos]

/-- What stands between two positions of a text. -/
theorem extract_of_splits {s a m k : String} {p q : s.Pos} (hp : p.Splits a (m ++ k))
    (hq : q.Splits (a ++ m) k) : s.extract p q = m := by
  have hs : s.toByteArray = a.toByteArray ++ (m.toByteArray ++ k.toByteArray) := by
    rw [hp.eq_append, String.toByteArray_append, String.toByteArray_append]
  have hpb : p.offset.byteIdx = a.toByteArray.size + 0 := byteIdx_of_splits hp
  have hqb : q.offset.byteIdx = a.toByteArray.size + m.toByteArray.size := by
    rw [byteIdx_of_splits hq, String.utf8ByteSize_append]
    rfl
  rw [← String.toByteArray_inj, String.toByteArray_extract, hs, hpb, hqb,
    ByteArray.extract_append_size_add]
  exact ByteArray.extract_append_eq_left rfl

namespace Reader

/-- A reader stands at the position behind what it has read. -/
structure At (r : Reader) {s : String} (p : s.Pos) : Prop where
  cursor : p.offset.byteIdx = r.cursor
  splits : ∃ before, p.Splits before (String.ofList r.rest)

/-- The next call reads a token: no release is owed, no fault was reported, and the cursor has not
come to the end. -/
structure Reads (r : Reader) (s : String) : Prop extends AtToken r where
  unread : r.cursor < s.utf8ByteSize

/-- The next call takes its token from between positions of the text, and moves the cursor to the
last one of them; or it reads no token, and leaves the cursor alone. -/
structure Steps (r : Reader) (s : String) : Prop where
  reads : r.Reads s → ∃ p q e : s.Pos, r.At p ∧ s.extract p q = String.ofList r.run ∧
    s.extract q e = String.ofList r.raw ∧ r.next.2.At e ∧ r.cursor < r.next.2.cursor ∧
    r.next.1.isSome
  waits : ¬ r.Reads s → r.next.2.cursor = r.cursor

/-- What so many calls yield. -/
def yielded (r : Reader) : Nat → List (Except Fault Motion)
  | 0 => []
  | n + 1 => r.next.1.toList ++ r.next.2.yielded n

/-- A bound on what is still to be yielded: an item for each character, and the release owed. -/
def left (r : Reader) : Nat := r.rest.length + if r.pending.isSome then 1 else 0

variable {r : Reader} {s : String} {p : s.Pos} {m : Motion} {n : Nat}

/-! ## One call -/

theorem next_of_pending (h : r.pending = some m) :
    r.next = (some (.ok m), { r with pending := none }) := by
  simp only [next, h]

theorem cursor_readToken (r : Reader) : r.readToken.2.cursor = r.skip.cursor := by
  unfold readToken
  split
  · rfl
  · split
    · rfl
    · rename_i t _ _ _ _
      cases t <;> rfl

theorem cursor_skip_lt (hr : r.rest ≠ []) : r.cursor < r.skip.cursor := by
  have hruns : r.run ++ r.raw ≠ [] := by
    intro hnil
    have hrest := runs_append_skip r
    rw [← List.append_assoc, hnil, List.nil_append] at hrest
    exact absurd (rest_skip_lt r hr) (hrest ▸ Nat.lt_irrefl _)
  have hpos := byteLength_pos hruns
  rw [byteLength_append] at hpos
  simp only [skip]
  omega

/-- A reader that yields nothing has nothing more to yield. -/
theorem next_eq_of_none (h : r.next.1 = none) : r.next = (none, r) := by
  cases hp : r.pending with
  | some m =>
    rw [next_of_pending hp] at h
    cases h
  | none =>
    unfold next at h ⊢
    simp only [hp] at h ⊢
    split at h
    · rename_i hstop
      rw [if_pos hstop]
    · cases h

/-! ## The cursor -/

theorem at_start (s : String) : (ofText s).At s.startPos := by
  refine ⟨rfl, "", ?_⟩
  rw [ofText, String.ofList_toList]
  exact s.splits_startPos

namespace At

theorem size_eq (h : r.At p) : s.utf8ByteSize = r.cursor + byteLength r.rest := by
  obtain ⟨before, hs⟩ := h.splits
  rw [← h.cursor, byteIdx_of_splits hs, byteLength_eq, ← String.utf8ByteSize_append,
    ← hs.eq_append]

theorem unread_iff (h : r.At p) : r.cursor < s.utf8ByteSize ↔ r.rest ≠ [] := by
  rw [h.size_eq]
  constructor
  · intro hlt hr
    rw [hr] at hlt
    exact absurd hlt (Nat.lt_irrefl _)
  · intro hr
    exact Nat.lt_add_of_pos_right (byteLength_pos hr)

/-- Both runs of a token end at positions of the text. -/
theorem cut (h : r.At p) : ∃ q e : s.Pos, s.extract p q = String.ofList r.run ∧
    s.extract q e = String.ofList r.raw ∧ r.skip.At e := by
  obtain ⟨before, hp⟩ := h.splits
  rw [← runs_append_skip r, String.ofList_append, String.ofList_append] at hp
  have hs := hp.eq_append
  rw [← String.append_assoc] at hs
  obtain ⟨q, hq⟩ := exists_splits hs
  rw [← String.append_assoc] at hs
  obtain ⟨e, he⟩ := exists_splits hs
  refine ⟨q, e, extract_of_splits hp hq, extract_of_splits hq he, ?_, _, he⟩
  rw [byteIdx_of_splits he, String.utf8ByteSize_append, String.utf8ByteSize_append,
    ← byteIdx_of_splits hp, h.cursor, ← byteLength_eq, ← byteLength_eq, skip]

/-- A call that reads a token. -/
theorem reads (h : r.At p) (hr : r.Reads s) : ∃ q e : s.Pos,
    s.extract p q = String.ofList r.run ∧ s.extract q e = String.ofList r.raw ∧
    r.next.2.At e ∧ r.cursor < r.next.2.cursor ∧ r.next.1.isSome := by
  have hrest := h.unread_iff.mp hr.unread
  obtain ⟨q, e, hrun, hraw, hend⟩ := h.cut
  rw [hr.toAtToken.next_of_rest hrest]
  have hat : r.readToken.2.At e := by
    refine ⟨hend.cursor.trans (cursor_readToken r).symm, ?_⟩
    rw [rest_readToken]
    exact hend.splits
  have hlt := cursor_skip_lt hrest
  exact ⟨q, e, hrun, hraw, hat, hlt.trans_eq (cursor_readToken r).symm, rfl⟩

/-- A call that reads no token. -/
theorem waits (h : r.At p) (hr : ¬ r.Reads s) :
    r.next.2.cursor = r.cursor ∧ r.next.2.rest = r.rest := by
  cases hp : r.pending with
  | some m =>
    rw [next_of_pending hp]
    exact ⟨rfl, rfl⟩
  | none =>
    unfold Reader.next
    simp only [hp]
    split
    · exact ⟨rfl, rfl⟩
    · rename_i hgo
      rw [Bool.or_eq_true, not_or, Bool.not_eq_true, List.isEmpty_iff] at hgo
      exact absurd ⟨⟨hp, hgo.1⟩, h.unread_iff.mpr hgo.2⟩ hr

theorem next (h : r.At p) : ∃ p' : s.Pos, r.next.2.At p' := by
  by_cases hr : r.Reads s
  · obtain ⟨-, e, -, -, hat, -⟩ := h.reads hr
    exact ⟨e, hat⟩
  · obtain ⟨hcursor, hrest⟩ := h.waits hr
    refine ⟨p, h.cursor.trans hcursor.symm, ?_⟩
    rw [hrest]
    exact h.splits

theorem after (h : r.At p) (n : Nat) : ∃ p' : s.Pos, (r.after n).At p' := by
  induction n generalizing r p with
  | zero => exact ⟨p, h⟩
  | succ n ih =>
    obtain ⟨p', h'⟩ := h.next
    exact ih h'

theorem steps (h : r.At p) : r.Steps s := by
  refine ⟨fun hr => ?_, fun hr => (h.waits hr).1⟩
  obtain ⟨q, e, hcut⟩ := h.reads hr
  exact ⟨p, q, e, h, hcut⟩

end At

/-! ## The items -/

theorem left_accept_lt {t : Token} (held : List Key) (hp : r.pending = none) (hr : r.rest ≠ [])
    (ht : Token.ofRuns r.run r.raw = .ok t) : (r.skip.accept held t).2.left < r.rest.length := by
  have hlt := rest_skip_lt r hr
  have hskip : r.skip.pending = none := hp
  cases t with
  | press k => simpa [accept, left, hskip] using hlt
  | release k => simpa [accept, left, hskip] using hlt
  | tap k =>
    have hmarks : r.run = [pressMark, releaseMark] := (Token.ofRuns_eq_ok_iff.mp ht).1
    have hlength := congrArg List.length (runs_append_skip r)
    rw [List.length_append, List.length_append, hmarks] at hlength
    simp only [accept, left, Option.isSome_some, if_true]
    simp only [List.length_cons, List.length_nil] at hlength
    omega

theorem left_readToken_lt (hp : r.pending = none) (hr : r.rest ≠ []) :
    r.readToken.2.left < r.rest.length := by
  have hfault : Reader.left { r.skip with failed := true } < r.rest.length := by
    have hskip : r.skip.pending = none := hp
    simpa [left, hskip] using rest_skip_lt r hr
  unfold readToken
  split
  · exact hfault
  · rename_i t ht
    split
    · exact hfault
    · exact left_accept_lt _ hp hr ht

/-- An item that is yielded is not left any more. -/
theorem left_next_le (r : Reader) : r.next.1.toList.length + r.next.2.left ≤ r.left := by
  cases hp : r.pending with
  | some m =>
    rw [next_of_pending hp]
    simp [left, hp]
    omega
  | none =>
    unfold next
    simp only [hp]
    split
    · exact Nat.le_of_eq (Nat.zero_add _)
    · rename_i hgo
      rw [Bool.or_eq_true, not_or, List.isEmpty_iff] at hgo
      have hlt := left_readToken_lt hp hgo.2
      simp only [Option.toList_some, List.length_singleton]
      exact (Nat.one_add_le_iff.mpr hlt).trans (Nat.le_add_right _ _)

theorem length_yielded_le (r : Reader) (n : Nat) : (r.yielded n).length ≤ r.left := by
  induction n generalizing r with
  | zero => exact Nat.zero_le _
  | succ n ih =>
    rw [yielded, List.length_append]
    exact (Nat.add_le_add_left (ih r.next.2) _).trans (left_next_le r)

theorem stays_ended (h : r.next.1 = none) (n : Nat) : (r.after n).next.1 = none := by
  rw [after_of_end (next_eq_of_none h), h]

/-- After as many calls as there are items left, no call yields any more. -/
theorem ended_of_left_le (h : r.left ≤ n) : (r.after n).next.1 = none := by
  induction n generalizing r with
  | zero =>
    have hle := (left_next_le r).trans h
    rw [after]
    cases hn : r.next.1 with
    | none => rfl
    | some x =>
      rw [hn, Option.toList_some, List.length_singleton] at hle
      omega
  | succ n ih =>
    cases hn : r.next.1 with
    | none => exact stays_ended hn (n + 1)
    | some x =>
      have hle := (left_next_le r).trans h
      rw [hn, Option.toList_some, List.length_singleton] at hle
      rw [after]
      exact ih (by omega)

end Reader

/-- Whatever the text and however often the reader is called: its cursor is at a position of the
text, each call that reads a token slices it out between positions and moves the cursor behind it,
and there are at most as many items as characters. Once a call yields nothing, no later one yields
anything, and at the latest so many calls as there are characters come to that end. -/
theorem scan_advances (s : String) (n : Nat) :
    (∃ p : s.Pos, ((Reader.ofText s).after n).At p) ∧
    ((Reader.ofText s).after n).cursor ≤ s.utf8ByteSize ∧
    ((Reader.ofText s).after n).Steps s ∧
    ((Reader.ofText s).yielded n).length ≤ s.length ∧
    (((Reader.ofText s).after n).next.1 = none →
      ∀ k, ((Reader.ofText s).after (n + k)).next.1 = none) ∧
    (s.length ≤ n → ((Reader.ofText s).after n).next.1 = none) := by
  obtain ⟨p, hp⟩ := (Reader.at_start s).after n
  have hleft : (Reader.ofText s).left = s.length := rfl
  refine ⟨⟨p, hp⟩, ?_, hp.steps, ?_, fun hend k => ?_, fun hle => ?_⟩
  · rw [hp.size_eq]
    exact Nat.le_add_right _ _
  · rw [← hleft]
    exact Reader.length_yielded_le _ n
  · rw [Reader.after_add]
    exact Reader.stays_ended hend k
  · exact Reader.ended_of_left_le (hleft ▸ hle)

/-- The second call reads a tap behind seven bytes of five characters; there are three items, and
the fourth call and all later ones yield nothing. -/
theorem scan_ctrl_tap_tab :
    ((Reader.ofText "↓ctrl↓↑\t").after 1).Reads "↓ctrl↓↑\t" ∧
    ((Reader.ofText "↓ctrl↓↑\t").after 1).cursor = 7 ∧
    7 < ((Reader.ofText "↓ctrl↓↑\t").after 1).next.2.cursor ∧
    ((Reader.ofText "↓ctrl↓↑\t").after 3).next.1 = none ∧
    ∀ k, ((Reader.ofText "↓ctrl↓↑\t").after (3 + k)).next.1 = none := by
  have hreads : ((Reader.ofText "↓ctrl↓↑\t").after 1).Reads "↓ctrl↓↑\t" :=
    ⟨⟨by decide, by decide⟩, by decide⟩
  have hend : ((Reader.ofText "↓ctrl↓↑\t").after 3).next.1 = none := by decide
  obtain ⟨_, _, hsteps, _, _, _⟩ := scan_advances "↓ctrl↓↑\t" 1
  obtain ⟨_, _, _, _, hfused, _⟩ := scan_advances "↓ctrl↓↑\t" 3
  obtain ⟨_, _, _, _, _, _, _, hlt, _⟩ := hsteps.reads hreads
  exact ⟨hreads, by decide, hlt, hend, hfused hend⟩

end ChordDrill.Combo
