import ChordDrill.Proofs.Combo.Grammar

/-!
# ChordDrill.Proofs.Combo.Concatenation

One text behind another. If the first one reads and the second one does not go on with the name of
its last key, a reader of both yields the motions of the first one and then is as good as a reader
of the second one that holds the keys left by the first.

* `Reader.item`  — what a call yields, by the number of the call.
* `Reader.Alike` — readers that have the same to read and the same keys held.

A reader looks neither at its cursor nor at the order of its held keys. So one call on two readers
that are alike yields the same and leaves them alike (`Alike.next`), and so do all calls.
-/

namespace ChordDrill.Combo

namespace Token

variable {held held' : List Key}

/-- What a token does depends on which keys are held, not on how they are listed. -/
theorem act_congr (t : Token) (h : held.toFinset = held'.toFinset) :
    (∃ e, t.act held = .error e ∧ t.act held' = .error e) ∨
    (∃ next next', t.act held = .ok next ∧ t.act held' = .ok next' ∧
      next.toFinset = next'.toFinset) := by
  cases ha : t.act held with
  | error e =>
    have hr := refused_of_act ha
    rw [h] at hr
    cases ha' : t.act held' with
    | error e' =>
      have he : e = e' := hr.unique (refused_of_act ha')
      exact .inl ⟨e, rfl, by rw [he]⟩
    | ok next' => exact absurd hr (moves_of_act ha').not_refused
  | ok next =>
    have hm := moves_of_act ha
    rw [h] at hm
    cases ha' : t.act held' with
    | error e' => exact absurd (refused_of_act ha') hm.not_refused
    | ok next' => exact .inr ⟨next, next', rfl, rfl, hm.unique (moves_of_act ha')⟩

end Token

namespace Reader

/-- What the call number `n` yields, from zero. -/
def item (r : Reader) (n : Nat) : Option (Except Fault Motion) := (r.after n).next.1

structure Alike (r r' : Reader) : Prop where
  rest : r.rest = r'.rest
  held : r.held.toFinset = r'.held.toFinset
  pending : r.pending = r'.pending
  failed : r.failed = r'.failed

variable {r r' a : Reader} {ms : List Motion} {m : Motion} {e : Fault} {H H' : List Key}

/-! ## Readers that are alike -/

namespace Alike

theorem run (h : Alike r r') : r.run = r'.run := by
  rw [Reader.run, Reader.run, h.rest]

theorem raw (h : Alike r r') : r.raw = r'.raw := by
  rw [Reader.raw, Reader.raw, h.rest]

theorem skip (h : Alike r r') : Alike r.skip r'.skip := by
  refine ⟨?_, h.held, h.pending, h.failed⟩
  rw [Reader.skip, Reader.skip, h.rest]

theorem accept (h : Alike r r') (t : Token) (hH : H.toFinset = H'.toFinset) :
    (r.accept H t).1 = (r'.accept H' t).1 ∧ Alike (r.accept H t).2 (r'.accept H' t).2 := by
  cases t with
  | press k => exact ⟨rfl, h.rest, hH, h.pending, h.failed⟩
  | release k => exact ⟨rfl, h.rest, hH, h.pending, h.failed⟩
  | tap k => exact ⟨rfl, h.rest, hH, rfl, h.failed⟩

theorem readToken (h : Alike r r') :
    r.readToken.1 = r'.readToken.1 ∧ Alike r.readToken.2 r'.readToken.2 := by
  unfold Reader.readToken
  rw [h.run, h.raw]
  cases Token.ofRuns r'.run r'.raw with
  | error e => exact ⟨rfl, h.skip.rest, h.held, h.pending, rfl⟩
  | ok t =>
    rcases t.act_congr h.held with ⟨e, ha, ha'⟩ | ⟨next, next', ha, ha', hnext⟩
    · simp only [ha, ha']
      exact ⟨trivial, h.skip.rest, h.held, h.pending, rfl⟩
    · simp only [ha, ha']
      obtain ⟨hm, hr⟩ := h.skip.accept t hnext
      exact ⟨by rw [hm], hr⟩

/-- One call yields the same and leaves the readers alike. -/
theorem next (h : Alike r r') : r.next.1 = r'.next.1 ∧ Alike r.next.2 r'.next.2 := by
  obtain ⟨hitem, hread⟩ := h.readToken
  unfold Reader.next
  rw [← h.pending, ← h.failed, ← h.rest]
  split
  · exact ⟨rfl, rfl, h.held, rfl, rfl⟩
  · split
    · exact ⟨rfl, h⟩
    · exact ⟨congrArg some hitem, hread⟩

theorem after (h : Alike r r') (n : Nat) : Alike (r.after n) (r'.after n) := by
  induction n generalizing r r' with
  | zero => exact h
  | succ n ih => exact ih h.next.2

theorem item_eq (h : Alike r r') (n : Nat) : r.item n = r'.item n := (h.after n).next.1

theorem collect_eq (h : Alike r r') : r.collect = r'.collect := by
  induction hn : r.size using Nat.strongRecOn generalizing r r' with
  | ind n ih =>
    obtain ⟨hitem, hnext⟩ := h.next
    obtain ⟨x, a, ha⟩ : ∃ x a, r.next = (x, a) := ⟨_, _, rfl⟩
    obtain ⟨x', a', ha'⟩ : ∃ x' a', r'.next = (x', a') := ⟨_, _, rfl⟩
    rw [ha, ha'] at hitem hnext
    cases hitem
    match x, ha, ha' with
    | none, ha, ha' => rw [collect_of_none (by rw [ha]), collect_of_none (by rw [ha'])]
    | some (.error e), ha, ha' => rw [collect_of_fault ha, collect_of_fault ha']
    | some (.ok m), ha, ha' =>
      have hrest := ih a.size (hn ▸ size_next_lt ha) hnext rfl
      rw [collect_of_motion ha, collect_of_motion ha', hrest]

end Alike

/-! ## Calls one after the other -/

namespace Yields

theorem item_lt (h : Yields r ms a) (n : Nat) (hn : n < ms.length) :
    r.item n = some (.ok ms[n]) := by
  induction h generalizing n with
  | refl => cases hn
  | cons hnext _ ih =>
    cases n with
    | zero => rw [item, Reader.after, hnext, List.getElem_cons_zero]
    | succ n =>
      have hlt := Nat.lt_of_succ_lt_succ hn
      rw [List.getElem_cons_succ, ← ih n hlt, item, Reader.after, hnext, item]

theorem item_add (h : Yields r ms a) (n : Nat) : r.item (ms.length + n) = a.item n := by
  rw [item, Reader.after_add, h.after_length, item]

theorem collect_eq (h : Yields r ms a) : r.collect = a.collect.map (ms ++ ·) := by
  cases hc : a.collect with
  | error e => rw [h.collect_error hc, Except.map]
  | ok ms' => rw [h.collect_ok hc, Except.map]

end Yields

end Reader

/-! ## The seam -/

variable {s t : String} {ms : List Motion}

/-- Behind the motions of a text that reads, a reader of more is alike a reader of what is behind,
with the keys held that the first text leaves. -/
theorem exists_seam (hs : parse s = .ok ms) (ht : Opens t.toList) :
    ∃ a, (Reader.ofText (s ++ t)).Yields ms a ∧
      Reader.Alike a { Reader.ofText t with held := ((Reader.ofText s).after ms.length).held } := by
  obtain ⟨ws, K, hws, hl, rfl⟩ := legal_of_parse hs
  have hl' : Legal ([] : List Key).toFinset (ws.map Written.token) K := hl
  obtain ⟨held, hp, _⟩ := legal_iff_replay.mp hl'
  have hrest : (Reader.ofText (s ++ t)).rest = lettersOf ws ++ t.toList := by
    rw [← hws, ← String.toList_append, Reader.ofText]
  obtain ⟨a, hy, hat, hend, hheld⟩ :=
    (Reader.atToken_ofText (s ++ t)).yields_before hrest ht hp
  have hleft := (held_at_end hws hp (Nat.le_refl _)).2
  exact ⟨a, hy, hend, by rw [hheld, hleft], hat.pending, hat.failed⟩

/-- A reader of two texts yields the motions of the first one and then just what a reader of the
second one yields that holds the keys left by the first. With no key left, reading both is reading
the second one and putting the motions of the first one before. -/
theorem parse_append_of_opens (s t : String) (ms : List Motion) (hs : parse s = .ok ms)
    (ht : Opens t.toList) :
    (∀ n (hn : n < ms.length), (Reader.ofText (s ++ t)).item n = some (.ok ms[n])) ∧
    (∀ H : List Key, H.toFinset = ((Reader.ofText s).after ms.length).held.toFinset →
      (∀ n, (Reader.ofText (s ++ t)).item (ms.length + n) =
          ({ Reader.ofText t with held := H } : Reader).item n ∧
        ((Reader.ofText (s ++ t)).after (ms.length + n)).held.toFinset =
          (({ Reader.ofText t with held := H } : Reader).after n).held.toFinset) ∧
      parse (s ++ t) =
        ({ Reader.ofText t with held := H } : Reader).collect.map (ms ++ ·)) ∧
    (((Reader.ofText s).after ms.length).held = [] → parse (s ++ t) = (parse t).map (ms ++ ·)) := by
  obtain ⟨a, hy, hseam⟩ := exists_seam hs ht
  have hbehind : ∀ H : List Key, H.toFinset = ((Reader.ofText s).after ms.length).held.toFinset →
      Reader.Alike a { Reader.ofText t with held := H } :=
    fun H hH => ⟨hseam.rest, hseam.held.trans hH.symm, hseam.pending, hseam.failed⟩
  refine ⟨hy.item_lt, fun H hH => ⟨fun n => ⟨?_, ?_⟩, ?_⟩, fun hnone => ?_⟩
  · rw [hy.item_add, (hbehind H hH).item_eq]
  · rw [Reader.after_add, hy.after_length, ((hbehind H hH).after n).held]
  · rw [parse, hy.collect_eq, (hbehind H hH).collect_eq]
  · have halike := hbehind [] (by rw [hnone])
    rw [parse, hy.collect_eq, halike.collect_eq]
    rfl

/-- The second text reads on its own, but behind the first one, which leaves ctrl held and ends with
a tap, it is a second press. -/
theorem parse_ctrl_behind_ctrl :
    parse "↓ctrl↓↑tab" = .ok [.press .ctrl, .press .tab, .release .tab] ∧
    Opens "↓ctrl".toList ∧ parse "↓ctrl" = .ok [.press .ctrl] ∧
    (Reader.ofText ("↓ctrl↓↑tab" ++ "↓ctrl")).item 2 = some (.ok (.release .tab)) ∧
    (Reader.ofText ("↓ctrl↓↑tab" ++ "↓ctrl")).item 3 = some (.error (.doublePress .ctrl)) ∧
    parse ("↓ctrl↓↑tab" ++ "↓ctrl") = .error (.doublePress .ctrl) := by
  let ws : List Written := [.ofToken (.press .ctrl), .ofToken (.tap .tab)]
  have hws : "↓ctrl↓↑tab".toList = lettersOf ws := by decide
  have hp : replay [] (ws.map Written.token) = .ok [.ctrl] := by decide
  have hs : parse "↓ctrl↓↑tab" = .ok [.press .ctrl, .press .tab, .release .tab] :=
    parse_of_legal hws (legal_of_replay hp)
  let ctrl : List Written := [.ofToken (.press .ctrl)]
  have hctrl : "↓ctrl".toList = lettersOf ctrl := by decide
  have hpress : replay [] (ctrl.map Written.token) = .ok [.ctrl] := by decide
  have ht : Opens "↓ctrl".toList := by
    rw [hctrl]
    exact opens_lettersOf ctrl
  have hleft : ([.ctrl] : List Key).toFinset =
      ((Reader.ofText "↓ctrl↓↑tab").after 3).held.toFinset := by
    rw [(held_at_end hws hp (Nat.le_refl 3)).2]
  obtain ⟨hbefore, hbehind, _⟩ := parse_append_of_opens _ _ _ hs ht
  obtain ⟨hitems, hparse⟩ := hbehind [.ctrl] hleft
  have hfault : ({ Reader.ofText "↓ctrl" with held := [.ctrl] } : Reader).collect =
      .error (.doublePress .ctrl) := Reader.collect_of_fault rfl
  refine ⟨hs, ht, parse_of_legal hctrl (legal_of_replay hpress), hbefore 2 (by decide),
    (hitems 0).1, ?_⟩
  rw [hparse, hfault]
  rfl

end ChordDrill.Combo
