import ChordDrill.Proofs.Drill.Dialogue

/-!
# ChordDrill.Proofs.Drill.Schedule

In whatever order a drill and its user take their turns, they come to the same end.

* `load` — a bound on the turns until the end: every step of the drill and everything that the user
  reads or sends makes it smaller.

`InStep.not_stuck` and `InStep.comes_to_end` say that the end can always be reached, `InStep.ended`
that it is the one that the answers deserve.
-/

namespace ChordDrill.Drill

open Attempt

variable {deck : List Action} {answers : Nat → List Motion} {g : Dialogue} {d d' : Drill}

/-! ## Results that are deserved -/

theorem Summary.Deserved.unique {s s' : Summary} (h : s.Deserved deck answers)
    (hs : s.attempts.map Prod.fst = deck) (h' : s'.Deserved deck answers)
    (hs' : s'.attempts.map Prod.fst = deck) : s = s' := by
  have hlen : s.attempts.length = s'.attempts.length := by
    rw [← List.length_map Prod.fst, hs, ← hs', List.length_map]
  suffices hsame : s.attempts = s'.attempts by
    cases s
    cases s'
    cases hsame
    rfl
  refine List.ext_getElem hlen fun i hi hi' => ?_
  obtain ⟨ha, hv⟩ := h i (s.attempts[i]).1 (s.attempts[i]).2 (List.getElem?_eq_getElem hi)
  obtain ⟨ha', hv'⟩ := h' i (s'.attempts[i]).1 (s'.attempts[i]).2 (List.getElem?_eq_getElem hi')
  have haction : (s.attempts[i]).1 = (s'.attempts[i]).1 := Option.some.inj (ha.symm.trans ha')
  rw [haction, hv'] at hv
  exact Prod.ext haction (Option.some.inj hv).symm

theorem exists_deserved (hanswers : AnswersAll deck answers) :
    ∃ s : Summary, s.attempts.map Prod.fst = deck ∧ s.Deserved deck answers := by
  have hverdict : ∀ i : Fin deck.length, ∃ v,
      (matcherAfter deck[i].combo (answers (i + 1))).verdict = some v := by
    intro i
    have hends := (hanswers i deck[i] (List.getElem?_eq_getElem i.isLt)).ends
    exact (stands_feedAll _ _).verdict_of_ready hends
  choose v hv using hverdict
  refine ⟨⟨List.ofFn fun i : Fin deck.length => (deck[i], v i)⟩, ?_, ?_⟩
  · rw [List.map_ofFn]
    exact List.ofFn_getElem
  · intro i a v' hi
    obtain ⟨hlt, he⟩ := List.getElem?_eq_some_iff.mp hi
    rw [List.length_ofFn] at hlt
    rw [List.getElem_ofFn] at he
    cases he
    exact ⟨List.getElem?_eq_getElem hlt, hv ⟨i, hlt⟩⟩

theorem InStep.ended (h : InStep deck answers g) {r : Except Stop Summary}
    (hp : g.drill.phase = .stopped r) :
    ∃ s : Summary, r = .ok s ∧ s.attempts.map Prod.fst = deck ∧ s.Deserved deck answers := by
  obtain ⟨past, hcourse⟩ := h.course
  obtain ⟨rfl, hcovers, _⟩ := hcourse.complete_trace hp
  refine ⟨_, rfl, ?_, hcourse.summary_eq ▸ h.deserved⟩
  rw [← hcovers.actions]
  exact List.map_map

/-- As long as the drill is not over, it or the user has something to do. -/
theorem InStep.not_stuck (h : InStep deck answers g) (hanswers : AnswersAll deck answers) :
    (∃ s, g.drill.phase = .stopped (.ok s)) ∨ g.drill.step ≠ none ∨ g.unread ≠ [] ∨
      g.unsent ≠ [] := by
  by_cases hstep : g.drill.step = none
  · rcases step_eq_none_iff.mp hstep with ⟨r, hp⟩ | ⟨s, hp, hq, _⟩
    · obtain ⟨s, rfl, _⟩ := h.ended hp
      exact .inl ⟨s, hp⟩
    · obtain ⟨past, hcourse⟩ := h.course
      have hawaits := h.awaits
      rw [hp] at hawaits
      obtain ⟨M, hM, howed⟩ := hawaits
      have hne := hcourse.owed hanswers hp hM howed
      by_contra hnone
      simp only [not_or, not_not] at hnone
      obtain ⟨_, _, hread, hsent⟩ := hnone
      exact hne (by simp [Dialogue.outstanding, hq, hread, hsent])
  · exact .inr (.inl hstep)

/-! ## The way to the end

A motion sent adds eight to the weight of the drill, and an event told one more to read. -/

/-- Motions that the user has not sent yet, those of later prompts included. -/
def unsentInAll (answers : Nat → List Motion) (g : Dialogue) : List Motion :=
  g.unsent ++ (g.unread.flatMap (answersTo answers) ++ (toPrompt g.drill).flatMap answers)

def load (answers : Nat → List Motion) (g : Dialogue) : Nat :=
  2 * g.drill.weight + 17 * (unsentInAll answers g).length + g.unread.length

theorem InStep.load_step_lt (h : InStep deck answers g) (hstep : g.drill.step ≠ none) :
    load answers (g.turn answers .step) < load answers g := by
  obtain ⟨d', hd'⟩ := Option.ne_none_iff_exists'.mp hstep
  have hturn : g.turn answers .step = { g with drill := d' } := by
    simp [Dialogue.turn, act, hd']
  rcases step_cases hd' with hadvance | ⟨e, hbreaks, _⟩
  · obtain ⟨es, hevents, hlen, hprompts⟩ := hadvance.tells answers
    have hunread : d'.events.drop g.read = g.unread ++ es := by
      rw [hevents, List.drop_append_of_le_length h.read_le]
      rfl
    have hsame : unsentInAll answers { g with drill := d' } = unsentInAll answers g := by
      simp [unsentInAll, Dialogue.unread, hunread, hprompts]
    have hweight := weight_step_lt hd'
    rw [hturn, load, load, hsame, Dialogue.unread, hunread, List.length_append]
    dsimp only
    omega
  · exact absurd hbreaks (h.connected e)

theorem load_read_lt (hunread : g.unread ≠ []) :
    load answers (g.turn answers .read) < load answers g := by
  obtain ⟨e, es, hes⟩ := List.exists_cons_of_ne_nil hunread
  have hread : g.drill.events.drop g.read = e :: es := hes
  have hrest : g.drill.events.drop (g.read + 1) = es := Dialogue.drop_read hes
  rw [Dialogue.turn_read hes]
  simp only [load, unsentInAll, hread, Dialogue.unread, hrest, List.flatMap_cons,
    List.length_append, List.length_cons]
  omega

theorem InStep.load_send_lt (h : InStep deck answers g) (hunsent : g.unsent ≠ []) :
    load answers (g.turn answers .send) < load answers g := by
  obtain ⟨m, ms, hms⟩ := List.exists_cons_of_ne_nil hunsent
  rw [h.turn_send hms]
  simp only [load, unsentInAll, hms, Dialogue.unread, toPrompt, weight, List.length_append,
    List.length_cons, List.length_nil]
  omega

theorem InStep.comes_to_end (h : InStep deck answers g)
    (hanswers : AnswersAll deck answers) :
    ∃ (turns : List Turn) (s : Summary),
      (turns.foldl (Dialogue.turn answers) g).drill.phase = .stopped (.ok s) := by
  induction hn : load answers g using Nat.strong_induction_on generalizing g with
  | _ n ih =>
    subst hn
    have hgo : ∀ t, load answers (g.turn answers t) < load answers g →
        ∃ (turns : List Turn) (s : Summary),
          (turns.foldl (Dialogue.turn answers) g).drill.phase = .stopped (.ok s) := by
      intro t hlt
      obtain ⟨turns, s, hs⟩ := ih _ hlt (h.turn hanswers t) rfl
      exact ⟨t :: turns, s, hs⟩
    rcases h.not_stuck hanswers with ⟨s, hs⟩ | hne | hne | hne
    · exact ⟨[], s, hs⟩
    · exact hgo .step (h.load_step_lt hne)
    · exact hgo .read (load_read_lt hne)
    · exact hgo .send (h.load_send_lt hne)

/-! ## The same end -/

/-- If every prompt is answered by motions that end the attempt with the last of them, then in every
order of turns nothing is flushed away, each attempt has the verdict of its answer, and the drill or
the user can go on until the drill is over, which it can always come to; all orders that end, end
with one summary. -/
theorem answers_determine_summary (deck : List Action) (answers : Nat → List Motion)
    (hanswers : AnswersAll deck answers) :
    (∀ turns,
      (∀ a, (dialogueAfter deck answers turns).drill.phase = .flushing a →
        (dialogueAfter deck answers turns).drill.line.queue = []) ∧
      (dialogueAfter deck answers turns).drill.summary.Deserved deck answers ∧
      ((∃ s, (dialogueAfter deck answers turns).drill.phase = .stopped (.ok s)) ∨
        (dialogueAfter deck answers turns).drill.step ≠ none ∨
        (dialogueAfter deck answers turns).unread ≠ [] ∨
        (dialogueAfter deck answers turns).unsent ≠ []) ∧
      ∃ more s, (dialogueAfter deck answers (turns ++ more)).drill.phase = .stopped (.ok s)) ∧
    ∃ s : Summary, s.attempts.map Prod.fst = deck ∧ s.Deserved deck answers ∧
      ∀ turns r, (dialogueAfter deck answers turns).drill.phase = .stopped r → r = .ok s := by
  constructor
  · intro turns
    have h := inStep_dialogueAfter hanswers turns
    refine ⟨fun a hp => ?_, h.deserved, h.not_stuck hanswers, ?_⟩
    · have hawaits := h.awaits
      rw [hp] at hawaits
      exact (List.append_eq_nil_iff.mp hawaits).1
    · obtain ⟨more, s, hs⟩ := h.comes_to_end hanswers
      refine ⟨more, s, ?_⟩
      rw [dialogueAfter, List.foldl_append]
      exact hs
  · obtain ⟨s, hs, hdeserved⟩ := exists_deserved hanswers
    refine ⟨s, hs, hdeserved, fun turns r hp => ?_⟩
    obtain ⟨s', rfl, hs', hdeserved'⟩ := (inStep_dialogueAfter hanswers turns).ended hp
    rw [hdeserved'.unique hs' hdeserved hs]

/-- Another key than that of `oneKey`, for every prompt. -/
def otherKey (_ : Nat) : List Motion := [.press .letterB, .release .letterB]

/-- The drill prompts, the user reads and answers, the drill closes the attempt and the deck. -/
def oneKeyTurns : List Turn :=
  List.replicate 3 .step ++ [.read, .send, .send] ++ List.replicate 13 .step

/-- A wrong answer is judged as such, in whatever order things happen. -/
theorem oneKey_answered_otherKey :
    AnswersAll [oneKey] otherKey ∧
    (dialogueAfter [oneKey] otherKey oneKeyTurns).drill.phase =
      .stopped (.ok ⟨[(oneKey, .mismatched [.press .letterA] [.press .letterB])]⟩) ∧
    ∀ turns r, (dialogueAfter [oneKey] otherKey turns).drill.phase = .stopped r →
      r = .ok ⟨[(oneKey, .mismatched [.press .letterA] [.press .letterB])]⟩ := by
  have hanswers : AnswersAll [oneKey] otherKey := by
    intro i a hi
    obtain ⟨rfl, ha⟩ : i = 0 ∧ oneKey = a := by simpa [List.getElem?_singleton] using hi
    subst ha
    refine ⟨[.press .letterB], .release .letterB, rfl, ?_⟩
    decide
  have hends : (dialogueAfter [oneKey] otherKey oneKeyTurns).drill.phase =
      .stopped (.ok ⟨[(oneKey, .mismatched [.press .letterA] [.press .letterB])]⟩) := rfl
  obtain ⟨_, s, _, _, hsame⟩ := answers_determine_summary [oneKey] otherKey hanswers
  refine ⟨hanswers, hends, fun turns r hp => ?_⟩
  rw [hsame turns r hp, ← hsame _ _ hends]

end ChordDrill.Drill
