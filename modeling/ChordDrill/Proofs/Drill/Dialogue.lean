import ChordDrill.Proofs.Attempt.Drain
import ChordDrill.Proofs.Drill.Run

/-!
# ChordDrill.Proofs.Drill.Dialogue

A drill and a user who sends motions only as the answer to a prompt.

* `Dialogue`    — a drill, how far the user has read, and what the user has still to send.
* `Answers`     — motions of which the last one ends an attempt; `AnswersAll` for a whole deck.
* `outstanding` — motions owed to the drill: in the queue, in the hands of the user, or the answer
  to a prompt that is not read yet.
* `InStep`      — what the drill has received and what is outstanding make up the answer to the
  prompt that is up; between the attempts nothing is outstanding.

`InStep.turn` is the step, `inStep_dialogueAfter` the run. Reading and sending move motions without
a change to what is outstanding, so the order in which they happen does not matter.
-/

namespace ChordDrill.Drill

open Attempt

/-- A drill and its user; events and motions travel in the order in which they were sent. -/
structure Dialogue where
  drill : Drill
  read : Nat := 0
  unsent : List Motion := []

/-- What can happen next; a turn that is not possible changes nothing. -/
inductive Turn where
  | step
  | timeout
  | read
  | send

/-- What the user sends because of an event: the answer to the prompt. -/
def answersTo (answers : Nat → List Motion) : Event → List Motion
  | .prompt _ number => answers number
  | .motion _ _ | .verdict _ | .readyForNext | .finished _ => []

namespace Dialogue

def unread (g : Dialogue) : List Event := g.drill.events.drop g.read

def turn (answers : Nat → List Motion) (g : Dialogue) : Turn → Dialogue
  | .step => { g with drill := g.drill.act .step }
  | .timeout => { g with drill := g.drill.act .timeout }
  | .read =>
    match g.unread with
    | [] => g
    | e :: _ => { g with read := g.read + 1, unsent := g.unsent ++ answersTo answers e }
  | .send =>
    match g.unsent with
    | [] => g
    | m :: ms => { g with drill := g.drill.act (.send m), unsent := ms }

def outstanding (answers : Nat → List Motion) (g : Dialogue) : List Motion :=
  g.drill.line.queue ++ (g.unsent ++ g.unread.flatMap (answersTo answers))

end Dialogue

/-- A drill over a deck and its user after some turns; the answers are counted like the prompts. -/
def dialogueAfter (deck : List Action) (answers : Nat → List Motion) (turns : List Turn) :
    Dialogue :=
  turns.foldl (Dialogue.turn answers) { drill := { deck := deck } }

/-- The last motion, and none before it, ends an attempt at the combo. -/
def Answers (E A : List Motion) : Prop :=
  ∃ M m, A = M ++ [m] ∧ .readyForNext ∈ ((matcherAfter E M).feed m).1

def AnswersAll (deck : List Action) (answers : Nat → List Motion) : Prop :=
  ∀ i a, deck[i]? = some a → Answers a.combo (answers (i + 1))

theorem Answers.ends {E A : List Motion} (h : Answers E A) :
    (matcherAfter E A).stage = .readyForNext := by
  obtain ⟨M, m, rfl, hready⟩ := h
  exact stage_matcherAfter_snoc.mpr (.inr (readyForNext_mem_iff.mp hready).2)

/-- An attempt does not end before the answer is complete. -/
theorem Answers.complete {E A M N : List Motion} (h : Answers E A) (hA : M ++ N = A)
    (hM : (matcherAfter E M).stage = .readyForNext) : N = [] := by
  obtain ⟨M', m, rfl, hready⟩ := h
  rcases List.eq_nil_or_concat N with rfl | ⟨N', n, rfl⟩
  · rfl
  · rw [List.concat_eq_append, ← List.append_assoc] at hA
    have hM' : M ++ N' = M' := List.append_inj_left' hA rfl
    have hearly := stage_matcherAfter_append hM N'
    rw [hM'] at hearly
    exact absurd hearly (readyForNext_mem_iff.mp hready).1

/-! ## Answers on their way -/

/-- How the motions still outstanding in a phase belong to the answer to the prompt `number`. -/
def Phase.Awaits (answers : Nat → List Motion) (number : Nat) (owed : List Motion) : Phase → Prop
  | .checking s | .waiting s | .reporting s _ => ∃ M, s.Fed M ∧ M ++ owed = answers number
  | .pausing a v | .announcing a v | .recording a v =>
    owed = [] ∧ (matcherAfter a.combo (answers number)).verdict = some v
  | .choosing | .flushing _ | .prompting _ | .closing | .stopped _ => owed = []

/-- Each attempt noted is one at a shortcut of the deck and has the verdict of its answer. -/
def Summary.Deserved (deck : List Action) (answers : Nat → List Motion) (s : Summary) : Prop :=
  ∀ i a v, s.attempts[i]? = some (a, v) →
    deck[i]? = some a ∧ (matcherAfter a.combo (answers (i + 1))).verdict = some v

structure InStep (deck : List Action) (answers : Nat → List Motion) (g : Dialogue) : Prop where
  course : ∃ past, Course deck past g.drill
  connected : ∀ e, ¬ Breaks g.drill e
  read_le : g.read ≤ g.drill.events.length
  awaits : g.drill.phase.Awaits answers g.drill.number (g.outstanding answers)
  deserved : g.drill.summary.Deserved deck answers

variable {deck : List Action} {answers : Nat → List Motion} {past : List Attempted}
  {g : Dialogue} {d d' : Drill}

/-- The numbers of the prompts still to come. -/
def toPrompt (d : Drill) : List Nat :=
  match d.phase with
  | .flushing _ | .prompting _ => List.range' d.number (d.deck.length + 1)
  | _ => List.range' (d.number + 1) d.deck.length

theorem answersTo_report {s : Matcher} {n : Notice} {e : Event} (he : report? s n = some e) :
    answersTo answers e = [] := by
  cases n <;> cases he <;> rfl

/-- A step tells one event at most, and a prompt that it tells is no longer to come. -/
theorem Advances.tells (ha : Advances d d') (answers : Nat → List Motion) :
    ∃ es, d'.events = d.events ++ es ∧ es.length ≤ 1 ∧
      (toPrompt d).flatMap answers =
        es.flatMap (answersTo answers) ++ (toPrompt d').flatMap answers := by
  cases ha with
  | draw hp hdeck => exact ⟨[], by simp, by simp, by simp [toPrompt, hp, hdeck]⟩
  | prompt hp => exact ⟨_, rfl, by simp, by simp [toPrompt, tell, hp, List.range'_succ, answersTo]⟩
  | @report s n notices e hp he =>
    exact ⟨_, rfl, by simp, by simp [toPrompt, tell, hp, answersTo_report he]⟩
  | announce hp | close hp => exact ⟨_, rfl, by simp, by simp [toPrompt, tell, hp, answersTo]⟩
  | runOut hp _ | drop hp _ | flushed hp _ | look hp | receive hp _ | rest hp | endSession hp _
    | skip hp _ | wake hp | record hp => exact ⟨[], by simp, by simp, by simp [toPrompt, hp]⟩

theorem Course.deck_getElem? {a : Action} (h : Course deck past d)
    (ha : d.phase.action? = some a) : d.number = past.length + 1 ∧ deck[past.length]? = some a := by
  have hn := h.number_eq
  have hd := h.deck_eq
  rw [ha] at hn hd
  refine ⟨hn, ?_⟩
  rw [← hd, List.getElem?_append_right (by simp)]
  simp

theorem Course.complete (h : Course deck past d) {s : Session} {M owed : List Motion}
    (hanswers : AnswersAll deck answers)
    (hs : d.phase.action? = some s.action) (hM : s.Fed M) (howed : M ++ owed = answers d.number)
    (hstage : s.matcher.stage = .readyForNext) :
    owed = [] ∧ s.matcher = matcherAfter s.action.combo (answers d.number) := by
  obtain ⟨hn, hdeck⟩ := h.deck_getElem? hs
  have hanswer := hanswers _ _ hdeck
  rw [← hn] at hanswer
  have hready : (matcherAfter s.action.combo M).stage = .readyForNext := hM ▸ hstage
  have hnone := hanswer.complete howed hready
  refine ⟨hnone, ?_⟩
  rw [← howed, hnone, List.append_nil]
  exact hM

/-- While the drill waits for a motion some motion is outstanding. -/
theorem Course.owed (h : Course deck past d) {s : Session} {M owed : List Motion}
    (hanswers : AnswersAll deck answers)
    (hs : d.phase = .waiting s) (hM : s.Fed M) (howed : M ++ owed = answers d.number) :
    owed ≠ [] := by
  rintro rfl
  obtain ⟨hn, hdeck⟩ := h.deck_getElem? (a := s.action) (by rw [hs]; rfl)
  have hends := (hanswers _ _ hdeck).ends
  rw [← hn, ← howed, List.append_nil, ← hM] at hends
  have htells := h.tells
  rw [hs] at htells
  exact htells.2.1 hends

theorem Summary.Deserved.record {s : Summary} {a : Action} {v : Verdict}
    (h : s.Deserved deck answers) (ha : deck[s.attempts.length]? = some a)
    (hv : (matcherAfter a.combo (answers (s.attempts.length + 1))).verdict = some v) :
    (s.record a v).Deserved deck answers := by
  intro i a' v' hi
  rw [Summary.record, List.getElem?_append] at hi
  split at hi
  · exact h i a' v' hi
  · rename_i hlt
    rw [List.getElem?_singleton] at hi
    split at hi
    · rename_i hzero
      have hi' : i = s.attempts.length := by omega
      cases hi
      exact hi' ▸ ⟨ha, hv⟩
    · cases hi

theorem outstanding_tell {read : Nat} {unsent : List Motion} (h : read ≤ d.events.length)
    (e : Event) (next : Phase) : Dialogue.outstanding answers ⟨d.tell e next, read, unsent⟩ =
      Dialogue.outstanding answers ⟨d, read, unsent⟩ ++ answersTo answers e := by
  simp [Dialogue.outstanding, Dialogue.unread, tell, List.drop_append_of_le_length h]

/-- Only a prompt adds to what is outstanding, and only a motion received takes from it. -/
theorem InStep.awaits_advance (h : InStep deck answers g) (hanswers : AnswersAll deck answers)
    (ha : Advances g.drill d') :
    d'.phase.Awaits answers d'.number (Dialogue.outstanding answers { g with drill := d' }) := by
  obtain ⟨d, read, unsent⟩ := g
  obtain ⟨⟨past, hcourse⟩, _, hread, hawaits, _⟩ := h
  dsimp only at hcourse hread hawaits ha ⊢
  cases ha with
  | draw hp _ | runOut hp _ | flushed hp _ | look hp | rest hp | skip hp _ | wake hp =>
    rw [hp] at hawaits
    exact hawaits
  | drop hp hq =>
    -- No answer is under way yet, so there is nothing to drop.
    rw [hp] at hawaits
    simp [Phase.Awaits, Dialogue.outstanding, hq] at hawaits
  | @prompt a hp =>
    rw [hp] at hawaits
    refine ⟨[], rfl, ?_⟩
    rw [outstanding_tell hread, hawaits]
    rfl
  | @receive s m queue hp hq =>
    rw [hp] at hawaits
    obtain ⟨M, hM, howed⟩ := hawaits
    refine ⟨M ++ [m], hM.feed m, ?_⟩
    simpa [Dialogue.outstanding, Dialogue.unread, hq] using howed
  | @report s n notices e hp he =>
    rw [hp] at hawaits
    obtain ⟨M, hM, howed⟩ := hawaits
    refine ⟨M, hM, ?_⟩
    rw [outstanding_tell hread, answersTo_report he, List.append_nil]
    exact howed
  | @endSession s notices v hp hv =>
    have htells := hcourse.tells
    rw [hp] at hawaits htells
    obtain ⟨M, hM, howed⟩ := hawaits
    obtain ⟨_, hreports, _⟩ := htells
    cases hreports with
    | next hne _ => exact absurd rfl hne
    | last hstage =>
      -- The motion that ended the attempt was the last one of the answer.
      have hs : d.phase.action? = some s.action := by rw [hp]; rfl
      obtain ⟨hnone, hmatcher⟩ := hcourse.complete hanswers hs hM howed hstage
      exact ⟨hnone, hmatcher ▸ hv⟩
  | announce hp =>
    rw [hp] at hawaits
    refine ⟨?_, hawaits.2⟩
    rw [outstanding_tell hread, hawaits.1]
    rfl
  | record hp =>
    rw [hp] at hawaits
    exact hawaits.1
  | close hp =>
    rw [hp] at hawaits
    change Dialogue.outstanding answers _ = []
    rw [outstanding_tell hread, hawaits]
    rfl

theorem InStep.deserved_advance (h : InStep deck answers g) (ha : Advances g.drill d') :
    d'.summary.Deserved deck answers := by
  obtain ⟨⟨past, hcourse⟩, _, _, hawaits, hdeserved⟩ := h
  cases ha with
  | @record a v hp =>
    rw [hp] at hawaits
    obtain ⟨hn, hdeck⟩ := hcourse.deck_getElem? (a := a) (by rw [hp]; rfl)
    have hlen : g.drill.summary.attempts.length = past.length := by
      rw [hcourse.summary_eq]
      exact List.length_map _
    refine hdeserved.record ?_ ?_
    · rw [hlen, hdeck]
    · rw [hlen, ← hn]
      exact hawaits.2
  | draw | runOut | drop | flushed | prompt | look | receive | rest | report | endSession | skip
    | wake | announce | close => exact hdeserved

theorem InStep.advance (h : InStep deck answers g) (hanswers : AnswersAll deck answers)
    (ha : Advances g.drill d') : InStep deck answers { g with drill := d' } := by
  obtain ⟨past, hcourse⟩ := h.course
  obtain ⟨es, hevents, _, _⟩ := ha.tells answers
  refine ⟨hcourse.advance ha, fun e hb => h.connected e (ha.breaks hb), ?_,
    h.awaits_advance hanswers ha, h.deserved_advance ha⟩
  have hread := h.read_le
  change g.read ≤ d'.events.length
  rw [hevents, List.length_append]
  omega

/-- The user and the clock move motions about, and owe the same. -/
theorem InStep.disturb (h : InStep deck answers g) {g' : Dialogue} (hd : Disturbs g.drill g'.drill)
    (hconnected : ∀ e, Breaks g'.drill e → Breaks g.drill e)
    (hread : g'.read ≤ g.drill.events.length)
    (howed : g'.outstanding answers = g.outstanding answers) : InStep deck answers g' := by
  obtain ⟨⟨past, hcourse⟩, hconnected', _, hawaits, hdeserved⟩ := h
  refine ⟨⟨past, hcourse.disturb hd⟩, fun e hb => hconnected' e (hconnected e hb), ?_, ?_, ?_⟩
  · rw [hd.events]
    exact hread
  · rw [howed, hd.number]
    rcases hd.phase with hp | ⟨s, hp, hp'⟩
    · rw [hp]
      exact hawaits
    · rw [hp] at hawaits
      rw [hp']
      exact hawaits
  · rw [hd.summary]
    exact hdeserved

theorem Dialogue.turn_read {e : Event} {es : List Event} (h : g.unread = e :: es) :
    g.turn answers .read =
      { g with read := g.read + 1, unsent := g.unsent ++ answersTo answers e } := by
  simp [Dialogue.turn, h]

theorem Dialogue.drop_read {e : Event} {es : List Event} (h : g.unread = e :: es) :
    g.drill.events.drop (g.read + 1) = es := by
  rw [← List.drop_drop, show g.drill.events.drop g.read = e :: es from h]
  rfl

theorem InStep.act_send (h : InStep deck answers g) (m : Motion) : g.drill.act (.send m) =
    { g.drill with line := { g.drill.line with queue := g.drill.line.queue ++ [m] } } :=
  act_send_of_connected h.connected m

theorem InStep.turn_send (h : InStep deck answers g) {m : Motion} {ms : List Motion}
    (hunsent : g.unsent = m :: ms) : g.turn answers .send =
      { g with
        drill := { g.drill with
          line := { g.drill.line with queue := g.drill.line.queue ++ [m] } }
        unsent := ms } := by
  rw [← h.act_send]
  simp [Dialogue.turn, hunsent]

theorem InStep.turn (h : InStep deck answers g)
    (hanswers : AnswersAll deck answers) (t : Turn) :
    InStep deck answers (g.turn answers t) := by
  cases t with
  | step =>
    change InStep deck answers { g with drill := g.drill.step.getD g.drill }
    cases hstep : g.drill.step with
    | none => exact h
    | some d' =>
      rcases step_cases hstep with hadvance | ⟨e, hbreaks, _⟩
      · exact h.advance hanswers hadvance
      · exact absurd hbreaks (h.connected e)
  | timeout =>
    have hd := disturbs_act (d := g.drill) (a := .timeout) Act.noConfusion
    obtain ⟨p, hp⟩ := act_timeout g.drill
    rw [hp] at hd
    rw [show g.turn answers .timeout = { g with drill := { g.drill with phase := p } } by
      rw [Dialogue.turn, hp]]
    refine h.disturb hd ?_ h.read_le rfl
    intro e hb
    cases e <;> exact hb
  | read =>
    cases hunread : g.unread with
    | nil =>
      simp only [Dialogue.turn, hunread]
      exact h
    | cons e es =>
      rw [Dialogue.turn_read hunread]
      refine h.disturb ⟨rfl, rfl, rfl, rfl, .inl rfl, fun _ hb => hb⟩ (fun _ hb => hb) ?_ ?_
      · have hlen := congrArg List.length hunread
        simp only [Dialogue.unread, List.length_drop, List.length_cons] at hlen
        change g.read + 1 ≤ _
        omega
      · rw [Dialogue.outstanding, Dialogue.outstanding, hunread, Dialogue.unread,
          Dialogue.drop_read hunread]
        simp
  | send =>
    cases hunsent : g.unsent with
    | nil =>
      simp only [Dialogue.turn, hunsent]
      exact h
    | cons m ms =>
      have hd := disturbs_act (d := g.drill) (a := .send m) Act.noConfusion
      rw [h.act_send] at hd
      rw [h.turn_send hunsent]
      refine h.disturb hd ?_ h.read_le ?_
      · intro e hb
        cases e <;> exact hb
      · simp [Dialogue.outstanding, Dialogue.unread, hunsent]

theorem inStep_dialogueAfter
    (hanswers : AnswersAll deck answers) (turns : List Turn) :
    InStep deck answers (dialogueAfter deck answers turns) := by
  induction turns using List.reverseRecOn with
  | nil =>
    refine ⟨⟨[], by simp, rfl, rfl, rfl, rfl⟩, ?_, Nat.le_refl 0, rfl, ?_⟩
    · intro e
      cases e <;> simp [dialogueAfter, Breaks]
    · intro i a v hi
      cases hi
  | append_singleton turns t ih =>
    rw [dialogueAfter, List.foldl_append]
    exact ih.turn hanswers t

end ChordDrill.Drill
