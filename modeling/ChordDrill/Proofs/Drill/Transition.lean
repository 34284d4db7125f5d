import ChordDrill.Drill
import ChordDrill.Proofs.Attempt.Classification

/-!
# ChordDrill.Proofs.Drill.Transition

One step of a drill, said once.

* `Advances` — a step that goes on, one constructor for each thing the drill can do.
* `Breaks`   — what ends a drill early: the flag, or an end of a line that is gone.
* `Disturbs` — what the world around a drill does to it.
* `Reports`  — notices of a matcher that are still to be passed on.

`step_cases` and `step_eq_none_iff` put them together; `reports_feed` says which notices a motion
leaves.
-/

namespace ChordDrill.Drill

open Attempt

/-- Send an event that somebody receives. -/
def tell (d : Drill) (e : Event) (next : Phase) : Drill :=
  { d with events := d.events ++ [e], phase := next }

/-- The event that passes a notice on. -/
def report? (s : Matcher) : Notice → Option Event
  | .accepted m => some (.motion m s.entered)
  | .verdict v => some (.verdict v)
  | .readyForNext => none

inductive Advances (d : Drill) : Drill → Prop where
  | draw {a : Action} {deck : List Action} : d.phase = .choosing → d.deck = a :: deck →
      Advances d { d with deck := deck, number := d.number + 1, phase := .flushing a }
  | runOut : d.phase = .choosing → d.deck = [] → Advances d { d with phase := .closing }
  | drop {a : Action} {m : Motion} {queue : List Motion} : d.phase = .flushing a →
      d.line.queue = m :: queue → Advances d { d with line := { d.line with queue := queue } }
  | flushed {a : Action} : d.phase = .flushing a → d.line.queue = [] →
      Advances d { d with phase := .prompting a }
  | prompt {a : Action} : d.phase = .prompting a →
      Advances d (d.tell (.prompt a d.number) (.checking (.new a)))
  | look {s : Session} : d.phase = .checking s → Advances d { d with phase := .waiting s }
  | receive {s : Session} {m : Motion} {queue : List Motion} : d.phase = .waiting s →
      d.line.queue = m :: queue →
      Advances d { d with
        line := { d.line with queue := queue }
        phase := .reporting { s with matcher := (s.matcher.feed m).2 } (s.matcher.feed m).1 }
  | rest {s : Session} : d.phase = .reporting s [] → Advances d { d with phase := .checking s }
  | report {s : Session} {n : Notice} {notices : List Notice} {e : Event} :
      d.phase = .reporting s (n :: notices) → report? s.matcher n = some e →
      Advances d (d.tell e (.reporting s notices))
  | endSession {s : Session} {notices : List Notice} {v : Verdict} :
      d.phase = .reporting s (.readyForNext :: notices) → s.matcher.verdict = some v →
      Advances d { d with phase := .pausing s.action v }
  | skip {s : Session} {notices : List Notice} :
      d.phase = .reporting s (.readyForNext :: notices) → s.matcher.verdict = none →
      Advances d { d with phase := .reporting s notices }
  | wake {a : Action} {v : Verdict} : d.phase = .pausing a v →
      Advances d { d with phase := .announcing a v }
  | announce {a : Action} {v : Verdict} : d.phase = .announcing a v →
      Advances d (d.tell .readyForNext (.recording a v))
  | record {a : Action} {v : Verdict} : d.phase = .recording a v →
      Advances d { d with summary := d.summary.record a v, phase := .choosing }
  | close : d.phase = .closing →
      Advances d (d.tell (.finished d.summary) (.stopped (.ok d.summary)))

def Breaks (d : Drill) : Stop → Prop
  | .cancelled => d.line.cancelled = true
  | .disconnected => d.line.senderOpen = false ∨ d.heard = false

variable {d d' : Drill}

theorem emit_cases (e : Event) (next : Phase) :
    d.emit e next = d.tell e next ∨
    Breaks d .disconnected ∧ d.emit e next = d.stop .disconnected := by
  unfold emit
  split
  · exact .inl rfl
  · rename_i hh
    exact .inr ⟨.inr (by simpa using hh), rfl⟩

theorem step_cases (h : d.step = some d') :
    Advances d d' ∨ ∃ e, Breaks d e ∧ d' = d.stop e := by
  have hemit : ∀ {e next}, Advances d (d.tell e next) → d.emit e next = d' →
      Advances d d' ∨ ∃ e, Breaks d e ∧ d' = d.stop e := by
    intro e next ha he
    rcases emit_cases (d := d) e next with ht | ⟨hb, hs⟩
    · exact .inl (by rw [← he, ht]; exact ha)
    · exact .inr ⟨_, hb, by rw [← he, hs]⟩
  unfold step at h
  split at h
  · rename_i hp
    split at h
    · rename_i hd
      cases h
      exact .inl (.runOut hp hd)
    · rename_i hd
      cases h
      exact .inl (.draw hp hd)
  · rename_i hp
    split at h
    · rename_i hq
      cases h
      exact .inl (.flushed hp hq)
    · rename_i hq
      cases h
      exact .inl (.drop hp hq)
  · rename_i hp
    exact hemit (.prompt hp) (Option.some.inj h)
  · rename_i hp
    split at h
    · rename_i hc
      cases h
      exact .inr ⟨.cancelled, hc, rfl⟩
    · cases h
      exact .inl (.look hp)
  · rename_i hp
    unfold Line.take at h
    cases hq : d.line.queue with
    | cons m queue =>
      simp only [hq, Option.some.injEq] at h
      subst h
      exact .inl (.receive hp hq)
    | nil =>
      cases ho : d.line.senderOpen with
      | true => simp [hq, ho] at h
      | false =>
        simp only [hq, ho, Bool.false_eq_true, if_false, Option.some.injEq] at h
        exact .inr ⟨.disconnected, .inl ho, h.symm⟩
  · rename_i hp
    cases h
    exact .inl (.rest hp)
  · rename_i hp
    exact hemit (.report hp rfl) (Option.some.inj h)
  · rename_i hp
    exact hemit (.report hp rfl) (Option.some.inj h)
  · rename_i hp
    split at h
    · rename_i hv
      cases h
      exact .inl (.endSession hp hv)
    · rename_i hv
      cases h
      exact .inl (.skip hp hv)
  · rename_i hp
    cases hc : d.line.cancelled with
    | true =>
      simp only [Line.sleep, hc, if_true, Option.some.injEq] at h
      exact .inr ⟨.cancelled, hc, h.symm⟩
    | false =>
      simp only [Line.sleep, hc, Bool.false_eq_true, if_false, Option.some.injEq] at h
      subst h
      exact .inl (.wake hp)
  · rename_i hp
    exact hemit (.announce hp) (Option.some.inj h)
  · rename_i hp
    cases h
    exact .inl (.record hp)
  · rename_i hp
    exact hemit (.close hp) (Option.some.inj h)
  · cases h

theorem Advances.breaks (ha : Advances d d') {e : Stop} (h : Breaks d' e) : Breaks d e := by
  cases ha <;> cases e <;> exact h

/-- A drill takes no step when it is over, or waits for a motion that may still come. -/
theorem step_eq_none_iff : d.step = none ↔ (∃ r, d.phase = .stopped r) ∨
    ∃ s, d.phase = .waiting s ∧ d.line.queue = [] ∧ d.line.senderOpen = true := by
  cases hp : d.phase with
  | waiting s =>
    cases hq : d.line.queue with
    | cons m queue => simp [step, hp, Line.take, hq]
    | nil => cases ho : d.line.senderOpen <;> simp [step, hp, Line.take, hq, ho]
  | choosing => cases hd : d.deck <;> simp [step, hp, hd]
  | flushing a => cases hq : d.line.queue <;> simp [step, hp, hq]
  | checking s => cases hc : d.line.cancelled <;> simp [step, hp, hc]
  | reporting s notices =>
    match notices with
    | [] | .accepted _ :: _ | .verdict _ :: _ => simp [step, hp]
    | .readyForNext :: _ => cases hv : s.matcher.verdict <;> simp [step, hp, hv]
  | pausing a v => cases hc : d.line.cancelled <;> simp [step, hp, Line.sleep, hc]
  | prompting | announcing | recording | closing | stopped => simp [step, hp]

/-- What the world does to a drill: it changes the line and the receiver, and ends a wait. -/
structure Disturbs (d d' : Drill) : Prop where
  deck : d'.deck = d.deck
  number : d'.number = d.number
  summary : d'.summary = d.summary
  events : d'.events = d.events
  phase : d'.phase = d.phase ∨ ∃ s, d.phase = .waiting s ∧ d'.phase = .checking s
  breaks : ∀ e, Breaks d e → Breaks d' e

theorem act_timeout (d : Drill) : ∃ p, d.act .timeout = { d with phase := p } := by
  simp only [act]
  split
  · exact ⟨_, rfl⟩
  · exact ⟨d.phase, rfl⟩

theorem disturbs_act {a : Act} (ha : a ≠ .step) : Disturbs d (d.act a) := by
  cases a with
  | step => exact absurd rfl ha
  | timeout =>
    simp only [act]
    split
    · rename_i s hp _
      exact ⟨rfl, rfl, rfl, rfl, .inr ⟨s, hp, rfl⟩, fun _ hb => hb⟩
    · exact ⟨rfl, rfl, rfl, rfl, .inl rfl, fun _ hb => hb⟩
  | send m =>
    refine ⟨rfl, rfl, rfl, rfl, .inl rfl, fun e hb => ?_⟩
    have hsame : (d.line.send m).2.cancelled = d.line.cancelled ∧
        (d.line.send m).2.senderOpen = d.line.senderOpen := by
      unfold Line.send
      split <;> exact ⟨rfl, rfl⟩
    cases e with
    | cancelled => exact hsame.1.trans hb
    | disconnected => exact hb.imp_left hsame.2.trans
  | cancel =>
    refine ⟨rfl, rfl, rfl, rfl, .inl rfl, fun e hb => ?_⟩
    cases e with
    | cancelled => rfl
    | disconnected => exact hb
  | hangUp =>
    refine ⟨rfl, rfl, rfl, rfl, .inl rfl, fun e hb => ?_⟩
    cases e with
    | cancelled => exact hb
    | disconnected => exact .inl rfl
  | leave =>
    refine ⟨rfl, rfl, rfl, rfl, .inl rfl, fun e hb => ?_⟩
    cases e with
    | cancelled => exact hb
    | disconnected => exact .inr rfl

theorem act_send_of_connected (h : ∀ e, ¬ Breaks d e) (m : Motion) : d.act (.send m) =
    { d with line := { d.line with queue := d.line.queue ++ [m] } } := by
  have hopen : d.line.senderOpen = true := by
    cases ho : d.line.senderOpen with
    | true => rfl
    | false => exact absurd (.inl ho) (h .disconnected)
  simp [act, Line.send, hopen]

theorem perform_snoc (d : Drill) (acts : List Act) (a : Act) :
    d.perform (acts ++ [a]) = (d.perform acts).act a := by
  rw [perform, List.foldl_append]
  rfl

/-! ## Notices still to be passed on -/

/-- The end of the attempt comes last, and is there exactly if the matcher has reached it. -/
inductive Reports (s : Matcher) : List Notice → Prop where
  | last : s.stage = .readyForNext → Reports s [.readyForNext]
  | done : s.stage ≠ .readyForNext → Reports s []
  | next {n : Notice} {notices : List Notice} : n ≠ .readyForNext → Reports s notices →
      Reports s (n :: notices)

theorem reports_drain (s : Matcher) : Reports s.drain.2 s.drain.1 := by
  rcases s.drain_cases with ⟨_, hd⟩ | ⟨_, hd⟩
  · rw [hd]
    exact .last rfl
  · rw [hd]
    exact .done Stage.noConfusion

theorem reports_feed {E M : List Motion} {ns : List Notice} {s : Matcher} (h : Stands E M ns s)
    (hs : s.stage ≠ .readyForNext) (m : Motion) : Reports (s.feed m).2 (s.feed m).1 := by
  cases h with
  | comparing _ _ _ hst _ =>
    cases hj : (s.enter m).judge m with
    | none =>
      rw [Matcher.feed_undecided hst hj]
      exact .next Notice.noConfusion (.done (by simp [hst]))
    | some v =>
      rw [Matcher.feed_decided hst hj]
      exact .next Notice.noConfusion (.next Notice.noConfusion (reports_drain _))
  | draining _ _ hst _ =>
    rw [Matcher.feed_draining hst]
    exact reports_drain _
  | ready _ _ hst _ => exact absurd hst hs

end ChordDrill.Drill
