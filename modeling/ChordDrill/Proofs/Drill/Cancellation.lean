import ChordDrill.Proofs.Drill.Run

/-!
# ChordDrill.Proofs.Drill.Cancellation

What a drill still does once the flag is up.

* `handed`       — the motions that a run hands to matchers.
* `Phase.Leaves` — what is left to a drill with the flag up, phase by phase.

`Leaves.act` is the step: whatever is left behind an act, together with what the act does, was left
before it. The flag ends a drill at its next look, so a look at the flag leaves nothing, a wait
leaves one motion, and the way from a pause to the next wait leaves one prompt, or the summary if
the deck is used up (`leaves_perform`). A drill with the flag up never starts to wait, so it comes
to its end once the wait that it may be in is over (`settle_of_cancelled`).
-/

namespace ChordDrill.Drill

open Attempt

/-! ## What a run does -/

/-- The motion that an act hands to the matcher of a session. -/
def handed? (d : Drill) : Act → Option Motion
  | .step =>
    match d.phase, d.line.take.1 with
    | .waiting _, .motion m => some m
    | _, _ => none
  | _ => none

def handed (d : Drill) : List Act → List Motion
  | [] => []
  | a :: acts => (d.handed? a).toList ++ (d.act a).handed acts

def prompted (es : List Event) : List Action :=
  es.filterMap fun
    | .prompt a _ => some a
    | _ => none

/-- The pause of the last session is over, or there was no session. -/
def Phase.PauseOver : Phase → Prop
  | .choosing | .announcing _ _ | .recording _ _ | .closing => True
  | _ => False

/-- A session is under way, and its pause is not over. -/
def Phase.InSession : Phase → Prop
  | .checking _ | .waiting _ | .reporting _ _ | .pausing _ _ => True
  | _ => False

/-! ## What is left under the flag -/

def Event.OfAttempt : Event → Prop
  | .motion _ _ | .verdict _ => True
  | _ => False

/-- The next prompt, or the summary of a deck that is used up, or nothing at all. -/
inductive Opens (deck : List Action) : List Event → Prop where
  | nothing : Opens deck []
  | prompt (a : Action) (n : Nat) : Opens deck [.prompt a n]
  | finished (s : Summary) : deck = [] → Opens deck [.finished s]

/-- Motions `ms` to hand over, events `es` to tell, and the summary `s'` in the end. -/
def Phase.Leaves (deck : List Action) (s s' : Summary) (ms : List Motion) (es : List Event) :
    Phase → Prop
  | .checking _ | .pausing _ _ | .stopped _ => ms = [] ∧ es = [] ∧ s' = s
  | .waiting _ => ms.length ≤ 1 ∧ (∀ e ∈ es, e.OfAttempt) ∧ s' = s
  | .reporting _ _ => ms = [] ∧ (∀ e ∈ es, e.OfAttempt) ∧ s' = s
  | .flushing _ | .prompting _ => ms = [] ∧ (es = [] ∨ ∃ a n, es = [.prompt a n]) ∧ s' = s
  | .closing => ms = [] ∧ (es = [] ∨ ∃ s, es = [.finished s]) ∧ s' = s
  | .choosing => ms = [] ∧ Opens deck es ∧ s' = s
  | .recording a v => ms = [] ∧ Opens deck es ∧ (s' = s ∨ s' = s.record a v)
  | .announcing a v => ms = [] ∧ (es = [] ∨ ∃ es', es = .readyForNext :: es' ∧ Opens deck es') ∧
      (s' = s ∨ s' = s.record a v)

variable {d d' : Drill} {a : Act} {deck : List Action} {s' : Summary} {ms : List Motion}
  {es : List Event}

theorem Phase.leaves_nothing (p : Phase) (deck : List Action) (s : Summary) :
    p.Leaves deck s s [] [] := by
  cases p <;> simp [Phase.Leaves, Opens.nothing]

theorem handed?_of_ne_step (ha : a ≠ .step) : d.handed? a = none := by
  cases a with
  | step => exact absurd rfl ha
  | timeout | send | cancel | hangUp | leave => rfl

theorem handed?_of_ne_waiting (h : ∀ s, d.phase ≠ .waiting s) : d.handed? .step = none := by
  simp only [handed?]
  split
  · rename_i s _ hp _
    exact absurd hp (h s)
  · rfl

theorem length_handed?_le (d : Drill) (a : Act) : (d.handed? a).toList.length ≤ 1 := by
  cases d.handed? a <;> simp

/-! ## Looks at the flag -/

theorem step_checking {s : Session} (hc : d.line.cancelled = true) (hp : d.phase = .checking s) :
    d.step = some (d.stop .cancelled) := by
  simp [step, hp, hc]

theorem step_pausing {a : Action} {v : Verdict} (hc : d.line.cancelled = true)
    (hp : d.phase = .pausing a v) : d.step = some (d.stop .cancelled) := by
  simp [step, hp, Line.sleep, hc]

/-- A drill with the flag up does not start to wait. -/
theorem step_ne_waiting (hc : d.line.cancelled = true) (h : d.step = some d') (s : Session) :
    d'.phase ≠ .waiting s := by
  intro hw
  have hstop : ∀ e, (d.stop e).phase ≠ .waiting s := fun e he => Phase.noConfusion he
  rcases step_cases h with hadvance | ⟨e, _, rfl⟩
  · cases hadvance with
    | look hp =>
      rw [step_checking hc hp] at h
      exact hstop _ (Option.some.inj h ▸ hw)
    | drop hp hq =>
      rw [hp] at hw
      cases hw
    | _ => cases hw
  · exact hstop e hw

theorem cancelled_act (hc : d.line.cancelled = true) (a : Act) :
    (d.act a).line.cancelled = true := by
  by_cases ha : a = .step
  · subst ha
    change (d.step.getD d).line.cancelled = true
    cases hstep : d.step with
    | none => exact hc
    | some d' =>
      rcases step_cases hstep with hadvance | ⟨e, _, rfl⟩
      · cases hadvance <;> exact hc
      · exact hc
  · exact (disturbs_act ha).breaks .cancelled hc

theorem cancelled_perform (hc : d.line.cancelled = true) (acts : List Act) :
    (d.perform acts).line.cancelled = true := by
  induction acts using List.reverseRecOn with
  | nil => exact hc
  | append_singleton acts a ih =>
    rw [perform_snoc]
    exact cancelled_act ih a

/-! ## One act -/

/-- Whatever is left behind a step, with what the step does, was left before it. -/
theorem Phase.Leaves.step (hc : d.line.cancelled = true) (hstep : d.step = some d')
    (h : d'.phase.Leaves d'.deck d'.summary s' ms es) :
    ∃ es', d'.events = d.events ++ es' ∧
      d.phase.Leaves d.deck d.summary s' ((d.handed? .step).toList ++ ms) (es' ++ es) := by
  have hquiet : ∀ {p : Phase}, d.phase = p → (∀ s, p ≠ .waiting s) → d.handed? .step = none := by
    rintro p rfl hp
    exact handed?_of_ne_waiting hp
  rcases step_cases hstep with hadvance | ⟨e, _, rfl⟩
  · cases hadvance with
    | draw hp hd =>
      obtain ⟨rfl, hes, rfl⟩ := h
      refine ⟨[], by simp, ?_⟩
      rw [hquiet hp (by simp), hp]
      rcases hes with rfl | ⟨a, n, rfl⟩
      · exact ⟨rfl, .nothing, rfl⟩
      · exact ⟨rfl, .prompt a n, rfl⟩
    | runOut hp hd =>
      obtain ⟨rfl, hes, rfl⟩ := h
      refine ⟨[], by simp, ?_⟩
      rw [hquiet hp (by simp), hp]
      rcases hes with rfl | ⟨s, rfl⟩
      · exact ⟨rfl, .nothing, rfl⟩
      · exact ⟨rfl, .finished s hd, rfl⟩
    | drop hp hq =>
      refine ⟨[], by simp, ?_⟩
      rw [hquiet hp (by simp)]
      exact h
    | flushed hp hq =>
      refine ⟨[], by simp, ?_⟩
      rw [hquiet hp (by simp), hp]
      exact h
    | @prompt a hp =>
      obtain ⟨rfl, rfl, rfl⟩ := h
      refine ⟨[.prompt a d.number], rfl, ?_⟩
      rw [hquiet hp (by simp), hp]
      exact ⟨rfl, .inr ⟨_, _, rfl⟩, rfl⟩
    | look hp =>
      rw [step_checking hc hp] at hstep
      cases hstep
    | receive hp hq =>
      obtain ⟨rfl, hes, rfl⟩ := h
      refine ⟨[], by simp, ?_⟩
      rw [hp, List.append_nil]
      exact ⟨length_handed?_le d .step, hes, rfl⟩
    | rest hp =>
      obtain ⟨rfl, rfl, rfl⟩ := h
      refine ⟨[], by simp, ?_⟩
      rw [hquiet hp (by simp), hp]
      exact ⟨rfl, by simp, rfl⟩
    | @report s n notices e hp he =>
      obtain ⟨rfl, hes, rfl⟩ := h
      refine ⟨[e], rfl, ?_⟩
      rw [hquiet hp (by simp), hp]
      have hattempt : e.OfAttempt := by
        cases n <;> cases he <;> trivial
      exact ⟨rfl, List.forall_mem_cons.mpr ⟨hattempt, hes⟩, rfl⟩
    | endSession hp hv =>
      obtain ⟨rfl, rfl, rfl⟩ := h
      refine ⟨[], by simp, ?_⟩
      rw [hquiet hp (by simp), hp]
      exact ⟨rfl, by simp, rfl⟩
    | skip hp hv =>
      refine ⟨[], by simp, ?_⟩
      rw [hquiet hp (by simp), hp]
      exact h
    | wake hp =>
      rw [step_pausing hc hp] at hstep
      cases hstep
    | announce hp =>
      obtain ⟨rfl, hes, hs⟩ := h
      refine ⟨[.readyForNext], rfl, ?_⟩
      rw [hquiet hp (by simp), hp]
      exact ⟨rfl, .inr ⟨es, rfl, hes⟩, hs⟩
    | record hp =>
      obtain ⟨rfl, hes, rfl⟩ := h
      refine ⟨[], by simp, ?_⟩
      rw [hquiet hp (by simp), hp]
      exact ⟨rfl, hes, .inr rfl⟩
    | close hp =>
      obtain ⟨rfl, rfl, rfl⟩ := h
      refine ⟨[.finished d.summary], rfl, ?_⟩
      rw [hquiet hp (by simp), hp]
      exact ⟨rfl, .inr ⟨_, rfl⟩, rfl⟩
  · obtain ⟨rfl, rfl, rfl⟩ := h
    refine ⟨[], by simp [stop], ?_⟩
    by_cases hw : ∃ s, d.phase = .waiting s
    · obtain ⟨s, hp⟩ := hw
      rw [hp, List.append_nil]
      exact ⟨length_handed?_le d .step, by simp, rfl⟩
    · rw [handed?_of_ne_waiting (not_exists.mp hw)]
      exact d.phase.leaves_nothing d.deck d.summary

theorem Phase.Leaves.act (hc : d.line.cancelled = true) (a : Act)
    (h : (d.act a).phase.Leaves (d.act a).deck (d.act a).summary s' ms es) :
    ∃ es', (d.act a).events = d.events ++ es' ∧
      d.phase.Leaves d.deck d.summary s' ((d.handed? a).toList ++ ms) (es' ++ es) := by
  by_cases ha : a = .step
  · subst ha
    have hact : d.act .step = d.step.getD d := rfl
    cases hstep : d.step with
    | none =>
      rw [hact, hstep, Option.getD_none] at h
      refine ⟨[], by rw [hact, hstep, Option.getD_none, List.append_nil], ?_⟩
      have hnone : d.handed? .step = none := by
        rcases step_eq_none_iff.mp hstep with ⟨r, hp⟩ | ⟨s, hp, hq, ho⟩
        · exact handed?_of_ne_waiting (by simp [hp])
        · simp [handed?, hp, Line.take, hq, ho]
      rw [hnone]
      exact h
    | some d' =>
      rw [hact, hstep, Option.getD_some] at h
      obtain ⟨es', hevents, hleaves⟩ := h.step hc hstep
      exact ⟨es', by rw [hact, hstep, Option.getD_some, hevents], hleaves⟩
  · have hd := disturbs_act (d := d) ha
    rw [hd.deck, hd.summary] at h
    refine ⟨[], by rw [hd.events, List.append_nil], ?_⟩
    rw [handed?_of_ne_step ha]
    rcases hd.phase with hp | ⟨s, hp, hp'⟩
    · rw [hp] at h
      exact h
    · rw [hp'] at h
      obtain ⟨rfl, rfl, rfl⟩ := h
      rw [hp]
      exact ⟨Nat.zero_le 1, by simp, rfl⟩

/-! ## Runs -/

theorem leaves_perform (hc : d.line.cancelled = true) (acts : List Act) :
    ∃ es, (d.perform acts).events = d.events ++ es ∧
      d.phase.Leaves d.deck d.summary (d.perform acts).summary (d.handed acts) es := by
  induction acts generalizing d with
  | nil => exact ⟨[], (List.append_nil _).symm, d.phase.leaves_nothing d.deck d.summary⟩
  | cons a acts ih =>
    obtain ⟨es, hevents, hleaves⟩ := ih (cancelled_act hc a)
    obtain ⟨es', hevents', hleaves'⟩ := hleaves.act hc a
    refine ⟨es' ++ es, ?_, hleaves'⟩
    change ((d.act a).perform acts).events = _
    rw [hevents, hevents', List.append_assoc]

/-- Left alone, a drill with the flag up ends, unless it waits already. -/
theorem steps_of_cancelled (hc : d.line.cancelled = true)
    (h : ∀ s, d.phase = .waiting s → d.step ≠ none) (n : Nat) (hn : (steps n d).step = none) :
    ∃ r, (steps n d).phase = .stopped r := by
  have hrest : ∀ {d : Drill}, (∀ s, d.phase = .waiting s → d.step ≠ none) → d.step = none →
      ∃ r, d.phase = .stopped r := by
    intro d h hnone
    rcases step_eq_none_iff.mp hnone with hr | ⟨s, hp, _⟩
    · exact hr
    · exact absurd hnone (h s hp)
  induction n generalizing d with
  | zero => exact hrest h hn
  | succ n ih =>
    cases hstep : d.step with
    | none =>
      have hsame : steps (n + 1) d = d := by simp only [steps, hstep]
      rw [hsame]
      exact hrest h hstep
    | some d' =>
      have hnext : steps (n + 1) d = steps n d' := by simp only [steps, hstep]
      have hc' := cancelled_act hc .step
      change (d.step.getD d).line.cancelled = true at hc'
      rw [hstep, Option.getD_some] at hc'
      rw [hnext] at hn ⊢
      exact ih hc' (fun s hp => absurd hp (step_ne_waiting hc hstep s)) hn

/-- A wait that goes on behind its time has a motion to take, or nobody who could send one. -/
theorem step_of_waiting_on {s : Session} (hp : (d.act .timeout).phase = .waiting s) :
    (d.act .timeout).step ≠ none := by
  intro hnone
  rcases step_eq_none_iff.mp hnone with ⟨r, hr⟩ | ⟨s', _, hq, ho⟩
  · rw [hp] at hr
    cases hr
  · by_cases hw : ∃ s, d.phase = .waiting s ∧ d.line.take.1 = .nothing
    · obtain ⟨s'', hp', ht⟩ := hw
      simp only [act, hp', ht] at hp
      cases hp
    · have hsame : d.act .timeout = d := by
        simp only [act]
        split
        · rename_i s'' hp' ht
          exact absurd ⟨s'', hp', ht⟩ hw
        · rfl
      rw [hsame] at hp hq ho
      exact hw ⟨s, hp, by simp [Line.take, hq, ho]⟩

theorem settle_of_cancelled (hc : d.line.cancelled = true) :
    ∃ r, (d.act .timeout).settle.phase = .stopped r :=
  steps_of_cancelled (cancelled_act hc .timeout) (fun _ hp => step_of_waiting_on hp) _
    (step_settle _)

/-! ## What is told -/

theorem prompted_eq_nil (h : ∀ e ∈ es, e.OfAttempt) : prompted es = [] := by
  rw [prompted, List.filterMap_eq_nil_iff]
  intro e he
  cases e with
  | prompt a n => exact absurd (h _ he) id
  | motion | verdict | readyForNext | finished => rfl

/-- Motions that are handed over and prompts add up to one at most. -/
theorem Phase.Leaves.length_le {p : Phase} {s : Summary} (h : p.Leaves deck s s' ms es) :
    ms.length + (prompted es).length ≤ 1 := by
  have hopens : ∀ {es}, Opens deck es → (prompted es).length ≤ 1 := by
    intro es ho
    cases ho <;> simp [prompted]
  cases p with
  | checking | pausing | stopped =>
    obtain ⟨rfl, rfl, _⟩ := h
    simp [prompted]
  | waiting =>
    obtain ⟨hms, hes, _⟩ := h
    rw [prompted_eq_nil hes]
    exact hms
  | reporting =>
    obtain ⟨rfl, hes, _⟩ := h
    rw [prompted_eq_nil hes]
    simp
  | flushing | prompting =>
    obtain ⟨rfl, rfl | ⟨a, n, rfl⟩, _⟩ := h <;> simp [prompted]
  | closing =>
    obtain ⟨rfl, rfl | ⟨s, rfl⟩, _⟩ := h <;> simp [prompted]
  | choosing | recording =>
    obtain ⟨rfl, ho, _⟩ := h
    simpa using hopens ho
  | announcing =>
    obtain ⟨rfl, rfl | ⟨es', rfl, ho⟩, _⟩ := h
    · simp [prompted]
    · simpa [prompted] using hopens ho

/-- A prompt is told last. -/
theorem Phase.Leaves.prompt_last {p : Phase} {s : Summary} {a : Action} {n : Nat}
    {before after : List Event} (h : p.Leaves deck s s' ms (before ++ .prompt a n :: after)) :
    after = [] := by
  have hmem : Event.prompt a n ∈ before ++ .prompt a n :: after := by simp
  have hopens : ∀ {deck before}, Opens deck (before ++ .prompt a n :: after) → after = [] := by
    intro deck before ho
    generalize hes : before ++ .prompt a n :: after = es at ho
    cases ho <;> cases before <;> simp_all
  cases p with
  | checking | pausing | stopped =>
    obtain ⟨_, hes, _⟩ := h
    simp at hes
  | waiting | reporting => exact absurd (h.2.1 _ hmem) id
  | flushing | prompting =>
    obtain ⟨_, hes | ⟨b, k, hes⟩, _⟩ := h
    · simp at hes
    · have ho : Opens [] (before ++ .prompt a n :: after) := hes ▸ Opens.prompt b k
      exact hopens ho
  | closing =>
    obtain ⟨_, hes | ⟨s, hes⟩, _⟩ := h
    · simp at hes
    · have ho : Opens [] (before ++ .prompt a n :: after) := hes ▸ Opens.finished s rfl
      exact hopens ho
  | choosing | recording => exact hopens h.2.1
  | announcing =>
    obtain ⟨_, hes | ⟨es', hes, ho⟩, _⟩ := h
    · simp at hes
    · cases before with
      | nil => cases hes
      | cons e before =>
        cases hes
        exact hopens ho

/-- The summary is told only once no pause is to come and the deck is used up. -/
theorem Phase.Leaves.of_finished {p : Phase} {s r : Summary} (h : p.Leaves deck s s' ms es)
    (hr : .finished r ∈ es) : p.PauseOver ∧ (p = .closing ∨ deck = []) := by
  have hopens : ∀ {es}, Opens deck es → .finished r ∈ es → deck = [] := by
    intro es ho hr
    cases ho with
    | nothing => cases hr
    | prompt => simp at hr
    | finished _ hd => exact hd
  cases p with
  | checking | pausing | stopped =>
    obtain ⟨_, rfl, _⟩ := h
    cases hr
  | waiting | reporting => exact absurd (h.2.1 _ hr) id
  | flushing | prompting =>
    obtain ⟨_, rfl | ⟨b, k, rfl⟩, _⟩ := h <;> simp at hr
  | closing => exact ⟨trivial, .inl rfl⟩
  | choosing | recording => exact ⟨trivial, .inr (hopens h.2.1 hr)⟩
  | announcing =>
    obtain ⟨_, rfl | ⟨es', rfl, ho⟩, _⟩ := h
    · cases hr
    · exact ⟨trivial, .inr (hopens ho (by simpa using hr))⟩

/-- A session that is under way is neither closed nor recorded any more. -/
theorem Phase.Leaves.unrecorded {p : Phase} {s : Summary} (h : p.Leaves deck s s' ms es)
    (hp : p.InSession) : .readyForNext ∉ es ∧ s' = s := by
  cases p with
  | checking | pausing =>
    obtain ⟨_, rfl, hs⟩ := h
    exact ⟨List.not_mem_nil, hs⟩
  | waiting | reporting =>
    obtain ⟨_, hes, hs⟩ := h
    exact ⟨fun hr => hes _ hr, hs⟩
  | choosing | flushing | prompting | announcing | recording | closing | stopped =>
    exact absurd hp id

/-- Wherever a drill is when the flag goes up, and whatever the world does then: the drill hands
over one more motion or prompts once more, or neither. A prompt is the last thing that it tells, so
nothing is accepted into the attempt. The summary is told only if no shortcut was left and no pause
was to come. An attempt whose pause was not over is neither closed nor recorded. Left alone the
drill ends, once the time of its last wait is up. -/
theorem cancelled_drill_ends (deck : List Action) (line : Line) (heard : Bool)
    (acts acts' : List Act) :
    let d := (drillAfter deck line heard acts).act .cancel
    ∃ es, (d.perform acts').events = d.events ++ es ∧
      (d.handed acts').length + (prompted es).length ≤ 1 ∧
      (∀ before a n after, es = before ++ .prompt a n :: after → after = []) ∧
      (∀ s, .finished s ∈ es → d.deck = [] ∧ d.phase.PauseOver) ∧
      (d.phase.InSession → .readyForNext ∉ es ∧ (d.perform acts').summary = d.summary) ∧
      ∃ r, ((d.perform acts').act .timeout).settle.phase = .stopped r := by
  intro d
  have hc : d.line.cancelled = true := rfl
  obtain ⟨es, hevents, hleaves⟩ := leaves_perform hc acts'
  refine ⟨es, hevents, hleaves.length_le, ?_, ?_, hleaves.unrecorded,
    settle_of_cancelled (cancelled_perform hc acts')⟩
  · rintro before a n after rfl
    exact hleaves.prompt_last
  · intro s hs
    obtain ⟨hover, hdeck⟩ := hleaves.of_finished hs
    refine ⟨?_, hover⟩
    rcases hdeck with hp | hdeck
    · cases (standing_drillAfter deck line heard acts).act .cancel with
      | onCourse hcourse =>
        have htells := hcourse.tells
        rw [show d.phase = .closing from hp] at htells
        exact htells.1
      | broken hstopped =>
        rw [show d.phase = .closing from hp] at hstopped
        cases hstopped
    · exact hdeck

/-- The flag goes up right behind the pause of the first of two attempts: the first one is closed,
the second one is prompted, and the motion sent to it is not handed over. -/
theorem oneKey_cancelled_behind_pause :
    let d := (drillAfter [oneKey, oneKey] {} true (oneKeyRun ++ [.step])).act .cancel
    let acts := .send (.press .letterA) :: List.replicate 8 .step
    d.phase = .announcing oneKey (.matched [.press .letterA]) ∧
      (d.perform acts).events = d.events ++ [.readyForNext, .prompt oneKey 2] ∧
      d.handed acts = [] ∧ (d.perform acts).phase = .stopped (.error .cancelled) := by
  intro d acts
  have hevents : (d.perform acts).events = d.events ++ [.readyForNext, .prompt oneKey 2] := rfl
  obtain ⟨es, hes, hle, _⟩ :=
    cancelled_drill_ends [oneKey, oneKey] {} true (oneKeyRun ++ [.step]) acts
  have htold : es = [.readyForNext, .prompt oneKey 2] :=
    List.append_cancel_left (hes.symm.trans hevents)
  have hhanded : (d.handed acts).length + 1 ≤ 1 := by
    rw [htold] at hle
    exact hle
  exact ⟨rfl, hevents, List.eq_nil_of_length_eq_zero (by omega), rfl⟩

end ChordDrill.Drill
