import ChordDrill.Proofs.Drill.Course

/-!
# ChordDrill.Proofs.Drill.Run

What a drill tells from its start on, whatever the world does.

`stock` — the motions told, about to be told, and still in the queue — bounds what is told by what
was sent. The main result puts it together with the course of
the drill.
-/

namespace ChordDrill.Drill

open Attempt

variable {d d' : Drill}

/-! ## Motions accepted and motions sent -/

def sent (acts : List Act) : List Motion :=
  acts.filterMap fun
    | .send m => some m
    | _ => none

/-- Events that a drill is about to send for the motion taken last. -/
def Phase.pending : Phase → List Event
  | .reporting s notices => notices.filterMap (report? s.matcher)
  | _ => []

def stock (d : Drill) : List Motion := accepted (d.events ++ d.phase.pending) ++ d.line.queue

/-- A motion is accepted once at most. -/
theorem accepted_feed (s : Matcher) (m : Motion) :
    (accepted ((s.feed m).1.filterMap (report? (s.feed m).2))).Sublist [m] := by
  have hdrain : ∀ s : Matcher, s.drain.1.filterMap (report? s.drain.2) = [] := by
    intro s
    rcases s.drain_cases with ⟨_, hd⟩ | ⟨_, hd⟩ <;> rw [hd] <;> rfl
  cases hs : s.stage with
  | awaitingMotion =>
    cases hj : (s.enter m).judge m with
    | none =>
      rw [Matcher.feed_undecided hs hj]
      exact List.Sublist.refl [m]
    | some v =>
      rw [Matcher.feed_decided hs hj]
      simp [report?, hdrain, accepted]
  | drainingPressed =>
    rw [Matcher.feed_draining hs, hdrain]
    exact List.nil_sublist [m]
  | idle | matched | mismatched | readyForNext =>
    simp [Matcher.feed, hs, accepted]

theorem stock_advance (ha : Advances d d') : (stock d').Sublist (stock d) := by
  have hquiet : ∀ {p : Phase}, p.pending = [] → d'.phase.pending = [] → d.phase = p →
      accepted d'.events = accepted d.events → d'.line.queue = d.line.queue →
      (stock d').Sublist (stock d) := by
    rintro p hp hp' rfl he hq
    rw [stock, stock, accepted_append, accepted_append, hp, hp', he, hq]
  cases ha with
  | draw hp _ => exact hquiet rfl rfl hp rfl rfl
  | runOut hp _ => exact hquiet rfl rfl hp rfl rfl
  | drop hp hq =>
    rw [stock, stock, hq]
    exact List.Sublist.append_left (List.sublist_cons_self _ _) _
  | flushed hp _ => exact hquiet rfl rfl hp rfl rfl
  | prompt hp => exact hquiet rfl rfl hp (by simp [tell, accepted]) rfl
  | look hp => exact hquiet rfl rfl hp rfl rfl
  | @receive s m queue hp hq =>
    have hfed := (accepted_feed s.matcher m).append_right queue
    rw [stock, stock, hp, hq, accepted_append, accepted_append, List.append_assoc,
      List.append_assoc]
    exact List.Sublist.append_left hfed _
  | rest hp => exact hquiet rfl rfl hp rfl rfl
  | @report s n notices e hp he =>
    have hsame : (d.tell e (.reporting s notices)).events ++
        (d.tell e (.reporting s notices)).phase.pending = d.events ++ d.phase.pending := by
      simp [tell, hp, Phase.pending, he]
    rw [stock, stock, hsame]
    exact List.Sublist.refl _
  | @endSession s notices v hp _ =>
    rw [stock, stock, accepted_append, accepted_append]
    exact List.Sublist.append_right
      (List.Sublist.append_left (List.nil_sublist _) _) _
  | @skip s notices hp _ =>
    rw [stock, stock, hp]
    exact List.Sublist.refl _
  | wake hp => exact hquiet rfl rfl hp rfl rfl
  | announce hp => exact hquiet rfl rfl hp (by simp [tell, accepted]) rfl
  | record hp => exact hquiet rfl rfl hp rfl rfl
  | close hp => exact hquiet rfl rfl hp (by simp [tell, accepted]) rfl

theorem stock_act (d : Drill) (a : Act) : (stock (d.act a)).Sublist (stock d ++ sent [a]) := by
  have hsame : ∀ {l l' : List Motion}, l.Sublist l' → l.Sublist (l' ++ sent [a]) :=
    fun h => h.trans (List.sublist_append_left _ _)
  cases a with
  | step =>
    apply hsame
    change (stock (d.step.getD d)).Sublist (stock d)
    cases hstep : d.step with
    | none => exact List.Sublist.refl _
    | some d' =>
      rcases step_cases hstep with hadvance | ⟨e, _, rfl⟩
      · exact stock_advance hadvance
      · rw [Option.getD_some, stock, stock, accepted_append, accepted_append]
        exact List.Sublist.append_right (List.Sublist.append_left (List.nil_sublist _) _) _
  | timeout =>
    apply hsame
    simp only [act]
    split
    · rename_i s hp _
      rw [stock, stock, hp]
      exact List.Sublist.refl _
    · exact List.Sublist.refl _
  | send m =>
    cases ho : d.line.senderOpen with
    | true => simp [act, Line.send, ho, stock, sent]
    | false =>
      apply hsame
      simp [act, Line.send, ho, stock]
  | cancel | hangUp | leave => exact hsame (List.Sublist.refl _)

theorem stock_perform (d : Drill) (acts : List Act) :
    (stock (d.perform acts)).Sublist (stock d ++ sent acts) := by
  induction acts using List.reverseRecOn with
  | nil =>
    rw [sent, List.filterMap_nil, List.append_nil]
    exact List.Sublist.refl _
  | append_singleton acts a ih =>
    have hsent : sent (acts ++ [a]) = sent acts ++ sent [a] := List.filterMap_append
    rw [perform_snoc, hsent, ← List.append_assoc]
    exact (stock_act _ a).trans (ih.append_right _)

def drillAfter (deck : List Action) (line : Line) (heard : Bool) (acts : List Act) : Drill :=
  perform { deck := deck, line := line, heard := heard } acts

theorem standing_drillAfter (deck : List Action) (line : Line) (heard : Bool) (acts : List Act) :
    Standing deck (drillAfter deck line heard acts) := by
  have hcourse : Course deck [] { deck := deck, line := line, heard := heard } :=
    ⟨by simp, rfl, rfl, rfl, rfl⟩
  exact standing_perform (.onCourse hcourse) acts

/-- Whatever the world does, a drill tells a beginning of a complete trace of its deck, with
motions that were sent and verdicts that they deserve. It ends with the summary exactly if it told
it, and then it told everything; else it ends for a reason that is there, and without a summary.
Left alone it comes to its end or waits for a motion that may still come. -/
theorem events_begin_complete_trace (deck : List Action) (line : Line) (heard : Bool)
    (acts : List Act) :
    ∃ ts, Covers deck ts ∧ (drillAfter deck line heard acts).events <+: completeTrace ts ∧
      (accepted (drillAfter deck line heard acts).events).Sublist (line.queue ++ sent acts) ∧
      (∀ s, (drillAfter deck line heard acts).phase = .stopped (.ok s) ↔
        .finished s ∈ (drillAfter deck line heard acts).events) ∧
      (∀ s, (drillAfter deck line heard acts).phase = .stopped (.ok s) →
        (drillAfter deck line heard acts).events = completeTrace ts ∧
        s.attempts = ts.map fun t => (t.action, t.verdict)) ∧
      (∀ e, (drillAfter deck line heard acts).phase = .stopped (.error e) →
        Breaks (drillAfter deck line heard acts) e ∧
        ∀ s, .finished s ∉ (drillAfter deck line heard acts).events) ∧
      ((∃ r, (drillAfter deck line heard acts).settle.phase = .stopped r) ∨
        ∃ s, (drillAfter deck line heard acts).settle.phase = .waiting s ∧
          (drillAfter deck line heard acts).settle.line.queue = [] ∧
          (drillAfter deck line heard acts).settle.line.senderOpen = true) := by
  have hstock := stock_perform { deck := deck, line := line, heard := heard } acts
  have hsent : (accepted (drillAfter deck line heard acts).events).Sublist
      (line.queue ++ sent acts) := by
    refine List.Sublist.trans ?_ hstock
    rw [stock, accepted_append, List.append_assoc]
    exact List.sublist_append_left _ _
  have hsettle := step_eq_none_iff.mp (step_settle (drillAfter deck line heard acts))
  have hstanding := standing_drillAfter deck line heard acts
  generalize drillAfter deck line heard acts = d at *
  have hunfinished : ∀ {ts}, d.events <+: told ts → ∀ s, .finished s ∉ d.events :=
    fun hpre s hs => finished_notMem_told _ s (hpre.subset hs)
  cases hstanding with
  | @broken e ts hp hbreaks hcovers hpre =>
    refine ⟨ts, hcovers, hpre.trans (List.prefix_append _ _), hsent, fun s => ?_, ?_, ?_, hsettle⟩
    · simp [hp, hunfinished hpre s]
    · simp [hp]
    · intro e' he'
      rw [hp] at he'
      cases he'
      exact ⟨hbreaks, hunfinished hpre⟩
  | @onCourse past hcourse =>
    by_cases hrun : ∀ r, d.phase ≠ .stopped r
    · obtain ⟨ts, hcovers, hpre⟩ := hcourse.begins_trace hrun
      refine ⟨ts, hcovers, hpre.trans (List.prefix_append _ _), hsent, fun s => ?_, ?_, ?_, hsettle⟩
      · simp [hrun, hunfinished hpre s]
      · simp [hrun]
      · simp [hrun]
    · obtain ⟨r, hp⟩ := not_forall_not.mp hrun
      obtain ⟨rfl, hcovers, hevents⟩ := hcourse.complete_trace hp
      have hnot := finished_notMem_told past
      refine ⟨past, hcovers, hevents ▸ List.prefix_rfl, hsent, fun s => ?_, ?_, ?_, hsettle⟩
      · simp [hp, hevents, completeTrace, hnot, eq_comm]
      · intro s hs
        rw [hp] at hs
        cases hs
        exact ⟨hevents, rfl⟩
      · simp [hp]

def oneKey : Action := ⟨[], [.press .letterA], "a"⟩

/-- The key of `oneKey` is pressed and let go after the prompt, up to the pause. -/
def oneKeyRun : List Act :=
  List.replicate 4 .step ++ [.send (.press .letterA), .send (.release .letterA)] ++
    List.replicate 7 .step

/-- A drill over one key comes to its summary and has told everything; the flag in the pause after
the verdict ends it without a summary. -/
theorem oneKey_finishes_unless_cancelled :
    (drillAfter [oneKey] {} true (oneKeyRun ++ List.replicate 5 .step)).phase =
      .stopped (.ok ⟨[(oneKey, .matched [.press .letterA])]⟩) ∧
    (∃ ts, (drillAfter [oneKey] {} true (oneKeyRun ++ List.replicate 5 .step)).events =
      completeTrace ts) ∧
    (drillAfter [oneKey] {} true (oneKeyRun ++ [.cancel, .step])).phase =
      .stopped (.error .cancelled) ∧
    ∀ s, .finished s ∉ (drillAfter [oneKey] {} true (oneKeyRun ++ [.cancel, .step])).events := by
  have hfinished : (drillAfter [oneKey] {} true (oneKeyRun ++ List.replicate 5 .step)).phase =
      .stopped (.ok ⟨[(oneKey, .matched [.press .letterA])]⟩) := rfl
  have hcancelled : (drillAfter [oneKey] {} true (oneKeyRun ++ [.cancel, .step])).phase =
      .stopped (.error .cancelled) := rfl
  obtain ⟨ts, _, _, _, _, hcomplete, _⟩ :=
    events_begin_complete_trace [oneKey] {} true (oneKeyRun ++ List.replicate 5 .step)
  obtain ⟨_, _, _, _, _, _, hearly, _⟩ :=
    events_begin_complete_trace [oneKey] {} true (oneKeyRun ++ [.cancel, .step])
  exact ⟨hfinished, ⟨ts, (hcomplete _ hfinished).1⟩, hcancelled, (hearly _ hcancelled).2⟩

end ChordDrill.Drill
