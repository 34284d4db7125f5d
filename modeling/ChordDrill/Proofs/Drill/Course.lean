import Mathlib.Data.List.Infix
import ChordDrill.Proofs.Drill.Trace
import ChordDrill.Proofs.Drill.Transition

/-!
# ChordDrill.Proofs.Drill.Course

What a drill has told, wherever it stands.

* `Course`   — where a drill stands after some attempts, phase by phase.
* `Standing` — on course, or ended early after a beginning of a complete trace.

`Course.advance` is the step, `standing_perform` the run.
-/

namespace ChordDrill.Drill

open Attempt

/-! ## An attempt under way -/

/-- What is told about an attempt, the prompt apart. -/
def tale (s : Matcher) : List Event := motionEvents s.entered ++ s.verdict.toList.map .verdict

/-- The matcher of the session is where some motions leave it. -/
def Session.Fed (s : Session) (M : List Motion) : Prop := s.matcher = matcherAfter s.action.combo M

/-- A motion adds to the tale what its notices report. -/
theorem tale_feed {E M : List Motion} {ns : List Notice} {s : Matcher} (h : Stands E M ns s)
    (m : Motion) :
    tale (s.feed m).2 = tale s ++ (s.feed m).1.filterMap (report? (s.feed m).2) := by
  have hdrain : ∀ s : Matcher, tale s.drain.2 = tale s ∧
      s.drain.1.filterMap (report? s.drain.2) = [] := by
    intro s
    rcases s.drain_cases with ⟨_, hd⟩ | ⟨_, hd⟩ <;> rw [hd] <;> exact ⟨rfl, rfl⟩
  cases h with
  | comparing _ _ _ hst hv =>
    have hbefore : tale s = motionEvents s.entered := by simp [tale, hv]
    cases hj : (s.enter m).judge m with
    | none =>
      rw [Matcher.feed_undecided hst hj, hbefore]
      simp [tale, hv, report?, motionEvents_snoc]
    | some v =>
      rw [Matcher.feed_decided hst hj, hbefore]
      obtain ⟨htale, hnone⟩ := hdrain ((s.enter m).conclude v)
      have hentered : ((s.enter m).conclude v).drain.2.entered = s.entered ++ [m] := by
        rcases ((s.enter m).conclude v).drain_cases with ⟨_, hd⟩ | ⟨_, hd⟩ <;> rw [hd] <;> rfl
      simp only [htale, List.filterMap_cons, report?, hnone, hentered]
      simp [tale, Matcher.conclude, motionEvents_snoc]
  | draining _ _ hst _ =>
    rw [Matcher.feed_draining hst, (hdrain _).1, (hdrain _).2, List.append_nil]
    simp [tale]
  | ready _ _ hst _ =>
    rw [Matcher.feed_ready hst]
    simp

theorem Session.Fed.stands {s : Session} {M : List Motion} (h : s.Fed M) :
    Stands s.action.combo M (noticesOf s.action.combo M) s.matcher := by
  rw [h]
  exact stands_feedAll s.action.combo M

theorem Session.Fed.feed {s : Session} {M : List Motion} (h : s.Fed M) (m : Motion) :
    Session.Fed { s with matcher := (s.matcher.feed m).2 } (M ++ [m]) := by
  change (s.matcher.feed m).2 = matcherAfter s.action.combo (M ++ [m])
  rw [h, matcherAfter, matcherAfter, Matcher.feedAll_snoc]

/-- What is told about a session goes on to a whole attempt. -/
theorem Session.Fed.completes {s : Session} {M : List Motion} (h : s.Fed M) (number : Nat) :
    ∃ t : Attempted, t.action = s.action ∧ t.Classified ∧
      .prompt s.action number :: tale s.matcher <+: t.events number := by
  have ho := h.stands.outcome_entered
  cases hv : s.matcher.verdict with
  | none =>
    rw [hv, Option.map_none] at ho
    obtain ⟨m, v, hd⟩ := exists_decided ho
    refine ⟨⟨s.action, s.matcher.entered ++ [m], v⟩, rfl,
      by simpa [Attempted.Classified] using hd, ?_⟩
    refine ⟨.motion m (s.matcher.entered ++ [m]) :: [.verdict v, .readyForNext], ?_⟩
    simp [tale, hv, Attempted.events, motionEvents_snoc]
  | some v =>
    rw [hv, Option.map_some] at ho
    refine ⟨⟨s.action, s.matcher.entered, v⟩, rfl, outcome_eq_some_iff.mp ho, [.readyForNext], ?_⟩
    simp [tale, hv, Attempted.events]

/-! ## The course of a drill -/

def Phase.action? : Phase → Option Action
  | .choosing | .closing | .stopped _ => none
  | .flushing a | .prompting a | .pausing a _ | .announcing a _ | .recording a _ => some a
  | .checking s | .waiting s | .reporting s _ => some s.action

/-- What has been told in a phase after the attempts `past`, with `left` still to be prompted. -/
def Phase.Tells (past : List Attempted) (number : Nat) (left : List Action)
    (events : List Event) : Phase → Prop
  | .choosing | .flushing _ | .prompting _ => events = told past
  | .checking s | .waiting s => (∃ M, s.Fed M) ∧ s.matcher.stage ≠ .readyForNext ∧
      events = told past ++ .prompt s.action number :: tale s.matcher
  | .reporting s notices => (∃ M, s.Fed M) ∧ Reports s.matcher notices ∧
      events ++ notices.filterMap (report? s.matcher) =
        told past ++ .prompt s.action number :: tale s.matcher
  | .pausing a v | .announcing a v => ∃ ms, Attempted.Classified ⟨a, ms, v⟩ ∧
      events = told past ++ .prompt a number :: (motionEvents ms ++ [.verdict v])
  | .recording a v => ∃ ms, Attempted.Classified ⟨a, ms, v⟩ ∧ events = told (past ++ [⟨a, ms, v⟩])
  | .closing => left = [] ∧ events = told past
  | .stopped (.ok s) => left = [] ∧ s = results past ∧ events = told past ++ [.finished s]
  | .stopped (.error _) => False

structure Course (deck : List Action) (past : List Attempted) (d : Drill) : Prop where
  classified : ∀ t ∈ past, t.Classified
  deck_eq : past.map (·.action) ++ (d.phase.action?.toList ++ d.deck) = deck
  number_eq : d.number = past.length + d.phase.action?.toList.length
  summary_eq : d.summary = results past
  tells : d.phase.Tells past d.number d.deck d.events

variable {deck : List Action} {past : List Attempted} {d d' : Drill}

/-- A matcher at the end of an attempt has a verdict, and the tale of the attempt is told. -/
theorem Session.Fed.ended {s : Session} {M : List Motion} (h : s.Fed M)
    (hs : s.matcher.stage = .readyForNext) : ∃ v, s.matcher.verdict = some v ∧
      Attempted.Classified ⟨s.action, s.matcher.entered, v⟩ ∧
      tale s.matcher = motionEvents s.matcher.entered ++ [.verdict v] := by
  obtain ⟨v, hv⟩ := h.stands.verdict_of_ready hs
  have ho := h.stands.outcome_entered
  rw [hv] at ho
  exact ⟨v, hv, outcome_eq_some_iff.mp ho, by simp [tale, hv]⟩

/-- A step leaves a drill on course; only the note of an attempt adds to those closed. -/
theorem Course.advance (h : Course deck past d) (ha : Advances d d') :
    ∃ past', Course deck past' d' := by
  obtain ⟨hc, hd, hn, hs, ht⟩ := h
  cases ha with
  | @draw a left hp hdeck =>
    rw [hp] at hd hn ht
    rw [hdeck] at hd
    exact ⟨past, hc, hd, congrArg (· + 1) hn, hs, ht⟩
  | runOut hp hdeck =>
    rw [hp] at hd hn ht
    exact ⟨past, hc, hd, hn, hs, hdeck, ht⟩
  | drop hp hq => exact ⟨past, hc, hd, hn, hs, ht⟩
  | flushed hp hq =>
    rw [hp] at hd hn ht
    exact ⟨past, hc, hd, hn, hs, ht⟩
  | prompt hp =>
    rw [hp] at hd hn ht
    refine ⟨past, hc, hd, hn, hs, ⟨[], rfl⟩, Stage.noConfusion, ?_⟩
    change d.events = told past at ht
    simp [tell, ht, tale, Session.new, Matcher.new, motionEvents]
  | look hp =>
    rw [hp] at hd hn ht
    exact ⟨past, hc, hd, hn, hs, ht⟩
  | @receive s m queue hp hq =>
    rw [hp] at hd hn ht
    obtain ⟨⟨M, hM⟩, hstage, hevents⟩ := ht
    have hstands := hM.stands
    refine ⟨past, hc, hd, hn, hs, ⟨_, hM.feed m⟩, reports_feed hstands hstage m, ?_⟩
    change d.events ++ _ = told past ++ .prompt s.action d.number :: tale (s.matcher.feed m).2
    rw [tale_feed hstands m, hevents, List.append_assoc, List.cons_append]
  | rest hp =>
    rw [hp] at hd hn ht
    obtain ⟨hM, hreports, hevents⟩ := ht
    cases hreports with
    | done hstage => exact ⟨past, hc, hd, hn, hs, hM, hstage, by simpa using hevents⟩
  | @report s n notices e hp he =>
    rw [hp] at hd hn ht
    obtain ⟨hM, hreports, hevents⟩ := ht
    cases hreports with
    | last _ => cases he
    | next _ hreports =>
      refine ⟨past, hc, hd, hn, hs, hM, hreports, ?_⟩
      simpa [tell, he] using hevents
  | @endSession s notices v hp hv =>
    rw [hp] at hd hn ht
    obtain ⟨⟨M, hM⟩, hreports, hevents⟩ := ht
    cases hreports with
    | last hstage =>
      obtain ⟨v', hv', hclassified, htale⟩ := hM.ended hstage
      rw [hv] at hv'
      cases hv'
      -- From here on only the verdict is kept; the motions told stand for the matcher.
      refine ⟨past, hc, hd, hn, hs, s.matcher.entered, hclassified, ?_⟩
      simpa [List.filterMap_cons, report?, htale] using hevents
    | next hne _ => exact absurd rfl hne
  | @skip s notices hp hv =>
    rw [hp] at ht
    obtain ⟨⟨M, hM⟩, hreports, _⟩ := ht
    cases hreports with
    | last hstage =>
      obtain ⟨v, hv', _⟩ := hM.ended hstage
      rw [hv] at hv'
      cases hv'
    | next hne _ => exact absurd rfl hne
  | wake hp =>
    rw [hp] at hd hn ht
    exact ⟨past, hc, hd, hn, hs, ht⟩
  | @announce a v hp =>
    rw [hp] at hd hn ht
    obtain ⟨ms, hclassified, hevents⟩ := ht
    refine ⟨past, hc, hd, hn, hs, ms, hclassified, ?_⟩
    have hnumber : d.number = past.length + 1 := hn
    simp [tell, hevents, told_snoc, Attempted.events, hnumber]
  | @record a v hp =>
    rw [hp] at hd hn ht
    obtain ⟨ms, hclassified, hevents⟩ := ht
    refine ⟨past ++ [Attempted.mk a ms v], ?_, ?_, ?_, ?_, hevents⟩
    · simpa [or_imp, forall_and] using ⟨hc, hclassified⟩
    · simpa [Phase.action?] using hd
    · simpa [Phase.action?] using hn
    · rw [results_snoc, ← hs]
  | close hp =>
    rw [hp] at hd hn ht
    obtain ⟨hleft, hevents⟩ := ht
    exact ⟨past, hc, hd, hn, hs, hleft, hs, by simp [tell, hevents]⟩

theorem Course.disturb (h : Course deck past d) (hd : Disturbs d d') : Course deck past d' := by
  obtain ⟨hc, hdeck, hn, hs, ht⟩ := h
  rcases hd.phase with hp | ⟨s, hp, hp'⟩
  · refine ⟨hc, ?_, ?_, ?_, ?_⟩
    · rw [hp, hd.deck, hdeck]
    · rw [hp, hd.number, hn]
    · rw [hd.summary, hs]
    · rw [hp, hd.number, hd.deck, hd.events]
      exact ht
  · rw [hp] at hdeck hn ht
    refine ⟨hc, ?_, ?_, ?_, ?_⟩
    · rw [hp', hd.deck]
      exact hdeck
    · rw [hp', hd.number]
      exact hn
    · rw [hd.summary, hs]
    · rw [hp', hd.number, hd.deck, hd.events]
      exact ht

theorem covers_of_session {left : List Action} {es : List Event} {s : Session} {M : List Motion}
    {number : Nat} (hc : ∀ t ∈ past, t.Classified)
    (hd : past.map (·.action) ++ s.action :: left = deck) (hn : number = past.length + 1)
    (hs : s.Fed M) (hes : es <+: told past ++ .prompt s.action number :: tale s.matcher) :
    ∃ ts, Covers deck ts ∧ es <+: told ts := by
  obtain ⟨t, ht, htc, hpre⟩ := hs.completes number
  rw [← ht] at hd
  refine covers_of_open hc hd htc (hes.trans ?_)
  rw [told_snoc, ← hn]
  exact (List.prefix_append_right_inj _).mpr hpre

theorem Course.begins_trace (h : Course deck past d) (hrun : ∀ r, d.phase ≠ .stopped r) :
    ∃ ts, Covers deck ts ∧ d.events <+: told ts := by
  obtain ⟨hc, hd, hn, hs, ht⟩ := h
  have hopen : ∀ {a v ms}, past.map (·.action) ++ a :: d.deck = deck →
      d.number = past.length + 1 → Attempted.Classified ⟨a, ms, v⟩ →
      d.events = told past ++ .prompt a d.number :: (motionEvents ms ++ [.verdict v]) →
      ∃ ts, Covers deck ts ∧ d.events <+: told ts := by
    intro a v ms hd hn hclassified hevents
    refine covers_of_open (t := ⟨a, ms, v⟩) hc hd hclassified ⟨[.readyForNext], ?_⟩
    simp [hevents, hn, told_snoc, Attempted.events]
  cases hp : d.phase with
  | choosing | flushing | prompting =>
    rw [hp] at hd ht
    exact covers_of_closed hc hd (by rw [show d.events = told past from ht])
  | closing =>
    rw [hp] at hd ht
    exact covers_of_closed hc hd (by rw [ht.2])
  | checking s | waiting s =>
    rw [hp] at hd hn ht
    obtain ⟨⟨M, hM⟩, _, hevents⟩ := ht
    exact covers_of_session hc hd hn hM (by rw [hevents])
  | reporting s notices =>
    rw [hp] at hd hn ht
    obtain ⟨⟨M, hM⟩, _, hevents⟩ := ht
    exact covers_of_session hc hd hn hM ⟨_, hevents⟩
  | pausing a v | announcing a v =>
    rw [hp] at hd hn ht
    obtain ⟨ms, hclassified, hevents⟩ := ht
    exact hopen hd hn hclassified hevents
  | recording a v =>
    rw [hp] at hd ht
    obtain ⟨ms, hclassified, hevents⟩ := ht
    exact covers_of_open (t := ⟨a, ms, v⟩) hc hd hclassified (by rw [hevents])
  | stopped r => exact absurd hp (hrun r)

theorem Course.complete_trace (h : Course deck past d) {r : Except Stop Summary}
    (hp : d.phase = .stopped r) :
    r = .ok (results past) ∧ Covers deck past ∧ d.events = completeTrace past := by
  obtain ⟨hc, hd, _, _, ht⟩ := h
  rw [hp] at hd ht
  cases r with
  | error e => exact absurd ht id
  | ok s =>
    obtain ⟨hleft, rfl, hevents⟩ := ht
    exact ⟨rfl, ⟨by simpa [Phase.action?, hleft] using hd, hc⟩, hevents⟩

/-! ## Whole runs -/

inductive Standing (deck : List Action) (d : Drill) : Prop where
  | onCourse {past : List Attempted} : Course deck past d → Standing deck d
  | broken {e : Stop} {ts : List Attempted} : d.phase = .stopped (.error e) → Breaks d e →
      Covers deck ts → d.events <+: told ts → Standing deck d

theorem Standing.act (h : Standing deck d) (a : Act) : Standing deck (d.act a) := by
  by_cases ha : a = .step
  · subst ha
    change Standing deck (d.step.getD d)
    cases hstep : d.step with
    | none => exact h
    | some d' =>
      have hrun : ∀ r, d.phase ≠ .stopped r := by
        intro r hp
        rw [step_eq_none_iff.mpr (.inl ⟨r, hp⟩)] at hstep
        cases hstep
      cases h with
      | broken hp => exact absurd hp (hrun _)
      | onCourse hcourse =>
        rcases step_cases hstep with hadvance | ⟨e, hbreaks, rfl⟩
        · obtain ⟨past', hcourse'⟩ := hcourse.advance hadvance
          exact .onCourse hcourse'
        · obtain ⟨ts, hts, hevents⟩ := hcourse.begins_trace hrun
          refine .broken rfl ?_ hts hevents
          cases e <;> exact hbreaks
  · have hd := disturbs_act (d := d) ha
    cases h with
    | onCourse hcourse => exact .onCourse (hcourse.disturb hd)
    | broken hp hbreaks hts hevents =>
      refine .broken ?_ (hd.breaks _ hbreaks) hts (hd.events ▸ hevents)
      rcases hd.phase with hp' | ⟨s, hs, _⟩
      · rw [hp', hp]
      · rw [hp] at hs
        cases hs

theorem standing_perform (h : Standing deck d) (acts : List Act) :
    Standing deck (d.perform acts) := by
  induction acts using List.reverseRecOn with
  | nil => exact h
  | append_singleton acts a ih =>
    rw [perform_snoc]
    exact ih.act a

theorem Standing.begins (h : Standing deck d) :
    ∃ ts, Covers deck ts ∧ d.events <+: completeTrace ts := by
  have htold : ∀ {ts}, d.events <+: told ts → d.events <+: completeTrace ts :=
    fun hpre => hpre.trans (List.prefix_append _ _)
  cases h with
  | broken _ _ hcovers hpre => exact ⟨_, hcovers, htold hpre⟩
  | onCourse hcourse =>
    by_cases hrun : ∀ r, d.phase ≠ .stopped r
    · obtain ⟨ts, hcovers, hpre⟩ := hcourse.begins_trace hrun
      exact ⟨ts, hcovers, htold hpre⟩
    · obtain ⟨r, hp⟩ := not_forall_not.mp hrun
      obtain ⟨_, hcovers, hevents⟩ := hcourse.complete_trace hp
      exact ⟨_, hcovers, hevents ▸ List.prefix_rfl⟩

end ChordDrill.Drill
