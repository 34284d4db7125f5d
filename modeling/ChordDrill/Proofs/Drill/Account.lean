import ChordDrill.Proofs.Drill.Dialogue

/-!
# ChordDrill.Proofs.Drill.Account

What a drill that is left alone tells of one session.

* `Act.Quiet` — acts that neither raise the flag nor take an end of a line away.
* `Follows`   — where a session stands after some motions were sent to it.
* `account`   — the motions accepted in a session and its verdicts, read from the events.

`Follows.act` is the step and `follows_perform` the run. Motions wait in the queue until the drill
takes them, so what is told in the end depends on which motions were sent and not on when
(`account_settle`).
-/

namespace ChordDrill.Drill

open Attempt

variable {d d' : Drill} {a : Action} {n : Nat} {es : List Event} {M : List Motion} {x : Act}
  {acts : List Act}

/-! ## Acts that break nothing -/

def Act.Quiet : Act → Prop
  | .step | .timeout | .send _ => True
  | .cancel | .hangUp | .leave => False

def Connected (d : Drill) : Prop := ∀ e, ¬ Breaks d e

theorem Connected.advances (h : Connected d) (hstep : d.step = some d') : Advances d d' := by
  rcases step_cases hstep with ha | ⟨e, hb, _⟩
  · exact ha
  · exact absurd hb (h e)

theorem Connected.act (h : Connected d) (hx : x.Quiet) : Connected (d.act x) := by
  intro e hb
  cases x with
  | step =>
    change Breaks (d.step.getD d) e at hb
    cases hstep : d.step with
    | none =>
      rw [hstep] at hb
      exact h e hb
    | some d' =>
      rw [hstep] at hb
      exact h e ((h.advances hstep).breaks hb)
  | timeout =>
    obtain ⟨p, hp⟩ := act_timeout d
    rw [hp] at hb
    cases e with
    | cancelled => exact h .cancelled hb
    | disconnected => exact h .disconnected hb
  | send m =>
    rw [act_send_of_connected h] at hb
    cases e with
    | cancelled => exact h .cancelled hb
    | disconnected => exact h .disconnected hb
  | cancel | hangUp | leave => exact hx

theorem Connected.perform (h : Connected d) (hacts : ∀ x ∈ acts, x.Quiet) :
    Connected (d.perform acts) := by
  induction acts using List.reverseRecOn with
  | nil => exact h
  | append_singleton acts x ih =>
    have hquiet := ih fun y hy => hacts y (List.mem_append_left _ hy)
    rw [perform_snoc]
    exact hquiet.act (hacts x (by simp))

/-! ## One session -/

def Phase.underWay? : Phase → Option (Session × List Notice)
  | .checking s | .waiting s => some (s, [])
  | .reporting s notices => some (s, notices)
  | _ => none

/-- A session at `a` told behind the events `es` as the one with the number `n`, when the motions
`M` were sent since its flush. While it is under way they are those received and those in the
queue; once it has ended they no longer matter. -/
inductive Follows (a : Action) (n : Nat) (es : List Event) (M : List Motion) (d : Drill) :
    Prop where
  | unprompted : d.phase = .prompting a → d.number = n → d.events = es → d.line.queue = M →
      Follows a n es M d
  | underWay {s : Session} {notices : List Notice} {M' : List Motion} :
      d.phase.underWay? = some (s, notices) → s.action = a → s.Fed M' → M' ++ d.line.queue = M →
      Reports s.matcher notices →
      d.events ++ notices.filterMap (report? s.matcher) = es ++ .prompt a n :: tale s.matcher →
      Follows a n es M d
  | ended {v : Verdict} : d.phase = .pausing a v ∨ d.phase = .announcing a v →
      (matcherAfter a.combo M).stage = .readyForNext →
      d.events = es ++ .prompt a n :: tale (matcherAfter a.combo M) → Follows a n es M d
  | closed {rest : List Event} : (matcherAfter a.combo M).stage = .readyForNext →
      d.events = es ++ .prompt a n :: (tale (matcherAfter a.combo M) ++ .readyForNext :: rest) →
      Follows a n es M d

theorem Follows.advance (h : Follows a n es M d) (ha : Advances d d') : Follows a n es M d' := by
  cases h with
  | unprompted hp hn he hq =>
    cases ha with
    | @prompt b hp' =>
      rw [hp] at hp'
      cases hp'
      have hfed : Session.Fed (.new a) [] := rfl
      refine .underWay rfl rfl hfed hq (.done Stage.noConfusion) ?_
      simp [tell, he, hn, tale, Session.new, Matcher.new, motionEvents]
    | draw hp' _ | runOut hp' _ | drop hp' _ | flushed hp' _ | look hp' | receive hp' _ | rest hp'
      | report hp' _ | endSession hp' _ | skip hp' _ | wake hp' | announce hp' | record hp'
      | close hp' =>
      rw [hp] at hp'
      cases hp'
  | underWay hp haction hfed hM hreports he =>
    subst haction
    cases ha with
    | look hp' | rest hp' =>
      rw [hp'] at hp
      cases hp
      exact .underWay rfl rfl hfed hM hreports he
    | @receive s m queue hp' hq =>
      rw [hp'] at hp
      cases hp
      cases hreports with
      | done hstage =>
        have hstands := hfed.stands
        rw [List.filterMap_nil, List.append_nil] at he
        refine .underWay rfl rfl (hfed.feed m) ?_ (reports_feed hstands hstage m) ?_
        · rw [hq] at hM
          simpa using hM
        · rw [tale_feed hstands m, he, List.append_assoc, List.cons_append]
    | @report s notice notices e hp' he' =>
      rw [hp'] at hp
      cases hp
      cases hreports with
      | last _ => cases he'
      | next _ hreports => exact .underWay rfl rfl hfed hM hreports (by simpa [tell, he'] using he)
    | endSession hp' hv =>
      rw [hp'] at hp
      cases hp
      cases hreports with
      | next hne _ => exact absurd rfl hne
      | last hstage =>
        -- What is still in the queue comes after the end.
        have hmatcher := hfed
        rw [Session.Fed] at hmatcher
        rw [hmatcher] at hstage
        have hsame := matcherAfter_append_of_ready hstage d.line.queue
        rw [hM] at hsame
        rw [hmatcher, ← hsame] at he
        exact .ended (.inl rfl) (hsame ▸ hstage) (by simpa [List.filterMap_cons, report?] using he)
    | skip hp' hv =>
      rw [hp'] at hp
      cases hp
      cases hreports with
      | next hne _ => exact absurd rfl hne
      | last hstage =>
        obtain ⟨v, hv', _⟩ := hfed.ended hstage
        rw [hv] at hv'
        cases hv'
    | draw hp' _ | runOut hp' _ | drop hp' _ | flushed hp' _ | prompt hp' | wake hp' | announce hp'
      | record hp' | close hp' =>
      rw [hp'] at hp
      cases hp
  | ended hp hready he =>
    cases ha with
    | wake hp' =>
      rw [hp'] at hp
      rcases hp with hp | hp
      · cases hp
        exact .ended (.inr rfl) hready he
      · cases hp
    | announce hp' =>
      have htold : d.events ++ [.readyForNext] =
          es ++ .prompt a n :: (tale (matcherAfter a.combo M) ++ [.readyForNext]) := by
        rw [he, List.append_assoc, List.cons_append]
      exact .closed hready htold
    | draw hp' _ | runOut hp' _ | drop hp' _ | flushed hp' _ | prompt hp' | look hp' | receive hp' _
      | rest hp' | report hp' _ | endSession hp' _ | skip hp' _ | record hp' | close hp' =>
      rw [hp'] at hp
      rcases hp with hp | hp <;> cases hp
  | @closed rest hready he =>
    obtain ⟨new, hnew, _⟩ := ha.tells fun _ => []
    have htold : d'.events =
        es ++ .prompt a n :: (tale (matcherAfter a.combo M) ++ .readyForNext :: (rest ++ new)) := by
      rw [hnew, he]
      simp
    exact .closed hready htold

theorem Follows.send (h : Follows a n es M d) (hd : Connected d) (m : Motion) :
    Follows a n es (M ++ [m]) (d.act (.send m)) := by
  rw [act_send_of_connected hd]
  cases h with
  | unprompted hp hn he hq => exact .unprompted hp hn he (congrArg (· ++ [m]) hq)
  | underWay hp haction hfed hM hreports he =>
    refine .underWay hp haction hfed ?_ hreports he
    rw [← List.append_assoc, hM]
  | ended hp hready he =>
    have hsame := matcherAfter_append_of_ready hready [m]
    rw [← hsame] at hready he
    exact .ended hp hready he
  | closed hready he =>
    have hsame := matcherAfter_append_of_ready hready [m]
    rw [← hsame] at hready he
    exact .closed hready he

theorem Follows.timeout (h : Follows a n es M d) : Follows a n es M (d.act .timeout) := by
  simp only [act]
  split
  · rename_i s hp _
    cases h with
    | unprompted hp' =>
      rw [hp] at hp'
      cases hp'
    | underWay hp' haction hfed hM hreports he =>
      rw [hp] at hp'
      exact .underWay hp' haction hfed hM hreports he
    | ended hp' =>
      rw [hp] at hp'
      rcases hp' with hp' | hp' <;> cases hp'
    | closed hready he => exact .closed hready he
  · exact h

theorem Follows.act (h : Follows a n es M d) (hd : Connected d) (hx : x.Quiet) :
    Follows a n es (M ++ sent [x]) (d.act x) := by
  cases x with
  | step =>
    rw [show sent [.step] = [] from rfl, List.append_nil]
    change Follows a n es M (d.step.getD d)
    cases hstep : d.step with
    | none => exact h
    | some d' => exact h.advance (hd.advances hstep)
  | timeout =>
    rw [show sent [.timeout] = [] from rfl, List.append_nil]
    exact h.timeout
  | send m => exact h.send hd m
  | cancel | hangUp | leave => exact hx.elim

theorem follows_perform (h : Follows a n es M d) (hd : Connected d)
    (hacts : ∀ x ∈ acts, x.Quiet) : Follows a n es (M ++ sent acts) (d.perform acts) := by
  induction acts using List.reverseRecOn with
  | nil =>
    rw [sent, List.filterMap_nil, List.append_nil]
    exact h
  | append_singleton acts x ih =>
    have hquiet : ∀ y ∈ acts, y.Quiet := fun y hy => hacts y (List.mem_append_left _ hy)
    have hsent : sent (acts ++ [x]) = sent acts ++ sent [x] := List.filterMap_append
    rw [perform_snoc, hsent, ← List.append_assoc]
    exact (ih hquiet).act (hd.perform hquiet) (hacts x (by simp))

theorem Follows.steps (h : Follows a n es M d) (hd : Connected d) (i : Nat) :
    Follows a n es M (steps i d) := by
  induction i generalizing d with
  | zero => exact h
  | succ i ih =>
    rw [Drill.steps]
    cases hstep : d.step with
    | none => exact h
    | some d' =>
      have ha := hd.advances hstep
      exact ih (h.advance ha) fun e hb => hd e (ha.breaks hb)

/-! ## What is told of it -/

/-- The events behind the first `i` ones, up to the end of the session. -/
def toldFrom (i : Nat) (es : List Event) : List Event :=
  (es.drop i).takeWhile (· ≠ .readyForNext)

def verdicts (es : List Event) : List Verdict :=
  es.filterMap fun
    | .verdict v => some v
    | _ => none

/-- The motions accepted in the session that is told behind the first `i` events, and its
verdicts. -/
def account (i : Nat) (d : Drill) : List Motion × List Verdict :=
  (accepted (toldFrom i d.events), verdicts (toldFrom i d.events))

theorem readyForNext_notMem_tale (s : Matcher) : .readyForNext ∉ tale s := by
  simp [tale, motionEvents]

theorem toldFrom_append (es : List Event) (a : Action) (n : Nat) (s : Matcher) {rest : List Event}
    (hrest : rest = [] ∨ ∃ rest', rest = .readyForNext :: rest') :
    toldFrom es.length (es ++ .prompt a n :: (tale s ++ rest)) = .prompt a n :: tale s := by
  have hkept : ∀ e ∈ Event.prompt a n :: tale s, decide (e ≠ .readyForNext) = true := by
    intro e he
    rcases List.mem_cons.mp he with rfl | he
    · rfl
    · exact decide_eq_true fun hr => readyForNext_notMem_tale s (hr ▸ he)
  rw [toldFrom, List.drop_left, ← List.cons_append, List.takeWhile_append_of_pos hkept]
  rcases hrest with rfl | ⟨rest', rfl⟩
  · rw [List.takeWhile_nil, List.append_nil]
  · rw [List.takeWhile_cons_of_neg (by simp), List.append_nil]

/-- A drill that waits or is over has told all that the motions cause. -/
theorem Follows.told (h : Follows a n es M d) (hstep : d.step = none) :
    toldFrom es.length d.events = .prompt a n :: tale (matcherAfter a.combo M) := by
  cases h with
  | closed hready he =>
    rw [he]
    exact toldFrom_append es a n _ (.inr ⟨_, rfl⟩)
  | unprompted hp =>
    rcases step_eq_none_iff.mp hstep with ⟨r, hp'⟩ | ⟨s, hp', _⟩ <;>
    · rw [hp] at hp'
      cases hp'
  | ended hp =>
    rcases step_eq_none_iff.mp hstep with ⟨r, hp'⟩ | ⟨s, hp', _⟩ <;>
    · rw [hp'] at hp
      rcases hp with hp | hp <;> cases hp
  | @underWay s _ _ hp haction hfed hM hreports he =>
    rcases step_eq_none_iff.mp hstep with ⟨r, hp'⟩ | ⟨_, hp', hq, _⟩
    · rw [hp'] at hp
      cases hp
    · rw [hp'] at hp
      cases hp
      subst haction
      rw [hq, List.append_nil] at hM
      rw [List.filterMap_nil, List.append_nil, hfed, hM] at he
      rw [he]
      have hall := toldFrom_append es s.action n (matcherAfter s.action.combo M) (.inl rfl)
      rw [List.append_nil] at hall
      exact hall

theorem accepted_motionEvents (ms : List Motion) : accepted (motionEvents ms) = ms := by
  induction ms using List.reverseRecOn with
  | nil => rfl
  | append_singleton ms m ih =>
    rw [motionEvents_snoc, accepted_append, ih]
    rfl

theorem account_tale (s : Matcher) :
    accepted (.prompt a n :: tale s) = s.entered ∧
    verdicts (.prompt a n :: tale s) = s.verdict.toList := by
  have hnone : verdicts (motionEvents s.entered) = [] := by
    rw [verdicts, List.filterMap_eq_nil_iff]
    intro e he
    obtain ⟨m, M, rfl⟩ := mem_motionEvents he
    rfl
  constructor
  · change accepted (tale s) = _
    rw [tale, accepted_append, accepted_motionEvents]
    cases s.verdict <;> simp [accepted]
  · change verdicts (tale s) = _
    rw [tale, verdicts, List.filterMap_append]
    change verdicts (motionEvents s.entered) ++ _ = _
    rw [hnone]
    cases s.verdict <;> simp

/-- Once a drill left alone has come to rest, what it told of a session is what the motions sent
since the flush deserve, in whatever order they and its steps came. -/
theorem account_settle (hd : Connected d) (hp : d.phase = .prompting a) (hq : d.line.queue = [])
    (hacts : ∀ x ∈ acts, x.Quiet) :
    account d.events.length (d.perform acts).settle =
      ((matcherAfter a.combo (sent acts)).entered,
        (matcherAfter a.combo (sent acts)).verdict.toList) := by
  have hstart : Follows a d.number d.events [] d := .unprompted hp rfl rfl hq
  have hrun := follows_perform hstart hd hacts
  have hend : Follows a d.number d.events (sent acts) (d.perform acts).settle :=
    hrun.steps (hd.perform hacts) _
  obtain ⟨haccepted, hverdicts⟩ :=
    account_tale (a := a) (n := d.number) (matcherAfter a.combo (sent acts))
  rw [account, hend.told (step_settle _), haccepted, hverdicts]

end ChordDrill.Drill
