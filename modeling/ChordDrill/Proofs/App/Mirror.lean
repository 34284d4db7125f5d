import ChordDrill.App
import ChordDrill.Proofs.Drill.Run

/-!
# ChordDrill.Proofs.App.Mirror

The application shows what the drill has told so far.

* `Shows`   — the fields about the attempt under way, from the events since its prompt.
* `Mirrors` — all fields that follow the drill, from the events heard.

The tallies of verdicts are right for any events. The rest needs the order in which a drill tells
things: `Begins` gives the attempt that the events break off in, and what is told from its prompt on
sets the other fields anew.
-/

namespace ChordDrill.App

open Drill Attempt

def isPrompt : Event → Bool
  | .prompt _ _ => true
  | _ => false

/-- A verdict that is a match, or one that is not. -/
def isVerdict (good : Bool) : Event → Bool
  | .verdict v => v.isMatch == good
  | _ => false

/-- What the application shows of an attempt at `a`, after the events `since` its prompt. -/
structure Shows (a : Action) (since : List Event) (app : App) : Prop where
  entered : app.entered = accepted since
  inside : app.entered.dropLast <+: a.combo
  verdict : ∀ v, app.verdict = some v ↔ .verdict v ∈ since
  undecided : app.verdict = none → app.matched + app.mismatched = app.number - 1
  decided : app.verdict ≠ none → app.matched + app.mismatched = app.number
  hit : ∀ E, app.verdict = some (.matched E) → E = a.combo ∧ E = app.entered
  miss : ∀ E M, app.verdict = some (.mismatched E M) → E = a.combo ∧ M = app.entered
  hinted : ∀ v, .verdict v ∈ since → (∀ s, .finished s ∉ since) →
    app.keyboard.hinted = Motion.keys v.expected
  unhinted : (∀ v, .verdict v ∉ since) ∨ (∃ s, .finished s ∈ since) → app.keyboard.hinted = []
  current : (∀ s, .finished s ∉ since) → app.current = some a
  cleared : (∃ s, .finished s ∈ since) → app.current = none

/-- What the application shows after the events `es` of a drill. -/
structure Mirrors (es : List Event) (app : App) : Prop where
  number : app.number = es.countP isPrompt
  matched : app.matched = es.countP (isVerdict true)
  mismatched : app.mismatched = es.countP (isVerdict false)
  blank : (∀ e ∈ es, isPrompt e = false) → app.matched + app.mismatched = 0 ∧ app.entered = [] ∧
    app.verdict = none ∧ app.keyboard.hinted = [] ∧ app.current = none
  shows : ∀ before a n since, es = before ++ .prompt a n :: since →
    (∀ e ∈ since, isPrompt e = false) → Shows a since app
  finished : ∀ s, .finished s ∈ es →
    app.matched = s.matched ∧ app.mismatched = s.mismatched ∧ app.number = s.total

variable {app : App} {es : List Event} {a : Action} {ms : List Motion} {past : List Attempted}
  {t : Attempted}

/-! ## Any events -/

theorem receiveAll_append (app : App) (es es' : List Event) :
    app.receiveAll (es ++ es') = (app.receiveAll es).receiveAll es' := List.foldl_append

theorem tallies_receiveAll (app : App) (es : List Event) :
    (app.receiveAll es).matched = app.matched + es.countP (isVerdict true) ∧
    (app.receiveAll es).mismatched = app.mismatched + es.countP (isVerdict false) := by
  induction es generalizing app with
  | nil => exact ⟨rfl, rfl⟩
  | cons e es ih =>
    obtain ⟨hgood, hbad⟩ := ih (app.receive e)
    change ((app.receive e).receiveAll es).matched = _ ∧
      ((app.receive e).receiveAll es).mismatched = _
    rw [hgood, hbad, List.countP_cons, List.countP_cons]
    cases e with
    | verdict v => cases hv : v.isMatch <;> simp [receive, isVerdict, hv] <;> omega
    | prompt | motion | readyForNext | finished => simp [receive, isVerdict]

theorem number_receiveAll (app : App) (hes : ∀ e ∈ es, isPrompt e = false) :
    (app.receiveAll es).number = app.number := by
  induction es generalizing app with
  | nil => rfl
  | cons e es ih =>
    change ((app.receive e).receiveAll es).number = _
    rw [ih (app.receive e) fun e' he' => hes e' (List.mem_cons_of_mem e he')]
    have he := hes e List.mem_cons_self
    cases e with
    | prompt => cases he
    | motion | verdict | readyForNext | finished => rfl

/-- The events since the last prompt are the same however they are found. -/
theorem since_unique {before before' since since' : List Event} {a' : Action} {n n' : Nat}
    (h : before ++ .prompt a n :: since = before' ++ .prompt a' n' :: since')
    (hs : ∀ e ∈ since, isPrompt e = false) (hs' : ∀ e ∈ since', isPrompt e = false) :
    a = a' ∧ since = since' := by
  rcases List.append_eq_append_iff.mp h with ⟨mid, _, hmid⟩ | ⟨mid, _, hmid⟩
  · cases mid with
    | nil => cases hmid; exact ⟨rfl, rfl⟩
    | cons e mid =>
      cases hmid
      exact absurd (hs (.prompt a' n') (by simp)) Bool.noConfusion
  · cases mid with
    | nil => cases hmid; exact ⟨rfl, rfl⟩
    | cons e mid =>
      cases hmid
      exact absurd (hs' (.prompt a n) (by simp)) Bool.noConfusion

/-! ## The events of attempts -/

/-- Motions told one by one end up as the motions entered. -/
theorem receiveAll_motionEvents (h : app.entered = []) (ms : List Motion) :
    app.receiveAll (motionEvents ms) = { app with entered := ms } := by
  induction ms using List.reverseRecOn with
  | nil =>
    cases app
    cases h
    rfl
  | append_singleton ms m ih =>
    rw [motionEvents_snoc, receiveAll_append, ih]
    rfl

theorem countP_motionEvents {p : Event → Bool} (hp : ∀ m M, p (.motion m M) = false)
    (ms : List Motion) : (motionEvents ms).countP p = 0 := by
  rw [List.countP_eq_zero]
  intro e he
  obtain ⟨m, M, rfl⟩ := mem_motionEvents he
  simp [hp]

/-- Closed attempts are counted as prompts, and by their verdicts. -/
theorem counts_told (ts : List Attempted) :
    (told ts).countP isPrompt = ts.length ∧
    (told ts).countP (isVerdict true) = (results ts).matched ∧
    (told ts).countP (isVerdict false) = (results ts).mismatched := by
  induction ts using List.reverseRecOn with
  | nil => exact ⟨rfl, rfl, rfl⟩
  | append_singleton ts t ih =>
    obtain ⟨hnumber, hgood, hbad⟩ := ih
    have hle := (results ts).matched_le_total
    simp only [told_snoc, results_snoc, Attempted.events, List.countP_append, List.countP_cons,
      countP_motionEvents (p := isPrompt) (fun _ _ => rfl),
      countP_motionEvents (p := isVerdict true) (fun _ _ => rfl),
      countP_motionEvents (p := isVerdict false) (fun _ _ => rfl), hnumber, hgood, hbad]
    cases hv : t.verdict.isMatch <;>
      simp [isPrompt, isVerdict, hv, Summary.mismatched, Summary.matched, Summary.total,
        Summary.record] at *
    omega

/-! ## One event of an attempt -/

section

variable {since : List Event}

theorem shows_prompt (app : App) (a : Action) :
    Shows a [] (app.receive (.prompt a (app.matched + app.mismatched + 1))) where
  entered := rfl
  inside := List.nil_prefix
  verdict v := by simp [receive]
  undecided _ := rfl
  decided h := absurd rfl h
  hit E h := by cases h
  miss E M h := by cases h
  hinted v h := absurd h List.not_mem_nil
  unhinted _ := rfl
  current _ := rfl
  cleared h := by simp at h

theorem Shows.motion (h : Shows a since app) (hv : app.verdict = none)
    (hin : app.entered <+: a.combo) (m : Motion) :
    Shows a (since ++ [.motion m (app.entered ++ [m])])
      (app.receive (.motion m (app.entered ++ [m]))) where
  entered := by
    rw [accepted_append, ← h.entered]
    rfl
  inside := by simpa [receive] using hin
  verdict v := by simpa [receive] using h.verdict v
  undecided := h.undecided
  decided := h.decided
  hit E hE := by
    change app.verdict = _ at hE
    rw [hv] at hE
    cases hE
  miss E M hE := by
    change app.verdict = _ at hE
    rw [hv] at hE
    cases hE
  hinted v := by simpa [receive] using h.hinted v
  unhinted := by simpa [receive] using h.unhinted
  current := by simpa [receive] using h.current
  cleared := by simpa [receive] using h.cleared

theorem Shows.entered_snoc {e : Event} (h : Shows a since app) (he : accepted [e] = []) :
    app.entered = accepted (since ++ [e]) := by
  rw [accepted_append, he, List.append_nil]
  exact h.entered

theorem Shows.judge {v : Verdict} (h : Shows a since app) (hv : app.verdict = none)
    (hpos : 0 < app.number) (hs : ∀ s, .finished s ∉ since)
    (hjudged : v = .matched app.entered ∧ app.entered = a.combo ∨
      v = .mismatched a.combo app.entered) :
    Shows a (since ++ [.verdict v]) (app.receive (.verdict v)) where
  entered := h.entered_snoc rfl
  inside := h.inside
  verdict w := by
    have hnone : .verdict w ∉ since := fun hw => by simpa [hv] using (h.verdict w).mpr hw
    have hiff : some v = some w ↔ .verdict w ∈ since ++ [.verdict v] := by simp [hnone, eq_comm]
    exact hiff
  undecided hnone := by cases hnone
  decided _ := by
    have htally := h.undecided hv
    rcases hjudged with ⟨rfl, _⟩ | rfl
    · change app.matched + 1 + app.mismatched = app.number
      omega
    · change app.matched + (app.mismatched + 1) = app.number
      omega
  hit E hE := by
    cases hE
    rcases hjudged with ⟨hmatch, hcombo⟩ | hmiss
    · cases hmatch
      exact ⟨hcombo, rfl⟩
    · cases hmiss
  miss E M hE := by
    cases hE
    rcases hjudged with ⟨hmatch, _⟩ | hmiss
    · cases hmatch
    · cases hmiss
      exact ⟨rfl, rfl⟩
  hinted w hw _ := by
    have hnone : .verdict w ∉ since := fun hw => by simpa [hv] using (h.verdict w).mpr hw
    have heq : w = v := by simpa [hnone] using hw
    rw [heq]
    rfl
  unhinted hnone := by
    rcases hnone with hnone | ⟨s, hs'⟩
    · exact absurd (hnone v) (by simp)
    · exact absurd hs' (by simp [hs s])
  current _ := h.current hs
  cleared hfinished := by
    obtain ⟨s, hs'⟩ := hfinished
    exact absurd hs' (by simp [hs s])

theorem Shows.ready (h : Shows a since app) :
    Shows a (since ++ [.readyForNext]) (app.receive .readyForNext) where
  entered := h.entered_snoc rfl
  inside := h.inside
  verdict v := by simpa [receive] using h.verdict v
  undecided := h.undecided
  decided := h.decided
  hit := h.hit
  miss := h.miss
  hinted v := by simpa [receive] using h.hinted v
  unhinted := by simpa [receive] using h.unhinted
  current := by simpa [receive] using h.current
  cleared := by simpa [receive] using h.cleared

theorem Shows.finish (h : Shows a since app) (s : Summary) :
    Shows a (since ++ [.finished s]) (app.receive (.finished s)) where
  entered := h.entered_snoc rfl
  inside := h.inside
  verdict v := by simpa [receive] using h.verdict v
  undecided := h.undecided
  decided := h.decided
  hit := h.hit
  miss := h.miss
  hinted v _ hs := absurd (List.mem_append_right since (List.mem_singleton_self _)) (hs s)
  unhinted _ := rfl
  current hs := absurd (List.mem_append_right since (List.mem_singleton_self _)) (hs s)
  cleared _ := rfl

end

/-! ## The events since a prompt -/

/-- An application that has just heard of the prompt after those it has verdicts for. -/
def withPrompt (app : App) (a : Action) : App :=
  app.receive (.prompt a (app.matched + app.mismatched + 1))

theorem shows_motions (app : App) (hc : t.Classified) (hms : ms <+: t.motions) :
    Shows t.action (motionEvents ms) ((withPrompt app t.action).receiveAll (motionEvents ms)) := by
  induction ms using List.reverseRecOn with
  | nil => exact shows_prompt app t.action
  | append_singleton ms m ih =>
    have hshows := ih ((List.prefix_append ms [m]).trans hms)
    have hin : ms <+: t.action.combo := by
      have hlen := hms.length_le
      rw [List.length_append, List.length_singleton] at hlen
      refine List.IsPrefix.trans ?_ hc.begins_combo
      refine List.prefix_of_prefix_length_le ((List.prefix_append ms [m]).trans hms)
        (List.dropLast_prefix _) ?_
      rw [List.length_dropLast]
      omega
    rw [motionEvents_snoc, receiveAll_append]
    rw [receiveAll_motionEvents rfl] at hshows ⊢
    exact hshows.motion rfl hin m

theorem prefix_three {α : Type} {l : List α} {x y z : α} (h : l <+: [x, y, z]) :
    l = [] ∨ l = [x] ∨ l = [x, y] ∨ l = [x, y, z] := by
  rcases List.prefix_cons_iff.mp h with rfl | ⟨l, rfl, h₁⟩
  · exact .inl rfl
  rcases List.prefix_cons_iff.mp h₁ with rfl | ⟨l, rfl, h₂⟩
  · exact .inr (.inl rfl)
  rcases List.prefix_cons_iff.mp h₂ with rfl | ⟨l, rfl, h₃⟩
  · exact .inr (.inr (.inl rfl))
  rw [List.prefix_nil.mp h₃]
  exact .inr (.inr (.inr rfl))

theorem shows_since (app : App) {s : Summary} {rest : List Event} (hc : t.Classified)
    (hms : ms <+: t.motions) (hrest : rest <+: [.verdict t.verdict, .readyForNext, .finished s])
    (hend : rest = [] ∨ ms = t.motions) :
    Shows t.action (motionEvents ms ++ rest)
      ((withPrompt app t.action).receiveAll (motionEvents ms ++ rest)) := by
  have hshows := shows_motions app hc hms
  rcases hend with rfl | rfl
  · rwa [List.append_nil]
  · have hnot : ∀ s, .finished s ∉ motionEvents t.motions := by
      intro s hs
      obtain ⟨_, _, he⟩ := mem_motionEvents hs
      cases he
    have hjudged := hshows.judge (v := t.verdict) (by rw [receiveAll_motionEvents rfl]; rfl)
      (by rw [receiveAll_motionEvents rfl]; exact Nat.succ_pos _) hnot
      (by rw [receiveAll_motionEvents rfl]; exact hc.verdict_cases)
    have hready := hjudged.ready
    have hfinished := hready.finish s
    rw [receiveAll_append]
    rcases prefix_three hrest with rfl | rfl | rfl | rfl
    · rwa [List.append_nil]
    · exact hjudged
    · rwa [List.append_assoc] at hready
    · rwa [List.append_assoc, List.append_assoc] at hfinished

/-! ## Beginnings of a trace -/

theorem eq_completeTrace {rest : List Event} {s : Summary}
    (hrest : rest <+: [.verdict t.verdict, .readyForNext, .finished (results (past ++ [t]))])
    (hend : rest = [] ∨ ms = t.motions)
    (hs : .finished s ∈
      told past ++ .prompt t.action (past.length + 1) :: (motionEvents ms ++ rest)) :
    s = results (past ++ [t]) ∧
    told past ++ .prompt t.action (past.length + 1) :: (motionEvents ms ++ rest) =
      completeTrace (past ++ [t]) := by
  have hmem : .finished s ∈ rest := by
    rcases List.mem_append.mp hs with hs | hs
    · exact absurd hs (finished_notMem_told past s)
    · rcases List.mem_cons.mp hs with hs | hs
      · cases hs
      · rcases List.mem_append.mp hs with hs | hs
        · obtain ⟨_, _, he⟩ := mem_motionEvents hs
          cases he
        · exact hs
  rcases prefix_three hrest with rfl | rfl | rfl | rfl
  · simp at hmem
  · simp at hmem
  · simp at hmem
  · obtain rfl : ms = t.motions := hend.resolve_left (List.cons_ne_nil _ _)
    refine ⟨by simpa using hmem, ?_⟩
    simp [completeTrace, told_snoc, Attempted.events]

theorem tally_told (settings : Settings) (deckSize : Nat) (ts : List Attempted) :
    ((App.new settings deckSize).receiveAll (told ts)).matched +
      ((App.new settings deckSize).receiveAll (told ts)).mismatched = ts.length := by
  obtain ⟨hmatched, hmismatched⟩ := tallies_receiveAll (App.new settings deckSize) (told ts)
  obtain ⟨_, hgood, hbad⟩ := counts_told ts
  have hle := (results ts).matched_le_total
  have htotal : (results ts).total = ts.length := List.length_map _
  rw [hmatched, hmismatched, hgood, hbad, Summary.mismatched]
  simp only [App.new]
  omega

/-- What is told from a prompt on finds an application that has just heard of it. -/
theorem receiveAll_told (settings : Settings) (deckSize : Nat) (past : List Attempted) (a : Action)
    (since : List Event) :
    (App.new settings deckSize).receiveAll
      (told past ++ .prompt a (past.length + 1) :: since) =
      (withPrompt ((App.new settings deckSize).receiveAll (told past)) a).receiveAll since := by
  rw [receiveAll_append, withPrompt, tally_told]
  rfl

theorem number_told (settings : Settings) (deckSize : Nat) (past : List Attempted) (a : Action)
    {since : List Event} (hsince : ∀ e ∈ since, isPrompt e = false) :
    ((App.new settings deckSize).receiveAll
      (told past ++ .prompt a (past.length + 1) :: since)).number =
      (told past ++ .prompt a (past.length + 1) :: since).countP isPrompt := by
  have hnone : since.countP isPrompt = 0 :=
    List.countP_eq_zero.mpr fun e he => by simp [hsince e he]
  rw [receiveAll_told, number_receiveAll _ hsince, List.countP_append, (counts_told past).1,
    List.countP_cons, hnone, withPrompt, tally_told]
  rfl

theorem mirrors_of_begins (settings : Settings) (deckSize : Nat) (h : Begins es) :
    Mirrors es ((App.new settings deckSize).receiveAll es) := by
  obtain ⟨hmatched, hmismatched⟩ := tallies_receiveAll (App.new settings deckSize) es
  rw [show (App.new settings deckSize).matched = 0 from rfl, Nat.zero_add] at hmatched
  rw [show (App.new settings deckSize).mismatched = 0 from rfl, Nat.zero_add] at hmismatched
  cases h with
  | nothing =>
    refine ⟨rfl, rfl, rfl, fun _ => ⟨rfl, rfl, rfl, rfl, rfl⟩, ?_, ?_⟩
    · intro before a n since hes
      simp at hes
    · simp
  | noAttempt =>
    refine ⟨rfl, rfl, rfl, fun _ => ⟨rfl, rfl, rfl, rfl, rfl⟩, ?_, ?_⟩
    · intro before a n since hes
      have hmem : Event.prompt a n ∈ [Event.finished (results [])] := by simp [hes]
      simp at hmem
    · intro s hs
      obtain rfl : s = results [] := by simpa using hs
      exact ⟨rfl, rfl, rfl⟩
  | @within past t ms rest hc hms hrest hend =>
    have hsince : ∀ e ∈ motionEvents ms ++ rest, isPrompt e = false := by
      intro e he
      rcases List.mem_append.mp he with he | he
      · obtain ⟨m, M, rfl⟩ := mem_motionEvents he
        rfl
      · have he' := hrest.subset he
        simp only [List.mem_cons, List.not_mem_nil, or_false] at he'
        rcases he' with rfl | rfl | rfl <;> rfl
    have hnumber := number_told settings deckSize past t.action hsince
    refine ⟨hnumber, hmatched, hmismatched, ?_, ?_, ?_⟩
    · intro hnone
      exact absurd (hnone (.prompt t.action (past.length + 1)) (by simp)) Bool.noConfusion
    · intro before a n since hes hnone
      obtain ⟨rfl, rfl⟩ := since_unique hes hsince hnone
      rw [receiveAll_told]
      exact shows_since _ hc hms hrest hend
    · intro s hs
      obtain ⟨rfl, hcomplete⟩ := eq_completeTrace hrest hend hs
      obtain ⟨hprompts, hgood, hbad⟩ := counts_told (past ++ [t])
      rw [hmatched, hmismatched, hnumber, hcomplete, completeTrace, List.countP_append,
        List.countP_append, List.countP_append, hprompts, hgood, hbad]
      exact ⟨rfl, rfl, (List.length_map _).symm⟩

/-- Whatever a drill has told up to some moment, the application shows. -/
theorem mirrors_drill (settings : Settings) (deckSize : Nat) (deck : List Action) (line : Line)
    (heard : Bool) (acts : List Act) (h : es <+: (drillAfter deck line heard acts).events) :
    Mirrors es ((App.new settings deckSize).receiveAll es) := by
  obtain ⟨ts, hcovers, htrace⟩ := (standing_drillAfter deck line heard acts).begins
  exact mirrors_of_begins settings deckSize
    (begins_completeTrace hcovers.classified (h.trans htrace))

/-- What is told of `oneKey` up to the verdict. -/
def oneKeyJudged : List Event :=
  [.prompt oneKey 1, .motion (.press .letterA) [.press .letterA],
   .verdict (.matched [.press .letterA])]

/-- Between the verdict and the summary the key is called out and the match is counted. -/
theorem oneKey_hinted_when_judged :
    oneKeyJudged <+:
      (drillAfter [oneKey] {} true (oneKeyRun ++ List.replicate 5 .step)).events ∧
    ((App.new {} 1).receiveAll oneKeyJudged).matched = 1 ∧
    ((App.new {} 1).receiveAll oneKeyJudged).keyboard.hinted = [.letterA] := by
  have hpre : oneKeyJudged <+:
      (drillAfter [oneKey] {} true (oneKeyRun ++ List.replicate 5 .step)).events :=
    ⟨[.readyForNext, .finished ⟨[(oneKey, .matched [.press .letterA])]⟩], rfl⟩
  have hmirrors := mirrors_drill {} 1 _ _ _ _ hpre
  have hshows := hmirrors.shows [] oneKey 1 oneKeyJudged.tail rfl (by decide)
  refine ⟨hpre, hmirrors.matched, ?_⟩
  exact hshows.hinted (.matched [.press .letterA]) (by decide) (by simp [oneKeyJudged])

end ChordDrill.App
