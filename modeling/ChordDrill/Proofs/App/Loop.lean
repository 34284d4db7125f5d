import ChordDrill.App.Turn

/-!
# ChordDrill.Proofs.App.Loop

The main loop over any turns: what it has shown and sent on, and the turn that ends it.

* `Over`      — a summary is among the events.
* `Leaves`    — what ends the loop in a turn, after the events of earlier turns.
* `Going`     — the application between two turns.
* `Collected` — the application behind the motions and events of a turn.
* `Looped`    — the loop behind the turns it has taken.

A keystroke, the cancel flag and a drill that is gone change the mode alone, and motions and events
do not meet in any field (`receive_observe`). So up to the mode, compared as `a.quit = b.quit`, the
application is that of all motions and all events (`quit_turns`). The mode is followed turn by turn
(`Going.mode_collect`, `Going.mode_turn`).
-/

namespace ChordDrill.App

open Drill

/-- The drill has told its summary. -/
def Over (es : List Event) : Prop := ∃ s, .finished s ∈ es

def polledIn (ts : List Turn) : List Motion := ts.flatMap Turn.motions

def heardIn (ts : List Turn) : List Event := ts.flatMap Turn.events

/-- What ends the loop in the turn `t`, after the events `es`: the cancel flag, a keystroke that
asks to quit, any press once the drill is over, and a drill that is gone before. -/
inductive Leaves (es : List Event) (t : Turn) : Prop where
  | cancelled : t.cancelled = true → Leaves es t
  | asked {k : Keystroke} : t.keystroke = some k → k.stroke = .press → k.isQuit = true →
      Leaves es t
  | dismissed {k : Keystroke} : t.keystroke = some k → k.stroke = .press → Over (es ++ t.events) →
      Leaves es t
  | abandoned : t.drillGone = true → ¬ Over (es ++ t.events) → Leaves es t

/-- Between two turns, after the events `es`, the application has not quit, and it is finished just
if the drill is over. -/
structure Going (es : List Event) (a : App) : Prop where
  not_quitting : a.mode ≠ .quitting
  finished : a.mode = .finished ↔ Over es

variable {a b : App} {e : Event} {es : List Event} {m : Motion} {ms : List Motion} {t : Turn}
  {ts seen : List Turn}

/-! ## Up to the mode -/

theorem receive_observe (a : App) (m : Motion) (e : Event) :
    (a.observe m).receive e = (a.receive e).observe m := by
  cases e <;> cases m <;> rfl

theorem observeAll_receive (a : App) (ms : List Motion) (e : Event) :
    (a.receive e).observeAll ms = (a.observeAll ms).receive e := by
  induction ms generalizing a with
  | nil => rfl
  | cons m ms ih =>
    change ((a.receive e).observe m).observeAll ms = ((a.observe m).observeAll ms).receive e
    rw [← receive_observe, ih]

theorem observeAll_receiveAll (a : App) (ms : List Motion) (es : List Event) :
    (a.receiveAll es).observeAll ms = (a.observeAll ms).receiveAll es := by
  induction es generalizing a with
  | nil => rfl
  | cons e es ih =>
    change ((a.receive e).receiveAll es).observeAll ms =
      ((a.observeAll ms).receive e).receiveAll es
    rw [ih, observeAll_receive]

theorem quit_observeAll (a : App) (ms : List Motion) :
    (a.observeAll ms).quit = a.quit.observeAll ms := by
  induction ms generalizing a with
  | nil => rfl
  | cons m ms ih => exact ih (a.observe m)

theorem quit_receive (a : App) (e : Event) : (a.receive e).quit = a.quit.receive e := by
  cases e <;> rfl

theorem quit_receiveAll (a : App) (es : List Event) :
    (a.receiveAll es).quit = a.quit.receiveAll es := by
  induction es generalizing a with
  | nil => rfl
  | cons e es ih =>
    change ((a.receive e).receiveAll es).quit = (a.quit.receive e).receiveAll es
    rw [ih, quit_receive]

theorem quit_eq_self (h : a.mode = .quitting) : a.quit = a := by
  rw [quit, ← h]

theorem quit_miss (a : App) : a.miss.quit = a.quit := by
  unfold miss
  split <;> rfl

theorem quit_press (a : App) (k : Keystroke) : (a.press k).quit = a.quit := by
  unfold press
  split <;> rfl

theorem quit_collect (a : App) (t : Turn) :
    (a.collect t).quit = ((a.observeAll t.motions).receiveAll t.events).quit := by
  rw [collect_eq]
  split
  · exact quit_miss _
  · rfl

theorem quit_answer (a : App) (t : Turn) : (a.answer t).quit = a.quit := by
  unfold answer
  cases t.keystroke with
  | none =>
    dsimp only
    split <;> rfl
  | some k =>
    dsimp only
    split
    · exact quit_press a k
    · exact quit_press a k

/-- Up to the mode, turns show all their motions and all their events. -/
theorem quit_turns (a : App) (ts : List Turn) :
    (ts.foldl turn a).quit = ((a.observeAll (polledIn ts)).receiveAll (heardIn ts)).quit := by
  induction ts generalizing a with
  | nil => rfl
  | cons t ts ih =>
    have hturn : (a.turn t).quit = ((a.observeAll t.motions).receiveAll t.events).quit := by
      rw [turn, quit_answer, quit_collect]
    have hmotions : a.observeAll (polledIn (t :: ts)) =
        (a.observeAll t.motions).observeAll (polledIn ts) := List.foldl_append
    have hevents : ∀ b : App, b.receiveAll (heardIn (t :: ts)) =
        (b.receiveAll t.events).receiveAll (heardIn ts) := fun b => List.foldl_append
    rw [List.foldl_cons, ih, quit_receiveAll, quit_observeAll, hturn, ← quit_observeAll,
      ← quit_receiveAll, observeAll_receiveAll, ← hmotions, ← hevents]

theorem eq_of_quit_eq (h : a.quit = b.quit) : a = { b with mode := a.mode } := by
  have hmode := congrArg (fun c : App => { c with mode := a.mode }) h
  exact hmode

/-! ## The mode -/

theorem over_append {es' : List Event} : Over (es ++ es') ↔ Over es ∨ Over es' := by
  simp [Over, exists_or]

theorem going_new (settings : Settings) (deckSize : Nat) : Going [] (App.new settings deckSize) :=
  ⟨by simp [App.new], by simp [App.new, Over]⟩

theorem Going.observeAll (h : Going es a) (ms : List Motion) : Going es (a.observeAll ms) := by
  refine ⟨?_, ?_⟩
  · rw [mode_observeAll]
    exact h.not_quitting
  · rw [mode_observeAll]
    exact h.finished

theorem Going.receive (h : Going es a) (e : Event) : Going (es ++ [e]) (a.receive e) := by
  cases e with
  | finished s =>
    have hover : Over (es ++ [.finished s]) := ⟨s, by simp⟩
    have hmode : (a.receive (.finished s)).mode = .finished := by
      cases hm : a.mode with
      | training => simp [App.receive, hm]
      | finished => simp [App.receive, hm]
      | quitting => exact absurd hm h.not_quitting
    exact ⟨by simp [hmode], by simp [hmode, hover]⟩
  | prompt | motion | verdict | readyForNext =>
    refine ⟨h.not_quitting, h.finished.trans ?_⟩
    rw [over_append]
    simp [Over]

theorem Going.receiveAll (h : Going es a) (es' : List Event) :
    Going (es ++ es') (a.receiveAll es') := by
  induction es' generalizing a es with
  | nil => rwa [List.append_nil]
  | cons e es' ih =>
    have hrest := ih (h.receive e)
    rwa [List.append_assoc] at hrest

/-- Behind the events of a turn, and the end of the drill, the application is finished just if the
drill is over; it quits there just if the drill went away before that. -/
theorem Going.mode_collect (h : Going es a) (t : Turn) :
    ((a.collect t).mode = .finished ↔ Over (es ++ t.events)) ∧
    ((a.collect t).mode = .quitting ↔ t.drillGone = true ∧ ¬ Over (es ++ t.events)) := by
  have hheard := (h.observeAll t.motions).receiveAll t.events
  rw [← hheard.finished, collect_eq]
  have hnot := hheard.not_quitting
  generalize (a.observeAll t.motions).receiveAll t.events = b at hnot ⊢
  cases hm : b.mode with
  | quitting => exact absurd hm hnot
  | training => cases t.drillGone <;> simp [miss, quit, hm]
  | finished => cases t.drillGone <;> simp [miss, hm]

theorem mode_press (a : App) (k : Keystroke) :
    (a.press k).mode =
      if k.stroke = .press ∧ (k.isQuit = true ∨ a.mode = .finished) then .quitting else a.mode := by
  unfold press
  split <;> rfl

/-- The mode behind the keystroke and the cancel flag. -/
theorem mode_answer (a : App) (t : Turn) :
    ((a.answer t).mode = .quitting ↔ a.mode = .quitting ∨ t.cancelled = true ∨
      ∃ k, t.keystroke = some k ∧ k.stroke = .press ∧ (k.isQuit = true ∨ a.mode = .finished)) ∧
    ((a.answer t).mode ≠ .quitting → (a.answer t).mode = a.mode) := by
  unfold answer
  cases hk : t.keystroke with
  | none => cases t.cancelled <;> simp [quit]
  | some k =>
    cases t.cancelled with
    | true => simp [quit]
    | false =>
      simp only [Bool.false_eq_true, if_false, false_or, Option.some.injEq, mode_press,
        exists_eq_left']
      split
      · rename_i hquit
        simp [hquit]
      · rename_i hstay
        simp [hstay]

theorem Going.mode_turn (h : Going es a) (t : Turn) :
    ((a.turn t).mode = .quitting ↔ Leaves es t) ∧
    ((a.turn t).mode ≠ .quitting → Going (es ++ t.events) (a.turn t)) := by
  obtain ⟨hfinished, hquitting⟩ := h.mode_collect t
  obtain ⟨hleave, hstay⟩ := mode_answer (a.collect t) t
  refine ⟨?_, fun hne => ⟨hne, ?_⟩⟩
  · rw [turn, hleave, hfinished, hquitting]
    constructor
    · rintro (⟨hgone, hover⟩ | hcancelled | ⟨k, hk, hpress, hquit | hover⟩)
      · exact .abandoned hgone hover
      · exact .cancelled hcancelled
      · exact .asked hk hpress hquit
      · exact .dismissed hk hpress hover
    · intro hleaves
      cases hleaves with
      | cancelled hcancelled => exact .inr (.inl hcancelled)
      | asked hk hpress hquit => exact .inr (.inr ⟨_, hk, hpress, .inl hquit⟩)
      | dismissed hk hpress hover => exact .inr (.inr ⟨_, hk, hpress, .inr hover⟩)
      | abandoned hgone hover => exact .inl ⟨hgone, hover⟩
  · rw [turn, hstay hne, hfinished]

/-! ## The loop -/

/-- The turns `seen` that the loop takes of `ts`, from the application `a` after the events `es`. -/
structure Takes (es : List Event) (a : App) (ts seen : List Turn) : Prop where
  taken : seen <+: ts
  run : a.run ts = (polledIn seen, seen.length, seen.foldl turn a)
  going : ∀ before t, before ++ [t] <+: seen → Going (es ++ heardIn before) (before.foldl turn a)
  ended : (seen.foldl turn a).mode = .quitting ∨
    seen = ts ∧ Going (es ++ heardIn seen) (seen.foldl turn a)

theorem run_of_quitting (h : (a.turn t).mode = .quitting) (ts : List Turn) :
    a.run (t :: ts) = (t.motions, 1, a.turn t) := by
  simp [run, h, relay_eq]

theorem run_of_not_quitting (h : (a.turn t).mode ≠ .quitting) (ts : List Turn) :
    a.run (t :: ts) = (t.motions ++ ((a.turn t).run ts).1, ((a.turn t).run ts).2.1 + 1,
      ((a.turn t).run ts).2.2) := by
  simp [run, h, relay_eq]

theorem Going.takes (h : Going es a) (ts : List Turn) : ∃ seen, Takes es a ts seen := by
  induction ts generalizing a es with
  | nil =>
    refine ⟨[], List.nil_prefix, rfl, fun before t hpre => ?_, .inr ⟨rfl, by simpa [heardIn]⟩⟩
    simp at hpre
  | cons t ts ih =>
    by_cases hquit : (a.turn t).mode = .quitting
    · refine ⟨[t], ⟨ts, rfl⟩, ?_, fun before t' hpre => ?_, .inl hquit⟩
      · rw [run_of_quitting hquit]
        simp [polledIn]
      · obtain ⟨rest, hrest⟩ := hpre
        have hlen := congrArg List.length hrest
        simp only [List.length_append, List.length_singleton] at hlen
        obtain rfl : before = [] := List.length_eq_zero_iff.mp (by omega)
        simpa [heardIn] using h
    · obtain ⟨seen, hseen⟩ := ih ((h.mode_turn t).2 hquit)
      refine ⟨t :: seen, List.cons_prefix_cons.mpr ⟨rfl, hseen.taken⟩, ?_, ?_, ?_⟩
      · rw [run_of_not_quitting hquit, hseen.run]
        rfl
      · rintro (_ | ⟨t₀, before⟩) t' hpre
        · simpa [heardIn] using h
        · obtain ⟨rfl, hrest⟩ := List.cons_prefix_cons.mp hpre
          have hgoing := hseen.going before t' hrest
          rwa [List.append_assoc] at hgoing
      · rcases hseen.ended with hq | ⟨rfl, hgoing⟩
        · exact .inl hq
        · rw [List.append_assoc] at hgoing
          exact .inr ⟨rfl, hgoing⟩

/-- The turn that a taken turn leads to quits just if something ends the loop in it. -/
theorem Takes.quitting_iff {before : List Turn} (h : Takes es a ts seen)
    (hpre : before ++ [t] <+: seen) :
    ((before ++ [t]).foldl turn a).mode = .quitting ↔ Leaves (es ++ heardIn before) t := by
  rw [List.foldl_append]
  exact ((h.going before t hpre).mode_turn t).1

/-- No turn is taken after one that ends the loop. -/
theorem Takes.last {before : List Turn} (h : Takes es a ts seen) (hpre : before ++ [t] <+: seen)
    (hleaves : Leaves (es ++ heardIn before) t) : before ++ [t] = seen := by
  obtain ⟨rest, hrest⟩ := hpre
  cases rest with
  | nil => rw [← hrest, List.append_nil]
  | cons t' rest =>
    have hnext : before ++ [t] ++ [t'] <+: seen := ⟨rest, by rw [← hrest]; simp⟩
    have hquit := (h.quitting_iff ⟨t' :: rest, hrest⟩).mpr hleaves
    exact absurd hquit (h.going _ t' hnext).not_quitting

/-- The application behind the motions and events of the turn `t`, after the turns `before`: all of
them are taken note of in order, and only then the end of the drill. -/
structure Collected (start : App) (before : List Turn) (t : Turn) (app : App) : Prop where
  all : app =
    { (start.observeAll (polledIn (before ++ [t]))).receiveAll (heardIn (before ++ [t])) with
      mode := app.mode }
  finished : app.mode = .finished ↔ Over (heardIn (before ++ [t]))
  quitting : app.mode = .quitting ↔ t.drillGone = true ∧ ¬ Over (heardIn (before ++ [t]))

/-- The loop behind the turns `seen` that it has taken of `ts`: what it has sent on, and the
application. -/
structure Looped (start : App) (ts seen : List Turn) (sent : List Motion) (app : App) : Prop where
  taken : seen <+: ts
  sent : sent = polledIn seen
  keyboard : app.keyboard =
    { start.keyboard.observeAll (polledIn seen) with hinted := app.keyboard.hinted }
  all : app =
    { (start.observeAll (polledIn seen)).receiveAll (heardIn seen) with mode := app.mode }
  collected : ∀ before t, before ++ [t] <+: seen →
    Collected start before t ((before.foldl turn start).collect t)
  left : app.mode = .quitting ↔ ∃ before t, seen = before ++ [t] ∧ Leaves (heardIn before) t
  first : ∀ before t, before ++ [t] <+: seen → Leaves (heardIn before) t → before ++ [t] = seen
  goes_on : app.mode ≠ .quitting → seen = ts ∧ (app.mode = .finished ↔ Over (heardIn seen))

theorem keyboard_receiveAll (a : App) (es : List Event) :
    (a.receiveAll es).keyboard =
      { a.keyboard with hinted := (a.receiveAll es).keyboard.hinted } := by
  induction es generalizing a with
  | nil => rfl
  | cons e es ih =>
    have hrest := ih (a.receive e)
    have he : (a.receive e).keyboard =
        { a.keyboard with hinted := (a.receive e).keyboard.hinted } := by
      cases e <;> rfl
    change ((a.receive e).receiveAll es).keyboard =
      { a.keyboard with hinted := ((a.receive e).receiveAll es).keyboard.hinted }
    rw [hrest, he]

theorem Takes.collected {before : List Turn} (h : Takes [] a ts seen)
    (hpre : before ++ [t] <+: seen) :
    Collected a before t ((before.foldl turn a).collect t) := by
  obtain ⟨hfinished, hquitting⟩ := (h.going before t hpre).mode_collect t
  have hheard : heardIn (before ++ [t]) = [] ++ heardIn before ++ t.events := by
    simp [heardIn]
  refine ⟨eq_of_quit_eq ?_, ?_, ?_⟩
  · -- The keystroke and the flag of the turn, which come later, change the mode alone.
    have hturn : ((before.foldl turn a).turn t).quit =
        ((before.foldl turn a).collect t).quit := quit_answer _ t
    rw [← hturn, ← quit_turns, List.foldl_append]
    rfl
  · rwa [hheard]
  · rwa [hheard]

theorem Takes.looped (h : Takes [] a ts seen) (hstart : a.mode ≠ .quitting) :
    Looped a ts seen (polledIn seen) (seen.foldl turn a) := by
  have hall := eq_of_quit_eq (quit_turns a seen)
  refine ⟨h.taken, rfl, ?_, hall, fun before t => h.collected, ⟨fun hquit => ?_, ?_⟩,
    fun before t => h.last, fun hne => ?_⟩
  · have hkeyboard := congrArg App.keyboard hall
    have hreceive := keyboard_receiveAll (a.observeAll (polledIn seen)) (heardIn seen)
    rw [keyboard_observeAll] at hreceive
    rw [hkeyboard, hreceive]
  · rcases List.eq_nil_or_concat seen with rfl | ⟨before, t, rfl⟩
    · exact absurd hquit hstart
    · rw [List.concat_eq_append] at *
      exact ⟨before, t, rfl, (h.quitting_iff (List.prefix_refl _)).mp hquit⟩
  · rintro ⟨before, t, rfl, hleaves⟩
    exact (h.quitting_iff (List.prefix_refl _)).mpr hleaves
  · obtain ⟨hts, hgoing⟩ := h.ended.resolve_left hne
    exact ⟨hts, hgoing.finished⟩

/-- The loop takes its turns up to the first one in which something ends it. It has then sent on all
motions of these turns and shown them, and has heard all their events, each turn's before it looked
whether the drill is gone: a summary heard by then keeps that from ending anything. Once the
application quits, events and keystrokes leave it so. -/
theorem run_stops_at_first_leaving (settings : Settings) (deckSize : Nat) (ts : List Turn) :
    (∃ seen, ((App.new settings deckSize).run ts).2.1 = seen.length ∧
      Looped (App.new settings deckSize) ts seen ((App.new settings deckSize).run ts).1
        ((App.new settings deckSize).run ts).2.2) ∧
    ∀ app : App, app.mode = .quitting →
      (∀ e, (app.receive e).mode = .quitting) ∧ ∀ k, app.press k = app := by
  have hgoing := going_new settings deckSize
  obtain ⟨seen, hseen⟩ := hgoing.takes ts
  refine ⟨⟨seen, ?_, ?_⟩, fun app happ => ?_⟩
  · rw [hseen.run]
  · rw [hseen.run]
    exact hseen.looped hgoing.not_quitting
  · have hquit : app.quit = app := quit_eq_self happ
    refine ⟨fun e => ?_, fun k => ?_⟩
    · rw [← hquit, ← quit_receive]
      rfl
    · unfold press
      split
      · exact hquit
      · rfl

/-- The drill ends and is gone in the first turn; the loop goes on until a key is typed. -/
def dismissedTurns : List Turn :=
  [{ motions := [.press .letterA], events := [.finished {}], drillGone := true },
   { drillGone := true, keystroke := some { letter := some 'x' } },
   { motions := [.release .letterA] }]

/-- Two of the turns are taken, and the application has quit; a late summary does not call it
back. -/
theorem dismissedTurns_stop_at_key :
    ((App.new {} 0).run dismissedTurns).2.1 = 2 ∧
    ((App.new {} 0).run dismissedTurns).2.2.mode = .quitting ∧
    (((App.new {} 0).run dismissedTurns).2.2.receive (.finished {})).mode = .quitting := by
  have hquit : ((App.new {} 0).run dismissedTurns).2.2.mode = .quitting := by decide
  have hloop := run_stops_at_first_leaving {} 0 dismissedTurns
  exact ⟨by decide, hquit, (hloop.2 _ hquit).1 (.finished {})⟩

end ChordDrill.App
