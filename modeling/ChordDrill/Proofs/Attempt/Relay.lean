import ChordDrill.Proofs.Attempt.Drain
import ChordDrill.Proofs.Device.Holders

/-!
# ChordDrill.Proofs.Attempt.Relay

Attempts back to back over what a listener makes of its edges, with no motion lost between them.

* `Relay`   — the matcher of the attempt under way, and the combos of those to come.
* `relayAt` — the relay after some edges, from a listener with nothing down.
* `Settled` — the verdict is given and no key is down.

The matcher counts presses and releases without their keys, and never below zero. It agrees with
the keys of the listener because each attempt begins with none of them down (`Relay.Runs`): then
the count of its motions is the number of keys down, and it is back at zero when it ends.
-/

namespace ChordDrill.Attempt

open Motion
open Device (Edge Held)
open Device.Held

/-! ## One matcher after the other -/

structure Relay where
  matcher : Matcher
  combos : List (List Motion)

namespace Relay

/-- The matcher for the next combo takes over; the last matcher stays. -/
def next (r : Relay) : Relay :=
  match r.combos with
  | [] => r
  | E :: Es => { matcher := .new E, combos := Es }

def feed (r : Relay) (m : Motion) : Relay :=
  let fed := { r with matcher := (r.matcher.feed m).2 }
  if .readyForNext ∈ (r.matcher.feed m).1 then fed.next else fed

/-- The attempt under way began with no key down, and its matcher is at rest only behind the last
combo. -/
structure Runs (r : Relay) (M : List Motion) : Prop where
  attempt : ∃ E M₀ M₁, M = M₀ ++ M₁ ∧ downAfter ∅ M₀ = ∅ ∧ r.matcher = matcherAfter E M₁
  rests : r.matcher.stage = .readyForNext → r.combos = []

end Relay

variable {E M M₀ M₁ : List Motion} {Es : List (List Motion)} {m : Motion} {r : Relay}
  {es es₁ : List Edge}

theorem Stands.stage_cases {ns : List Notice} {s : Matcher} (h : Stands E M ns s) :
    s.stage = .awaitingMotion ∨ s.stage = .drainingPressed ∨ s.stage = .readyForNext := by
  cases h with
  | comparing _ _ _ hs _ => exact .inl hs
  | draining _ _ hs _ => exact .inr (.inl hs)
  | ready _ _ hs _ => exact .inr (.inr hs)

theorem unanswered_of_none_down (hM : Possible ∅ (M₀ ++ M₁)) (hM₀ : downAfter ∅ M₀ = ∅) :
    unanswered M₁ = (downAfter ∅ (M₀ ++ M₁)).card := by
  have hM₁ := (possible_append.mp hM).2
  rw [hM₀] at hM₁
  rw [downAfter_append, hM₀, hM₁.unanswered_eq_card]

/-- A verdict with the count at zero ends the attempt, so there is none before the end. -/
theorem stage_of_unanswered_eq_zero (hv : (matcherAfter E M).verdict ≠ none)
    (hM : unanswered M = 0) : (matcherAfter E M).stage = .readyForNext := by
  rcases List.eq_nil_or_concat M with rfl | ⟨M', m, rfl⟩
  · exact absurd rfl hv
  · rw [List.concat_eq_append] at hv hM ⊢
    rw [verdict_matcherAfter, Ne, Option.map_eq_none_iff] at hv
    exact stage_matcherAfter_snoc.mpr (.inr ⟨hv, hM⟩)

namespace Relay

theorem feed_going (h : .readyForNext ∉ (r.matcher.feed m).1) :
    r.feed m = { r with matcher := (r.matcher.feed m).2 } := by
  simp [feed, h]

theorem feed_last (h : .readyForNext ∈ (r.matcher.feed m).1) (hr : r.combos = []) :
    r.feed m = { r with matcher := (r.matcher.feed m).2 } := by
  simp [feed, h, next, hr]

theorem feed_next (h : .readyForNext ∈ (r.matcher.feed m).1) (hr : r.combos = E :: Es) :
    r.feed m = { matcher := .new E, combos := Es } := by
  simp [feed, h, next, hr]

theorem feed_ready (hr : r.matcher.stage = .readyForNext) (m : Motion) : r.feed m = r := by
  have hfed := Matcher.feed_ready (m := m) hr
  rw [feed_going (by simp [hfed]), hfed]

namespace Runs

theorem pressed_eq (h : r.Runs M) (hM : Possible ∅ M) (hr : r.matcher.stage ≠ .readyForNext) :
    r.matcher.pressed = (downAfter ∅ M).card := by
  obtain ⟨⟨E, M₀, M₁, rfl, hM₀, hmatcher⟩, _⟩ := h
  rw [hmatcher] at hr ⊢
  rw [← unanswered_of_none_down hM hM₀]
  exact (pressed_matcherAfter E M₁).resolve_left hr

theorem ready_of_settled (h : r.Runs M) (hM : Possible ∅ M) (hv : r.matcher.verdict ≠ none)
    (hnone : downAfter ∅ M = ∅) : r.matcher.stage = .readyForNext := by
  obtain ⟨⟨E, M₀, M₁, rfl, hM₀, hmatcher⟩, _⟩ := h
  rw [hmatcher] at hv ⊢
  refine stage_of_unanswered_eq_zero hv ?_
  rw [unanswered_of_none_down hM hM₀, hnone, Finset.card_empty]

theorem readyForNext_mem_iff (h : r.Runs M) (hM : Possible ∅ (M ++ [m])) :
    .readyForNext ∈ (r.matcher.feed m).1 ↔ r.matcher.stage ≠ .readyForNext ∧
      (r.matcher.feed m).2.verdict ≠ none ∧ downAfter ∅ (M ++ [m]) = ∅ := by
  obtain ⟨⟨E, M₀, M₁, rfl, hM₀, hmatcher⟩, _⟩ := h
  rw [List.append_assoc] at hM ⊢
  rw [hmatcher, Attempt.readyForNext_mem_iff, ← matcherAfter_snoc, verdict_matcherAfter,
    unanswered_of_none_down hM hM₀, Finset.card_eq_zero, Ne, Ne, Ne, Option.map_eq_none_iff]

theorem stage_feed (h : r.Runs M) (hstage : (r.matcher.feed m).2.stage = .readyForNext) :
    r.matcher.stage = .readyForNext ∨ .readyForNext ∈ (r.matcher.feed m).1 := by
  obtain ⟨⟨E, M₀, M₁, rfl, hM₀, hmatcher⟩, _⟩ := h
  rw [hmatcher] at hstage ⊢
  rw [← matcherAfter_snoc, stage_matcherAfter_snoc] at hstage
  by_cases hr : (matcherAfter E M₁).stage = .readyForNext
  · exact .inl hr
  · exact .inr (Attempt.readyForNext_mem_iff.mpr ⟨hr, hstage.resolve_left hr⟩)

theorem stage_cases (h : r.Runs M) : r.matcher.stage = .awaitingMotion ∨
    r.matcher.stage = .drainingPressed ∨ r.matcher.stage = .readyForNext := by
  obtain ⟨⟨E, M₀, M₁, _, _, hmatcher⟩, _⟩ := h
  rw [hmatcher]
  exact (stands_feedAll E M₁).stage_cases

theorem verdict_ne_none (h : r.Runs M) (hr : r.matcher.stage = .readyForNext) :
    r.matcher.verdict ≠ none := by
  obtain ⟨⟨E, M₀, M₁, _, _, hmatcher⟩, _⟩ := h
  rw [hmatcher] at hr ⊢
  obtain ⟨v, hv⟩ := (stands_feedAll E M₁).verdict_of_ready hr
  simp [hv]

/-- At the end of an attempt no key is down, so the next one begins like the first. -/
theorem feed (h : r.Runs M) (hM : Possible ∅ (M ++ [m])) : (r.feed m).Runs (M ++ [m]) := by
  have hends := h.readyForNext_mem_iff hM
  have hstage := h.stage_feed (m := m)
  obtain ⟨⟨E, M₀, M₁, rfl, hM₀, hmatcher⟩, hrests⟩ := h
  have hgoes : ∃ E' M₀' M₁', M₀ ++ M₁ ++ [m] = M₀' ++ M₁' ∧ downAfter ∅ M₀' = ∅ ∧
      (r.matcher.feed m).2 = matcherAfter E' M₁' :=
    ⟨E, M₀, M₁ ++ [m], List.append_assoc M₀ M₁ [m], hM₀, by rw [hmatcher, matcherAfter_snoc]⟩
  by_cases hready : .readyForNext ∈ (r.matcher.feed m).1
  · cases hcombos : r.combos with
    | nil =>
      rw [feed_last hready hcombos]
      exact ⟨hgoes, fun _ => hcombos⟩
    | cons E' Es' =>
      have hnone := (hends.mp hready).2.2
      rw [feed_next hready hcombos]
      exact ⟨⟨E', M₀ ++ M₁ ++ [m], [], (List.append_nil _).symm, hnone, rfl⟩, Stage.noConfusion⟩
  · rw [feed_going hready]
    exact ⟨hgoes, fun hr => hrests ((hstage hr).resolve_right hready)⟩

theorem none_down_at_start (h : r.Runs M) (hentered : r.matcher.entered = []) :
    downAfter ∅ M = ∅ := by
  obtain ⟨⟨E, M₀, M₁, rfl, hM₀, hmatcher⟩, _⟩ := h
  have hM₁ : M₁ = [] := by
    have hstands := stands_feedAll E M₁
    rw [hmatcher] at hentered
    cases ho : outcome E M₁ with
    | none => rw [← (hstands.of_undecided ho).1, hentered]
    | some p =>
      rw [(hstands.of_decided ho).1, List.take_eq_nil_iff] at hentered
      exact hentered.resolve_left (Nat.succ_ne_zero _)
  rw [hM₁, List.append_nil, hM₀]

end Runs

end Relay

def relayAfter (E : List Motion) (Es : List (List Motion)) (M : List Motion) : Relay :=
  M.foldl Relay.feed { matcher := .new E, combos := Es }

theorem runs_relayAfter (hM : Possible ∅ M) : (relayAfter E Es M).Runs M := by
  induction M using List.reverseRecOn with
  | nil => exact ⟨⟨E, [], [], rfl, rfl, rfl⟩, Stage.noConfusion⟩
  | append_singleton M m ih =>
    have hrun := ih (possible_append.mp hM).1
    rw [relayAfter, List.foldl_append]
    exact hrun.feed hM

/-! ## Over the edges of a listener -/

def relayAt (E : List Motion) (Es : List (List Motion)) (es : List Edge) : Relay :=
  relayAfter E Es (motionsFor es)

theorem runs_relayAt (E : List Motion) (Es : List (List Motion)) (es : List Edge) :
    (relayAt E Es es).Runs (motionsFor es) :=
  runs_relayAfter (possible_motionsFor es).1

theorem relayAt_snoc (es : List Edge) (e : Edge) : relayAt E Es (es ++ [e]) =
    ((heldAfter es).translate e).1.toList.foldl Relay.feed (relayAt E Es es) := by
  rw [relayAt, motionsFor_snoc, relayAfter, List.foldl_append]
  rfl

theorem relayAt_append_of_ready (hr : (relayAt E Es es).matcher.stage = .readyForNext)
    (es' : List Edge) : relayAt E Es (es ++ es') = relayAt E Es es := by
  induction es' using List.reverseRecOn with
  | nil => rw [List.append_nil]
  | append_singleton es' e ih =>
    rw [← List.append_assoc, relayAt_snoc, ih]
    cases ((heldAfter (es ++ es')).translate e).1 with
    | none => rfl
    | some m => exact Relay.feed_ready hr m

theorem downAfter_motionsFor_eq_empty (es : List Edge) :
    downAfter ∅ (motionsFor es) = ∅ ↔ (heldAfter es).keysDown = [] := by
  rw [← Finset.card_eq_zero, card_downAfter_motionsFor, List.length_eq_zero_iff]

def Settled (s : Matcher) (h : Held) : Prop := s.verdict ≠ none ∧ h.keysDown = []

theorem ready_of_settled (h : Settled (relayAt E Es es).matcher (heldAfter es)) :
    (relayAt E Es es).matcher.stage = .readyForNext :=
  (runs_relayAt E Es es).ready_of_settled (possible_motionsFor es).1 h.1
    ((downAfter_motionsFor_eq_empty es).mpr h.2)

section

variable {e : Edge} (hm : ((heldAfter es).translate e).1 = some m)

include hm

theorem relayAt_feed : relayAt E Es (es ++ [e]) = (relayAt E Es es).feed m := by
  rw [relayAt_snoc, hm]
  rfl

/-- The attempt ends where it settles. -/
theorem readyForNext_mem_iff_settled :
    .readyForNext ∈ ((relayAt E Es es).matcher.feed m).1 ↔
      (relayAt E Es es).matcher.stage ≠ .readyForNext ∧
      Settled ((relayAt E Es es).matcher.feed m).2 (heldAfter (es ++ [e])) := by
  have hmotions : motionsFor (es ++ [e]) = motionsFor es ++ [m] := by
    rw [motionsFor_snoc, hm]
    rfl
  have hM := (possible_motionsFor (es ++ [e])).1
  have hdown := downAfter_motionsFor_eq_empty (es ++ [e])
  rw [hmotions] at hM hdown
  rw [(runs_relayAt E Es es).readyForNext_mem_iff hM, hdown]
  rfl

end

/-- A matcher at rest came to it at a moment with no key down. -/
theorem exists_settled_of_ready (hr : (relayAt E Es es).matcher.stage = .readyForNext) :
    ∃ es₁, es₁ <+: es ∧ Settled (relayAt E Es es₁).matcher (heldAfter es₁) := by
  induction es using List.reverseRecOn with
  | nil => cases hr
  | append_singleton es e ih =>
    have hbefore : (relayAt E Es es).matcher.stage = .readyForNext →
        ∃ es₁, es₁ <+: es ++ [e] ∧ Settled (relayAt E Es es₁).matcher (heldAfter es₁) := by
      intro hr
      obtain ⟨es₁, hes₁, hsettled⟩ := ih hr
      exact ⟨es₁, hes₁.trans (List.prefix_append es [e]), hsettled⟩
    cases hm : ((heldAfter es).translate e).1 with
    | none =>
      rw [relayAt_snoc, hm] at hr
      exact hbefore hr
    | some m =>
      by_cases hready : .readyForNext ∈ ((relayAt E Es es).matcher.feed m).1
      · have hnone := ((readyForNext_mem_iff_settled hm).mp hready).2.2
        have hverdict := (runs_relayAt E Es (es ++ [e])).verdict_ne_none hr
        exact ⟨es ++ [e], List.prefix_rfl, hverdict, hnone⟩
      · rw [relayAt_feed hm, Relay.feed_going hready] at hr
        exact hbefore (((runs_relayAt E Es es).stage_feed hr).resolve_right hready)

/-- While a matcher compares or drains, it counts the keys with a scancode down. It is ready with
the motion that, first of all since its attempt began, leaves it with a verdict and no key down; so
attempts begin and end with no key down, and only the last matcher of all comes to rest. -/
theorem pressed_counts_keys_down (E : List Motion) (Es : List (List Motion)) (es : List Edge) :
    ((relayAt E Es es).matcher.stage = .awaitingMotion ∨
        (relayAt E Es es).matcher.stage = .drainingPressed →
      (relayAt E Es es).matcher.pressed = (heldAfter es).keysDown.length) ∧
    (∀ e m, ((heldAfter es).translate e).1 = some m →
      (.readyForNext ∈ ((relayAt E Es es).matcher.feed m).1 ↔
        Settled ((relayAt E Es es).matcher.feed m).2 (heldAfter (es ++ [e])) ∧
        ∀ es₁, es₁ <+: es → ¬ Settled (relayAt E Es es₁).matcher (heldAfter es₁))) ∧
    ((relayAt E Es es).matcher.entered = [] → (heldAfter es).keysDown = []) ∧
    ((relayAt E Es es).matcher.stage = .awaitingMotion ∨
      (relayAt E Es es).matcher.stage = .drainingPressed ∨
      (relayAt E Es es).matcher.stage = .readyForNext ∧ (relayAt E Es es).combos = []) := by
  have hruns := runs_relayAt E Es es
  have hM := (possible_motionsFor es).1
  refine ⟨fun hstage => ?_, fun e m hm => ?_, fun hentered => ?_, ?_⟩
  · have hr : (relayAt E Es es).matcher.stage ≠ .readyForNext := by
      rcases hstage with hstage | hstage <;> simp [hstage]
    rw [hruns.pressed_eq hM hr, card_downAfter_motionsFor]
  · rw [readyForNext_mem_iff_settled hm, and_comm]
    refine and_congr_right fun _ => ⟨fun hr es₁ hes₁ hsettled => ?_, fun hearlier hr => ?_⟩
    · -- Once settled, the matcher is at rest for good.
      obtain ⟨es₂, rfl⟩ := hes₁
      have hrest := ready_of_settled hsettled
      rw [relayAt_append_of_ready hrest es₂] at hr
      exact hr hrest
    · obtain ⟨es₁, hes₁, hsettled⟩ := exists_settled_of_ready hr
      exact hearlier es₁ hes₁ hsettled
  · exact (downAfter_motionsFor_eq_empty es).mp (hruns.none_down_at_start hentered)
  · have hstage := hruns.stage_cases
    exact hstage.imp_right (Or.imp_right fun hr => ⟨hr, hruns.rests hr⟩)

/-- Both shifts go down and the left one comes up, among a repeat and a scancode without a key. -/
def bothShifts : List Edge := [⟨42, 1⟩, ⟨54, 1⟩, ⟨42, 2⟩, ⟨42, 0⟩, ⟨240, 1⟩]

/-- One shift is still counted; its last scancode ends the attempt, and the next one begins. -/
theorem shift_drained_by_right_one :
    (relayAt [.press .shift] [[.press .letterA]] bothShifts).matcher.stage = .drainingPressed ∧
    (relayAt [.press .shift] [[.press .letterA]] bothShifts).matcher.pressed =
      (heldAfter bothShifts).keysDown.length ∧
    (heldAfter bothShifts).keysDown = [.shift] ∧
    ((heldAfter bothShifts).translate ⟨54, 0⟩).1 = some (.release .shift) ∧
    .readyForNext ∈ ((relayAt [.press .shift] [[.press .letterA]] bothShifts).matcher.feed
      (.release .shift)).1 ∧
    (heldAfter (bothShifts ++ [⟨54, 0⟩])).keysDown = [] ∧
    (relayAt [.press .shift] [[.press .letterA]] (bothShifts ++ [⟨54, 0⟩])).matcher =
      .new [.press .letterA] := by
  have hlaw := pressed_counts_keys_down [.press .shift] [[.press .letterA]] bothShifts
  have hstage : (relayAt [.press .shift] [[.press .letterA]] bothShifts).matcher.stage =
      .drainingPressed := by decide
  have hm : ((heldAfter bothShifts).translate ⟨54, 0⟩).1 = some (.release .shift) := by decide
  have hready : .readyForNext ∈ ((relayAt [.press .shift] [[.press .letterA]]
      bothShifts).matcher.feed (.release .shift)).1 := by decide
  have hsettled := ((hlaw.2.1 _ _ hm).mp hready).1
  exact ⟨hstage, hlaw.1 (.inr hstage), by decide, hm, hready, hsettled.2, by decide⟩

end ChordDrill.Attempt
