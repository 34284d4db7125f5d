import Mathlib.Data.List.Infix
import ChordDrill.Drill.Event
import ChordDrill.Proofs.Attempt.Classification

/-!
# ChordDrill.Proofs.Drill.Trace

What is told about attempts, from the first prompt to the summary.

* `Attempted`     — an attempt as it is told: the shortcut, the motions accepted, the verdict.
* `completeTrace` — everything that is told about some attempts.
* `Covers`        — attempts at all shortcuts of a deck, with the right verdicts.
* `Begins`        — where a beginning of a complete trace breaks off (`begins_completeTrace`).
-/

namespace ChordDrill.Drill

open Attempt

/-! ## Complete traces -/

structure Attempted where
  action : Action
  motions : List Motion
  verdict : Verdict

/-- The verdict is the one on the motions, and the last of them decides it. -/
def Attempted.Classified (t : Attempted) : Prop :=
  Decided t.action.combo t.motions t.verdict (t.motions.length - 1)

/-- Each motion with all motions up to it. -/
def motionEvents (ms : List Motion) : List Event :=
  ms.mapIdx fun j m => .motion m (ms.take (j + 1))

def Attempted.events (t : Attempted) (number : Nat) : List Event :=
  .prompt t.action number :: (motionEvents t.motions ++ [.verdict t.verdict, .readyForNext])

/-- What is told about some attempts, counted from one. -/
def told (ts : List Attempted) : List Event := (ts.zipIdx 1).flatMap fun t => t.1.events t.2

def results (ts : List Attempted) : Summary := ⟨ts.map fun t => (t.action, t.verdict)⟩

def completeTrace (ts : List Attempted) : List Event := told ts ++ [.finished (results ts)]

def accepted (es : List Event) : List Motion :=
  es.filterMap fun
    | .motion m _ => some m
    | _ => none

structure Covers (deck : List Action) (ts : List Attempted) : Prop where
  actions : ts.map (·.action) = deck
  classified : ∀ t ∈ ts, t.Classified

theorem motionEvents_snoc (ms : List Motion) (m : Motion) :
    motionEvents (ms ++ [m]) = motionEvents ms ++ [.motion m (ms ++ [m])] := by
  apply List.ext_getElem?
  intro j
  simp only [motionEvents, List.getElem?_mapIdx, List.getElem?_append, List.length_mapIdx]
  split
  · rename_i hj
    rw [List.take_append_of_le_length hj]
  · rename_i hj
    by_cases hlast : j = ms.length
    · simp [hlast, List.take_of_length_le]
    · have hbeyond : [m][j - ms.length]? = none := by
        simp only [List.getElem?_eq_none_iff, List.length_singleton]
        omega
      have hbeyond' : [Event.motion m (ms ++ [m])][j - ms.length]? = none := by
        simp only [List.getElem?_eq_none_iff, List.length_singleton]
        omega
      rw [hbeyond, hbeyond', Option.map_none]

theorem mem_motionEvents {ms : List Motion} {e : Event} (he : e ∈ motionEvents ms) :
    ∃ m M, e = .motion m M := by
  obtain ⟨j, hj, rfl⟩ := List.mem_mapIdx.mp he
  exact ⟨_, _, rfl⟩

theorem accepted_append (es es' : List Event) :
    accepted (es ++ es') = accepted es ++ accepted es' := List.filterMap_append

theorem told_append (ts ts' : List Attempted) :
    told (ts ++ ts') = told ts ++ (ts'.zipIdx (1 + ts.length)).flatMap fun t => t.1.events t.2 := by
  rw [told, List.zipIdx_append, List.flatMap_append, told]

theorem told_snoc (ts : List Attempted) (t : Attempted) :
    told (ts ++ [t]) = told ts ++ t.events (ts.length + 1) := by
  rw [told_append, Nat.add_comm]
  simp

theorem told_prefix_append (ts ts' : List Attempted) : told ts <+: told (ts ++ ts') := by
  rw [told_append]
  exact List.prefix_append _ _

theorem finished_notMem_told (ts : List Attempted) (s : Summary) : .finished s ∉ told ts := by
  simp [told, Attempted.events, motionEvents]

theorem results_snoc (ts : List Attempted) (t : Attempted) :
    results (ts ++ [t]) = (results ts).record t.action t.verdict := by
  simp [results, Summary.record]

/-! ## Attempts can always be completed -/

/-- Motions without a verdict can go on to one: some motion leaves the combo. -/
theorem exists_decided {E M : List Motion} (h : outcome E M = none) :
    ∃ m v, Decided E (M ++ [m]) v M.length := by
  have hleave : ∃ m, E[M.length]? ≠ some m := by
    by_cases he : E[M.length]? = some (.press .esc)
    · exact ⟨.release .esc, by simp [he]⟩
    · exact ⟨.press .esc, he⟩
  obtain ⟨m, hm⟩ := hleave
  exact ⟨m, _, decided_of_leaving h (.inr hm)⟩

theorem exists_classified (a : Action) : ∃ t : Attempted, t.action = a ∧ t.Classified := by
  have hnone : outcome a.combo [] = none := outcome_eq_none_iff.mpr (.inl rfl)
  obtain ⟨m, v, hd⟩ := exists_decided hnone
  exact ⟨⟨a, [m], v⟩, rfl, hd⟩

theorem exists_covers (deck : List Action) : ∃ ts, Covers deck ts := by
  induction deck with
  | nil => exact ⟨[], rfl, by simp⟩
  | cons a deck ih =>
    obtain ⟨ts, hts⟩ := ih
    obtain ⟨t, ht, hc⟩ := exists_classified a
    exact ⟨t :: ts, by rw [List.map_cons, ht, hts.actions], by simpa [hc] using hts.classified⟩

/-- All motions of an attempt but the last are a beginning of its combo. -/
theorem Attempted.Classified.begins_combo {t : Attempted} (h : t.Classified) :
    t.motions.dropLast <+: t.action.combo := by
  have ho := outcome_take (outcome_eq_some_iff.mpr h) (t.motions.length - 1)
  rw [if_neg (Nat.lt_irrefl _), ← List.dropLast_eq_take] at ho
  exact prefix_of_undecided ho

theorem Attempted.Classified.verdict_cases {t : Attempted} (h : t.Classified) :
    t.verdict = .matched t.motions ∧ t.motions = t.action.combo ∨
    t.verdict = .mismatched t.action.combo t.motions := by
  obtain ⟨a, ms, v⟩ := t
  have hlt : ms.length - 1 < ms.length := Decided.lt h
  change Decided a.combo ms v (ms.length - 1) at h
  generalize hn : ms.length - 1 = n at h
  cases h with
  | matched hne hp =>
    have hpos := List.length_pos_of_ne_nil hne
    have heq : a.combo = ms := hp.eq_of_length (by omega)
    exact .inl ⟨congrArg Verdict.matched heq, heq.symm⟩
  | mismatched _ _ =>
    have htake : ms.take (n + 1) = ms := List.take_of_length_le (by omega)
    exact .inr (congrArg (Verdict.mismatched a.combo) htake)

/-! ## Beginnings of complete traces -/

variable {deck : List Action} {past : List Attempted}

theorem covers_of_closed {left : List Action} {es : List Event} (hc : ∀ t ∈ past, t.Classified)
    (hd : past.map (·.action) ++ left = deck) (hes : es <+: told past) :
    ∃ ts, Covers deck ts ∧ es <+: told ts := by
  obtain ⟨ts, hts⟩ := exists_covers left
  refine ⟨past ++ ts, ⟨?_, ?_⟩, hes.trans (told_prefix_append past ts)⟩
  · rw [List.map_append, hts.actions, hd]
  · intro t ht
    rcases List.mem_append.mp ht with ht | ht
    · exact hc t ht
    · exact hts.classified t ht

theorem covers_of_open {left : List Action} {es : List Event} {t : Attempted}
    (hc : ∀ t ∈ past, t.Classified) (hd : past.map (·.action) ++ t.action :: left = deck)
    (ht : t.Classified) (hes : es <+: told (past ++ [t])) :
    ∃ ts, Covers deck ts ∧ es <+: told ts := by
  have hc' : ∀ t' ∈ past ++ [t], t'.Classified := by
    simpa [or_imp, forall_and] using ⟨hc, ht⟩
  have hd' : (past ++ [t]).map (·.action) ++ left = deck := by
    rw [← hd]
    simp
  exact covers_of_closed hc' hd' hes

/-! ## What a beginning looks like -/

/-- The attempt that a beginning breaks off in, the motions told of it and what follows them. -/
inductive Begins : List Event → Prop where
  | nothing : Begins []
  | noAttempt : Begins [.finished (results [])]
  | within {past : List Attempted} {t : Attempted} {ms : List Motion} {rest : List Event} :
      t.Classified → ms <+: t.motions →
      rest <+: [.verdict t.verdict, .readyForNext, .finished (results (past ++ [t]))] →
      (rest = [] ∨ ms = t.motions) →
      Begins (told past ++ .prompt t.action (past.length + 1) :: (motionEvents ms ++ rest))

theorem prefix_append_cases {es l l' : List Event} (h : es <+: l ++ l') :
    es <+: l ∨ ∃ es', es' <+: l' ∧ es = l ++ es' := by
  rcases List.prefix_or_prefix_of_prefix h (List.prefix_append l l') with hes | ⟨es', rfl⟩
  · exact .inl hes
  · exact .inr ⟨es', (List.prefix_append_right_inj l).mp h, rfl⟩

theorem prefix_motionEvents {es : List Event} {ms : List Motion} (h : es <+: motionEvents ms) :
    ∃ ms', ms' <+: ms ∧ es = motionEvents ms' := by
  induction ms using List.reverseRecOn with
  | nil => exact ⟨[], List.prefix_rfl, List.prefix_nil.mp h⟩
  | append_singleton ms m ih =>
    rw [motionEvents_snoc, List.prefix_concat_iff] at h
    rcases h with rfl | h
    · exact ⟨ms ++ [m], List.prefix_rfl, (motionEvents_snoc ms m).symm⟩
    · obtain ⟨ms', hms', rfl⟩ := ih h
      exact ⟨ms', hms'.trans (List.prefix_append ms [m]), rfl⟩

theorem begins_completeTrace {ts : List Attempted} {es : List Event} (hc : ∀ t ∈ ts, t.Classified)
    (h : es <+: completeTrace ts) : Begins es := by
  induction ts using List.reverseRecOn with
  | nil =>
    rcases List.prefix_cons_iff.mp h with rfl | ⟨es', rfl, hes'⟩
    · exact .nothing
    · rw [List.prefix_nil.mp hes']
      exact .noAttempt
  | append_singleton ts t ih =>
    have hbefore : es <+: told ts → Begins es := fun hes =>
      ih (fun t' ht' => hc t' (List.mem_append_left _ ht')) (hes.trans (List.prefix_append _ _))
    have ht : t.Classified := hc t (List.mem_append_right ts (List.mem_singleton_self t))
    rw [completeTrace, told_snoc, List.append_assoc] at h
    rcases prefix_append_cases h with hes | ⟨es', hes', rfl⟩
    · exact hbefore hes
    · rw [Attempted.events, List.cons_append, List.append_assoc] at hes'
      rcases List.prefix_cons_iff.mp hes' with rfl | ⟨es'', rfl, hes''⟩
      · exact hbefore (by rw [List.append_nil])
      · rcases prefix_append_cases hes'' with hms | ⟨rest, hrest, rfl⟩
        · obtain ⟨ms, hms', rfl⟩ := prefix_motionEvents hms
          rw [← List.append_nil (motionEvents ms)]
          exact .within ht hms' List.nil_prefix (.inl rfl)
        · exact .within ht List.prefix_rfl hrest (.inr rfl)

end ChordDrill.Drill
