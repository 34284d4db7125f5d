import Mathlib.Data.List.Infix
import ChordDrill.Attempt.Matcher
import ChordDrill.Attempt.Outcome

/-!
# ChordDrill.Proofs.Attempt.Classification

The live matcher gives the verdict that judging all motions at once gives.

* `Diverges` — the first place where motions leave a combo.
* `Decided`  — the verdict on a list of motions and the place of the motion that decides it;
  `outcome` computes it (`outcome_eq_some_iff`).
* `Stands`   — what a matcher has caused and where it stands after a list of motions: it still
  compares, or the verdict is given and only the draining is left.

`stands_feed` is the step and `stands_feedAll` the run. The main result puts together what they say
about verdicts, entered motions, notices, stages and the places of the combo that are read.
-/

namespace ChordDrill.Attempt

/-! ## Judging all motions at once -/

/-- The first place that lies beyond the end of the combo or has another motion there. -/
structure Diverges (E M : List Motion) (d : Nat) : Prop where
  lt : d < M.length
  differs : E.length ≤ d ∨ M[d]? ≠ E[d]?
  agrees : ∀ i, i < d → i < E.length ∧ M[i]? = E[i]?

/-- A combo that is not empty and begins the motions is matched by its last motion; any other
motions that leave the combo are mismatched where they leave it. -/
inductive Decided (E M : List Motion) : Verdict → Nat → Prop where
  | matched : E ≠ [] → E <+: M → Decided E M (.matched E) (E.length - 1)
  | mismatched {d : Nat} : ¬ (E ≠ [] ∧ E <+: M) → Diverges E M d →
      Decided E M (.mismatched E (M.take (d + 1))) d

theorem divergence_eq_some_iff {E M : List Motion} {d : Nat} :
    divergence E M = some d ↔ Diverges E M d := by
  induction E, M using divergence.induct generalizing d with
  | case1 E =>
    constructor
    · intro h
      simp [divergence] at h
    · intro h
      exact absurd h.lt (Nat.not_lt_zero d)
  | case2 m ms =>
    constructor
    · intro h
      simp only [divergence, Option.some.injEq] at h
      subst h
      exact ⟨Nat.succ_pos _, .inl (Nat.le_refl _), fun i hi => absurd hi (Nat.not_lt_zero i)⟩
    · intro h
      cases d with
      | zero => rfl
      | succ d => exact absurd (h.agrees 0 (Nat.succ_pos d)).1 (Nat.not_lt_zero 0)
  | case3 e es ms ih =>
    rw [divergence, if_pos rfl]
    constructor
    · intro h
      obtain ⟨d', hd', rfl⟩ := Option.map_eq_some_iff.mp h
      have hdiv := ih.mp hd'
      refine ⟨Nat.succ_lt_succ hdiv.lt, ?_, ?_⟩
      · simpa using hdiv.differs
      · intro i hi
        cases i with
        | zero => simp
        | succ i => simpa using hdiv.agrees i (Nat.lt_of_succ_lt_succ hi)
    · intro h
      cases d with
      | zero => simpa using h.differs
      | succ d =>
        refine Option.map_eq_some_iff.mpr ⟨d, ih.mpr ⟨?_, ?_, ?_⟩, rfl⟩
        · exact Nat.lt_of_succ_lt_succ h.lt
        · simpa using h.differs
        · intro i hi
          simpa using h.agrees (i + 1) (Nat.succ_lt_succ hi)
  | case4 e es m ms hne =>
    rw [divergence, if_neg hne]
    constructor
    · intro h
      cases h
      exact ⟨Nat.succ_pos _, .inr (by simpa using Ne.symm hne),
        fun i hi => absurd hi (Nat.not_lt_zero i)⟩
    · intro h
      cases d with
      | zero => rfl
      | succ d => exact absurd (h.agrees 0 (Nat.succ_pos d)).2 (by simpa using Ne.symm hne)

theorem divergence_eq_none_iff {E M : List Motion} : divergence E M = none ↔ M <+: E := by
  induction E, M using divergence.induct with
  | case1 E => simp [divergence]
  | case2 m ms => simp [divergence]
  | case3 e es ms ih => simp [divergence, ih]
  | case4 e es m ms hne => simp [divergence, hne, Ne.symm hne]

theorem take_length_eq_iff {E M : List Motion} : M.take E.length = E ↔ E <+: M := by
  rw [List.prefix_iff_eq_take, eq_comm]

theorem outcome_eq_some_iff {E M : List Motion} {v : Verdict} {n : Nat} :
    outcome E M = some (v, n) ↔ Decided E M v n := by
  simp only [outcome, take_length_eq_iff]
  constructor
  · intro h
    split at h
    · rename_i hE
      cases h
      exact .matched hE.1 hE.2
    · rename_i hE
      obtain ⟨d, hd, hv⟩ := Option.map_eq_some_iff.mp h
      cases hv
      exact .mismatched hE (divergence_eq_some_iff.mp hd)
  · intro h
    cases h with
    | matched hne hp => rw [if_pos ⟨hne, hp⟩]
    | mismatched hE hd => rw [if_neg hE, divergence_eq_some_iff.mpr hd, Option.map_some]

/-- Nothing is decided while the motions are empty or a proper beginning of the combo. -/
theorem outcome_eq_none_iff {E M : List Motion} :
    outcome E M = none ↔ M = [] ∨ M <+: E ∧ M ≠ E := by
  simp only [outcome, take_length_eq_iff]
  split
  · rename_i hE
    constructor
    · intro h
      cases h
    · rintro (rfl | ⟨hM, hne⟩)
      · exact absurd (List.prefix_nil.mp hE.2) hE.1
      · exact absurd (hM.eq_of_length_le hE.2.length_le) hne
  · rename_i hE
    rw [Option.map_eq_none_iff, divergence_eq_none_iff]
    constructor
    · intro h
      by_cases hM : M = []
      · exact .inl hM
      · refine .inr ⟨h, ?_⟩
        rintro rfl
        exact hE ⟨hM, List.prefix_rfl⟩
    · rintro (rfl | ⟨hM, _⟩)
      · exact List.nil_prefix
      · exact hM

/-! ## Motions behind the verdict -/

section

variable {E M : List Motion} {v : Verdict} {n : Nat}

theorem Decided.lt (h : Decided E M v n) : n < M.length := by
  cases h with
  | matched hne hp =>
    have hpos := List.length_pos_of_ne_nil hne
    have hle := hp.length_le
    omega
  | mismatched _ hd => exact hd.lt

/-- Where motions leave the combo is fixed by the motions up to there. -/
theorem Diverges.of_agree {M' : List Motion} (h : Diverges E M n) (hlt : n < M'.length)
    (hM' : ∀ i, i ≤ n → M'[i]? = M[i]?) : Diverges E M' n := by
  refine ⟨hlt, ?_, ?_⟩
  · rw [hM' n (Nat.le_refl n)]
    exact h.differs
  · intro i hi
    rw [hM' i (Nat.le_of_lt hi)]
    exact h.agrees i hi

/-- More motions do not change a verdict. -/
theorem Decided.append (h : Decided E M v n) (M' : List Motion) : Decided E (M ++ M') v n := by
  cases h with
  | matched hne hp => exact .matched hne (hp.trans (List.prefix_append M M'))
  | mismatched hE hd =>
    have htake : (M ++ M').take (n + 1) = M.take (n + 1) :=
      List.take_append_of_le_length hd.lt
    have hsame : ∀ i, i ≤ n → (M ++ M')[i]? = M[i]? :=
      fun i hi => List.getElem?_append_left (Nat.lt_of_le_of_lt hi hd.lt)
    have hlt : n < (M ++ M').length := by
      rw [List.length_append]
      exact Nat.lt_add_right M'.length hd.lt
    rw [← htake]
    refine .mismatched ?_ (hd.of_agree hlt hsame)
    rintro ⟨hne, t, ht⟩
    have hlen : E.length ≤ n := by
      rcases hd.differs with hlen | hdiff
      · exact hlen
      · refine Nat.le_of_not_lt fun hlt => hdiff ?_
        rw [← hsame n (Nat.le_refl n), ← ht, List.getElem?_append_left hlt]
    have hle : E.length ≤ M.length := Nat.le_trans hlen (Nat.le_of_lt hd.lt)
    exact hE ⟨hne, List.prefix_of_prefix_length_le ⟨t, ht⟩ (List.prefix_append M M') hle⟩

/-- The motions up to the deciding one have the verdict. -/
theorem Decided.take (h : Decided E M v n) {k : Nat} (hk : n < k) : Decided E (M.take k) v n := by
  cases h with
  | matched hne hp =>
    exact .matched hne (List.prefix_take_iff.mpr ⟨hp, by omega⟩)
  | mismatched hE hd =>
    have htake : (M.take k).take (n + 1) = M.take (n + 1) := by
      rw [List.take_take, Nat.min_eq_left hk]
    have hsame : ∀ i, i ≤ n → (M.take k)[i]? = M[i]? :=
      fun i hi => List.getElem?_take_of_lt (Nat.lt_of_le_of_lt hi hk)
    have hlt : n < (M.take k).length := by
      rw [List.length_take]
      exact Nat.lt_min.mpr ⟨hk, hd.lt⟩
    rw [← htake]
    refine .mismatched ?_ (hd.of_agree hlt hsame)
    rintro ⟨hne, hp⟩
    exact hE ⟨hne, hp.trans (List.take_prefix k M)⟩

theorem outcome_take (h : outcome E M = some (v, n)) (k : Nat) :
    outcome E (M.take k) = if n < k then some (v, n) else none := by
  have hd := outcome_eq_some_iff.mp h
  split
  · rename_i hk
    exact outcome_eq_some_iff.mpr (hd.take hk)
  · rename_i hk
    cases ho : outcome E (M.take k) with
    | none => rfl
    | some p =>
      obtain ⟨v', n'⟩ := p
      have hd' := outcome_eq_some_iff.mp ho
      have hM := outcome_eq_some_iff.mpr (hd'.append (M.drop k))
      rw [List.take_append_drop, h] at hM
      cases hM
      have hlt := hd'.lt
      rw [List.length_take] at hlt
      omega

end

/-! ## The live matcher -/

section

variable {E M : List Motion} {s : Matcher} {m : Motion}

theorem prefix_of_undecided (h : outcome E M = none) : M <+: E := by
  rcases outcome_eq_none_iff.mp h with rfl | ⟨hp, _⟩
  · exact List.nil_prefix
  · exact hp

/-- A motion that leaves the combo decides against it. -/
theorem decided_of_leaving (h : outcome E M = none)
    (hleave : E.length ≤ M.length ∨ E[M.length]? ≠ some m) :
    Decided E (M ++ [m]) (.mismatched E (M ++ [m])) M.length := by
  have htake : (M ++ [m]).take (M.length + 1) = M ++ [m] :=
    List.take_of_length_le (by rw [List.length_append, List.length_singleton])
  have hpre := prefix_of_undecided h
  have hmis : Decided E (M ++ [m]) (.mismatched E ((M ++ [m]).take (M.length + 1))) M.length := by
    refine .mismatched ?_ ⟨?_, ?_, ?_⟩
    · rintro ⟨hne, t, ht⟩
      have hlen : E.length ≤ M.length := by
        rcases hleave with hlen | hdiff
        · exact hlen
        · refine Nat.le_of_not_lt fun hlt => hdiff ?_
          rw [← List.getElem?_append_left hlt, ht, List.getElem?_concat_length]
      have hEM : E <+: M := List.prefix_of_prefix_length_le ⟨t, ht⟩ (List.prefix_append M [m]) hlen
      have he : M = E := hpre.eq_of_length_le hlen
      rcases outcome_eq_none_iff.mp h with hn | ⟨_, hn⟩
      · exact hne (he ▸ hn)
      · exact hn he
    · rw [List.length_append]
      exact Nat.lt_succ_self _
    · rw [List.getElem?_concat_length]
      exact hleave.imp_right Ne.symm
    · intro i hi
      obtain ⟨t, rfl⟩ := hpre
      rw [List.getElem?_append_left hi, List.getElem?_append_left hi, List.length_append]
      exact ⟨by omega, rfl⟩
  rw [htake] at hmis
  exact hmis

/-- A motion that stays in the combo decides for it if it is the last one. -/
theorem outcome_of_staying (h : outcome E M = none) (hstay : E[M.length]? = some m) :
    outcome E (M ++ [m]) =
      if M.length + 1 = E.length then some (.matched E, M.length) else none := by
  obtain ⟨t, rfl⟩ := prefix_of_undecided h
  cases t with
  | nil => simp at hstay
  | cons c t =>
    have hc : c = m := by simpa using hstay
    subst hc
    have happ : M ++ c :: t = M ++ [c] ++ t := by simp
    split
    · rename_i hlen
      have ht : t = [] := by
        refine List.length_eq_zero_iff.mp ?_
        simp only [List.length_append, List.length_cons] at hlen
        omega
      subst ht
      have hplace : (M ++ [c]).length - 1 = M.length := by simp
      have hdec := Decided.matched (E := M ++ [c]) (M := M ++ [c]) (by simp) List.prefix_rfl
      rw [hplace] at hdec
      exact outcome_eq_some_iff.mpr hdec
    · rename_i hlen
      refine outcome_eq_none_iff.mpr (.inr ⟨⟨t, happ.symm⟩, fun he => hlen ?_⟩)
      rw [← he, List.length_append, List.length_singleton]

theorem judge_enter (hE : s.expected = E) (hM : s.entered = M) :
    (s.enter m).judge m =
      if E.length ≤ M.length ∨ E[M.length]? ≠ some m then some (.mismatched E (M ++ [m]))
      else if M.length + 1 = E.length then some (.matched E) else none := by
  have hdiv : (s.enter m).diverged m = true ↔ E.length ≤ M.length ∨ E[M.length]? ≠ some m := by
    simp only [Matcher.diverged, Matcher.place?, Matcher.expected_enter, Matcher.entered_enter, hE,
      hM, List.length_append, List.length_singleton, Nat.lt_add_one_iff, Nat.add_sub_cancel]
    by_cases hlen : E.length ≤ M.length
    · simp [hlen]
    · simp [hlen]
  simp only [Matcher.judge, hdiv, Matcher.expected_enter, Matcher.entered_enter, hE, hM,
    List.length_append, List.length_singleton]

/-- The verdict on the motion entered last is the one on all motions, if those before it have
none; it is this motion that decides. -/
theorem outcome_snoc (hE : s.expected = E) (hM : s.entered = M) (h : outcome E M = none) :
    outcome E (M ++ [m]) = ((s.enter m).judge m).map fun v => (v, M.length) := by
  rw [judge_enter hE hM]
  split
  · rename_i hleave
    exact outcome_eq_some_iff.mpr (decided_of_leaving h hleave)
  · rename_i hstay
    rw [outcome_of_staying h (by simpa using (not_or.mp hstay).2)]
    split <;> rfl

/-- What a matcher for `E` has caused and where it stands after the motions `M`. -/
inductive Stands (E M : List Motion) : List Notice → Matcher → Prop where
  | comparing {s : Matcher} : outcome E M = none → s.expected = E → s.entered = M →
      s.stage = .awaitingMotion → s.verdict = none → Stands E M (M.map .accepted) s
  | draining {s : Matcher} {v : Verdict} {n : Nat} : outcome E M = some (v, n) →
      s.entered = M.take (n + 1) → s.stage = .drainingPressed → s.verdict = some v →
      Stands E M ((M.take (n + 1)).map .accepted ++ [.verdict v]) s
  | ready {s : Matcher} {v : Verdict} {n : Nat} : outcome E M = some (v, n) →
      s.entered = M.take (n + 1) → s.stage = .readyForNext → s.verdict = some v →
      Stands E M ((M.take (n + 1)).map .accepted ++ [.verdict v, .readyForNext]) s

variable {ns : List Notice}

theorem take_of_outcome {v : Verdict} {n : Nat} (h : outcome E M = some (v, n)) (m : Motion) :
    outcome E (M ++ [m]) = some (v, n) ∧ (M ++ [m]).take (n + 1) = M.take (n + 1) := by
  have hd := outcome_eq_some_iff.mp h
  exact ⟨outcome_eq_some_iff.mpr (hd.append [m]), List.take_append_of_le_length hd.lt⟩

/-- One feed. While the matcher compares, its verdict is the one on all motions; afterwards only
the count and the stage change. -/
theorem stands_feed (h : Stands E M ns s) (m : Motion) :
    Stands E (M ++ [m]) (ns ++ (s.feed m).1) (s.feed m).2 := by
  cases h with
  | comparing ho hE hM hs hv =>
    have hsnoc := outcome_snoc (m := m) hE hM ho
    have hentered : (s.enter m).entered = M ++ [m] := by rw [Matcher.entered_enter, hM]
    cases hj : (s.enter m).judge m with
    | none =>
      rw [hj] at hsnoc
      rw [Matcher.feed_undecided hs hj, ← List.map_singleton, ← List.map_append]
      refine .comparing hsnoc ?_ hentered ?_ ?_
      · rw [Matcher.expected_enter, hE]
      · rw [Matcher.stage_enter, hs]
      · rw [Matcher.verdict_enter, hv]
    | some v =>
      rw [hj] at hsnoc
      have htake : (M ++ [m]).take (M.length + 1) = M ++ [m] :=
        List.take_of_length_le (by rw [List.length_append, List.length_singleton])
      have haccepted : ∀ l : List Notice, M.map Notice.accepted ++ .accepted m :: l =
          ((M ++ [m]).take (M.length + 1)).map .accepted ++ l := by
        intro l
        rw [htake, List.map_append, List.append_assoc]
        rfl
      rw [Matcher.feed_decided hs hj, haccepted]
      rcases Matcher.drain_cases ((s.enter m).conclude v) with ⟨_, hd⟩ | ⟨_, hd⟩
      · rw [hd]
        exact .ready hsnoc (hentered.trans htake.symm) rfl rfl
      · rw [hd]
        exact .draining hsnoc (hentered.trans htake.symm) rfl rfl
  | draining ho he hs hv =>
    obtain ⟨ho', htake⟩ := take_of_outcome ho m
    rw [Matcher.feed_draining hs, ← htake]
    rcases Matcher.drain_cases (s.track m) with ⟨_, hd⟩ | ⟨_, hd⟩
    · rw [hd, List.append_assoc]
      refine .ready ho' ?_ rfl ?_
      · rw [htake, ← he]
        exact Matcher.entered_track s m
      · rw [← hv]
        exact Matcher.verdict_track s m
    · rw [hd, List.append_nil]
      refine .draining ho' ?_ rfl ?_
      · rw [htake, ← he]
        exact Matcher.entered_track s m
      · rw [← hv]
        exact Matcher.verdict_track s m
  | ready ho he hs hv =>
    obtain ⟨ho', htake⟩ := take_of_outcome ho m
    rw [Matcher.feed_ready hs, List.append_nil, ← htake]
    exact .ready ho' (he.trans htake.symm) hs hv

/-- What a fresh matcher for the combo `E` has reported after the motions `M`. -/
def noticesOf (E M : List Motion) : List Notice := ((Matcher.new E).feedAll M).1

/-- A fresh matcher for the combo `E` after the motions `M`. -/
def matcherAfter (E M : List Motion) : Matcher := ((Matcher.new E).feedAll M).2

theorem stands_feedAll (E M : List Motion) : Stands E M (noticesOf E M) (matcherAfter E M) := by
  induction M using List.reverseRecOn with
  | nil => exact .comparing (outcome_eq_none_iff.mpr (.inl rfl)) rfl rfl rfl rfl
  | append_singleton M m ih =>
    rw [noticesOf, matcherAfter, Matcher.feedAll_snoc]
    exact stands_feed ih m

namespace Stands

variable {v : Verdict} {n : Nat}

theorem verdict_eq (h : Stands E M ns s) : s.verdict = (outcome E M).map Prod.fst := by
  cases h with
  | comparing ho _ _ _ hv => rw [ho, hv]; rfl
  | draining ho _ _ hv => rw [ho, hv]; rfl
  | ready ho _ _ hv => rw [ho, hv]; rfl

theorem of_undecided (h : Stands E M ns s) (ho : outcome E M = none) :
    s.entered = M ∧ ns = M.map .accepted := by
  cases h with
  | comparing _ _ hM _ _ => exact ⟨hM, rfl⟩
  | draining ho' _ _ _ => rw [ho] at ho'; cases ho'
  | ready ho' _ _ _ => rw [ho] at ho'; cases ho'

theorem of_decided (h : Stands E M ns s) (ho : outcome E M = some (v, n)) :
    s.entered = M.take (n + 1) ∧
    (ns = (M.take (n + 1)).map .accepted ++ [.verdict v] ∨
      ns = (M.take (n + 1)).map .accepted ++ [.verdict v, .readyForNext]) := by
  cases h with
  | comparing ho' _ _ _ _ => rw [ho] at ho'; cases ho'
  | draining ho' he _ _ =>
    rw [ho] at ho'
    cases ho'
    exact ⟨he, .inl rfl⟩
  | ready ho' he _ _ =>
    rw [ho] at ho'
    cases ho'
    exact ⟨he, .inr rfl⟩

/-- The motions entered have the verdict of the matcher, and the last of them decides it. -/
theorem outcome_entered (h : Stands E M ns s) :
    outcome E s.entered = s.verdict.map fun v => (v, s.entered.length - 1) := by
  have hdecided : ∀ {v n}, outcome E M = some (v, n) →
      outcome E (M.take (n + 1)) = some (v, (M.take (n + 1)).length - 1) := by
    intro v n ho
    have hlt := (outcome_eq_some_iff.mp ho).lt
    have hlen : (M.take (n + 1)).length - 1 = n := by
      rw [List.length_take]
      omega
    rw [outcome_take ho, if_pos (Nat.lt_succ_self n), hlen]
  cases h with
  | comparing ho _ he _ hv => rw [he, hv, ho]; rfl
  | draining ho he _ hv => rw [he, hv, hdecided ho]; rfl
  | ready ho he _ hv => rw [he, hv, hdecided ho]; rfl

theorem verdict_of_ready (h : Stands E M ns s) (hs : s.stage = .readyForNext) :
    ∃ v, s.verdict = some v := by
  cases h with
  | comparing _ _ _ hst _ => rw [hst] at hs; cases hs
  | draining _ _ hst _ => rw [hst] at hs; cases hs
  | ready _ _ _ hv => exact ⟨_, hv⟩

theorem stage_ne (h : Stands E M ns s) : s.stage ≠ .matched ∧ s.stage ≠ .mismatched := by
  cases h with
  | comparing _ _ _ hs _ => simp [hs]
  | draining _ _ hs _ => simp [hs]
  | ready _ _ hs _ => simp [hs]

/-- The combo is read only at places that it has. -/
theorem place_lt (h : Stands E M ns s) (hs : s.stage = .awaitingMotion) {i : Nat}
    (hi : (s.enter m).place? = some i) : i < E.length := by
  cases h with
  | comparing _ hE _ _ _ =>
    unfold Matcher.place? at hi
    split at hi
    · cases hi
    · rename_i hlen
      cases hi
      rw [Matcher.expected_enter, hE, Matcher.entered_enter, List.length_append,
        List.length_singleton] at hlen
      rw [Matcher.entered_enter, List.length_append, List.length_singleton]
      omega
  | draining _ _ hs' _ => rw [hs] at hs'; cases hs'
  | ready _ _ hs' _ => rw [hs] at hs'; cases hs'

end Stands

/-! ## Before and after the deciding motion -/

variable {v : Verdict} {n : Nat}

theorem verdict_matcherAfter (E M : List Motion) :
    (matcherAfter E M).verdict = (outcome E M).map Prod.fst :=
  (stands_feedAll E M).verdict_eq

theorem verdict_take (h : Decided E M v n) (k : Nat) :
    (matcherAfter E (M.take k)).verdict = if n < k then some v else none := by
  rw [verdict_matcherAfter, outcome_take (outcome_eq_some_iff.mpr h)]
  split <;> rfl

theorem verdict_mem_take (h : Decided E M v n) (k : Nat) :
    .verdict v ∈ noticesOf E (M.take k) ↔ n < k := by
  have hk := outcome_take (outcome_eq_some_iff.mpr h) k
  have hstands := stands_feedAll E (M.take k)
  split at hk
  · rename_i hlt
    rcases (hstands.of_decided hk).2 with hns | hns
    · simp [hns, hlt]
    · simp [hns, hlt]
  · rename_i hlt
    rw [(hstands.of_undecided hk).2]
    constructor
    · intro hmem
      obtain ⟨m, _, hm⟩ := List.mem_map.mp hmem
      cases hm
    · intro hlt'
      exact absurd hlt' hlt

/-- Motions are entered up to the deciding one. -/
theorem entered_take (h : Decided E M v n) (k : Nat) :
    (matcherAfter E (M.take k)).entered = M.take (min k (n + 1)) := by
  have hk := outcome_take (outcome_eq_some_iff.mpr h) k
  have hstands := stands_feedAll E (M.take k)
  split at hk
  · rename_i hlt
    rw [(hstands.of_decided hk).1, List.take_take, Nat.min_comm]
  · rename_i hlt
    rw [(hstands.of_undecided hk).1, Nat.min_eq_left (by omega)]

end

/-- Feeding motions one by one gives the verdict on all of them at once, in the feed of the motion
that decides it; up to this motion all are entered and accepted, afterwards none is. -/
theorem feedAll_new_classifies (E M : List Motion) :
    ((matcherAfter E M).verdict = none ↔ M = [] ∨ M <+: E ∧ M ≠ E) ∧
    (∀ v, (matcherAfter E M).verdict = some v ↔ ∃ n, Decided E M v n) ∧
    ((matcherAfter E M).verdict = none →
      (matcherAfter E M).entered = M ∧ noticesOf E M = M.map .accepted) ∧
    (∀ v n, Decided E M v n →
      (∀ k, (matcherAfter E (M.take k)).verdict = if n < k then some v else none) ∧
      (∀ k, .verdict v ∈ noticesOf E (M.take k) ↔ n < k) ∧
      (∀ k, (matcherAfter E (M.take k)).entered = M.take (min k (n + 1))) ∧
      (noticesOf E M = (M.take (n + 1)).map .accepted ++ [.verdict v] ∨
        noticesOf E M = (M.take (n + 1)).map .accepted ++ [.verdict v, .readyForNext])) ∧
    ((matcherAfter E M).stage ≠ .matched ∧ (matcherAfter E M).stage ≠ .mismatched) ∧
    (∀ m i, (matcherAfter E M).stage = .awaitingMotion →
      ((matcherAfter E M).enter m).place? = some i → i < E.length) := by
  have hstands := stands_feedAll E M
  refine ⟨?_, ?_, ?_, ?_, hstands.stage_ne, fun m i hs hi => hstands.place_lt hs hi⟩
  · rw [verdict_matcherAfter, Option.map_eq_none_iff]
    exact outcome_eq_none_iff
  · intro v
    rw [verdict_matcherAfter, Option.map_eq_some_iff]
    constructor
    · rintro ⟨⟨v', n⟩, ho, rfl⟩
      exact ⟨n, outcome_eq_some_iff.mp ho⟩
    · rintro ⟨n, hd⟩
      exact ⟨(v, n), outcome_eq_some_iff.mpr hd, rfl⟩
  · intro hnone
    rw [verdict_matcherAfter, Option.map_eq_none_iff] at hnone
    exact hstands.of_undecided hnone
  · intro v n hd
    refine ⟨verdict_take hd, verdict_mem_take hd, entered_take hd, ?_⟩
    exact (hstands.of_decided (outcome_eq_some_iff.mpr hd)).2

/-- A second press that differs decides; what comes after it is neither entered nor accepted. -/
theorem second_press_decides :
    Decided [.press .ctrl, .press .letterF]
      [.press .ctrl, .press .letterG, .release .letterG, .release .ctrl]
      (.mismatched [.press .ctrl, .press .letterF] [.press .ctrl, .press .letterG]) 1 ∧
    (matcherAfter [.press .ctrl, .press .letterF]
      [.press .ctrl, .press .letterG, .release .letterG, .release .ctrl]).entered =
      [.press .ctrl, .press .letterG] ∧
    (matcherAfter [.press .ctrl, .press .letterF] [.press .ctrl]).verdict = none := by
  have hd : Decided [.press .ctrl, .press .letterF]
      [.press .ctrl, .press .letterG, .release .letterG, .release .ctrl]
      (.mismatched [.press .ctrl, .press .letterF] [.press .ctrl, .press .letterG]) 1 :=
    outcome_eq_some_iff.mp (by decide)
  obtain ⟨hverdict, _, hentered, _⟩ := (feedAll_new_classifies _ _).2.2.2.1 _ _ hd
  exact ⟨hd, hentered 4, hverdict 1⟩

end ChordDrill.Attempt
