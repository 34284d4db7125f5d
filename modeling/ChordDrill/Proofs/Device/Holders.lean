import Mathlib.Data.List.Nodup
import ChordDrill.Device.Held
import ChordDrill.Keyboard
import ChordDrill.Proofs.Motion.Alternation

/-!
# ChordDrill.Proofs.Device.Holders

The scancodes believed down and the counts per key stay in step, whatever edges come.

* `Effect`       — what one edge does to the scancodes, the counts and the motion it causes.
* `Counted`      — each key counts its scancodes that are down, and has no count without any.
* `BelievedDown` — the last edge of a scancode that is no repeat is a press.

`Counted.step` is the step. A key has a scancode down exactly if the motions caused so far
leave it down (`possible_motionsFor`), so these motions are some that a keyboard can make.
-/

namespace ChordDrill.Device

open Motion

namespace Held

/-! ## What one edge does -/

/-- An edge does nothing, or moves its scancode down or up; the count of its key follows. -/
inductive Effect (h : Held) (e : Edge) : Option Motion → Held → Prop where
  | nothing : e.value = 2 ∨ (e.value = 0 ↔ e.code ∉ h.down) → Effect h e none h
  | down : e.value ≠ 2 → e.value ≠ 0 → e.code ∉ h.down → Key.ofScancode? e.code = none →
      Effect h e none { h with down := e.code :: h.down }
  | another {k : Key} : e.value ≠ 2 → e.value ≠ 0 → e.code ∉ h.down →
      Key.ofScancode? e.code = some k →
      Effect h e (if h.counts.count k = 0 then some (.press k) else none)
        { down := e.code :: h.down, counts := h.counts.insert k (h.counts.count k + 1) }
  | up : e.value = 0 → e.code ∈ h.down → Key.ofScancode? e.code = none →
      Effect h e none { h with down := h.down.filter (· ≠ e.code) }
  | last {k : Key} : e.value = 0 → e.code ∈ h.down → Key.ofScancode? e.code = some k →
      h.counts.count k - 1 = 0 →
      Effect h e (some (.release k))
        { down := h.down.filter (· ≠ e.code), counts := h.counts.erase k }
  | fewer {k : Key} : e.value = 0 → e.code ∈ h.down → Key.ofScancode? e.code = some k →
      h.counts.count k - 1 ≠ 0 →
      Effect h e none
        { down := h.down.filter (· ≠ e.code), counts := h.counts.insert k (h.counts.count k - 1) }

theorem effect_translate (h : Held) (e : Edge) :
    Effect h e (h.translate e).1 (h.translate e).2 := by
  unfold translate
  split
  · rename_i h2
    exact .nothing (.inl h2)
  rename_i h2
  split
  · rename_i h0
    split
    · rename_i hc
      dsimp only
      split
      · rename_i hk
        exact .up h0 hc hk
      · rename_i k hk
        split
        · rename_i hn
          exact .last h0 hc hk hn
        · rename_i hn
          exact .fewer h0 hc hk hn
    · rename_i hc
      exact .nothing (.inr ⟨fun _ => hc, fun _ => h0⟩)
  · rename_i h0
    split
    · rename_i hc
      exact .nothing (.inr ⟨fun h0' => absurd h0' h0, fun hc' => absurd hc hc'⟩)
    · rename_i hc
      dsimp only
      split
      · rename_i hk
        exact .down h2 h0 hc hk
      · rename_i k hk
        simpa only [Nat.add_eq_right] using Effect.another h2 h0 hc hk

/-! ## Scancodes of a key -/

section

variable {h : Held} {c : Scancode} {k : Key} {t : Tally}

theorem mem_scancodesOf : c ∈ h.scancodesOf k ↔ c ∈ h.down ∧ Key.ofScancode? c = some k := by
  simp [scancodesOf]

theorem scancodesOf_ne_nil_iff :
    h.scancodesOf k ≠ [] ↔ ∃ c ∈ h.down, Key.ofScancode? c = some k := by
  constructor
  · intro hne
    obtain ⟨c, hc⟩ := List.exists_mem_of_ne_nil _ hne
    exact ⟨c, mem_scancodesOf.mp hc⟩
  · rintro ⟨c, hc⟩
    exact List.ne_nil_of_mem (mem_scancodesOf.mpr hc)

theorem scancodesOf_cons_self (hc : Key.ofScancode? c = some k) :
    scancodesOf { down := c :: h.down, counts := t } k = c :: h.scancodesOf k := by
  simp [scancodesOf, hc]

theorem scancodesOf_cons_of_ne (hc : Key.ofScancode? c ≠ some k) :
    scancodesOf { down := c :: h.down, counts := t } k = h.scancodesOf k := by
  simp [scancodesOf, hc]

theorem scancodesOf_filter_self (hn : h.down.Nodup) :
    scancodesOf { down := h.down.filter (· ≠ c), counts := t } k = (h.scancodesOf k).erase c := by
  have hk : (h.scancodesOf k).Nodup := hn.filter _
  rw [hk.erase_eq_filter]
  simp only [scancodesOf, List.filter_filter]
  refine List.filter_congr fun d _ => ?_
  by_cases hd : d = c
  · simp [hd]
  · simp [hd]

theorem scancodesOf_filter_of_ne (hc : Key.ofScancode? c ≠ some k) :
    scancodesOf { down := h.down.filter (· ≠ c), counts := t } k = h.scancodesOf k := by
  simp only [scancodesOf, List.filter_filter]
  refine List.filter_congr fun d _ => ?_
  by_cases hd : d = c
  · simp [hd, hc]
  · simp [hd]

end

/-! ## Counts and scancodes stay in step -/

structure Counted (h : Held) : Prop where
  nodup : h.down.Nodup
  find? (k : Key) : h.counts.find? k =
    if h.scancodesOf k = [] then none else some (h.scancodesOf k).length

theorem Counted.count_eq {h : Held} (hh : Counted h) (k : Key) :
    h.counts.count k = (h.scancodesOf k).length := by
  rw [Tally.count, hh.find? k]
  split
  · rename_i hk
    rw [hk]
    rfl
  · rfl

theorem Counted.count_eq_zero {h : Held} (hh : Counted h) {k : Key} :
    h.counts.count k = 0 ↔ h.scancodesOf k = [] := by
  rw [hh.count_eq, List.length_eq_zero_iff]

theorem counted_nil : Counted {} := ⟨List.nodup_nil, fun _ => rfl⟩

section

variable {h h' : Held} {e : Edge} {m : Option Motion} {k : Key}

theorem Counted.length_up (hh : Counted h) (hc : e.code ∈ h.down)
    (hk : Key.ofScancode? e.code = some k) :
    ((h.scancodesOf k).erase e.code).length = h.counts.count k - 1 := by
  rw [hh.count_eq, List.length_erase_of_mem (mem_scancodesOf.mpr ⟨hc, hk⟩)]

theorem Counted.step (hh : Counted h) (he : Effect h e m h') : Counted h' := by
  cases he with
  | nothing _ => exact hh
  | down _ _ hc hk =>
    refine ⟨List.nodup_cons.mpr ⟨hc, hh.nodup⟩, fun j => ?_⟩
    rw [scancodesOf_cons_of_ne (by simp [hk])]
    exact hh.find? j
  | @another k _ _ hc hk =>
    refine ⟨List.nodup_cons.mpr ⟨hc, hh.nodup⟩, fun j => ?_⟩
    rw [Tally.find?_insert]
    by_cases hj : j = k
    · subst hj
      rw [scancodesOf_cons_self hk, hh.count_eq]
      simp
    · rw [scancodesOf_cons_of_ne (by simp [hk, Ne.symm hj]), if_neg hj]
      exact hh.find? j
  | up _ hc hk =>
    refine ⟨hh.nodup.filter _, fun j => ?_⟩
    rw [scancodesOf_filter_of_ne (by simp [hk])]
    exact hh.find? j
  | @last k _ hc hk hn =>
    refine ⟨hh.nodup.filter _, fun j => ?_⟩
    rw [Tally.find?_erase]
    by_cases hj : j = k
    · subst hj
      have hlen := hh.length_up hc hk
      rw [hn, List.length_eq_zero_iff] at hlen
      rw [scancodesOf_filter_self hh.nodup, hlen]
      simp
    · rw [scancodesOf_filter_of_ne (by simp [hk, Ne.symm hj]), if_neg hj]
      exact hh.find? j
  | @fewer k _ hc hk hn =>
    refine ⟨hh.nodup.filter _, fun j => ?_⟩
    rw [Tally.find?_insert]
    by_cases hj : j = k
    · subst hj
      have hlen := hh.length_up hc hk
      have hne : (h.scancodesOf j).erase e.code ≠ [] := by
        rw [← hlen] at hn
        exact fun h0 => hn (List.length_eq_zero_iff.mpr h0)
      rw [scancodesOf_filter_self hh.nodup, if_pos rfl, if_neg hne, hlen]
    · rw [scancodesOf_filter_of_ne (by simp [hk, Ne.symm hj]), if_neg hj]
      exact hh.find? j

/-! ## The motion that an edge causes -/

/-- A press is caused exactly by the first scancode of its key that goes down, a release by the
last one that comes up. -/
theorem Effect.eq_some_iff (he : Effect h e m h') (hh : Counted h) (k : Key) :
    (m = some (.press k) ↔ h.scancodesOf k = [] ∧ h'.scancodesOf k ≠ []) ∧
    (m = some (.release k) ↔ h.scancodesOf k ≠ [] ∧ h'.scancodesOf k = []) := by
  cases he with
  | nothing _ => simp
  | down _ _ hc hk =>
    rw [scancodesOf_cons_of_ne (by simp [hk])]
    simp
  | @another j _ _ hc hj =>
    by_cases hk : j = k
    · subst hk
      rw [scancodesOf_cons_self hj]
      simp [hh.count_eq_zero]
    · rw [scancodesOf_cons_of_ne (by simp [hj, hk])]
      simp [hk]
  | up _ hc hk =>
    rw [scancodesOf_filter_of_ne (by simp [hk])]
    simp
  | @last j _ hc hj hn =>
    by_cases hk : j = k
    · subst hk
      have hlen := hh.length_up hc hj
      rw [hn, List.length_eq_zero_iff] at hlen
      have hne : h.scancodesOf j ≠ [] := List.ne_nil_of_mem (mem_scancodesOf.mpr ⟨hc, hj⟩)
      rw [scancodesOf_filter_self hh.nodup, hlen]
      simp [hne]
    · rw [scancodesOf_filter_of_ne (by simp [hj, hk])]
      simp [hk]
  | @fewer j _ hc hj hn =>
    by_cases hk : j = k
    · subst hk
      have hlen := hh.length_up hc hj
      rw [← hlen, Ne, List.length_eq_zero_iff] at hn
      have hne : h.scancodesOf j ≠ [] := List.ne_nil_of_mem (mem_scancodesOf.mpr ⟨hc, hj⟩)
      rw [scancodesOf_filter_self hh.nodup]
      simp [hne, hn]
    · rw [scancodesOf_filter_of_ne (by simp [hj, hk])]
      simp

/-- A motion moves its key between no scancode down and some; no other key moves. -/
theorem Effect.moves (he : Effect h e m h') (hh : Counted h) {H : Finset Key}
    (hH : ∀ k, k ∈ H ↔ h.scancodesOf k ≠ []) :
    Possible H m.toList ∧ ∀ k, k ∈ downAfter H m.toList ↔ h'.scancodesOf k ≠ [] := by
  have hmove := he.eq_some_iff hh
  have hstay : ∀ {k}, m ≠ some (.press k) → m ≠ some (.release k) →
      (k ∈ H ↔ h'.scancodesOf k ≠ []) := by
    intro k hp hr
    rw [Ne, (hmove k).1, not_and, not_not] at hp
    rw [Ne, (hmove k).2, not_and] at hr
    rw [hH]
    exact ⟨hr, fun hne h0 => hne (hp h0)⟩
  cases m with
  | none => exact ⟨possible_nil H, fun k => hstay (by simp) (by simp)⟩
  | some m =>
    cases m with
    | press j =>
      obtain ⟨hbefore, hafter⟩ := (hmove j).1.mp rfl
      have hj : j ∉ H := fun hj => (hH j).mp hj hbefore
      refine ⟨possible_cons.mpr ⟨by simp [isPress, key, hj], possible_nil _⟩, fun k => ?_⟩
      change k ∈ insert j H ↔ _
      by_cases hk : k = j
      · subst hk
        simp [hafter]
      · rw [Finset.mem_insert, or_iff_right hk]
        exact hstay (by simp [Ne.symm hk]) (by simp)
    | release j =>
      obtain ⟨hbefore, hafter⟩ := (hmove j).2.mp rfl
      have hj : j ∈ H := (hH j).mpr hbefore
      refine ⟨possible_cons.mpr ⟨by simp [isPress, key, hj], possible_nil _⟩, fun k => ?_⟩
      change k ∈ H.erase j ↔ _
      by_cases hk : k = j
      · subst hk
        simp [hafter]
      · rw [Finset.mem_erase, and_iff_right hk]
        exact hstay (by simp) (by simp [Ne.symm hk])

/-- A scancode goes by its own edges, less the repeats. -/
theorem Effect.mem_down (he : Effect h e m h') (c : Scancode) :
    c ∈ h'.down ↔ if e.code = c ∧ e.value ≠ 2 then e.value ≠ 0 else c ∈ h.down := by
  cases he with
  | nothing hn =>
    split
    · rename_i hc
      obtain ⟨rfl, h2⟩ := hc
      have h0 := hn.resolve_left h2
      exact ⟨fun hc h0' => h0.mp h0' hc, fun h0' => not_not.mp fun hc => h0' (h0.mpr hc)⟩
    · rfl
  | down h2 h0 _ _ =>
    by_cases hc : e.code = c
    · simp [hc, h2, h0]
    · simp [hc, Ne.symm hc]
  | another h2 h0 _ _ =>
    by_cases hc : e.code = c
    · simp [hc, h2, h0]
    · simp [hc, Ne.symm hc]
  | up h0 _ _ =>
    by_cases hc : e.code = c
    · simp [hc, h0]
    · simp [hc, Ne.symm hc]
  | last h0 _ _ _ =>
    by_cases hc : e.code = c
    · simp [hc, h0]
    · simp [hc, Ne.symm hc]
  | fewer h0 _ _ _ =>
    by_cases hc : e.code = c
    · simp [hc, h0]
    · simp [hc, Ne.symm hc]

end

/-! ## Whole runs -/

def heldAfter (es : List Edge) : Held := (translateAll {} es).2

def motionsFor (es : List Edge) : List Motion := (translateAll {} es).1

theorem heldAfter_snoc (es : List Edge) (e : Edge) :
    heldAfter (es ++ [e]) = ((heldAfter es).translate e).2 := by
  rw [heldAfter, translateAll_snoc]
  rfl

theorem motionsFor_snoc (es : List Edge) (e : Edge) :
    motionsFor (es ++ [e]) = motionsFor es ++ ((heldAfter es).translate e).1.toList := by
  rw [motionsFor, translateAll_snoc]
  rfl

theorem counted_heldAfter (es : List Edge) : Counted (heldAfter es) := by
  induction es using List.reverseRecOn with
  | nil => exact counted_nil
  | append_singleton es e ih =>
    rw [heldAfter_snoc]
    exact ih.step (effect_translate _ e)

/-- The last edge of a scancode that is no repeat. -/
def lastChange? (es : List Edge) (c : Scancode) : Option Edge :=
  (es.filter fun e => e.code = c ∧ e.value ≠ 2).getLast?

def BelievedDown (es : List Edge) (c : Scancode) : Prop :=
  ∃ e, lastChange? es c = some e ∧ e.value ≠ 0

theorem lastChange?_snoc (es : List Edge) (e : Edge) (c : Scancode) :
    lastChange? (es ++ [e]) c =
      if e.code = c ∧ e.value ≠ 2 then some e else lastChange? es c := by
  rw [lastChange?, List.filter_append]
  split
  · rename_i hc
    simp [hc]
  · rename_i hc
    simp [hc, lastChange?]

theorem mem_down_heldAfter (es : List Edge) (c : Scancode) :
    c ∈ (heldAfter es).down ↔ BelievedDown es c := by
  induction es using List.reverseRecOn with
  | nil => simp [heldAfter, translateAll, BelievedDown, lastChange?]
  | append_singleton es e ih =>
    rw [heldAfter_snoc, (effect_translate _ e).mem_down, BelievedDown, lastChange?_snoc, ih]
    split
    · simp
    · rfl

/-- The motions are some that a keyboard can make, and they leave those keys down that have a
scancode down. -/
theorem possible_motionsFor (es : List Edge) : Possible ∅ (motionsFor es) ∧
    ∀ k, k ∈ downAfter ∅ (motionsFor es) ↔ (heldAfter es).scancodesOf k ≠ [] := by
  induction es using List.reverseRecOn with
  | nil => simp [motionsFor, heldAfter, translateAll, downAfter, scancodesOf, possible_nil]
  | append_singleton es e ih =>
    obtain ⟨hpossible, hdown⟩ := ih
    obtain ⟨hmotion, hafter⟩ := (effect_translate _ e).moves (counted_heldAfter es) hdown
    rw [motionsFor_snoc, heldAfter_snoc, downAfter_append]
    exact ⟨possible_append.mpr ⟨hpossible, hmotion⟩, hafter⟩

/-- The keys with a scancode believed down, in vocabulary order. -/
def keysDown (h : Held) : List Key := Key.all.filter fun k => h.scancodesOf k ≠ []

theorem mem_keysDown {h : Held} {k : Key} : k ∈ h.keysDown ↔ h.scancodesOf k ≠ [] := by
  simp [keysDown, Key.mem_all]

theorem nodup_keysDown (h : Held) : h.keysDown.Nodup := Key.nodup_all.filter _

theorem downAfter_motionsFor (es : List Edge) :
    downAfter ∅ (motionsFor es) = (heldAfter es).keysDown.toFinset := by
  ext k
  rw [List.mem_toFinset, mem_keysDown, (possible_motionsFor es).2]

theorem card_downAfter_motionsFor (es : List Edge) :
    (downAfter ∅ (motionsFor es)).card = (heldAfter es).keysDown.length := by
  rw [downAfter_motionsFor, List.toFinset_card_of_nodup (nodup_keysDown _)]

/-- Whatever edges come, a scancode is down if its last edge that is no repeat says so, and each
key counts its scancodes that are down; a motion comes exactly when a key goes from none to some
or back. So the motions of each key take turns, and the keyboard that sees them holds the keys
with a scancode down. -/
theorem counts_follow_scancodes (es : List Edge) :
    (∀ c, c ∈ (heldAfter es).down ↔ BelievedDown es c) ∧ (heldAfter es).down.Nodup ∧
    (∀ k, ((heldAfter es).counts.find? k ≠ none ↔
        ∃ c ∈ (heldAfter es).down, Key.ofScancode? c = some k) ∧
      ∀ n, (heldAfter es).counts.find? k = some n →
        n = ((heldAfter es).scancodesOf k).length ∧ n ≠ 0) ∧
    (∀ c ∈ (heldAfter es).down, ∀ k, Key.ofScancode? c = some k →
      1 ≤ (heldAfter es).counts.count k) ∧
    (∀ e k,
      (((heldAfter es).translate e).1 = some (.press k) ↔
        (heldAfter es).scancodesOf k = [] ∧ (heldAfter (es ++ [e])).scancodesOf k ≠ []) ∧
      (((heldAfter es).translate e).1 = some (.release k) ↔
        (heldAfter es).scancodesOf k ≠ [] ∧ (heldAfter (es ++ [e])).scancodesOf k = [])) ∧
    (∀ k, Alternates false (ofKey k (motionsFor es))) ∧
    (∀ k, k ∈ (({} : Keyboard).observeAll (motionsFor es)).pressed ↔
      ∃ c ∈ (heldAfter es).down, Key.ofScancode? c = some k) := by
  have hcounted := counted_heldAfter es
  obtain ⟨hpossible, hdown⟩ := possible_motionsFor es
  refine ⟨mem_down_heldAfter es, hcounted.nodup, fun k => ⟨?_, fun n hn => ?_⟩, ?_, ?_, ?_, ?_⟩
  · rw [← scancodesOf_ne_nil_iff, hcounted.find? k]
    simp
  · rw [hcounted.find? k] at hn
    split at hn
    · cases hn
    · rename_i hne
      cases hn
      exact ⟨rfl, fun h0 => hne (List.length_eq_zero_iff.mp h0)⟩
  · intro c hc k hk
    rw [hcounted.count_eq]
    exact List.length_pos_of_mem (mem_scancodesOf.mpr ⟨hc, hk⟩)
  · intro e k
    rw [heldAfter_snoc]
    exact (effect_translate _ e).eq_some_iff hcounted k
  · intro k
    simpa using hpossible k
  · intro k
    rw [← scancodesOf_ne_nil_iff, ← hdown, Keyboard.mem_pressed_observeAll (H := ∅) (by simp)]

/-- Both shifts go down and the left one comes up, among a repeat and a scancode without a key:
the shift is still held, by one scancode. -/
theorem shift_held_by_right_one :
    54 ∈ (heldAfter [⟨42, 1⟩, ⟨54, 1⟩, ⟨42, 2⟩, ⟨42, 0⟩, ⟨240, 1⟩]).down ∧
    Key.ofScancode? 54 = some .shift ∧
    1 ≤ (heldAfter [⟨42, 1⟩, ⟨54, 1⟩, ⟨42, 2⟩, ⟨42, 0⟩, ⟨240, 1⟩]).counts.count .shift ∧
    (heldAfter [⟨42, 1⟩, ⟨54, 1⟩, ⟨42, 2⟩, ⟨42, 0⟩, ⟨240, 1⟩]).counts.find? .shift = some 1 ∧
    1 = ((heldAfter [⟨42, 1⟩, ⟨54, 1⟩, ⟨42, 2⟩, ⟨42, 0⟩, ⟨240, 1⟩]).scancodesOf .shift).length := by
  have hlaw := counts_follow_scancodes [⟨42, 1⟩, ⟨54, 1⟩, ⟨42, 2⟩, ⟨42, 0⟩, ⟨240, 1⟩]
  have hdown : 54 ∈ (heldAfter [⟨42, 1⟩, ⟨54, 1⟩, ⟨42, 2⟩, ⟨42, 0⟩, ⟨240, 1⟩]).down := by decide
  have hkey : Key.ofScancode? 54 = some .shift := by decide
  have hcount : (heldAfter [⟨42, 1⟩, ⟨54, 1⟩, ⟨42, 2⟩, ⟨42, 0⟩, ⟨240, 1⟩]).counts.find? .shift =
      some 1 := by decide
  exact ⟨hdown, hkey, hlaw.2.2.2.1 54 hdown .shift hkey, hcount,
    ((hlaw.2.2.1 .shift).2 1 hcount).1⟩

end Held

end ChordDrill.Device
