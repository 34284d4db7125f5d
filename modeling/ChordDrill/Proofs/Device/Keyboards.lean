import Mathlib.Data.List.DropRight
import ChordDrill.Proofs.Device.Holders

/-!
# ChordDrill.Proofs.Device.Keyboards

Several devices at once.

* `deliveries` — the edges of some polls in the order of their translation, each with its device.
* `streamOf`   — the edges that one device delivers in these polls.
* `WellFormed` — each scancode goes down, may repeat, and comes up, in turns.
* `since`      — what was delivered after a device moved a scancode for the last time.

The listener does not remember which device has a scancode down. So a release on any device lets go
of it, and a device that still has it down counts no more (`believedDown_map_snd_iff`). While no two
devices have the same scancode down, nothing is lost (`not_let_go_of_alone`); different scancodes of
one key never get in each other's way.
-/

namespace ChordDrill.Device.Held

open Motion

/-! ## Streams -/

/-- The edges of several polls in the order of their translation, each with the number of its
device. -/
def deliveries (polls : List (List (List UInt8))) : List (Nat × Edge) :=
  polls.flatMap fun devices => devices.zipIdx.flatMap fun p => (edges p.1).map (Prod.mk p.2)

/-- The edges that the device number `d` delivers. -/
def streamOf (polls : List (List (List UInt8))) (d : Nat) : List Edge :=
  polls.flatMap fun devices => edges (devices.getD d [])

/-- The edges of one device among those of several. -/
def streamIn (ds : List (Nat × Edge)) (d : Nat) : List Edge :=
  (ds.filter fun x => x.1 = d).map Prod.snd

/-- What was delivered after the device `d` moved the scancode `c` for the last time. -/
def since (ds : List (Nat × Edge)) (d : Nat) (c : Scancode) : List (Nat × Edge) :=
  ds.rtakeWhile fun x => ¬ (x.1 = d ∧ x.2.code = c ∧ x.2.value ≠ 2)

/-- The edges of one scancode: a press, any repeats and a release, again and again. The scancode may
be down at first. -/
def Proper : Bool → List Edge → Prop
  | _, [] => True
  | false, e :: es => e.value = 1 ∧ Proper true es
  | true, e :: es => e.value = 2 ∧ Proper true es ∨ e.value = 0 ∧ Proper false es

def WellFormed (es : List Edge) : Prop := ∀ c, Proper false (es.filter fun e => e.code = c)

instance decidableProper : (down : Bool) → (es : List Edge) → Decidable (Proper down es)
  | _, [] => inferInstanceAs (Decidable True)
  | false, e :: es =>
    have := decidableProper true es
    inferInstanceAs (Decidable (e.value = 1 ∧ Proper true es))
  | true, e :: es =>
    have := decidableProper true es
    have := decidableProper false es
    inferInstanceAs (Decidable (e.value = 2 ∧ Proper true es ∨ e.value = 0 ∧ Proper false es))

/-- Only the scancodes that occur matter. -/
theorem wellFormed_iff (es : List Edge) : WellFormed es ↔
    ∀ c ∈ es.map Edge.code, Proper false (es.filter fun e => e.code = c) := by
  refine ⟨fun h c _ => h c, fun h c => ?_⟩
  by_cases hc : c ∈ es.map Edge.code
  · exact h c hc
  · have hnil : es.filter (fun e => e.code = c) = [] := by
      refine List.filter_eq_nil_iff.mpr fun e he hec => hc ?_
      rw [← of_decide_eq_true hec]
      exact List.mem_map_of_mem he
    rw [hnil]
    trivial

instance (es : List Edge) : Decidable (WellFormed es) :=
  -- Without a name the instance that tries all scancodes is found first.
  have : Decidable (∀ c ∈ es.map Edge.code, Proper false (es.filter fun e => e.code = c)) :=
    List.decidableBAll _ _
  decidable_of_iff' _ (wellFormed_iff es)

variable {polls : List (List (List UInt8))} {ds : List (Nat × Edge)} {x : Nat × Edge} {d : Nat}
  {c : Scancode} {e : Edge} {es es' : List Edge}

theorem map_snd_deliveries (polls : List (List (List UInt8))) :
    (deliveries polls).map Prod.snd = polls.flatMap fun devices => devices.flatMap edges := by
  have hpoll : ∀ devices : List (List UInt8),
      (devices.zipIdx.flatMap fun p => (edges p.1).map (Prod.mk p.2)).map Prod.snd =
        devices.flatMap edges := by
    intro devices
    have hfst : devices.flatMap edges = (devices.zipIdx.map Prod.fst).flatMap edges := by
      rw [List.zipIdx_map_fst]
    rw [hfst, List.flatMap_map, List.map_flatMap]
    simp [Function.comp_def]
  rw [deliveries, List.map_flatMap]
  simp only [hpoll]

theorem edges_nil : edges [] = [] := by
  rw [edges, reads]
  rfl

theorem streamIn_append (ds ds' : List (Nat × Edge)) (d : Nat) :
    streamIn (ds ++ ds') d = streamIn ds d ++ streamIn ds' d := by
  rw [streamIn, List.filter_append, List.map_append]
  rfl

theorem streamIn_map_mk (es : List Edge) (i d : Nat) :
    streamIn (es.map (Prod.mk i)) d = if i = d then es else [] := by
  by_cases h : i = d
  · simp [streamIn, List.filter_map, Function.comp_def, h]
  · simp [streamIn, List.filter_map, Function.comp_def, h]

theorem streamIn_zipIdx (devices : List (List UInt8)) (n d : Nat) :
    streamIn ((devices.zipIdx n).flatMap fun p => (edges p.1).map (Prod.mk p.2)) d =
      if n ≤ d then edges (devices.getD (d - n) []) else [] := by
  induction devices generalizing n with
  | nil => simp [streamIn, edges_nil]
  | cons bytes devices ih =>
    rw [List.zipIdx_cons, List.flatMap_cons, streamIn_append, streamIn_map_mk, ih]
    rcases Nat.lt_trichotomy n d with h | rfl | h
    · have hsub : d - n = d - (n + 1) + 1 := by omega
      rw [if_neg h.ne, if_pos (Nat.succ_le_of_lt h), if_pos h.le, hsub, List.getD_cons_succ,
        List.nil_append]
    · simp
    · rw [if_neg h.ne', if_neg (by omega), if_neg (by omega), List.append_nil]

theorem streamIn_deliveries (polls : List (List (List UInt8))) (d : Nat) :
    streamIn (deliveries polls) d = streamOf polls d := by
  induction polls with
  | nil => rfl
  | cons devices polls ih =>
    have hcons : deliveries (devices :: polls) =
        (devices.zipIdx.flatMap fun p => (edges p.1).map (Prod.mk p.2)) ++ deliveries polls := rfl
    rw [hcons, streamIn_append, ih, streamIn_zipIdx]
    simp [streamOf]

/-! ## One set of scancodes for all devices -/

theorem believedDown_snoc (es : List Edge) (e : Edge) (c : Scancode) :
    BelievedDown (es ++ [e]) c ↔
      if e.code = c ∧ e.value ≠ 2 then e.value ≠ 0 else BelievedDown es c := by
  rw [BelievedDown, lastChange?_snoc]
  split
  · simp
  · rfl

theorem since_snoc (ds : List (Nat × Edge)) (x : Nat × Edge) (d : Nat) (c : Scancode) :
    since (ds ++ [x]) d c =
      if x.1 = d ∧ x.2.code = c ∧ x.2.value ≠ 2 then [] else since ds d c ++ [x] := by
  rw [since, List.rtakeWhile_concat]
  by_cases h : x.1 = d ∧ x.2.code = c ∧ x.2.value ≠ 2
  · simp [h]
  · simp [h, since]

theorem not_move_of_mem_since (hx : x ∈ since ds d c) :
    ¬ (x.1 = d ∧ x.2.code = c ∧ x.2.value ≠ 2) := by
  have hp := List.mem_rtakeWhile_imp hx
  exact of_decide_eq_true hp

theorem exists_append_since (ds : List (Nat × Edge)) (d : Nat) (c : Scancode) :
    ∃ early, ds = early ++ since ds d c :=
  ⟨_, List.rdropWhile_append_rtakeWhile.symm⟩

theorem believedDown_streamIn_snoc (ds : List (Nat × Edge)) (x : Nat × Edge) (d : Nat)
    (c : Scancode) :
    BelievedDown (streamIn (ds ++ [x]) d) c ↔
      if x.1 = d ∧ x.2.code = c ∧ x.2.value ≠ 2 then x.2.value ≠ 0
      else BelievedDown (streamIn ds d) c := by
  rw [streamIn_append]
  by_cases hd : x.1 = d
  · have hlast : streamIn [x] d = [x.2] := by simp [streamIn, hd]
    rw [hlast, believedDown_snoc]
    simp only [hd, true_and]
  · have hlast : streamIn [x] d = [] := by simp [streamIn, hd]
    rw [hlast, List.append_nil, if_neg fun h => hd h.1]

/-- All devices together have a scancode down if some has, and none has let go of it since. -/
theorem believedDown_map_snd_iff (ds : List (Nat × Edge)) (c : Scancode) :
    BelievedDown (ds.map Prod.snd) c ↔ ∃ d, BelievedDown (streamIn ds d) c ∧
      ∀ x ∈ since ds d c, ¬ (x.2.code = c ∧ x.2.value = 0) := by
  induction ds using List.reverseRecOn with
  | nil => simp [BelievedDown, lastChange?, streamIn]
  | append_singleton ds x ih =>
    obtain ⟨d', e⟩ := x
    rw [List.map_append, List.map_singleton, believedDown_snoc, ih]
    simp only [believedDown_streamIn_snoc, since_snoc]
    by_cases hmove : e.code = c ∧ e.value ≠ 2
    · rw [if_pos hmove]
      constructor
      · intro h0
        exact ⟨d', by simp [hmove, h0], by simp [hmove]⟩
      · rintro ⟨d, hdown, hsince⟩
        by_cases hd : d' = d
        · rwa [if_pos ⟨hd, hmove⟩] at hdown
        · rw [if_neg fun h => hd h.1] at hsince
          exact fun h0 => hsince (d', e) (by simp) ⟨hmove.1, h0⟩
    · have hno : ¬ (e.code = c ∧ e.value = 0) := fun h => hmove ⟨h.1, by rw [h.2]; decide⟩
      simp only [hmove, and_false, if_false, List.forall_mem_append, List.forall_mem_singleton, hno,
        not_false_eq_true, and_true]

/-! ## One device at a time for each scancode -/

/-- The last edge that is no repeat. -/
def lastMove? (es : List Edge) : Option Edge := (es.filter fun e => e.value ≠ 2).getLast?

theorem lastMove?_cons_repeat (h : e.value = 2) : lastMove? (e :: es) = lastMove? es := by
  rw [lastMove?, List.filter_cons_of_neg (by simpa using h)]
  rfl

theorem lastMove?_cons_move (h : e.value ≠ 2) :
    lastMove? (e :: es) = some ((lastMove? es).getD e) := by
  rw [lastMove?, List.filter_cons_of_pos (by simpa using h), List.getLast?_cons]
  rfl

theorem lastChange?_eq (es : List Edge) (c : Scancode) :
    lastChange? es c = lastMove? (es.filter fun e => e.code = c) := by
  rw [lastChange?, lastMove?, List.filter_filter]
  congr 1
  refine List.filter_congr fun e _ => ?_
  rw [Bool.decide_and, Bool.and_comm]

/-- Before a release the scancode was pressed last, or it was down at first and has not moved. -/
theorem Proper.last_pressed {down : Bool} (h : Proper down (es ++ e :: es')) (he : e.value = 0) :
    (∃ x, lastMove? es = some x ∧ x.value ≠ 0) ∨ lastMove? es = none ∧ down = true := by
  induction es generalizing down with
  | nil =>
    cases down with
    | true => exact .inr ⟨rfl, rfl⟩
    | false =>
      have h1 : e.value = 1 := h.1
      rw [he] at h1
      exact absurd h1 (by decide)
  | cons x es ih =>
    cases down with
    | false =>
      obtain ⟨h1, h⟩ := h
      have h2 : x.value ≠ 2 := by rw [h1]; decide
      rw [lastMove?_cons_move h2]
      rcases ih h with ⟨y, hy, h0⟩ | ⟨hnone, _⟩
      · exact .inl ⟨y, by rw [hy]; rfl, h0⟩
      · exact .inl ⟨x, by rw [hnone]; rfl, by rw [h1]; decide⟩
    | true =>
      rcases h with ⟨h2, h⟩ | ⟨h0, h⟩
      · rw [lastMove?_cons_repeat h2]
        exact ih h
      · have h2 : x.value ≠ 2 := by rw [h0]; decide
        rw [lastMove?_cons_move h2]
        rcases ih h with ⟨y, hy, h0'⟩ | ⟨_, hfalse⟩
        · exact .inl ⟨y, by rw [hy]; rfl, h0'⟩
        · cases hfalse

/-- In a well-formed stream a scancode is down before it comes up. -/
theorem WellFormed.down_before_up (h : WellFormed (es ++ e :: es')) (he : e.value = 0) :
    BelievedDown es e.code := by
  have hcode := h e.code
  rw [List.filter_append, List.filter_cons_of_pos (by simp)] at hcode
  rcases hcode.last_pressed he with hpressed | ⟨_, hfalse⟩
  · rwa [BelievedDown, lastChange?_eq]
  · cases hfalse

theorem believedDown_append (h : ∀ e ∈ es', ¬ (e.code = c ∧ e.value ≠ 2)) :
    BelievedDown (es ++ es') c ↔ BelievedDown es c := by
  have hnone : es'.filter (fun e => e.code = c ∧ e.value ≠ 2) = [] :=
    List.filter_eq_nil_iff.mpr fun e he => by simpa using h e he
  rw [BelievedDown, BelievedDown, lastChange?, lastChange?, List.filter_append, hnone,
    List.append_nil]

/-- No two devices have the scancode `c` down at once. -/
def Alone (ds : List (Nat × Edge)) (c : Scancode) : Prop :=
  ∀ before, before <+: ds → ∀ d d', BelievedDown (streamIn before d) c →
    BelievedDown (streamIn before d') c → d = d'

theorem not_let_go_of_alone (hw : ∀ d, WellFormed (streamIn ds d)) (halone : Alone ds c)
    (hd : BelievedDown (streamIn ds d) c) :
    ∀ x ∈ since ds d c, ¬ (x.2.code = c ∧ x.2.value = 0) := by
  rintro ⟨d', e⟩ hx ⟨hc, h0⟩
  change e.code = c at hc
  change e.value = 0 at h0
  obtain ⟨early, hearly⟩ := exists_append_since ds d c
  have hstill : ∀ y ∈ since ds d c, ¬ (y.1 = d ∧ y.2.code = c ∧ y.2.value ≠ 2) :=
    fun y hy => not_move_of_mem_since hy
  obtain ⟨mid, rest, hmid⟩ := List.append_of_mem hx
  rw [hmid] at hearly hstill
  -- Both devices have the scancode down just before the release.
  have hsplit : ds = (early ++ mid) ++ (d', e) :: rest := by rw [hearly, List.append_assoc]
  have hdown : BelievedDown (streamIn (early ++ mid) d) c := by
    rw [hsplit, streamIn_append] at hd
    refine (believedDown_append fun y hy => ?_).mp hd
    obtain ⟨z, hz, rfl⟩ := List.mem_map.mp hy
    obtain ⟨hz, hzd⟩ := List.mem_filter.mp hz
    exact fun hmove => hstill z (List.mem_append_right mid hz) ⟨of_decide_eq_true hzd, hmove⟩
  have hdown' : BelievedDown (streamIn (early ++ mid) d') c := by
    have hwd := hw d'
    have hcons : streamIn ((d', e) :: rest) d' = e :: streamIn rest d' := by simp [streamIn]
    rw [hsplit, streamIn_append, hcons] at hwd
    rw [← hc]
    exact hwd.down_before_up h0
  have hne : d ≠ d' := fun h =>
    hstill (d', e) (by simp) ⟨h.symm, hc, by change e.value ≠ 2; rw [h0]; decide⟩
  exact hne (halone _ ⟨_, hsplit.symm⟩ d d' hdown hdown')

/-- A scancode that comes from one device only is never down on two. -/
theorem alone_of_own_codes (h : ∀ x ∈ ds, ∀ y ∈ ds, x.2.code = y.2.code → x.1 = y.1)
    (c : Scancode) : Alone ds c := by
  have hfrom : ∀ {before d}, before <+: ds → BelievedDown (streamIn before d) c →
      ∃ x ∈ ds, x.1 = d ∧ x.2.code = c := by
    rintro before d hpre ⟨e, he, _⟩
    obtain ⟨he, hcode⟩ := List.mem_filter.mp (List.mem_of_getLast? he)
    obtain ⟨x, hx, rfl⟩ := List.mem_map.mp he
    obtain ⟨hx, hd⟩ := List.mem_filter.mp hx
    exact ⟨x, hpre.subset hx, of_decide_eq_true hd, (of_decide_eq_true hcode).1⟩
  intro before hpre d d' hd hd'
  obtain ⟨x, hx, rfl, hxc⟩ := hfrom hpre hd
  obtain ⟨y, hy, rfl, hyc⟩ := hfrom hpre hd'
  exact h x hx y hy (hxc.trans hyc.symm)

/-! ## Keys held -/

/-- The record of an edge of a small scancode. -/
def keyRecord (code value : UInt8) : List UInt8 :=
  List.replicate 16 0 ++ [1, 0, code, 0, value, 0, 0, 0]

theorem edges_keyRecord (code value : UInt8) :
    edges (keyRecord code value) = [⟨.ofNat code.toNat, .ofNat value.toNat⟩] := by
  simp [edges, reads, keyRecord, edgesOfRead, Record.decodeAll, recordSize, readSize,
    Record.ofBytes?, littleEndian, keyKind]

theorem left_motionsFor_iff (es : List Edge) (k : Key) :
    Left (motionsFor es) k ↔ ∃ c, Key.ofScancode? c = some k ∧ BelievedDown es c := by
  rw [left_iff_mem_downAfter, (possible_motionsFor es).2, scancodesOf_ne_nil_iff]
  simp only [mem_down_heldAfter, and_comm]

/-- After any polls of any devices a key is held if a device has one of its scancodes down and no
device has let go of this scancode since. It is enough that a device has one down, if the streams
are well-formed and no two devices ever have the same scancode of the key down. -/
theorem held_iff_down_on_device (polls : List (List (List UInt8))) (k : Key) :
    (Left (pollAll {} polls).1 k ↔ ∃ d c, Key.ofScancode? c = some k ∧
      BelievedDown (streamOf polls d) c ∧
      ∀ x ∈ since (deliveries polls) d c, ¬ (x.2.code = c ∧ x.2.value = 0)) ∧
    ((∀ d, WellFormed (streamOf polls d)) →
      (∀ c, Key.ofScancode? c = some k → Alone (deliveries polls) c) →
      (Left (pollAll {} polls).1 k ↔
        ∃ d c, Key.ofScancode? c = some k ∧ BelievedDown (streamOf polls d) c)) := by
  have hheld : Left (pollAll {} polls).1 k ↔ ∃ d c, Key.ofScancode? c = some k ∧
      BelievedDown (streamOf polls d) c ∧
      ∀ x ∈ since (deliveries polls) d c, ¬ (x.2.code = c ∧ x.2.value = 0) := by
    have hmotions : (pollAll {} polls).1 = motionsFor ((deliveries polls).map Prod.snd) := by
      rw [pollAll_eq, map_snd_deliveries]
      rfl
    rw [hmotions, left_motionsFor_iff]
    simp only [believedDown_map_snd_iff, streamIn_deliveries]
    constructor
    · rintro ⟨c, hk, d, hdown⟩
      exact ⟨d, c, hk, hdown⟩
    · rintro ⟨d, c, hk, hdown⟩
      exact ⟨c, hk, d, hdown⟩
  refine ⟨hheld, fun hw halone => hheld.trans ⟨?_, ?_⟩⟩
  · rintro ⟨d, c, hk, hdown, _⟩
    exact ⟨d, c, hk, hdown⟩
  · rintro ⟨d, c, hk, hdown⟩
    refine ⟨d, c, hk, hdown, not_let_go_of_alone ?_ (halone c hk) ?_⟩
    · simpa only [streamIn_deliveries] using hw
    · rwa [streamIn_deliveries]

/-- The left shift of one keyboard and the right shift of another go down, and the left one comes
up. -/
def shiftOnEach : List (List (List UInt8)) :=
  [[keyRecord 42 1, keyRecord 54 1], [keyRecord 42 0]]

/-- The shift is held, for the second keyboard has it down. -/
theorem shiftOnEach_held :
    (∀ d, WellFormed (streamOf shiftOnEach d)) ∧
    (∀ c, Key.ofScancode? c = some .shift → Alone (deliveries shiftOnEach) c) ∧
    Left (pollAll {} shiftOnEach).1 .shift := by
  have hfirst : streamOf shiftOnEach 0 = [⟨42, 1⟩, ⟨42, 0⟩] := by
    simp [streamOf, shiftOnEach, edges_keyRecord]
  have hsecond : streamOf shiftOnEach 1 = [⟨54, 1⟩] := by
    simp [streamOf, shiftOnEach, edges_keyRecord, edges_nil]
  have hothers : ∀ d, streamOf shiftOnEach (d + 2) = [] := by
    simp [streamOf, shiftOnEach, edges_nil]
  have hall : deliveries shiftOnEach = [(0, ⟨42, 1⟩), (1, ⟨54, 1⟩), (0, ⟨42, 0⟩)] := by
    simp [deliveries, shiftOnEach, edges_keyRecord]
  have hw : ∀ d, WellFormed (streamOf shiftOnEach d) := by
    rintro (_ | _ | d)
    · rw [hfirst]
      decide
    · rw [hsecond]
      decide
    · rw [hothers]
      decide
  have halone : ∀ c, Key.ofScancode? c = some .shift → Alone (deliveries shiftOnEach) c := by
    rw [hall]
    exact fun c _ => alone_of_own_codes (by decide) c
  refine ⟨hw, halone, ((held_iff_down_on_device shiftOnEach .shift).2 hw halone).mpr ?_⟩
  exact ⟨1, 54, by decide, ⟨54, 1⟩, by rw [hsecond]; decide, by decide⟩

/-- `a` goes down on two keyboards, and comes up on one of them. -/
def letterAOnBoth : List (List (List UInt8)) :=
  [[keyRecord 30 1, keyRecord 30 1], [[], keyRecord 30 0]]

/-- Both streams are well-formed and the first keyboard still has `a` down, but `a` is not held. -/
theorem letterAOnBoth_let_go :
    (∀ d, WellFormed (streamOf letterAOnBoth d)) ∧
    (∃ d c, Key.ofScancode? c = some .letterA ∧ BelievedDown (streamOf letterAOnBoth d) c) ∧
    (pollAll {} letterAOnBoth).1 = [.press .letterA, .release .letterA] ∧
    ¬ Left (pollAll {} letterAOnBoth).1 .letterA := by
  have hfirst : streamOf letterAOnBoth 0 = [⟨30, 1⟩] := by
    simp [streamOf, letterAOnBoth, edges_keyRecord, edges_nil]
  have hsecond : streamOf letterAOnBoth 1 = [⟨30, 1⟩, ⟨30, 0⟩] := by
    simp [streamOf, letterAOnBoth, edges_keyRecord]
  have hothers : ∀ d, streamOf letterAOnBoth (d + 2) = [] := by
    simp [streamOf, letterAOnBoth, edges_nil]
  have hmotions : (pollAll {} letterAOnBoth).1 = [.press .letterA, .release .letterA] := by
    have hedges : (letterAOnBoth.flatMap fun devices => devices.flatMap edges) =
        [⟨30, 1⟩, ⟨30, 1⟩, ⟨30, 0⟩] := by
      simp [letterAOnBoth, edges_keyRecord, edges_nil]
    rw [pollAll_eq, hedges]
    decide
  refine ⟨?_, ⟨0, 30, by decide, ⟨30, 1⟩, by rw [hfirst]; decide, by decide⟩, hmotions, ?_⟩
  · rintro (_ | _ | d)
    · rw [hfirst]
      decide
    · rw [hsecond]
      decide
    · rw [hothers]
      decide
  · rw [hmotions]
    decide

end ChordDrill.Device.Held
