import Mathlib.Data.List.Nodup
import ChordDrill.Keyboard.Snapshot
import ChordDrill.Proofs.Motion.Alternation

/-!
# ChordDrill.Proofs.Keyboard.Replay

Snapshots of the held keys, replayed.

* `Keyboard.mem_pressed_changes`        — the motions between two snapshots bring a keyboard from
  the keys of the one to those of the other.
* `Keyboard.mem_pressed_changesThrough` — those along a list of snapshots bring it to the last.
* `Keyboard.Replays`                    — all that is said of the motions between two snapshots.

Presses come first, so between two snapshots more keys can be down than in either. The snapshots may
list a key more than once; then its motion is repeated, and a keyboard passes over the repeats. Only
the order of the keys held, and motions that take turns, need snapshots without repeats.
-/

namespace ChordDrill

namespace Motion

theorem downAfter_map_press (H : Finset Key) (ks : List Key) :
    downAfter H (ks.map .press) = H ∪ ks.toFinset := by
  induction ks generalizing H with
  | nil => simp [downAfter]
  | cons k ks ih =>
    have hstep : downAfter H ((k :: ks).map .press) = downAfter (insert k H) (ks.map .press) := rfl
    rw [hstep, ih, List.toFinset_cons, Finset.insert_union, Finset.union_insert]

theorem downAfter_map_release (H : Finset Key) (ks : List Key) :
    downAfter H (ks.map .release) = H \ ks.toFinset := by
  induction ks generalizing H with
  | nil => simp [downAfter]
  | cons k ks ih =>
    have hstep : downAfter H ((k :: ks).map .release) = downAfter (H.erase k) (ks.map .release) :=
      rfl
    rw [hstep, ih, List.toFinset_cons]
    ext j
    simp only [Finset.mem_sdiff, Finset.mem_erase, Finset.mem_insert, not_or]
    tauto

theorem downAfter_changes (previous current : List Key) :
    downAfter previous.toFinset (Keyboard.changes previous current) = current.toFinset := by
  rw [Keyboard.changes, downAfter_append, downAfter_map_press, downAfter_map_release]
  ext k
  simp only [Finset.mem_sdiff, Finset.mem_union, List.mem_toFinset, List.mem_filter,
    decide_eq_true_eq]
  tauto

theorem possible_map_press {H : Finset Key} {ks : List Key} (hks : ks.Nodup)
    (hup : ∀ k ∈ ks, k ∉ H) : Possible H (ks.map .press) := by
  induction ks generalizing H with
  | nil => exact possible_nil H
  | cons k ks ih =>
    obtain ⟨hk, hks⟩ := List.nodup_cons.mp hks
    rw [List.map_cons, possible_cons]
    refine ⟨by simp [isPress, key, hup k], ih hks fun j hj hmem => ?_⟩
    rcases Finset.mem_insert.mp hmem with rfl | hH
    · exact hk hj
    · exact hup j (List.mem_cons_of_mem k hj) hH

theorem possible_map_release {H : Finset Key} {ks : List Key} (hks : ks.Nodup)
    (hdown : ∀ k ∈ ks, k ∈ H) : Possible H (ks.map .release) := by
  induction ks generalizing H with
  | nil => exact possible_nil H
  | cons k ks ih =>
    obtain ⟨hk, hks⟩ := List.nodup_cons.mp hks
    rw [List.map_cons, possible_cons]
    refine ⟨by simp [isPress, key, hdown k], ih hks fun j hj => ?_⟩
    have hne : j ≠ k := fun h => hk (h ▸ hj)
    exact Finset.mem_erase.mpr ⟨hne, hdown j (List.mem_cons_of_mem k hj)⟩

/-- Between snapshots without repeats the motions of each key take turns. -/
theorem possible_changes {previous current : List Key} (hp : previous.Nodup) (hc : current.Nodup) :
    Possible previous.toFinset (Keyboard.changes previous current) := by
  rw [Keyboard.changes, possible_append, downAfter_map_press]
  refine ⟨possible_map_press (hc.filter _) fun k hk => ?_,
    possible_map_release (hp.filter _) fun k hk => ?_⟩
  · rw [List.mem_toFinset]
    simpa using (List.mem_filter.mp hk).2
  · exact Finset.mem_union_left _ (List.mem_toFinset.mpr (List.mem_filter.mp hk).1)

theorem possible_changesThrough {previous : List Key} {snapshots : List (List Key)}
    (hp : previous.Nodup) (hs : ∀ ks ∈ snapshots, ks.Nodup) :
    Possible previous.toFinset (Keyboard.changesThrough previous snapshots) := by
  induction snapshots generalizing previous with
  | nil => exact possible_nil _
  | cons current snapshots ih =>
    have hc : current.Nodup := hs current List.mem_cons_self
    rw [Keyboard.changesThrough, possible_append, downAfter_changes]
    exact ⟨possible_changes hp hc, ih hc fun ks hks => hs ks (List.mem_cons_of_mem current hks)⟩

end Motion

namespace Keyboard

open Motion

variable {previous current : List Key} {s : Keyboard}

theorem nodup_changes (hp : previous.Nodup) (hc : current.Nodup) :
    (changes previous current).Nodup := by
  have hpress : Function.Injective Motion.press := fun j k h => Motion.press.inj h
  have hrelease : Function.Injective Motion.release := fun j k h => Motion.release.inj h
  refine List.nodup_append.mpr ⟨(hc.filter _).map hpress, (hp.filter _).map hrelease, ?_⟩
  intro m hm m' hm' heq
  obtain ⟨j, _, rfl⟩ := List.mem_map.mp hm
  obtain ⟨k, _, rfl⟩ := List.mem_map.mp hm'
  cases heq

theorem pressed_map_press {ks : List Key} (hks : ks.Nodup) (hup : ∀ k ∈ ks, k ∉ s.pressed) :
    (s.observeAll (ks.map .press)).pressed = s.pressed ++ ks := by
  induction ks generalizing s with
  | nil => exact (List.append_nil _).symm
  | cons k ks ih =>
    obtain ⟨hk, hks⟩ := List.nodup_cons.mp hks
    have hpress := pressed_press_of_notMem (hup k List.mem_cons_self)
    have hup' : ∀ j ∈ ks, j ∉ (s.observe (.press k)).pressed := by
      intro j hj hmem
      rw [hpress, List.mem_append, List.mem_singleton] at hmem
      rcases hmem with hmem | rfl
      · exact hup j (List.mem_cons_of_mem k hj) hmem
      · exact hk hj
    have hstep : s.observeAll ((k :: ks).map .press) =
        (s.observe (.press k)).observeAll (ks.map .press) := rfl
    rw [hstep, ih hks hup', hpress, List.append_assoc, List.singleton_append]

theorem pressed_map_release (s : Keyboard) (ks : List Key) :
    (s.observeAll (ks.map .release)).pressed = s.pressed.filter (· ∉ ks) := by
  induction ks generalizing s with
  | nil => simp [observeAll]
  | cons k ks ih =>
    have hstep : s.observeAll ((k :: ks).map .release) =
        (s.observe (.release k)).observeAll (ks.map .release) := rfl
    rw [hstep, ih, pressed_release, List.filter_filter]
    refine List.filter_congr fun j _ => ?_
    simp [Bool.and_comm]

/-- Keys that stay keep their order, and new ones follow in that of the snapshot. The new keys are
pressed before the old ones are let go, so it is their releases that must be seen to spare them. -/
theorem pressed_changes (hs : ∀ k, k ∈ s.pressed ↔ k ∈ previous) (hc : current.Nodup) :
    (s.observeAll (changes previous current)).pressed =
      s.pressed.filter (· ∈ current) ++ current.filter (· ∉ previous) := by
  have hup : ∀ k ∈ current.filter (· ∉ previous), k ∉ s.pressed := by
    intro k hk hmem
    simp [(hs k).mp hmem] at hk
  have hstay : s.pressed.filter (· ∉ previous.filter (· ∉ current)) =
      s.pressed.filter (· ∈ current) := by
    refine List.filter_congr fun k hk => ?_
    simp [(hs k).mp hk]
  have hnew : (current.filter (· ∉ previous)).filter (· ∉ previous.filter (· ∉ current)) =
      current.filter (· ∉ previous) := by
    refine List.filter_eq_self.mpr fun k hk => ?_
    have hnot : k ∉ previous := by simpa using (List.mem_filter.mp hk).2
    simp [hnot]
  rw [changes, observeAll_append, pressed_map_release, pressed_map_press (hc.filter _) hup,
    List.filter_append, hstay, hnew]

theorem mem_pressed_changes (hs : ∀ k, k ∈ s.pressed ↔ k ∈ previous) (current : List Key)
    (k : Key) :
    k ∈ (s.observeAll (changes previous current)).pressed ↔ k ∈ current := by
  rw [mem_pressed_observeAll (H := previous.toFinset) (fun j => by rw [hs j, List.mem_toFinset]),
    Motion.downAfter_changes, List.mem_toFinset]

/-- A keyboard that holds the keys of one snapshot is brought to those of the last. -/
theorem mem_pressed_changesThrough (hs : ∀ k, k ∈ s.pressed ↔ k ∈ previous)
    (snapshots : List (List Key)) (k : Key) :
    k ∈ (s.observeAll (changesThrough previous snapshots)).pressed ↔
      k ∈ snapshots.getLastD previous := by
  induction snapshots generalizing s previous with
  | nil => exact hs k
  | cons current snapshots ih =>
    rw [changesThrough, observeAll_append, List.getLastD_cons]
    exact ih (mem_pressed_changes hs current)

theorem changesThrough_snoc (previous : List Key) (snapshots : List (List Key))
    (current : List Key) :
    changesThrough previous (snapshots ++ [current]) =
      changesThrough previous snapshots ++ changes (snapshots.getLastD previous) current := by
  induction snapshots generalizing previous with
  | nil => simp [changesThrough]
  | cons next snapshots ih =>
    rw [List.cons_append, changesThrough, ih, changesThrough, List.append_assoc,
      List.getLastD_cons]

theorem presses_first (previous current : List Key) :
    (changes previous current).Pairwise fun m m' => m'.isPress → m.isPress := by
  refine List.pairwise_append.mpr ⟨?_, ?_, ?_⟩
  · exact List.pairwise_map.mpr (List.pairwise_of_forall fun _ _ _ => rfl)
  · exact List.pairwise_map.mpr (List.pairwise_of_forall fun _ _ h => h)
  · intro m hm m' _ _
    obtain ⟨k, _, rfl⟩ := List.mem_map.mp hm
    rfl

/-- Motions that lead from one snapshot to another. -/
structure Replays (previous current : List Key) (ms : List Motion) : Prop where
  /-- A keyboard that holds the keys of the one then holds those of the other. -/
  held (s : Keyboard) : (∀ k, k ∈ s.pressed ↔ k ∈ previous) →
    ∀ k, k ∈ (s.observeAll ms).pressed ↔ k ∈ current
  /-- Keys that stay are still in their old order, and the new ones follow in the new order. -/
  order (s : Keyboard) : (∀ k, k ∈ s.pressed ↔ k ∈ previous) → current.Nodup →
    (s.observeAll ms).pressed = s.pressed.filter (· ∈ current) ++ current.filter (· ∉ previous)
  /-- No key is both pressed and released. -/
  oneWay (k : Key) : ¬ (.press k ∈ ms ∧ .release k ∈ ms)
  /-- Keys in both snapshots do not move. -/
  still : ∀ k ∈ previous, k ∈ current → ∀ m ∈ ms, m.key ≠ k
  /-- What stands before a press is a press. -/
  pressesFirst : ms.Pairwise fun m m' => m'.isPress → m.isPress

/-- The motions between two snapshots lead from the one to the other, and along snapshots without
repeats, from none down, the motions of each key take turns. -/
theorem snapshots_replayed (previous current : List Key) :
    Replays previous current (changes previous current) ∧
    ∀ snapshots : List (List Key), (∀ ks ∈ snapshots, ks.Nodup) →
      ∀ k, Alternates false (ofKey k (changesThrough [] snapshots)) := by
  refine ⟨⟨?_, ?_, ?_, ?_, presses_first previous current⟩, ?_⟩
  · exact fun s hs => mem_pressed_changes hs current
  · exact fun s hs hc => pressed_changes hs hc
  · rintro k ⟨hpress, hrelease⟩
    exact (release_mem_changes.mp hrelease).2 (press_mem_changes.mp hpress).1
  · rintro k hp hc m hm rfl
    cases m with
    | press k => exact (press_mem_changes.mp hm).2 hp
    | release k => exact (release_mem_changes.mp hm).2 hc
  · intro snapshots hs k
    exact possible_changesThrough List.nodup_nil hs k

/-- The shift goes down before control, listed twice, comes up; `a` was down before `f` and stays in
front of it. -/
theorem ctrl_released_behind_shift :
    let s : Keyboard := { pressed := [.letterA, .ctrl, .letterF] }
    let previous : List Key := [.ctrl, .letterF, .ctrl, .letterA]
    let current : List Key := [.shift, .letterF, .letterA]
    let snapshots : List (List Key) := [[.ctrl], [.letterF, .ctrl], [.letterF], [.ctrl, .letterF]]
    (∀ k, k ∈ s.pressed ↔ k ∈ previous) ∧ current.Nodup ∧
      changes previous current = [.press .shift, .release .ctrl, .release .ctrl] ∧
      (s.observeAll (changes previous current)).pressed = [.letterA, .letterF, .shift] ∧
      (∀ ks ∈ snapshots, ks.Nodup) ∧
      ofKey .ctrl (changesThrough [] snapshots) = [.press .ctrl, .release .ctrl, .press .ctrl] ∧
      Alternates false (ofKey .ctrl (changesThrough [] snapshots)) := by
  intro s previous current snapshots
  obtain ⟨hreplays, hturns⟩ := snapshots_replayed previous current
  have hs : ∀ k, k ∈ s.pressed ↔ k ∈ previous := by
    intro k
    simp only [s, previous, List.mem_cons, List.not_mem_nil]
    tauto
  have hc : current.Nodup := by decide
  have hsnapshots : ∀ ks ∈ snapshots, ks.Nodup := by decide
  refine ⟨hs, hc, by decide, ?_, hsnapshots, by decide, hturns snapshots hsnapshots .ctrl⟩
  rw [hreplays.order s hs hc]
  decide

end Keyboard

end ChordDrill
