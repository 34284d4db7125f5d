import ChordDrill.Proofs.Device.Holders
import ChordDrill.Proofs.Keyboard.Replay

/-!
# ChordDrill.Proofs.Device.Sources

A source that compares snapshots finds the motions that the edges cause.

* `Snaps` — snapshots of the keys with a scancode down, one for each number of edges.

One edge moves one key at most (`Effect.changes_eq`), so with a snapshot behind each edge the order
inside the snapshots does not matter. Snapshots that are further apart lead to the same keys held,
though not by the same motions: a key that goes down and up between two of them is not seen.
-/

namespace ChordDrill.Device.Held

open Motion Keyboard

/-- `S i` lists the keys with a scancode believed down after `i` edges, each once, in any order. -/
structure Snaps (es : List Edge) (S : Nat → List Key) : Prop where
  nodup : ∀ i ≤ es.length, (S i).Nodup
  mem : ∀ i ≤ es.length, ∀ k,
    k ∈ S i ↔ ∃ c ∈ (heldAfter (es.take i)).down, Key.ofScancode? c = some k

variable {h h' : Held} {e : Edge} {m : Option Motion} {es : List Edge} {S : Nat → List Key}

/-- The motion of an edge is what changes between the keys held before and after it. -/
theorem Effect.changes_eq (he : Effect h e m h') (hh : Counted h) {previous current : List Key}
    (hp : previous.Nodup) (hc : current.Nodup) (hbefore : ∀ k, k ∈ previous ↔ h.scancodesOf k ≠ [])
    (hafter : ∀ k, k ∈ current ↔ h'.scancodesOf k ≠ []) :
    changes previous current = m.toList := by
  have hmem : ∀ x, x ∈ changes previous current ↔ m = some x := by
    intro x
    cases x with
    | press k =>
      rw [press_mem_changes, (he.eq_some_iff hh k).1, hbefore, hafter, not_not, and_comm]
    | release k =>
      rw [release_mem_changes, (he.eq_some_iff hh k).2, hbefore, hafter, not_not]
  have hperm : (changes previous current).Perm m.toList := by
    refine (List.perm_ext_iff_of_nodup (nodup_changes hp hc) ?_).mpr fun x => ?_
    · cases m <;> simp
    · rw [hmem, Option.mem_toList]
  -- A list of one motion at most has no other order.
  cases m with
  | none => exact List.perm_nil.mp hperm
  | some x => exact List.perm_singleton.mp hperm

theorem Snaps.mem_iff (hS : Snaps es S) {i : Nat} (hi : i ≤ es.length) (k : Key) :
    k ∈ S i ↔ (heldAfter (es.take i)).scancodesOf k ≠ [] := by
  rw [hS.mem i hi, scancodesOf_ne_nil_iff]

theorem Snaps.of_snoc (hS : Snaps (es ++ [e]) S) : Snaps es S := by
  have hle : ∀ i ≤ es.length, i ≤ (es ++ [e]).length := fun i hi =>
    hi.trans (List.length_append ▸ Nat.le_add_right _ _)
  refine ⟨fun i hi => hS.nodup i (hle i hi), fun i hi k => ?_⟩
  rw [hS.mem i (hle i hi), List.take_append_of_le_length hi]

theorem Snaps.changes_last (hS : Snaps (es ++ [e]) S) :
    changes (S es.length) (S (es.length + 1)) = ((heldAfter es).translate e).1.toList := by
  have hlast : es.length + 1 ≤ (es ++ [e]).length := by simp
  have hbefore := hS.mem_iff (Nat.le_of_succ_le hlast)
  have hafter := hS.mem_iff hlast
  rw [List.take_left] at hbefore
  rw [List.take_of_length_le (by simp), heldAfter_snoc] at hafter
  exact (effect_translate _ e).changes_eq (counted_heldAfter es)
    (hS.nodup _ (Nat.le_of_succ_le hlast)) (hS.nodup _ hlast) hbefore hafter

/-- A snapshot behind each edge finds the motions that the edges cause. -/
theorem Snaps.changesThrough_eq (hS : Snaps es S) :
    changesThrough (S 0) ((List.range es.length).map fun i => S (i + 1)) = motionsFor es := by
  induction es using List.reverseRecOn with
  | nil => rfl
  | append_singleton es e ih =>
    have hlast : ((List.range es.length).map fun i => S (i + 1)).getLastD (S 0) = S es.length := by
      cases es using List.reverseRecOn with
      | nil => rfl
      | append_singleton es e' => simp [List.range_succ]
    rw [List.length_append, List.length_singleton, List.range_succ, List.map_append,
      List.map_singleton, changesThrough_snoc, ih hS.of_snoc, hlast, hS.changes_last,
      motionsFor_snoc]

theorem mem_pressed_motionsFor (es : List Edge) (k : Key) :
    k ∈ (({} : Keyboard).observeAll (motionsFor es)).pressed ↔
      (heldAfter es).scancodesOf k ≠ [] := by
  rw [mem_pressed_observeAll (H := ∅) (by simp), (possible_motionsFor es).2]

theorem Snaps.mem_pressed_iff (hS : Snaps es S) {i : Nat} (hi : i ≤ es.length) (k : Key) :
    k ∈ (({} : Keyboard).observeAll (motionsFor (es.take i))).pressed ↔ k ∈ S i := by
  rw [mem_pressed_motionsFor, hS.mem_iff hi]

/-- Snapshots behind every edge give the motions of the edges, in their order. Those behind the
edges number `j` and then `is` bring a keyboard that holds what it should after `j` edges to what it
should hold after the last of them. -/
theorem snapshots_agree_with_edges (es : List Edge) (S : Nat → List Key) (hS : Snaps es S) :
    changesThrough (S 0) ((List.range es.length).map fun i => S (i + 1)) = motionsFor es ∧
    ∀ (s : Keyboard) (j : Nat) (is : List Nat), (∀ i ∈ j :: is, i ≤ es.length) →
      (∀ k, k ∈ s.pressed ↔ k ∈ (({} : Keyboard).observeAll (motionsFor (es.take j))).pressed) →
      ∀ k, k ∈ (s.observeAll (changesThrough (S j) (is.map S))).pressed ↔
        k ∈ (({} : Keyboard).observeAll (motionsFor (es.take (is.getLastD j)))).pressed := by
  refine ⟨hS.changesThrough_eq, fun s j is his hs k => ?_⟩
  have hlast : is.getLastD j ∈ j :: is := List.getLastD_mem_cons
  have hmap : (is.map S).getLastD (S j) = S (is.getLastD j) := by
    rw [List.getLastD_eq_getLast?, List.getLastD_eq_getLast?, List.getLast?_map, Option.getD_map]
  rw [mem_pressed_changesThrough fun i => (hs i).trans (hS.mem_pressed_iff (his j (by simp)) i),
    hS.mem_pressed_iff (his _ hlast), hmap]

theorem snaps_keysDown (es : List Edge) :
    Snaps es fun i => (heldAfter (es.take i)).keysDown.reverse where
  nodup i _ := List.nodup_reverse.mpr (nodup_keysDown _)
  mem i _ k := by rw [List.mem_reverse, mem_keysDown, scancodesOf_ne_nil_iff]

/-- Both shifts go down, `a` goes down and up, and the left shift comes up. -/
def shiftsAndA : List Edge := [⟨42, 1⟩, ⟨54, 1⟩, ⟨30, 1⟩, ⟨30, 0⟩, ⟨42, 0⟩]

/-- A source that looks behind the second, the fourth and the last of these edges finds the shift
held, as the edges leave it, though it has missed `a`. -/
theorem shiftsAndA_shift_seen :
    Snaps shiftsAndA (fun i => (heldAfter (shiftsAndA.take i)).keysDown.reverse) ∧
    (∀ i ∈ [0, 2, 4, 5], i ≤ shiftsAndA.length) ∧
    (.shift ∈ (({} : Keyboard).observeAll
        (changesThrough [] [[.shift], [.shift], [.shift]])).pressed ↔
      .shift ∈ (({} : Keyboard).observeAll (motionsFor shiftsAndA)).pressed) ∧
    motionsFor shiftsAndA = [.press .shift, .press .letterA, .release .letterA] := by
  have hS := snaps_keysDown shiftsAndA
  have hagree := snapshots_agree_with_edges _ _ hS
  have his : ∀ i ∈ [0, 2, 4, 5], i ≤ shiftsAndA.length := by decide
  refine ⟨hS, his, ?_, ?_⟩
  · exact hagree.2 {} 0 [2, 4, 5] his (fun k => Iff.rfl) .shift
  · rw [← hagree.1]
    decide

end ChordDrill.Device.Held
