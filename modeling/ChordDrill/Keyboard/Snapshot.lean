import ChordDrill.Motion

/-!
# ChordDrill.Keyboard.Snapshot

Motions between snapshots of the held keys, for sources that only see which keys are down.

* `Keyboard.changes`        — the motions from one snapshot to the next.
* `Keyboard.changesThrough` — the motions along a list of snapshots.
-/

namespace ChordDrill.Keyboard

/-- The motions that lead from one snapshot to the next: presses in the order of the new snapshot,
then releases in the order of the old one. -/
def changes (previous current : List Key) : List Motion :=
  (current.filter (· ∉ previous)).map .press ++ (previous.filter (· ∉ current)).map .release

/-- The motions that a source finds that saw `previous` last and then each of the snapshots. -/
def changesThrough (previous : List Key) : List (List Key) → List Motion
  | [] => []
  | current :: snapshots => changes previous current ++ changesThrough current snapshots

theorem press_mem_changes {previous current : List Key} {k : Key} :
    .press k ∈ changes previous current ↔ k ∈ current ∧ k ∉ previous := by
  simp [changes]

theorem release_mem_changes {previous current : List Key} {k : Key} :
    .release k ∈ changes previous current ↔ k ∈ previous ∧ k ∉ current := by
  simp [changes]

end ChordDrill.Keyboard
