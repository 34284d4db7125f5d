import ChordDrill.Catalog
import ChordDrill.Random.Choose
import ChordDrill.Random.Stream

/-!
# ChordDrill.Deck

The shortcuts of one drill, in the order in which they are prompted.

* `Deck.sample?` — shortcuts chosen at random without repetition.
* `Deck.draw`    — the next shortcut.
* `Deck.seeded?` — the deck of a seed.
-/

namespace ChordDrill

/-- Shortcuts still to be drilled. -/
structure Deck where
  /-- The shortcuts that remain, next one first. -/
  remaining : List Action := []
  /-- How many there were at first. -/
  size : Nat := 0
deriving DecidableEq, Repr

namespace Deck

/-- The deck of the shortcuts at some positions. -/
def ofPositions (actions : List Action) (positions : List Nat) : Deck :=
  let places := actions.toArray
  let chosen := positions.filterMap fun i => places[i]?
  { remaining := chosen, size := chosen.length }

/-- Up to `size` different shortcuts in random order; `none` if the words run out. -/
def sample? (actions : List Action) (size : Nat) (tape : Random.Tape) : Option Deck :=
  (Random.positions? actions.length size tape).map (ofPositions actions)

/-- Take the next shortcut, if there is one. -/
def draw (d : Deck) : Option Action × Deck :=
  match d.remaining with
  | [] => (none, d)
  | a :: rest => (some a, { d with remaining := rest })

/-- The lengths of the tapes that are tried for a deck, in blocks: each one more than twice as long
as the last. -/
def tapeBlocks (size : Nat) : List Nat := (List.range 8).map fun i => (size / 4 + 1) <<< i

/-- The deck of a seed: the first tape that is long enough decides it. -/
def seeded? (actions : List Action) (size : Nat) (seed : UInt64) : Option Deck :=
  (tapeBlocks (min size actions.length)).findSome? fun n =>
    sample? actions size (Random.tape seed n)

end Deck

end ChordDrill
