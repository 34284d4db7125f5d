import ChordDrill.Catalog.Context
import ChordDrill.Combo.Reader

/-!
# ChordDrill.Catalog

Shortcuts and collections of them.

* `Action.read`    — a shortcut from its written combo.
* `Catalog.extend` — append a catalog to another.
* `Catalog.retain` — keep the shortcuts of some contexts.
-/

namespace ChordDrill

/-- A shortcut: where it applies, the motions to enter, and what it does. -/
structure Action where
  context : Context
  combo : List Motion
  description : String
deriving DecidableEq, Repr

/-- A shortcut from its written combo, or the fault of the combo. -/
def Action.read (context : Context) (combo description : String) : Except Combo.Fault Action :=
  match Combo.parse combo with
  | .ok motions => .ok { context, combo := motions, description }
  | .error e => .error e

/-- Shortcuts in order. -/
structure Catalog where
  actions : List Action := []
deriving DecidableEq, Repr

namespace Catalog

def size (c : Catalog) : Nat := c.actions.length

/-- Append the shortcuts of another catalog. -/
def extend (c d : Catalog) : Catalog := ⟨c.actions ++ d.actions⟩

/-- Whether one of the written paths covers the context of a shortcut. -/
def wanted (paths : List String) (a : Action) : Bool :=
  paths.any fun p => (Context.Path.ofString p).covers a.context

/-- Keep the shortcuts that one of the written paths covers; without any path keep all. -/
def retain (c : Catalog) (paths : List String) : Catalog :=
  if paths = [] then c else ⟨c.actions.filter (wanted paths)⟩

@[simp] theorem actions_extend (c d : Catalog) : (c.extend d).actions = c.actions ++ d.actions :=
  rfl

theorem mem_actions_retain {c : Catalog} {paths : List String} {a : Action} :
    a ∈ (c.retain paths).actions ↔ a ∈ c.actions ∧ (paths = [] ∨ wanted paths a) := by
  by_cases h : paths = [] <;> simp [retain, h]

end Catalog

end ChordDrill
