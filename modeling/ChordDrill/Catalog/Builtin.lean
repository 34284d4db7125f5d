import ChordDrill.Catalog

/-!
# ChordDrill.Catalog.Builtin

The shortcuts that come with the trainer. Keys are named after the physical key, so that shifted
characters are written with an explicit `shift`.

* `Catalog.builtin` — the built-in catalog.
-/

namespace ChordDrill.Catalog

/-- A written combo and what it does. -/
abbrev Definition := String × String

namespace Builtin

/-- PyCharm in every mode. -/
def pycharmAnywhere : List Definition :=
  [("↓ctrl↓shift↓f12", "Show/hide all panes except the text editor."),
   ("↓ctrl↓shift↓a", "Open 'Actions' search bar."),
   ("↓↑shift↓shift", "Open 'All' search bar."),
   ("↓f10", "Toggle 'Distraction-free' mode.")]

/-- Refactoring in PyCharm. -/
def pycharmRefactoring : List Definition :=
  [("↓shift↓f6", "Rename.")]

/-- Moving between the places found by PyCharm. -/
def pycharmSearch : List Definition :=
  [("↓f3", "Go to next found occurrence."),
   ("↓shift↓f3", "Go to previous found occurrence."),
   ("↓alt↓j", "Add selection for next occurrence."),
   ("↓alt↓shift↓j", "Unselect occurrence."),
   ("↓ctrl↓alt↓shift↓j", "Select all occurrences.")]

/-- The text editor of PyCharm. -/
def pycharmEditor : List Definition :=
  [("↓\\", "Open local (vim) search bar."),
   ("↓ctrl↓f", "Open local (native) search bar."),
   ("↓ctrl↓shift↓f", "Open global search bar."),
   ("↓ctrl↓r", "Open local replace bar."),
   ("↓ctrl↓shift↓r", "Open global replace bar."),
   ("↓h", "Move cursor one symbol left."),
   ("↓j", "Move cursor one line down."),
   ("↓k", "Move cursor one line up."),
   ("↓l", "Move cursor one symbol right."),
   ("↓ctrl↓u", "Scroll half-screen up."),
   ("↓ctrl↓d", "Scroll half-screen down."),
   ("↓ctrl↓b", "Scroll full-screen up."),
   ("↓ctrl↓f", "Scroll full-screen down."),
   ("↓ctrl↓shift↓]", "Scroll paragraph forward."),
   ("↓ctrl↓shift↓[", "Scroll paragraph backward."),
   ("↓alt↓1", "Focus 'Project' pane."),
   ("↓ctrl↓w", "Extend selection."),
   ("↓ctrl↓shift↓w", "Shrink selection."),
   ("↓ctrl↓z", "Undo."),
   ("↓ctrl↓shift↓z", "Redo."),
   ("↓ctrl↓e", "Show recently edited files."),
   ("↓ctrl↓shift↓e", "Show recently edited files' parts."),
   ("↓alt↓shift↓insert", "Toggle multiple cursors virtual spaces mode."),
   ("↓alt↓shift↓g", "Add carets to the end of each line in the selected block.")]

/-- The project pane of PyCharm. -/
def pycharmProject : List Definition :=
  [("↓j", "Move cursor one line down."),
   ("↓k", "Move cursor one line up.")]

/-- The search bar of PyCharm. -/
def pycharmSearchBar : List Definition :=
  [("↓alt↓down", "Show and focus 'Search history' drop-down."),
   ("↓alt↓c", "Toggle case-sensitivity."),
   ("↓alt↓w", "Toggle full words matching only."),
   ("↓alt↓x", "Toggle regexp matching mode."),
   ("↓ctrl↓alt↓f", "Show filter popup."),
   ("↓enter", "Go to next found occurrence."),
   ("↓shift↓enter", "Go to previous found occurrence.")]

/-- The normal mode of the editor of PyCharm. -/
def pycharmNormal : List Definition :=
  [("↓shift↓k", "Show definition without navigating to it.")]

/-- The file structure window of PyCharm. -/
def pycharmStructure : List Definition :=
  [("↓esc", "Jump back to the sub-mode which is active inside the editor.")]

/-- The normal mode of Edge. -/
def edge : List Definition :=
  [("↓k", "Scroll one line up."),
   ("↓j", "Scroll one line down."),
   ("↓u", "Scroll half a screen up."),
   ("↓d", "Scroll half a screen down."),
   ("↓f", "Highlight links."),
   ("↓\\", "Open local (vim) search bar."),
   ("↓ctrl↓f", "Open local (native) search bar.")]

/-- The contexts, each with the tables that apply in it. -/
def modes : List (Context × List (List Definition)) :=
  [(["PyCharm", "project", "normal"], [pycharmAnywhere, pycharmRefactoring, pycharmProject]),
   (["PyCharm", "editor", "native local search"],
    [pycharmAnywhere, pycharmSearch, pycharmSearchBar]),
   (["PyCharm", "editor", "vim visual"],
    [pycharmAnywhere, pycharmSearch, pycharmEditor, pycharmRefactoring]),
   (["PyCharm", "editor", "vim normal"],
    [pycharmAnywhere, pycharmSearch, pycharmEditor, pycharmNormal]),
   (["PyCharm", "file structure"], [pycharmStructure]),
   (["Edge", "normal"], [edge])]

end Builtin

/-- The shortcuts of written definitions, or the first fault. -/
def readAll : List (Context × Definition) → Except Combo.Fault (List Action)
  | [] => .ok []
  | (context, combo, description) :: rest =>
    match Action.read context combo description with
    | .error e => .error e
    | .ok a =>
      match readAll rest with
      | .ok as => .ok (a :: as)
      | .error e => .error e

/-- The built-in catalog. -/
def builtin : Except Combo.Fault Catalog :=
  let definitions := Builtin.modes.flatMap fun (context, tables) =>
    tables.flatten.map fun d => (context, d)
  match readAll definitions with
  | .ok actions => .ok ⟨actions⟩
  | .error e => .error e

end ChordDrill.Catalog
