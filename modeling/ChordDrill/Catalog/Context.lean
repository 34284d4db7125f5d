import ChordDrill.Text.CaseMap
import ChordDrill.Text.Parts

/-!
# ChordDrill.Catalog.Context

Where a shortcut applies: the application and its modes, outermost first.

* `Context.pretty` — the context for the screen.
* `Context.Path`   — a beginning of contexts that the user asks for, and `Path.covers`.
-/

namespace ChordDrill

/-- An application and its modes, outermost first. -/
abbrev Context := List String

namespace Context

/-- A part with its first character in upper case and the others in lower case. -/
def capitalize (part : String) : String :=
  match part.toList with
  | [] => ""
  | c :: cs => String.ofList (Text.upperChar c ++ cs.flatMap Text.lowerChar)

/-- The context for the screen. -/
def pretty (c : Context) : String := "/".intercalate (c.map capitalize)

/-- The parts of a beginning of contexts, in lower case. -/
abbrev Path := List String

/-- The path written with slashes between its parts; empty parts do not count. -/
def Path.ofString (s : String) : Path :=
  ((Text.parts '/' s).filter (· ≠ "")).map Text.lowerString

/-- Whether a path is a beginning of a context, part by part and whatever the case. -/
def Path.covers : Path → Context → Bool
  | [], _ => true
  | _ :: _, [] => false
  | want :: path, part :: context => want == Text.lowerString part && covers path context

end Context

end ChordDrill
