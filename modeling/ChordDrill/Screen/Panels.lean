import ChordDrill.Catalog.Context
import ChordDrill.Combo.Printer
import ChordDrill.Drill.Event
import ChordDrill.Screen.Paragraph

/-!
# ChordDrill.Screen.Panels

The panel in the middle of the screen: the prompt while the drill runs, the results after it.

* `enteredPart`  — the part of a combo that as many motions as were entered cover.
* `promptPanel`  — the prompted shortcut and the attempt at it.
* `summaryPanel` — the results of a drill.
-/

namespace ChordDrill.Screen

/-- The part of a combo that as many motions as were entered cover. -/
def enteredPart (expected entered : List Motion) : List Motion := expected.take entered.length

/-- A line of one style. -/
def plain (text : String) (style : Style) : Line := [⟨text, style⟩]

/-- A label and motions. -/
def motionsLine (p : Palette) (label : String) (ms : List Motion) (style : Style) : Line :=
  [⟨label, .colored p.dim⟩, ⟨Combo.pretty ms, style⟩]

/-- The lines about the attempt. -/
def attemptLines (p : Palette) (a : Action) (entered : List Motion) :
    Option Attempt.Verdict → List Line
  | some v =>
    let style := (Style.colored (p.verdict v.isMatch)).bolder
    [motionsLine p "Expected: " v.expected style,
     motionsLine p "Entered:  " entered (.colored p.fg),
     [],
     plain (if v.isMatch then "Match" else "Mismatch") style]
  | none =>
    [motionsLine p "Progress: " (enteredPart a.combo entered) (.colored p.pending),
     motionsLine p "Entered:  " entered (.colored p.fg)]

/-- The prompted shortcut and the attempt at it. -/
def promptPanel (p : Palette) (action : Option Action) (entered : List Motion)
    (verdict : Option Attempt.Verdict) : Paragraph :=
  { frame := { style := .colored p.dim, title := " Shortcut " }
    lines :=
      match action with
      | none => [plain "Waiting for the first prompt..." (.colored p.dim)]
      | some a =>
        [plain (Context.pretty a.context) (.colored p.dim),
         plain a.description (Style.colored p.accent).bolder,
         []] ++ attemptLines p a entered verdict }

/-- A failed attempt. -/
def missLine (p : Palette) (a : Action) : Line :=
  [⟨"✗ ", .colored p.mismatched⟩, ⟨a.description, .colored p.fg⟩,
   ⟨"  " ++ Combo.pretty a.combo, .colored p.accent⟩]

/-- The results of a drill. -/
def summaryPanel (p : Palette) (s : Drill.Summary) : Paragraph :=
  { frame := { style := .colored p.accent, title := " Drill complete " }
    lines :=
      [[⟨toString s.matched ++ " matched", .colored p.matched⟩, ⟨" | ", .colored p.dim⟩,
        ⟨toString s.mismatched ++ " mismatched", .colored p.mismatched⟩,
        ⟨" of " ++ toString s.total, .colored p.fg⟩],
       []]
      ++ s.misses.map (fun a => missLine p a.1)
      ++ [[], plain "Press any key to exit" (.colored p.dim)] }

end ChordDrill.Screen
