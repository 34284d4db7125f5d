import ChordDrill.Key

/-!
# ChordDrill.Key.Keycode

Key codes of the windowing system, by name, and the keys they stand for.
-/

namespace ChordDrill.Key

/-- Every key code name with a key of the vocabulary. -/
def keycodes : List (String × Key) :=
  [("Escape", .esc), ("Key0", .digit0), ("Key1", .digit1), ("Key2", .digit2),
   ("Key3", .digit3), ("Key4", .digit4), ("Key5", .digit5), ("Key6", .digit6),
   ("Key7", .digit7), ("Key8", .digit8), ("Key9", .digit9), ("Minus", .minus),
   ("Equal", .equal), ("Backspace", .backspace), ("Tab", .tab), ("A", .letterA),
   ("B", .letterB), ("C", .letterC), ("D", .letterD), ("E", .letterE), ("F", .letterF),
   ("G", .letterG), ("H", .letterH), ("I", .letterI), ("J", .letterJ), ("K", .letterK),
   ("L", .letterL), ("M", .letterM), ("N", .letterN), ("O", .letterO), ("P", .letterP),
   ("Q", .letterQ), ("R", .letterR), ("S", .letterS), ("T", .letterT), ("U", .letterU),
   ("V", .letterV), ("W", .letterW), ("X", .letterX), ("Y", .letterY), ("Z", .letterZ),
   ("LeftBracket", .leftBracket), ("RightBracket", .rightBracket), ("Enter", .enter),
   ("LControl", .ctrl), ("RControl", .ctrl), ("LShift", .shift), ("RShift", .shift),
   ("LAlt", .alt), ("RAlt", .alt), ("LMeta", .super), ("RMeta", .super),
   ("Semicolon", .semicolon), ("Apostrophe", .apostrophe), ("Grave", .grave),
   ("BackSlash", .backslash), ("Comma", .comma), ("Dot", .period), ("Slash", .slash),
   ("Space", .space), ("CapsLock", .capsLock), ("F1", .f1), ("F2", .f2), ("F3", .f3),
   ("F4", .f4), ("F5", .f5), ("F6", .f6), ("F7", .f7), ("F8", .f8), ("F9", .f9), ("F10", .f10),
   ("F11", .f11), ("F12", .f12), ("Home", .home), ("Up", .up), ("PageUp", .pageUp),
   ("Left", .left), ("Right", .right), ("End", .endKey), ("Down", .down),
   ("PageDown", .pageDown), ("Insert", .insert), ("Delete", .delete)]

/-- The key that the key code of this name stands for, if it is in the vocabulary. -/
def ofKeycode? (name : String) : Option Key := keycodes.lookup name

end ChordDrill.Key
