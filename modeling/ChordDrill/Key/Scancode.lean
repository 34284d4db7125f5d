import ChordDrill.Key

/-!
# ChordDrill.Key.Scancode

Kernel scancodes and the keys they stand for. The left and the right variant of a modifier, and
the enter key of the number pad, collapse onto one key.
-/

namespace ChordDrill

/-- A key code as the kernel reports it. -/
abbrev Scancode := UInt16

namespace Key

/-- Every scancode with a key of the vocabulary. -/
def scancodes : List (Scancode × Key) :=
  [(1, .esc), (2, .digit1), (3, .digit2), (4, .digit3), (5, .digit4), (6, .digit5),
   (7, .digit6), (8, .digit7), (9, .digit8), (10, .digit9), (11, .digit0), (12, .minus),
   (13, .equal), (14, .backspace), (15, .tab), (16, .letterQ), (17, .letterW), (18, .letterE),
   (19, .letterR), (20, .letterT), (21, .letterY), (22, .letterU), (23, .letterI),
   (24, .letterO), (25, .letterP), (26, .leftBracket), (27, .rightBracket), (28, .enter),
   (96, .enter), (29, .ctrl), (97, .ctrl), (30, .letterA), (31, .letterS), (32, .letterD),
   (33, .letterF), (34, .letterG), (35, .letterH), (36, .letterJ), (37, .letterK),
   (38, .letterL), (39, .semicolon), (40, .apostrophe), (41, .grave), (42, .shift),
   (54, .shift), (43, .backslash), (44, .letterZ), (45, .letterX), (46, .letterC),
   (47, .letterV), (48, .letterB), (49, .letterN), (50, .letterM), (51, .comma), (52, .period),
   (53, .slash), (56, .alt), (100, .alt), (57, .space), (58, .capsLock), (59, .f1), (60, .f2),
   (61, .f3), (62, .f4), (63, .f5), (64, .f6), (65, .f7), (66, .f8), (67, .f9), (68, .f10),
   (87, .f11), (88, .f12), (102, .home), (103, .up), (104, .pageUp), (105, .left),
   (106, .right), (107, .endKey), (108, .down), (109, .pageDown), (110, .insert),
   (111, .delete), (125, .super), (126, .super)]

/-- The key a scancode stands for, if it is in the vocabulary. -/
def ofScancode? (code : Scancode) : Option Key := scancodes.lookup code

end Key

end ChordDrill
