import ChordDrill.Text.Range

/-!
# ChordDrill.Text.Blank

The white space characters of Unicode, and the words between them.
-/

namespace ChordDrill.Text

/-- The ranges of the property White_Space. -/
def blankRanges : List Range :=
  [⟨0x09, 0x0D⟩, ⟨0x20, 0x20⟩, ⟨0x85, 0x85⟩, ⟨0xA0, 0xA0⟩, ⟨0x1680, 0x1680⟩, ⟨0x2000, 0x200A⟩,
   ⟨0x2028, 0x2029⟩, ⟨0x202F, 0x202F⟩, ⟨0x205F, 0x205F⟩, ⟨0x3000, 0x3000⟩]

def isBlank (c : Char) : Bool := inRanges blankRanges c

/-- The longest runs of characters that are not white space, in order. -/
def words (cs : List Char) : List (List Char) :=
  (cs.splitBy fun a b => isBlank a == isBlank b).filter fun run => run.any fun c => !isBlank c

end ChordDrill.Text
