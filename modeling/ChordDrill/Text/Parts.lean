/-!
# ChordDrill.Text.Parts

Texts cut at a character, as paths are at slashes and names at dots.
-/

namespace ChordDrill.Text

/-- What stands between the places of a character, in order; empty parts count. -/
def parts (sep : Char) (s : String) : List String := (s.toList.splitOn sep).map String.ofList

end ChordDrill.Text
