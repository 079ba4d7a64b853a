import TableQuery.Text.Ranges

/-!
Blank characters, blank texts, and texts without the blanks at their ends.
-/

namespace TableQuery.Text

-- The code points with the White_Space property.
def blankRanges : Ranges := [
  (0x9, 0xd), (0x20, 0x20), (0x85, 0x85), (0xa0, 0xa0), (0x1680, 0x1680), (0x2000, 0x200a),
  (0x2028, 0x2029), (0x202f, 0x202f), (0x205f, 0x205f), (0x3000, 0x3000)]

def isBlank (c : Char) : Bool :=
  blankRanges.has c

-- A text without a character that is not blank.
def blank (s : String) : Bool :=
  s.toList.all isBlank

def trim (s : String) : String :=
  .ofList ((s.toList.dropWhile isBlank).reverse.dropWhile isBlank).reverse

end TableQuery.Text
