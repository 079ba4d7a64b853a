/-!
Word characters: what the names of entities, fields and relationships are written with.
-/

namespace TableQuery.Text

-- An ASCII letter, an ASCII digit or an underscore.
def isWord (c : Char) : Bool :=
  c.isAlphanum || c == '_'

-- Whether a name goes on at the head of the text.
def startsWord : List Char → Bool
  | [] => false
  | c :: _ => isWord c

end TableQuery.Text
