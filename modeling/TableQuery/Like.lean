/-!
The escaping of LIKE wildcards, so that a searched text stands for itself inside a pattern.
-/

namespace TableQuery.Like

-- `%` is any run of characters in a pattern and `_` any one; the escape character takes the
-- meaning away from the character after it.
def isSpecial (esc c : Char) : Bool :=
  c == '%' || c == '_' || c == esc

def escapeChars (esc : Char) (cs : List Char) : List Char :=
  cs.flatMap fun c => if isSpecial esc c then [esc, c] else [c]

def unescapeChars (esc : Char) : List Char → List Char
  | []      => []
  | c :: cs =>
    if c = esc then
      match cs with
      | []      => []
      | d :: ds => d :: unescapeChars esc ds
    else c :: unescapeChars esc cs

-- The pattern that matches `text` and nothing else.
def escape (text : String) (esc : Char) : String :=
  .ofList (escapeChars esc text.toList)

-- Drops each escape character and keeps the character after it, if any.
def unescape (text : String) (esc : Char) : String :=
  .ofList (unescapeChars esc text.toList)

theorem escapeChars_cons (esc c : Char) (cs : List Char) :
    escapeChars esc (c :: cs) =
      (if isSpecial esc c then [esc, c] else [c]) ++ escapeChars esc cs :=
  rfl

theorem unescapeChars_cons_of_ne {esc c : Char} (h : c ≠ esc) (cs : List Char) :
    unescapeChars esc (c :: cs) = c :: unescapeChars esc cs := by
  cases cs <;> simp [unescapeChars, h]

theorem unescapeChars_escapeChars (esc : Char) (cs : List Char) :
    unescapeChars esc (escapeChars esc cs) = cs := by
  induction cs
  case nil          => rfl
  case cons c cs ih =>
    rw [escapeChars_cons]
    split
    case isTrue    => simp [unescapeChars, ih]
    case isFalse h =>
      have he : c ≠ esc := by simp_all [isSpecial]
      exact (unescapeChars_cons_of_ne he _).trans (congrArg _ ih)

@[simp]
theorem unescape_escape (text : String) (esc : Char) : unescape (escape text esc) esc = text := by
  simp [unescape, escape, unescapeChars_escapeChars]

end TableQuery.Like
