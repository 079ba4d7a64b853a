import TableQuery.Aliases
import TableQuery.Text.Word

/-!
Query fragments that the caller writes. A caller writes a field of a related entity as
`<root>.<relationship>.<field>`; the query has to say `<alias>.<field>`. What stands in quotes is
not looked at.
-/

namespace TableQuery.Fragment

-- A fragment in pieces: single characters, and the references `<root>.<field>.` in it.
inductive Piece
  | char (c : Char)
  | reference (field : List Char)
deriving DecidableEq

-- What follows `start`, if the text starts with it.
def strip? : List Char → List Char → Option (List Char)
  | [], cs           => some cs
  | _ :: _, []       => none
  | s :: start, c :: cs => if s = c then strip? start cs else none

theorem length_strip? {start cs rest : List Char} (h : strip? start cs = some rest) :
    cs.length = start.length + rest.length := by
  fun_induction strip? start cs with
  | case1 cs => simp_all
  | case2 => contradiction
  | case3 start cs c ih => simp only [List.length_cons, ih h]; omega
  | case4 => contradiction

-- The field of the reference at the head of the text, and what follows the reference.
def reference? (root cs : List Char) : Option (List Char × List Char) := do
  let cs ← strip? (root ++ ['.']) cs
  let field := cs.takeWhile Text.isWord
  if field.isEmpty then none
  else return (field, ← strip? ['.'] (cs.dropWhile Text.isWord))

theorem length_reference? {root cs field rest : List Char}
    (h : reference? root cs = some (field, rest)) : rest.length < cs.length := by
  simp only [reference?, Option.bind_eq_bind, Option.bind_eq_some_iff] at h
  obtain ⟨cs', hs, h⟩ := h
  split at h
  case isTrue => contradiction
  case isFalse =>
    simp only [Option.bind_eq_some_iff, Option.pure_def, Option.some.injEq, Prod.mk.injEq] at h
    obtain ⟨rest', hr, _, rfl⟩ := h
    have hs := length_strip? hs
    have hr := length_strip? hr
    have hd := (List.dropWhile_suffix Text.isWord (l := cs')).length_le
    simp only [List.length_append, List.length_cons, List.length_nil] at hs hr
    omega

-- Whether a name may start after the character.
def isBoundary : Option Char → Bool
  | none   => true
  | some c => !Text.isWord c && c != '.'

-- The pieces of a text that goes on after `before`, inside quotes or not.
def piecesFrom (root : List Char) (quoted : Bool) (before : Option Char) :
    List Char → List Piece
  | []      => []
  | c :: cs =>
    if c = '\'' then .char c :: piecesFrom root (!quoted) (some c) cs
    else if !quoted && isBoundary before then
      match _h : reference? root (c :: cs) with
      | some (field, rest) => .reference field :: piecesFrom root quoted (some '.') rest
      | none               => .char c :: piecesFrom root quoted (some c) cs
    else .char c :: piecesFrom root quoted (some c) cs
termination_by cs => cs.length
decreasing_by
  · exact Nat.lt_succ_self _
  · exact length_reference? _h
  · exact Nat.lt_succ_self _
  · exact Nat.lt_succ_self _

def pieces (root fragment : String) : List Piece :=
  piecesFrom root.toList false none fragment.toList

def Piece.field? : Piece → Option String
  | char _          => none
  | reference field => some (.ofList field)

-- The fields that a fragment refers to through the root, each once, as they appear.
def referencedFields (fragment root : String) : List String :=
  ((pieces root fragment).filterMap Piece.field?).eraseDups

def Piece.chars (root : List Char) : Piece → List Char
  | char c          => [c]
  | reference field => root ++ '.' :: field ++ ['.']

variable (aliases : Aliases) (relationships : List String)

-- References to relationships that have an alias are written by it.
def Piece.resolved : Piece → List Char
  | char c          => [c]
  | reference field =>
    let kept := (reference field).chars aliases.rootAlias.toList
    if relationships.contains (.ofList field) then
      match aliases.lookup (.ofList field) with
      | some a => a.toList ++ ['.']
      | none   => kept
    else kept

def resolve (fragment : String) : String :=
  .ofList ((pieces aliases.rootAlias fragment).flatMap (·.resolved aliases relationships))

end TableQuery.Fragment
