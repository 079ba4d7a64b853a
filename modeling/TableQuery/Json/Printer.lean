import TableQuery.Json.Basic

/-!
Writing documents, without gaps.
-/

namespace TableQuery.Json

def hexPair (n : Nat) : List Char :=
  [Nat.digitChar (n / 16), Nat.digitChar (n % 16)]

-- What stands behind the backslash for a character that has a short escape.
def mnemonic? (c : Char) : Option Char :=
  match c with
  | '"' | '\\' => some c
  | '\x08'     => some 'b'
  | '\x0c'     => some 'f'
  | '\n'       => some 'n'
  | '\x0d'     => some 'r'
  | '\t'       => some 't'
  | _          => none

-- Quotes, backslashes and control characters are escaped, all other characters stand as they are.
def escapeChar (c : Char) : List Char :=
  match mnemonic? c with
  | some d => ['\\', d]
  | none   =>
    if c.toNat < 0x20 then ['\\', 'u', '0', '0'] ++ hexPair c.toNat
    else [c]

def quoted (s : String) : List Char :=
  '"' :: s.toList.flatMap escapeChar ++ ['"']

-- A torn place is written as nothing at all, so that it reads back as torn.
mutual

def chars : Json → List Char
  | null           => "null".toList
  | bool true      => "true".toList
  | bool false     => "false".toList
  | int n          => (toString n).toList
  | float x        => x.decimal.toList
  | string s       => quoted s
  | array items    => '[' :: charsOfItems items ++ [']']
  | object members => '\x7b' :: charsOfMembers members ++ ['\x7d']
  | flaw _         => []

def charsOfItems : List Json → List Char
  | []           => []
  | [j]          => j.chars
  | j :: k :: js => j.chars ++ ',' :: charsOfItems (k :: js)

def charsOfMembers : List (String × Json) → List Char
  | []                => []
  | [(name, j)]       => quoted name ++ ':' :: j.chars
  | (name, j) :: m :: ms => quoted name ++ ':' :: j.chars ++ ',' :: charsOfMembers (m :: ms)

end

def text (j : Json) : String :=
  .ofList j.chars

end TableQuery.Json
