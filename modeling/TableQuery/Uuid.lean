import TableQuery.Text.Digits

/-!
Universally unique identifiers.
-/

namespace TableQuery

structure Uuid where
  value : BitVec 128
deriving DecidableEq

namespace Uuid

def ofDigits? (cs : List Char) : Option Uuid := do
  let ds ← cs.mapM Text.hexDigit?
  if ds.length = 32 then some ⟨.ofNat 128 (ds.foldl (fun n d => n * 16 + d) 0)⟩ else none

-- Five groups of 8, 4, 4, 4 and 12 digits with hyphens between them.
def ofGroups? (cs : List Char) : Option Uuid :=
  if cs.length = 36 ∧ [8, 13, 18, 23].all (cs[·]? == some '-') then
    ofDigits? (cs.filter (· != '-'))
  else none

-- Groups, also in braces or after `urn:uuid:` in letters of either case; or the digits alone.
def read? (s : String) : Option Uuid :=
  let cs := s.toList
  if cs.length = 32 then ofDigits? cs
  else if cs.length = 38 ∧ cs.head? = some '\x7b' ∧ cs.getLast? = some '\x7d' then
    ofGroups? cs.tail.dropLast
  else if (cs.take 9).map Char.toLower = "urn:uuid:".toList then ofGroups? (cs.drop 9)
  else ofGroups? cs

def text (u : Uuid) : String :=
  let digits := Text.padded 32 (Nat.toDigits 16 u.value.toNat)
  let group (start count : Nat) := String.ofList ((digits.drop start).take count)
  group 0 8 ++ "-" ++ group 8 4 ++ "-" ++ group 12 4 ++ "-" ++ group 16 4 ++ "-" ++ group 20 12

end Uuid

end TableQuery
