import TableQuery.Text.CaseTable

/-!
Lower and upper case of texts. A character may become several; a capital sigma at the end of a
word becomes `ς`, any other `σ`.
-/

namespace TableQuery.Text

def CaseRun.has (r : CaseRun) (n : Nat) : Bool :=
  r.first ≤ n && n ≤ r.last && (n - r.first) % r.step == 0

def shiftCase (runs : List CaseRun) (c : Char) : Char :=
  match runs.find? (·.has c.toNat) with
  | some r => .ofNat (c.toNat + r.shift).toNat
  | none   => c

def lowerChar (c : Char) : List Char :=
  if c.toNat < 0x80 then [c.toLower]
  else if c = 'İ' then ['i', '\u0307']
  else [shiftCase lowerRuns c]

def upperChar (c : Char) : List Char :=
  if c.toNat < 0x80 then [c.toUpper]
  else match upperExpansions.lookup c.toNat with
    | some cs => cs.map .ofNat
    | none    => [shiftCase upperRuns c]

-- Whether a cased character comes first, once the characters that case ignores are passed over.
def meetsCased (cs : List Char) : Bool :=
  match cs.dropWhile caseIgnorableRanges.has with
  | []     => false
  | c :: _ => casedRanges.has c

-- The lower case of `cs`, where `before` holds the characters in front of it, nearest first.
def lowerAfter (before : List Char) : List Char → List Char
  | []      => []
  | c :: cs =>
    let this :=
      if c = 'Σ' then
        if meetsCased before && !meetsCased cs then ['ς'] else ['σ']
      else lowerChar c
    this ++ lowerAfter (c :: before) cs

def lower (s : String) : String :=
  .ofList (lowerAfter [] s.toList)

def upper (s : String) : String :=
  .ofList (s.toList.flatMap upperChar)

end TableQuery.Text
