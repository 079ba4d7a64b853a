import TableQuery.Text.Blank

/-!
Decimal and hexadecimal digits with a fixed number of places.
-/

namespace TableQuery.Text

def natural (ds : List Char) : Nat :=
  ds.foldl (fun n d => n * 10 + (d.toNat - '0'.toNat)) 0

-- The digits of `n` in front of which zeros fill up `width` places.
def padded (width : Nat) (ds : List Char) : List Char :=
  List.replicate (width - ds.length) '0' ++ ds

def decimal (width n : Nat) : String :=
  .ofList (padded width (Nat.toDigits 10 n))

def hexadecimal (width n : Nat) : String :=
  .ofList (padded width (Nat.toDigits 16 n))

def hexDigit? (c : Char) : Option Nat :=
  if '0' ≤ c ∧ c ≤ '9' then some (c.toNat - '0'.toNat)
  else if 'a' ≤ c ∧ c ≤ 'f' then some (c.toNat - 'a'.toNat + 10)
  else if 'A' ≤ c ∧ c ≤ 'F' then some (c.toNat - 'A'.toNat + 10)
  else none

-- A number of at most `width` digits, after any blanks, and what follows it.
def readNumber (width : Nat) (cs : List Char) : Option (Nat × List Char) :=
  let cs := cs.dropWhile isBlank
  let ds := (cs.take width).takeWhile Char.isDigit
  if ds.isEmpty then none else some (natural ds, cs.drop ds.length)

-- What follows the character `mark`, if that comes first after any blanks.
def after (mark : Char) (cs : List Char) : Option (List Char) :=
  match cs.dropWhile isBlank with
  | []      => none
  | c :: cs => if c = mark then some cs else none

end TableQuery.Text
