import TableQuery.Text.Digits

/-!
Dates of the Gregorian calendar, in the years that 18 bits and a sign hold.
-/

namespace TableQuery.Calendar

def isLeap (year : Int) : Bool :=
  year % 4 == 0 && (year % 100 != 0 || year % 400 == 0)

def daysIn (year : Int) (month : Nat) : Nat :=
  if month = 2 then
    if isLeap year then 29 else 28
  else if month = 4 ∨ month = 6 ∨ month = 9 ∨ month = 11 then 30
  else 31

@[ext]
structure Date where
  year  : Int
  month : Nat
  day   : Nat
  year_bound  : -262143 ≤ year ∧ year ≤ 262142
  month_bound : 1 ≤ month ∧ month ≤ 12
  day_bound   : 1 ≤ day ∧ day ≤ daysIn year month
deriving DecidableEq

namespace Date

def of? (year : Int) (month day : Nat) : Option Date :=
  if h : (-262143 ≤ year ∧ year ≤ 262142) ∧ (1 ≤ month ∧ month ≤ 12)
      ∧ (1 ≤ day ∧ day ≤ daysIn year month) then
    some ⟨year, month, day, h.left, h.right.left, h.right.right⟩
  else none

def next? (d : Date) : Option Date :=
  if d.day < daysIn d.year d.month then of? d.year d.month (d.day + 1)
  else if d.month < 12 then of? d.year (d.month + 1) 1
  else of? (d.year + 1) 1 1

def previous? (d : Date) : Option Date :=
  if 1 < d.day then of? d.year d.month (d.day - 1)
  else if 1 < d.month then of? d.year (d.month - 1) (daysIn d.year (d.month - 1))
  else of? (d.year - 1) 12 31

-- A year with a sign may have any number of digits, one without has at most four.
def readYear (cs : List Char) : Option (Int × List Char) :=
  match cs.dropWhile Text.isBlank with
  | '-' :: cs => readSigned (-1) cs
  | '+' :: cs => readSigned 1 cs
  | cs        => (Text.readNumber 4 cs).map fun (n, rest) => ((n : Int), rest)
where
  readSigned (sign : Int) (cs : List Char) : Option (Int × List Char) :=
    match cs.takeWhile Char.isDigit with
    | [] => none
    | ds => some (sign * Text.natural ds, cs.dropWhile Char.isDigit)

-- A date in front of other text: year, month and day with a hyphen between them. Blanks may stand
-- in front of the numbers and the hyphens.
def readParts (cs : List Char) : Option (Date × List Char) := do
  let (year, cs) ← readYear cs
  let (month, cs) ← Text.readNumber 2 (← Text.after '-' cs)
  let (day, cs) ← Text.readNumber 2 (← Text.after '-' cs)
  return (← of? year month day, cs)

def read? (s : String) : Option Date := do
  let (date, rest) ← readParts s.toList
  if rest.all Text.isBlank then some date else none

-- Years outside four digits carry their sign.
def yearText (year : Int) : String :=
  if year < 0 then "-" ++ Text.decimal 4 year.natAbs
  else if year ≤ 9999 then Text.decimal 4 year.natAbs
  else "+" ++ Text.decimal 4 year.natAbs

def text (d : Date) : String :=
  yearText d.year ++ "-" ++ Text.decimal 2 d.month ++ "-" ++ Text.decimal 2 d.day

end Date

end TableQuery.Calendar
