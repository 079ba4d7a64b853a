import TableQuery.Calendar.Date

/-!
Instants, in universal time. A leap second belongs to the second before it, with a billion
nanoseconds more.
-/

namespace TableQuery.Calendar

structure Timestamp where
  date   : Date
  second : Nat -- of the day
  nano   : Nat
deriving DecidableEq

namespace Timestamp

-- A fraction of a second: nine digits count, further ones are passed over.
def readFraction : List Char → Option (Nat × List Char)
  | '.' :: cs =>
    match cs.takeWhile Char.isDigit with
    | [] => none
    | ds =>
      let ds := ds.take 9
      some (Text.natural ds * Nat.pow 10 (9 - ds.length), cs.dropWhile Char.isDigit)
  | cs        => some (0, cs)

-- The seconds that local time is ahead of universal time.
def readOffset (cs : List Char) : Option (Int × List Char) :=
  match cs with
  | 'Z' :: cs | 'z' :: cs => some (0, cs)
  | '+' :: cs             => readHours 1 cs
  | '-' :: cs             => readHours (-1) cs
  | '−' :: cs             => readHours (-1) cs
  | a :: b :: c :: cs     =>
    if [a, b, c].map Char.toUpper = ['U', 'T', 'C'] then some (0, cs) else none
  | _                     => none
where
  readPair : List Char → Option (Nat × List Char)
    | a :: b :: cs => if a.isDigit && b.isDigit then some (Text.natural [a, b], cs) else none
    | _            => none
  readHours (sign : Int) (cs : List Char) : Option (Int × List Char) := do
    let (hours, cs) ← readPair cs
    let (minutes, cs) ← readPair (cs.dropWhile fun c => c == ':' || Text.isBlank c)
    if 24 ≤ hours || 60 ≤ minutes then none
    else return (sign * (hours * 3600 + minutes * 60 : Nat), cs)

-- The instant at which clocks that are `offset` seconds ahead show `second` on `date`.
def ofLocal? (date : Date) (second : Nat) (nano : Nat) (offset : Int) : Option Timestamp :=
  let universal : Int := second - offset
  if universal < 0 then
    date.previous?.map fun d => ⟨d, (universal + 86400).toNat, nano⟩
  else if universal < 86400 then
    some ⟨date, universal.toNat, nano⟩
  else
    date.next?.map fun d => ⟨d, (universal - 86400).toNat, nano⟩

-- A date and a time of day with a `T` or a single blank between them, and how far the clock is off
-- universal time. Blanks may stand in front of the numbers, the hyphens and colons between them, and
-- the offset.
def read? (s : String) : Option Timestamp := do
  let (date, cs) ← Date.readParts s.toList
  let (hour, cs) ← Text.readNumber 2 (← readSeparator cs)
  let (minute, cs) ← Text.readNumber 2 (← Text.after ':' cs)
  let (second, cs) ← Text.readNumber 2 (← Text.after ':' cs)
  let (nano, cs) ← readFraction cs
  let (offset, cs) ← readOffset (cs.dropWhile Text.isBlank)
  if 24 ≤ hour || 60 ≤ minute || 60 < second || !cs.all Text.isBlank then none
  else if second = 60 then
    ofLocal? date (hour * 3600 + minute * 60 + 59) (1000000000 + nano) offset
  else
    ofLocal? date (hour * 3600 + minute * 60 + second) nano offset
where
  readSeparator : List Char → Option (List Char)
    | c :: cs => if c = 'T' ∨ c = 't' ∨ c = ' ' then some cs else none
    | []      => none

-- The fewest of 0, 3, 6 or 9 digits that are exact.
def fractionText (nano : Nat) : String :=
  if nano = 0 then ""
  else if nano % 1000000 = 0 then "." ++ Text.decimal 3 (nano / 1000000)
  else if nano % 1000 = 0 then "." ++ Text.decimal 6 (nano / 1000)
  else "." ++ Text.decimal 9 nano

def text (t : Timestamp) : String :=
  let second := t.second % 60 + t.nano / 1000000000
  t.date.text ++ "T" ++ Text.decimal 2 (t.second / 3600) ++ ":"
    ++ Text.decimal 2 (t.second / 60 % 60) ++ ":" ++ Text.decimal 2 second
    ++ fractionText (t.nano % 1000000000) ++ "Z"

end Timestamp

end TableQuery.Calendar
