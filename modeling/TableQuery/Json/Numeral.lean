import TableQuery.Json.Basic
import TableQuery.Text.Digits

/-!
Number literals of JSON: their digits, and the numbers they stand for. A literal without fraction
and exponent is an integer where it fits 64 bits; any other number is a double.
-/

namespace TableQuery.Json

structure Numeral where
  negative : Bool
  whole    : List Char
  fraction : List Char                 -- empty if there is no point
  exponent : Option (Bool × List Char) -- whether it is negative, and its digits

namespace Numeral

-- The digits in front, at least one of them, and what follows.
def readDigits (cs : List Char) : Option (List Char × List Char) :=
  if (cs.takeWhile Char.isDigit).isEmpty then none
  else some (cs.takeWhile Char.isDigit, cs.dropWhile Char.isDigit)

-- A number does not start with a zero unless that is its whole part.
def readWhole (cs : List Char) : Option (List Char × List Char) := do
  let (ds, rest) ← readDigits cs
  if ds.head? = some '0' && ds.length ≠ 1 then none else some (ds, rest)

def readFraction : List Char → Option (List Char × List Char)
  | '.' :: cs => readDigits cs
  | cs        => some ([], cs)

def readExponent : List Char → Option (Option (Bool × List Char) × List Char)
  | c :: cs =>
    if c = 'e' || c = 'E' then
      let (negative, cs) := match cs with
        | '+' :: r => (false, r)
        | '-' :: r => (true, r)
        | r        => (false, r)
      (readDigits cs).map fun (ds, rest) => (some (negative, ds), rest)
    else some (none, c :: cs)
  | [] => some (none, [])

-- The literal at the head of the text, and what follows it.
def read (cs : List Char) : Option (Numeral × List Char) := do
  let (negative, cs) := match cs with
    | '-' :: r => (true, r)
    | r        => (false, r)
  let (whole, cs) ← readWhole cs
  let (fraction, cs) ← readFraction cs
  let (exponent, cs) ← readExponent cs
  return ({ negative, whole, fraction, exponent }, cs)

theorem length_readDigits {cs ds rest : List Char} (h : readDigits cs = some (ds, rest)) :
    rest.length < cs.length := by
  unfold readDigits at h
  split at h
  case isTrue => contradiction
  case isFalse hne =>
    simp only [List.isEmpty_iff] at hne
    have hs := congrArg List.length (cs.takeWhile_append_dropWhile (p := Char.isDigit))
    have hpos := List.length_pos_iff.mpr hne
    simp only [Option.some.injEq, Prod.mk.injEq] at h
    simp only [List.length_append] at hs
    rw [← h.right]
    omega

theorem length_readWhole {cs ds rest : List Char} (h : readWhole cs = some (ds, rest)) :
    rest.length < cs.length := by
  simp only [readWhole, Option.bind_eq_bind, Option.bind_eq_some_iff] at h
  obtain ⟨⟨ds', rest'⟩, hd, h⟩ := h
  split at h
  case isTrue => contradiction
  case isFalse =>
    simp only [Option.some.injEq, Prod.mk.injEq] at h
    exact h.right ▸ length_readDigits hd

theorem length_readFraction {cs ds rest : List Char} (h : readFraction cs = some (ds, rest)) :
    rest.length ≤ cs.length := by
  unfold readFraction at h
  split at h
  case h_1 => exact Nat.le_of_lt (Nat.lt_succ_of_lt (length_readDigits h))
  case h_2 =>
    simp only [Option.some.injEq, Prod.mk.injEq] at h
    exact h.right ▸ Nat.le_refl _

theorem length_readExponent {cs rest : List Char} (h : readExponent cs = some (e, rest)) :
    rest.length ≤ cs.length := by
  unfold readExponent at h
  split at h
  case h_2 => simp_all
  case h_1 c cs =>
    split at h
    case isFalse => simp_all
    case isTrue =>
      simp only [Option.map_eq_some_iff] at h
      obtain ⟨⟨ds, rest'⟩, hd, h⟩ := h
      have hd := length_readDigits hd
      simp only [Prod.mk.injEq] at h
      rw [← h.right]
      split at hd <;> simp only [List.length_cons] at hd ⊢ <;> omega

theorem length_read {cs rest : List Char} (h : read cs = some (n, rest)) :
    rest.length < cs.length := by
  simp only [read, Option.bind_eq_bind, Option.bind_eq_some_iff] at h
  obtain ⟨⟨whole, cs₁⟩, hw, ⟨fraction, cs₂⟩, hf, ⟨exponent, cs₃⟩, he, h⟩ := h
  have hw := length_readWhole hw
  have hf : cs₂.length ≤ cs₁.length := length_readFraction hf
  have he : cs₃.length ≤ cs₂.length := length_readExponent he
  simp only [Option.pure_def, Option.some.injEq, Prod.mk.injEq] at h
  rw [← h.right]
  split at hw <;> simp only [List.length_cons] at hw ⊢ <;> omega

def digit (c : Char) : Nat :=
  c.toNat - '0'.toNat

-- The digits of the whole part as long as they fit 64 bits, and how many did not.
def wholeSignificand : List Char → Nat × Nat :=
  List.foldl (fun (n, dropped) d =>
    if dropped = 0 && n * 10 + digit d < wordBound then (n * 10 + digit d, 0) else (n, dropped + 1))
    (0, 0)

-- Takes in the digits of the fraction up to the first that does not fit, counting them.
def addFraction (n : Nat) (places : Nat) : List Char → Nat × Nat
  | []      => (n, places)
  | d :: ds =>
    if n * 10 + digit d < wordBound then addFraction (n * 10 + digit d) (places + 1) ds
    else (n, places)

def powerOfTen (k : Nat) : Float :=
  Float.ofScientific 1 false k

-- Division by a power of ten, in steps that are doubles themselves.
def scaleDown (x : Float) (k : Nat) : Float :=
  if k ≤ 308 then x / powerOfTen k
  else if x == 0 then x
  else scaleDown (x / powerOfTen 308) (k - 308)
termination_by k
decreasing_by omega

-- `x * 10 ^ e`, if that is finite.
def scale (x : Float) : Int → Option Float
  | .negSucc k => some (scaleDown x (k + 1))
  | .ofNat k   =>
    if k ≤ 308 then
      let y := x * powerOfTen k
      if y.isInf then none else some y
    else if x == 0 then some x
    else none

def double? (n : Numeral) : Option Double :=
  let (whole, dropped) := wholeSignificand n.whole
  let (significand, places) := addFraction whole 0 n.fraction
  let exponent : Int := match n.exponent with
    | none             => 0
    | some (false, ds) => Text.natural ds
    | some (true, ds)  => -(Text.natural ds : Int)
  (scale (UInt64.ofNat significand).toFloat (dropped - places + exponent)).map fun x =>
    .ofFloat (if n.negative then -x else x)

-- What the literal stands for. Zero with a sign is no integer.
def toJson (n : Numeral) : Json :=
  let whole := Text.natural n.whole
  if n.fraction.isEmpty && n.exponent.isNone && !n.negative && whole < wordBound then
    int whole
  else if n.fraction.isEmpty && n.exponent.isNone && n.negative && 0 < whole
      && whole ≤ longBound then
    int (-whole)
  else match n.double? with
    | some x => float x
    | none   => flaw .unreadable

end Numeral

end TableQuery.Json
