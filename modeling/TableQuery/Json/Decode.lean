import TableQuery.Json.Reader

/-!
Typed values out of documents. Faults are met in the order of the text, and the first one decides.
-/

namespace TableQuery

-- Why a document is refused: it does not have the form wanted, or it names a sort direction that
-- does not exist.
inductive Fault
  | unfit
  | direction (token : String)
deriving DecidableEq

abbrev Decoded := Except Fault

namespace Json

-- Nested arrays and objects beyond this many are refused where a document of any form is read.
def depthLimit : Nat := 127

def asString : Json → Decoded String
  | string s => .ok s
  | _        => .error .unfit

def asBool : Json → Decoded Bool
  | bool b => .ok b
  | _      => .error .unfit

def asChar (j : Json) : Decoded Char := do
  match (← j.asString).toList with
  | [c] => .ok c
  | _   => .error .unfit

def asWord : Json → Decoded UInt64
  | int n => if 0 ≤ n ∧ n < wordBound then .ok (.ofNat n.toNat) else .error .unfit
  | _     => .error .unfit

def asLong : Json → Decoded Int64
  | int n => if -longBound ≤ n ∧ n < longBound then .ok (.ofInt n) else .error .unfit
  | _     => .error .unfit

def asDouble : Json → Decoded Double
  | int n   => .ok (.ofInt n)
  | float x => .ok x
  | _       => .error .unfit

def asOption (decode : Json → Decoded α) : Json → Decoded (Option α)
  | null => .ok none
  | j    => (decode j).map some

def asList (decode : Json → Decoded α) : Json → Decoded (List α)
  | array items => items.mapM decode
  | _           => .error .unfit

-- A document of any form, inside `around` arrays and objects.
def asAny (around : Nat) (j : Json) : Decoded Json :=
  if j.hasFlaw (fun _ => true) || depthLimit < around + j.depth then .error .unfit
  else .ok j.canonical

-- One of the alternatives, named by a text or by an object with `null` under the name.
def asName (names : List (String × α)) (j : Json) : Decoded α :=
  match j with
  | string s           => choose s
  | object [(s, null)] => choose s
  | _                  => .error .unfit
where
  choose (s : String) : Decoded α :=
    match names.lookup s with
    | some a => .ok a
    | none   => .error .unfit

-- Passes over a value whose form does not matter.
def skip (j : Json) : Decoded Unit :=
  match j with
  | flaw .unnamed => .error .unfit
  | j             => if j.hasFlaw (· == .torn) then .error .unfit else .ok ()

end Json

namespace Decoded

def ofDocument (decode : Json → Decoded α) (document : Json.Document) : Decoded α := do
  let a ← decode document.tree
  if document.closed then .ok a else .error .unfit

-- Decodes a whole text.
def ofText (decode : Json → Decoded α) (text : String) : Decoded α :=
  ofDocument decode (.read text)

end Decoded

end TableQuery
