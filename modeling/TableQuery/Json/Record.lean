import TableQuery.Json.Decode

/-!
Records in JSON. A record is an object with the fields in any order, each at most once, other
members being passed over; or an array of the fields in their order, without any beyond the last.
-/

namespace TableQuery.Json

-- A field of the record `σ`: its name, how its value is put into the record, and whether it may be
-- missing from an object and from the end of an array.
structure Field (σ : Type) where
  name     : String
  put      : σ → Json → Decoded σ
  optional : Bool
  trailing : Bool

namespace Field

variable {σ : Type}

def required (name : String) (decode : Json → Decoded α) (set : σ → α → σ) : Field σ where
  name
  put r j  := return set r (← decode j)
  optional := false
  trailing := false

def optionally (name : String) (decode : Json → Decoded α) (set : σ → α → σ) : Field σ where
  name
  put r j  := return set r (← decode j)
  optional := true
  trailing := true

end Field

variable {σ : Type} (fields : List (Field σ))

def readMembers (seen : List String) (r : σ) : List (String × Json) → Decoded σ
  | []              =>
    if fields.all fun f => f.optional || seen.contains f.name then .ok r else .error .unfit
  | (name, j) :: ms =>
    match fields.find? (·.name == name) with
    | none   => do
      j.skip
      readMembers seen r ms
    | some f =>
      if seen.contains name then .error .unfit
      else do readMembers (name :: seen) (← f.put r j) ms

def readRow (r : σ) : List (Field σ) → List Json → Decoded σ
  | [], []           => .ok r
  | [], _ :: _       => .error .unfit
  | f :: fs, []      => if f.trailing then readRow r fs [] else .error .unfit
  | f :: fs, j :: js => do readRow (← f.put r j) fs js

-- Reads the fields into `r`, which keeps its own value where a field is missing.
def asRecord (r : σ) : Json → Decoded σ
  | object members => readMembers fields [] r members
  | array items    => readRow r fields items
  | _              => .error .unfit

end TableQuery.Json
