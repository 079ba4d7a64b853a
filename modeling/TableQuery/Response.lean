import TableQuery.Json.Record

/-!
The envelope that answers a request. If something failed it carries the failure, no rows and no
counts.
-/

namespace TableQuery

structure Response (α : Type) where
  draw            : UInt64
  recordsTotal    : Nat
  recordsFiltered : Nat
  data            : List α
  error           : Option String

namespace Response

def ofRows (draw : UInt64) (recordsTotal recordsFiltered : Nat) (data : List α) : Response α where
  draw
  recordsTotal
  recordsFiltered
  data
  error := none

def failed (draw : UInt64) (message : String) : Response α where
  draw
  recordsTotal    := 0
  recordsFiltered := 0
  data            := []
  error           := some message

def isError (r : Response α) : Bool :=
  r.error.isSome

def toJson (row : α → Json) (r : Response α) : Json :=
  .object [
    ("draw", .int r.draw.toNat),
    ("recordsTotal", .int r.recordsTotal),
    ("recordsFiltered", .int r.recordsFiltered),
    ("data", .array (r.data.map row)),
    ("error", Json.ofOption .string r.error)]

def fields (row : Json → Decoded α) : List (Json.Field (Response α)) := [
  .required "draw" Json.asWord fun r draw => { r with draw },
  .required "recordsTotal" Json.asWord fun r n => { r with recordsTotal := n.toNat },
  .required "recordsFiltered" Json.asWord fun r n => { r with recordsFiltered := n.toNat },
  .required "data" (Json.asList row) fun r data => { r with data },
  -- An object may leave it out, an array may not.
  { Json.Field.required "error" (Json.asOption Json.asString) (fun r error => { r with error }) with
    optional := true }]

def ofJson (row : Json → Decoded α) : Json → Decoded (Response α) :=
  Json.asRecord (fields row) (ofRows 0 0 0 [])

end Response

end TableQuery
