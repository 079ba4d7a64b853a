import TableQuery.Json.Record

/-!
What is known of the entity at the root of a query.
-/

namespace TableQuery

@[ext]
structure Entity where
  name          : String
  relationships : List String := [] -- the fields that lead to one other entity
  isEntity      : Bool := true
deriving DecidableEq

namespace Entity

def withRelationship (e : Entity) (field : String) : Entity :=
  if e.relationships.contains field then e
  else { e with relationships := e.relationships ++ [field] }

def isRelationship (e : Entity) (field : String) : Bool :=
  e.relationships.contains field

def toJson (e : Entity) : Json :=
  .object [
    ("name", .string e.name),
    ("relationships", .ofStrings e.relationships),
    ("entity", .bool e.isEntity)]

def fields : List (Json.Field Entity) := [
  .required "name" Json.asString fun e name => { e with name },
  .optionally "relationships" (Json.asList Json.asString) fun e relationships =>
    { e with relationships },
  .optionally "entity" Json.asBool fun e isEntity => { e with isEntity }]

def ofJson : Json → Decoded Entity :=
  Json.asRecord fields { name := "" }

end Entity

end TableQuery
