import TableQuery.Json.Record

/-!
What a client searches for, in the whole table or in one column. A search always looks for the text
as it is; `regex` is only kept for the client.
-/

namespace TableQuery

@[ext]
structure Search where
  value : String := ""
  regex : Bool := false
deriving DecidableEq

namespace Search

def isEmpty (s : Search) : Bool :=
  s.value.isEmpty

def toJson (s : Search) : Json :=
  .object [("value", .string s.value), ("regex", .bool s.regex)]

def fields : List (Json.Field Search) := [
  .optionally "value" Json.asString fun s value => { s with value },
  .optionally "regex" Json.asBool fun s regex => { s with regex }]

def ofJson : Json → Decoded Search :=
  Json.asRecord fields {}

end Search

end TableQuery
