import TableQuery.Column.Basic

/-!
Columns in JSON. Formats are not part of that form: they are the caller's, not the client's.
-/

namespace TableQuery.Column

-- The form in which columns are sent.
structure Draft where
  data       : Option String := none
  name       : String := ""
  searchable : Bool := true
  orderable  : Bool := true
  search     : Search := {}

def ofDraft (d : Draft) : Column :=
  { ofDescriptor (d.data.getD "") "" with
    name       := d.name
    searchable := d.searchable
    orderable  := d.orderable
    search     := d.search }

def toJson (c : Column) : Json :=
  .object [
    ("data", .string c.data),
    ("name", .string c.name),
    ("searchable", .bool c.searchable),
    ("orderable", .bool c.orderable),
    ("search", c.search.toJson)]

def fields : List (Json.Field Draft) := [
  .optionally "data" (Json.asOption Json.asString) fun d data => { d with data },
  .optionally "name" Json.asString fun d name => { d with name },
  .optionally "searchable" Json.asBool fun d searchable => { d with searchable },
  .optionally "orderable" Json.asBool fun d orderable => { d with orderable },
  .optionally "search" Search.ofJson fun d search => { d with search }]

def ofJson (j : Json) : Decoded Column := do
  return ofDraft (← Json.asRecord fields {} j)

end TableQuery.Column
