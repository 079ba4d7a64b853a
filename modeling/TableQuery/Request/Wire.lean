import TableQuery.Column.Wire
import TableQuery.Json.Printer
import TableQuery.Request.Basic

/-!
Requests in JSON. Fields that are missing keep their defaults.
-/

namespace TableQuery.Request

def toJson (r : Request) : Json :=
  .object [
    ("draw", .int r.draw.toNat),
    ("start", .int r.start.toNat),
    ("length", .int r.length.toInt),
    ("search", r.search.toJson),
    ("order", .array (r.order.map (·.toJson))),
    ("columns", .array (r.columns.map (·.toJson)))]

def fields : List (Json.Field Request) := [
  .optionally "draw" Json.asWord fun r draw => { r with draw },
  .optionally "start" Json.asWord fun r start => { r with start },
  .optionally "length" Json.asLong fun r length => { r with length },
  .optionally "search" Search.ofJson fun r search => { r with search },
  .optionally "order" (Json.asList Order.ofJson) fun r order => { r with order },
  .optionally "columns" (Json.asList Column.ofJson) fun r columns => { r with columns }]

def ofJson : Json → Decoded Request :=
  Json.asRecord fields {}

-- Reads a request from the text that a client sends.
def read : String → Decoded Request :=
  Decoded.ofText ofJson

def text (r : Request) : String :=
  r.toJson.text

end TableQuery.Request
