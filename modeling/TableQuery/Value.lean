import TableQuery.Calendar.Timestamp
import TableQuery.Json.Decode
import TableQuery.Uuid

/-!
The values that a query's parameters are bound to. In JSON a value is its kind as a name, with
what it holds.
-/

namespace TableQuery

inductive Value
  | int (n : Int64)
  | uint (n : UInt64)
  | float (x : Double)
  | string (s : String)
  | boolean (b : Bool)
  | json (j : Json)
  | uuid (u : Uuid)
  | date (d : Calendar.Date)
  | timestamp (t : Calendar.Timestamp)
  | null

namespace Value

def ofOption (f : α → Value) : Option α → Value
  | some a => f a
  | none   => null

-- The text of a value that is a text, directly or as a document.
def asString? : Value → Option String
  | string s         => some s
  | json (.string s) => some s
  | _                => none

def toJson : Value → Json
  | int n       => .object [("Int", .int n.toInt)]
  | uint n      => .object [("Uint", .int n.toNat)]
  | float x     => .object [("Float", .string x.hex)]
  | string s    => .object [("String", .string s)]
  | boolean b   => .object [("Boolean", .bool b)]
  | json j      => .object [("Json", j)]
  | uuid u      => .object [("Uuid", .string u.text)]
  | date d      => .object [("Date", .string d.text)]
  | timestamp t => .object [("Timestamp", .string t.text)]
  | null        => .string "Null"

def asRead (read? : String → Option α) (j : Json) : Decoded α := do
  match read? (← j.asString) with
  | some a => .ok a
  | none   => .error .unfit

def ofJson : Json → Decoded Value
  | .string "Null"     => .ok null
  | .object [(kind, j)] =>
    match kind with
    | "Int"       => int <$> j.asLong
    | "Uint"      => uint <$> j.asWord
    | "Float"     => float <$> j.asDouble
    | "String"    => string <$> j.asString
    | "Boolean"   => boolean <$> j.asBool
    | "Json"      => json <$> j.asAny 1
    | "Uuid"      => uuid <$> asRead Uuid.read? j
    | "Date"      => date <$> asRead Calendar.Date.read? j
    | "Timestamp" => timestamp <$> asRead Calendar.Timestamp.read? j
    | "Null"      => match j with
      | .null => .ok null
      | _     => .error .unfit
    | _           => .error .unfit
  | _ => .error .unfit

end Value

end TableQuery
