import TableQuery.Descriptor.Parser
import TableQuery.Search

/-!
Columns: a descriptor with what the client and the caller say about it. The descriptor is parsed
once, when the column is made.
-/

namespace TableQuery

-- The fields of a multi-field column are formatted one by one: there is a slot for each of them in
-- `formats`, which holds the pattern if one is set.
inductive Layout
  | empty
  | single (path : FieldPath)
  | multi (paths : List FieldPath) (delimiters : List String) (formats : List (Option String))
deriving DecidableEq

-- A field of a multi-field column, with the pattern it is formatted by.
structure SubField where
  path   : FieldPath
  format : Option String

def SubField.zip (paths : List FieldPath) (slots : List (Option String)) : List SubField :=
  List.zipWith mk paths slots

namespace Layout

def ofDescriptor (d : Descriptor) : Layout :=
  match d.paths with
  | []  => empty
  | [p] => single p
  | ps  => multi ps d.delimiters (List.replicate ps.length none)

-- The paths of the fields. Among several, only a path with a slot makes a field.
def paths : Layout → List FieldPath
  | empty            => []
  | single path      => [path]
  | multi ps _ slots => (SubField.zip ps slots).map (·.path)

end Layout

inductive ColumnError
  | multiField (descriptor : String)
  | notMultiField (descriptor : String)
  | noRelationship (descriptor : String)
  | subColumnOutOfRange (descriptor : String) (index count : Nat)
deriving DecidableEq

def ColumnError.message : ColumnError → String
  | multiField d     => "Column '" ++ d ++ "' is a multi-field column."
  | notMultiField d  => "Column '" ++ d ++ "' is not a multi-field column."
  | noRelationship d => "Column '" ++ d ++ "' has no relationship."
  | subColumnOutOfRange d index count =>
    "Column '" ++ d ++ "' has " ++ toString count ++ " sub-columns, index "
      ++ toString index ++ " is out of range."

@[ext]
structure Column where
  data       : String
  name       : String
  searchable : Bool
  orderable  : Bool
  search     : Search
  format     : Option String
  layout     : Layout
deriving DecidableEq

namespace Column

def ofDescriptor (data : String) (searched : String) : Column where
  data
  name       := ""
  searchable := true
  orderable  := true
  search     := { value := searched }
  format     := none
  layout     := .ofDescriptor (.parse data)

variable (c : Column)

def isEmpty : Bool :=
  match c.layout with
  | .empty => true
  | _      => false

def isMultiField : Bool :=
  match c.layout with
  | .multi .. => true
  | _         => false

def fieldNames : List String :=
  match c.layout with
  | .empty        => []
  | .single p     => [p.name]
  | .multi ps _ _ => ps.map (·.name)

def delimiters : List String :=
  match c.layout with
  | .multi _ ds _ => ds
  | _             => []

-- The questions below are about a column with one field or none.

def fieldPath : Except ColumnError (Option FieldPath) :=
  match c.layout with
  | .empty    => .ok none
  | .single p => .ok (some p)
  | .multi .. => .error (.multiField c.data)

def hasRelationship : Except ColumnError Bool := do
  return (← c.fieldPath).any (·.hasRelationship)

def isNullable : Except ColumnError Bool := do
  return (← c.fieldPath).any (·.isNullable)

def base : Except ColumnError String := do
  match (← c.fieldPath).bind (·.base?) with
  | some base => .ok base
  | none      => .error (.noRelationship c.data)

-- A sub-column takes over the flags and the search of its column, but not the format.
def ofSubField (f : SubField) : Column where
  data       := f.path.display
  name       := ""
  searchable := c.searchable
  orderable  := c.orderable
  search     := c.search
  format     := f.format
  layout     := .single f.path

-- A multi-field column split into one column for each field.
def subColumns : Except ColumnError (List Column) :=
  match c.layout with
  | .multi ps _ slots => .ok ((SubField.zip ps slots).map c.ofSubField)
  | _                 => .error (.notMultiField c.data)

-- Fills the slot under `index`, if there is one. With the column as it is then comes whether that
-- was done.
def setSubFormat (index : Nat) (format : Option String) : Column × Except ColumnError Unit :=
  match c.layout with
  | .multi ps ds slots =>
    if index < slots.length then
      ({ c with layout := .multi ps ds (slots.set index format) }, .ok ())
    else (c, .error (.subColumnOutOfRange c.data index slots.length))
  | _                  => (c, .error (.notMultiField c.data))

end Column

end TableQuery
