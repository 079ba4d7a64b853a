/-!
What a column's descriptor text says: the fields it names and the text between them.
-/

namespace TableQuery

-- One name of a dotted path; written with a question mark if what it leads to may be missing.
@[ext]
structure Segment where
  name     : String
  nullable : Bool
deriving DecidableEq

def Segment.display (s : Segment) : String :=
  if s.nullable then s.name ++ "?" else s.name

-- A path to a field, such as `child?.data`.
@[ext]
structure FieldPath where
  segments : List Segment
deriving DecidableEq

namespace FieldPath

variable (p : FieldPath)

-- A path with two segments or more leads through a relationship of the root entity.
def hasRelationship : Bool :=
  1 < p.segments.length

def isNullable : Bool :=
  p.segments.any (·.nullable)

-- The relationship that the path goes through first.
def base? : Option String :=
  match p.segments with
  | s :: _ :: _ => some s.name
  | _           => none

-- The path from the related entity on.
def remainder : String :=
  ".".intercalate ((p.segments.drop 1).map (·.name))

-- The path without its question marks.
def name : String :=
  ".".intercalate (p.segments.map (·.name))

def display : String :=
  ".".intercalate (p.segments.map (·.display))

end FieldPath

@[ext]
structure Descriptor where
  paths      : List FieldPath
  delimiters : List String
deriving DecidableEq

namespace Descriptor

def isMultiField (d : Descriptor) : Bool :=
  1 < d.paths.length

end Descriptor

end TableQuery
