import TableQuery.Json.Token

/-!
Reading documents. The reader takes one token after the other and keeps the arrays and objects
that are still open; where the text goes wrong, each of them is closed over what has been read and
the place of the fault is marked as torn.
-/

namespace TableQuery.Json

-- An array or an object that is still open, with its last part first. In an object, `name` is the
-- name whose value comes next, if that name has been read.
inductive Frame
  | array (items : List Json)
  | object (members : List (String × Json)) (name : Option (Option String))

-- What the innermost open frame waits for.
inductive Want
  | value
  | valueOrClose
  | name
  | nameOrClose
  | colon
  | separator
deriving DecidableEq

inductive Reader
  | inside (frames : List Frame) (want : Want)
  | whole (j : Json)    -- a document
  | overrun (j : Json)  -- a document with something after it
  | broken (j : Json)   -- what there is of a document

def member (name : Option (Option String)) (value : Json) : String × Json :=
  match name with
  | some (some s) => (s, value)
  | some none     => ("", if value.hasFlaw (· == .torn) then value else .flaw .unnamed)
  | none          => ("", value)

def Frame.close (value : Json) : Frame → Json
  | array items         => .array (value :: items).reverse
  | object members name => .object (member name value :: members).reverse

-- What has been read, with every frame closed over a mark of the fault.
def closeTorn (frames : List Frame) : Json :=
  frames.foldl Frame.close (.flaw .torn)

namespace Reader

-- Puts a value into the innermost open frame.
def put (value : Json) : List Frame → Reader
  | []                         => whole value
  | .array items :: fs         => inside (.array (value :: items) :: fs) .separator
  | .object members name :: fs =>
    inside (.object (member name value :: members) none :: fs) .separator

def tear (frames : List Frame) : Reader :=
  broken (closeTorn frames)

def step : Reader → Token → Reader
  | inside fs .value, t        => value fs t
  | inside fs .valueOrClose, t =>
    match t, fs with
    | .closeArray, .array items :: fs => put (.array items.reverse) fs
    | t, fs                           => value fs t
  | inside fs .name, t         => name fs t
  | inside fs .nameOrClose, t  =>
    match t, fs with
    | .closeObject, .object members _ :: fs => put (.object members.reverse) fs
    | t, fs                                 => name fs t
  | inside fs .colon, t        =>
    match t with
    | .colon => inside fs .value
    | _      => tear fs
  | inside fs .separator, t    =>
    match t, fs with
    | .comma, .array _ :: _                 => inside fs .value
    | .comma, .object _ _ :: _              => inside fs .name
    | .closeArray, .array items :: fs       => put (.array items.reverse) fs
    | .closeObject, .object members _ :: fs => put (.object members.reverse) fs
    | _, fs                                 => tear fs
  | whole j, _                 => overrun j
  | r, _                       => r
where
  value (fs : List Frame) : Token → Reader
    | .openArray  => inside (.array [] :: fs) .valueOrClose
    | .openObject => inside (.object [] none :: fs) .nameOrClose
    | .text s     => put (s.elim (.flaw .unreadable) .string) fs
    | .scalar j   => put j fs
    | _           => tear fs
  name (fs : List Frame) (t : Token) : Reader :=
    match t, fs with
    | .text s, .object members _ :: fs => inside (.object members (some s) :: fs) .colon
    | _, fs                            => tear fs

end Reader

-- A text read as one document.
structure Document where
  tree   : Json
  closed : Bool -- nothing but gaps follows

def Document.read (text : String) : Document :=
  match (tokens text.toList).foldl Reader.step (.inside [] .value) with
  | .whole j     => ⟨j, true⟩
  | .overrun j   => ⟨j, false⟩
  | .broken j    => ⟨j, true⟩
  | .inside fs _ => ⟨closeTorn fs, true⟩

end TableQuery.Json
