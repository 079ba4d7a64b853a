import TableQuery.Double

/-!
Documents in JSON, as trees. Members keep the order of the text, repeated names included.
-/

namespace TableQuery

-- What stands in a tree where the text cannot be read:
-- * `torn`: the text is malformed from here on
-- * `unreadable`: well formed, but denotes nothing (half of a surrogate pair, a number out of range)
-- * `unnamed`: the value of a member whose name is unreadable
inductive Json.Flaw
  | torn
  | unreadable
  | unnamed
deriving DecidableEq

inductive Json
  | null
  | bool (b : Bool)
  | int (n : Int)
  | float (x : Double)
  | string (s : String)
  | array (items : List Json)
  | object (members : List (String × Json))
  | flaw (f : Json.Flaw)
deriving Inhabited

namespace Json

-- Integers have 64 bits, with a sign or without.
def wordBound : Nat := 0x10000000000000000
def longBound : Nat := 0x8000000000000000

-- The number of arrays and objects around the innermost value.
mutual

def depth : Json → Nat
  | array items    => depthOfItems items + 1
  | object members => depthOfMembers members + 1
  | _              => 0

def depthOfItems : List Json → Nat
  | []      => 0
  | j :: js => max j.depth (depthOfItems js)

def depthOfMembers : List (String × Json) → Nat
  | []           => 0
  | (_, j) :: ms => max j.depth (depthOfMembers ms)

end

-- Whether a flaw of the kind `p` is somewhere in the tree.
mutual

def hasFlaw (p : Flaw → Bool) : Json → Bool
  | array items    => itemsHaveFlaw p items
  | object members => membersHaveFlaw p members
  | flaw f         => p f
  | _              => false

def itemsHaveFlaw (p : Flaw → Bool) : List Json → Bool
  | []      => false
  | j :: js => j.hasFlaw p || itemsHaveFlaw p js

def membersHaveFlaw (p : Flaw → Bool) : List (String × Json) → Bool
  | []           => false
  | (_, j) :: ms => j.hasFlaw p || membersHaveFlaw p ms

end

-- Puts a member among members in the order of their names, in the place of one with its name.
def insertMember (name : String) (value : Json) : List (String × Json) → List (String × Json)
  | []      => [(name, value)]
  | m :: ms =>
    if name < m.1 then (name, value) :: m :: ms
    else if name = m.1 then (name, value) :: ms
    else m :: insertMember name value ms

-- The same document with members in the order of their names; of members of one name the last
-- is kept.
mutual

def canonical : Json → Json
  | array items    => array (canonicalItems items)
  | object members => object (canonicalMembers [] members)
  | j              => j

def canonicalItems : List Json → List Json
  | []      => []
  | j :: js => j.canonical :: canonicalItems js

def canonicalMembers (done : List (String × Json)) : List (String × Json) → List (String × Json)
  | []              => done
  | (name, j) :: ms => canonicalMembers (insertMember name j.canonical done) ms

end

def ofStrings (ss : List String) : Json :=
  array (ss.map string)

def ofOption (f : α → Json) : Option α → Json
  | some a => f a
  | none   => null

end Json

end TableQuery
