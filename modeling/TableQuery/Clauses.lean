import TableQuery.Bindings
import TableQuery.Naming

/-!
What a caller adds to the queries: fragments for the clauses, and values under names. Fragments
stand in the order in which they were added, without blank ones and without repetitions.
-/

namespace TableQuery

structure Clauses where
  select     : Option String := none
  conditions : List String := []
  grouping   : List String := []
  having     : List String := []
  order      : List String := []
  values     : Bindings := {}

namespace Clauses

variable (c : Clauses)

def push (fragments : List String) (fragment : String) : List String :=
  if Text.blank fragment || fragments.contains fragment then fragments
  else fragments ++ [fragment]

def setSelect (select : String) : Clauses :=
  { c with select := if Text.blank select then none else some select }

def addCondition (fragment : String) : Clauses :=
  { c with conditions := push c.conditions fragment }

def addGrouping (fragment : String) : Clauses :=
  { c with grouping := push c.grouping fragment }

def addHaving (fragment : String) : Clauses :=
  { c with having := push c.having fragment }

def addOrder (fragment : String) : Clauses :=
  { c with order := push c.order fragment }

def insert (name : String) (value : Value) : Clauses :=
  { c with values := c.values.insert name value }

-- The name for a further value: `stem` and the least number, from the number of values on, that
-- gives a name without a value.
def nextName (stem : String) : String :=
  let name (k : Nat) := stem ++ toString k
  name (firstFree name c.values.names c.values.size)

def bindNext (stem : String) (value : Value) : Clauses :=
  c.insert (c.nextName stem) value

-- Every fragment, the SELECT override first.
def fragments : List String :=
  c.select.toList ++ c.conditions ++ c.grouping ++ c.having ++ c.order

-- Puts `f` of each fragment in its place.
def mapFragments (f : String → String) : Clauses where
  select     := c.select.map f
  conditions := (c.conditions.map f).foldl push []
  grouping   := (c.grouping.map f).foldl push []
  having     := (c.having.map f).foldl push []
  order      := (c.order.map f).foldl push []
  values     := c.values

end Clauses

end TableQuery
