import TableQuery.Fragment
import TableQuery.Text.Alphanumeric

/-!
Finding out whether a query's text mentions a parameter.
-/

namespace TableQuery.Placeholder

-- Whether a name may end in front of the text.
def endsName : List Char → Bool
  | []     => true
  | c :: _ => !(Text.isAlphanumeric c || c == '_')

-- Whether `:name` stands in a text that goes on after `before`, as a whole word and not after a
-- further colon. After each place that reads `:name` the search goes on behind it.
def mentionedFrom (name : List Char) (before : Option Char) : List Char → Bool
  | []      => false
  | c :: cs =>
    if c = ':' then
      match _h : Fragment.strip? name cs with
      | some rest =>
        (endsName rest && before != some ':') || mentionedFrom name (':' :: name).getLast? rest
      | none      => mentionedFrom name (some c) cs
    else mentionedFrom name (some c) cs
termination_by cs => cs.length
decreasing_by
  · have := Fragment.length_strip? _h
    simp only [List.length_cons]
    omega
  all_goals exact Nat.lt_succ_self _

def mentioned (text name : String) : Bool :=
  mentionedFrom name.toList none text.toList

end TableQuery.Placeholder
