import TableQuery.Query.Expr

/-!
How a text is read from left to right: as single characters, and as literals between quotes.
-/

namespace TableQuery

inductive Lexeme
  | char (c : Char)
  | literal (text : List Char)
deriving DecidableEq

namespace Lexeme

-- Two quotes inside a literal stand for one. Of a literal that is open, `inside` holds what has been
-- read; a text that ends there has no reading.
def readFrom : (inside : Option (List Char)) → List Char → Option (List Lexeme)
  | none, []                      => some []
  | none, c :: cs                 =>
    if c = '\'' then readFrom (some []) cs else (readFrom none cs).map (char c :: ·)
  | some _, []                    => none
  | some text, '\'' :: '\'' :: cs => readFrom (some (text ++ ['\''])) cs
  | some text, c :: cs            =>
    if c = '\'' then (readFrom none cs).map (literal text :: ·)
    else readFrom (some (text ++ [c])) cs

def read (s : String) : Option (List Lexeme) :=
  readFrom none s.toList

def char? : Lexeme → Option Char
  | char c    => some c
  | literal _ => none

-- What stands outside literals.
def outside (ls : List Lexeme) : List Char :=
  ls.filterMap char?

section Read

variable {inside : Option (List Char)} {text cs ds : List Char} {ls : List Lexeme}

theorem readFrom_quote (h : cs.head? ≠ some '\'') :
    readFrom (some text) ('\'' :: cs) = (readFrom none cs).map (literal text :: ·) := by
  rw [readFrom, if_pos rfl]
  intro cs' _ hc
  exact h (hc ▸ rfl)

theorem readFrom_cons_of_ne {c : Char} (h : c ≠ '\'') :
    readFrom (some text) (c :: cs) = readFrom (some (text ++ [c])) cs := by
  rw [readFrom, if_neg h]
  intro cs' hc
  contradiction

-- The first quote of what follows would go on with a literal that ends in front of it.
theorem readFrom_append (h : readFrom inside cs = some ls) (hd : ds.head? ≠ some '\'') :
    readFrom inside (cs ++ ds) = (readFrom none ds).map (ls ++ ·) := by
  fun_induction readFrom inside cs generalizing ls with
  | case1 =>
    cases h
    simp
  | case2 cs ih =>
    rw [List.cons_append, readFrom, if_pos rfl]
    exact ih h
  | case3 c cs hc ih =>
    have ⟨ms, hm, hl⟩ := Option.map_eq_some_iff.mp h
    subst hl
    rw [List.cons_append, readFrom, if_neg hc, ih hm, Option.map_map]
    rfl
  | case4 => contradiction
  | case5 text cs ih => exact ih h
  | case6 text cs hn ih =>
    have ⟨ms, hm, hl⟩ := Option.map_eq_some_iff.mp h
    subst hl
    have hq : (cs ++ ds).head? ≠ some '\'' := by
      cases cs
      case nil     => exact hd
      case cons c cs =>
        intro hq
        exact hn cs rfl (congrArg (· :: cs) (Option.some.inj hq))
    rw [List.cons_append, readFrom_quote hq, ih hm, Option.map_map]
    rfl
  | case7 text c cs hn hc ih =>
    rw [List.cons_append, readFrom_cons_of_ne hc]
    exact ih h

theorem readFrom_append_of_not_mem (h : '\'' ∉ cs) :
    readFrom none (cs ++ ds) = (readFrom none ds).map (cs.map char ++ ·) := by
  induction cs
  case nil          => simp
  case cons c cs ih =>
    rw [List.mem_cons, not_or] at h
    rw [List.cons_append, readFrom, if_neg (Ne.symm h.left), ih h.right, Option.map_map]
    rfl

theorem readFrom_quoted (cs : List Char) :
    readFrom (some text) (cs.flatMap Dialect.literal.quoted ++ ['\''])
      = some [literal (text ++ cs)] := by
  induction cs generalizing text
  case nil          => simp [readFrom]
  case cons c cs ih =>
    rw [List.flatMap_cons, List.append_assoc, Dialect.literal.quoted]
    by_cases hc : c = '\''
    case pos =>
      subst hc
      rw [if_pos rfl, List.cons_append, List.singleton_append, readFrom, ih]
      simp
    case neg =>
      rw [if_neg hc, List.singleton_append, readFrom_cons_of_ne hc, ih]
      simp

end Read

section Read

variable {s t : String} {ls ms : List Lexeme}

theorem read_append (hs : read s = some ls) (ht : read t = some ms)
    (hd : t.toList.head? ≠ some '\'') : read (s ++ t) = some (ls ++ ms) := by
  rw [read] at ht
  rw [read, String.toList_append, readFrom_append hs hd, ht]
  rfl

theorem read_append_of_not_mem (hs : '\'' ∉ s.toList) (ht : read t = some ms) :
    read (s ++ t) = some (s.toList.map char ++ ms) := by
  rw [read] at ht
  rw [read, String.toList_append, readFrom_append_of_not_mem hs, ht]
  rfl

theorem read_of_not_mem (h : '\'' ∉ s.toList) : read s = some (s.toList.map char) := by
  have hr := @readFrom_append_of_not_mem s.toList [] h
  simpa [read, readFrom] using hr

-- Whatever the text, written as a literal it is read as that one literal.
theorem read_literal (s : String) : read (Dialect.literal s) = some [literal s.toList] := by
  have hr := @readFrom_quoted [] s.toList
  rw [read, Dialect.literal, String.toList_ofList, List.cons_append, readFrom, if_pos rfl]
  exact hr

theorem read_parenthesized (h : read s = some ls) :
    read (Expr.parenthesized s) = some (char '(' :: ls ++ [char ')']) := by
  have hc : read (s ++ ")") = some (ls ++ [char ')']) :=
    read_append h (read_of_not_mem (by decide)) nofun
  have ho : read ("(" ++ (s ++ ")")) = some (char '(' :: (ls ++ [char ')'])) :=
    read_append_of_not_mem (by decide) hc
  rwa [← String.append_assoc] at ho

@[simp]
theorem outside_append (ls ms : List Lexeme) : outside (ls ++ ms) = outside ls ++ outside ms :=
  List.filterMap_append

@[simp]
theorem outside_map_char (cs : List Char) : outside (cs.map char) = cs := by
  rw [outside, List.filterMap_map]
  exact List.filterMap_some

end Read

end Lexeme

section Depth

def depthStep (depth : Nat) (c : Char) : Option Nat :=
  if c = '(' then some (depth + 1)
  else if c = ')' then if depth = 0 then none else some (depth - 1)
  else some depth

-- How deep in parentheses a text ends that starts at `depth`, if it never closes more of them than
-- are open.
def depthAfter (depth : Nat) (cs : List Char) : Option Nat :=
  cs.foldlM depthStep depth

-- Closes what it opens, and nothing else.
def Balanced (cs : List Char) : Prop :=
  ∀ depth, depthAfter depth cs = some depth

variable {cs ds : List Char}

theorem balanced_of_not_mem (ho : '(' ∉ cs) (hc : ')' ∉ cs) : Balanced cs := by
  intro depth
  induction cs
  case nil          => rfl
  case cons c cs ih =>
    rw [List.mem_cons, not_or] at ho hc
    have hs : depthStep depth c = some depth := by
      rw [depthStep, if_neg (Ne.symm ho.left), if_neg (Ne.symm hc.left)]
    rw [depthAfter, List.foldlM_cons, hs]
    exact ih ho.right hc.right

namespace Balanced

theorem append (hc : Balanced cs) (hd : Balanced ds) : Balanced (cs ++ ds) := by
  intro depth
  have hc := hc depth
  rw [depthAfter] at hc
  rw [depthAfter, List.foldlM_append, hc]
  exact hd depth

theorem parenthesized (h : Balanced cs) : Balanced ('(' :: cs ++ [')']) := by
  intro depth
  have h := h (depth + 1)
  rw [depthAfter] at h
  rw [List.cons_append, depthAfter, List.foldlM_cons, depthStep, if_pos rfl, Option.bind_eq_bind,
    Option.bind_some, List.foldlM_append, h]
  rfl

end Balanced
end Depth

end TableQuery
