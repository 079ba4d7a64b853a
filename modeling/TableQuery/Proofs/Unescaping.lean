import Mathlib.Data.Set.List
import TableQuery.Like

/-!
Which texts are escaped ones. An escaped text consists of units, one for each character that it
stands for, and what is read of a text as its first unit does not depend on what follows. So a text
is divided into units in one way or in none, and it is escaped if it can be divided.
-/

namespace TableQuery.Like

-- What stands for one character: the character, if it means nothing in a pattern, or else the
-- character behind the escape character.
inductive IsUnit (esc : Char) : List Char → Prop
  | plain {c : Char} (h : c ∉ ['%', '_', esc]) : IsUnit esc [c]
  | escaped {c : Char} (h : c ∈ ['%', '_', esc]) : IsUnit esc [esc, c]

structure Divides (esc : Char) (us : List (List Char)) (cs : List Char) : Prop where
  units   : ∀ u ∈ us, IsUnit esc u
  flatten : us.flatten = cs

-- The units of a text, read from left to right.
def units? (esc : Char) : List Char → Option (List (List Char))
  | []      => some []
  | c :: cs =>
    if c = esc then
      match cs with
      | []      => none
      | d :: ds => if d ∈ ['%', '_', esc] then (units? esc ds).map ([c, d] :: ·) else none
    else if c ∈ ['%', '_', esc] then none
    else (units? esc cs).map ([c] :: ·)

def unit (esc c : Char) : List Char :=
  if isSpecial esc c then [esc, c] else [c]

variable {esc c : Char} {u text cs : List Char} {us : List (List Char)}

section Unit

theorem isSpecial_iff : isSpecial esc c ↔ c ∈ ['%', '_', esc] := by
  simp [isSpecial, or_assoc]

theorem isUnit_iff : IsUnit esc u ↔ u ∈ Set.range (unit esc) := by
  constructor
  case mp =>
    intro h
    cases h
    case plain c h   => exact ⟨c, if_neg (mt isSpecial_iff.mp h)⟩
    case escaped c h => exact ⟨c, if_pos (isSpecial_iff.mpr h)⟩
  case mpr =>
    rintro ⟨c, rfl⟩
    rw [unit]
    split
    case isTrue h  => exact .escaped (isSpecial_iff.mp h)
    case isFalse h => exact .plain (mt isSpecial_iff.mpr h)

theorem escapeChars_eq_flatten : escapeChars esc text = (text.map (unit esc)).flatten :=
  List.flatMap_def

end Unit

namespace Divides

theorem cons (hu : IsUnit esc u) (h : Divides esc us cs) : Divides esc (u :: us) (u ++ cs) where
  units   := List.forall_mem_cons.mpr ⟨hu, h.units⟩
  flatten := by rw [List.flatten_cons, h.flatten]

-- What is divided is what the characters that the units stand for are escaped to.
theorem exists_eq_escapeChars (h : Divides esc us cs) : ∃ text, cs = escapeChars esc text := by
  have hr : us ∈ Set.range (List.map (unit esc)) := by
    rw [Set.range_list_map]
    exact fun u hu => isUnit_iff.mp (h.units u hu)
  obtain ⟨text, rfl⟩ := hr
  exact ⟨text, by rw [← h.flatten, escapeChars_eq_flatten]⟩

end Divides

theorem divides_escapeChars (esc : Char) (text : List Char) :
    Divides esc (text.map (unit esc)) (escapeChars esc text) where
  units   := List.forall_mem_map.mpr fun c _ => isUnit_iff.mpr ⟨c, rfl⟩
  flatten := escapeChars_eq_flatten.symm

section Read

theorem units?_append (h : IsUnit esc u) : units? esc (u ++ cs) = (units? esc cs).map (u :: ·) := by
  cases h
  case plain c h   =>
    have hc : c ≠ esc := fun hc => h (by simp [hc])
    rw [List.singleton_append, units?.eq_def]
    simp only [if_neg hc, if_neg h]
  case escaped c h => simp only [List.cons_append, List.nil_append, units?, if_pos h, ↓reduceIte]

theorem divides_of_units? (h : units? esc cs = some us) : Divides esc us cs := by
  fun_induction units? esc cs generalizing us with
  | case1              =>
    cases h
    exact ⟨nofun, rfl⟩
  | case2              => contradiction
  | case3 d ds hd ih   =>
    obtain ⟨us, hs, rfl⟩ := Option.map_eq_some_iff.mp h
    exact .cons (.escaped hd) (ih hs)
  | case4              => contradiction
  | case5              => contradiction
  | case6 c cs _ hc ih =>
    obtain ⟨us, hs, rfl⟩ := Option.map_eq_some_iff.mp h
    exact .cons (.plain hc) (ih hs)

theorem units?_of_divides (h : Divides esc us cs) : units? esc cs = some us := by
  obtain ⟨hu, rfl⟩ := h
  induction us
  case nil          => rfl
  case cons u us ih =>
    have ⟨hu, hs⟩ := List.forall_mem_cons.mp hu
    rw [List.flatten_cons, units?_append hu, ih hs, Option.map_some]

theorem units?_eq_some_iff : units? esc cs = some us ↔ Divides esc us cs :=
  ⟨divides_of_units?, units?_of_divides⟩

end Read

theorem escapeChars_unescapeChars_eq_self_iff :
    escapeChars esc (unescapeChars esc cs) = cs ↔ ∃ us, Divides esc us cs := by
  constructor
  case mp =>
    intro h
    have hd := divides_escapeChars esc (unescapeChars esc cs)
    rw [h] at hd
    exact ⟨_, hd⟩
  case mpr =>
    intro ⟨us, hd⟩
    obtain ⟨text, rfl⟩ := hd.exists_eq_escapeChars
    rw [unescapeChars_escapeChars]

-- Unescaping undoes escaping on every text. Escaping undoes unescaping on the texts that can be
-- divided into units, and those are the texts whose units can be read from left to right.
theorem unescape_inverse (text s : String) (esc : Char) :
    unescape (escape text esc) esc = text ∧
    (escape (unescape s esc) esc = s ↔ ∃ us, Divides esc us s.toList) ∧
    ∀ us, units? esc s.toList = some us ↔ Divides esc us s.toList := by
  refine ⟨unescape_escape text esc, ?_, fun _ => units?_eq_some_iff⟩
  rw [← String.toList_inj, escape, unescape, String.toList_ofList, String.toList_ofList]
  exact escapeChars_unescapeChars_eq_self_iff

-- A wildcard can be the escape character as well.
example : units? '%' "50%%%_".toList = some [['5'], ['0'], ['%', '%'], ['%', '_']] := by
  decide

end TableQuery.Like
