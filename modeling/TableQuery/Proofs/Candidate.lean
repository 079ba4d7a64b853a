import TableQuery.Placeholder
import TableQuery.Query.Dialect

/-!
Where a search for a parameter looks. Each place at which it finds `:name` is a candidate, and the
search goes on behind a candidate whether it counts or not. A name without a colon cannot overlap
with itself, so there is no further place to look at.
-/

namespace TableQuery

theorem Fragment.strip?_eq_some_iff {start cs rest : List Char} :
    strip? start cs = some rest ↔ cs = start ++ rest := by
  fun_induction strip? start cs with
  | case1            => simp
  | case2            => simp
  | case3 _ _ _ ih   => simp [ih]
  | case4 _ _ _ _ hc => simpa using fun h => absurd h.symm hc

namespace Placeholder

-- The places at which `:name` is found from left to right in a text that goes on after `front`,
-- each by what is in front of it and what is behind it.
def candidatesFrom (name front : List Char) : List Char → List (List Char × List Char)
  | []      => []
  | c :: cs =>
    match _h : Fragment.strip? (':' :: name) (c :: cs) with
    | some rest => (front, rest) :: candidatesFrom name (front ++ ':' :: name) rest
    | none      => candidatesFrom name (front ++ [c]) cs
termination_by cs => cs.length
decreasing_by
  · have := Fragment.length_strip? _h
    simp only [List.length_cons] at this ⊢
    omega
  · exact Nat.lt_succ_self _

def candidates (text name : String) : List (List Char × List Char) :=
  candidatesFrom name.toList [] text.toList

-- Whether a candidate is a whole word and not after a further colon.
def counts (place : List Char × List Char) : Bool :=
  endsName place.2 && place.1.getLast? != some ':'

variable {name front cs a b : List Char} {before : Option Char}

theorem counts_iff :
    counts (a, b) ↔
      a.getLast? ≠ some ':' ∧ ∀ c ∈ b.head?, ¬Text.isAlphanumeric c ∧ c ≠ '_' := by
  rw [counts, Bool.and_eq_true, bne_iff_ne, and_comm]
  refine and_congr_right' ?_
  cases b <;> simp [endsName]

section Search

variable {c : Char} {rest : List Char}

theorem mentionedFrom_of_strip? (h : Fragment.strip? (':' :: name) (c :: cs) = some rest) :
    mentionedFrom name before (c :: cs) =
      ((endsName rest && before != some ':') || mentionedFrom name (':' :: name).getLast? rest) := by
  have ⟨hc, hs⟩ := List.cons.inj (Fragment.strip?_eq_some_iff.mp h)
  have hs : Fragment.strip? name cs = some rest := Fragment.strip?_eq_some_iff.mpr hs
  rw [mentionedFrom, if_pos hc]
  split
  case h_1 hr => rw [Option.some.inj (hs.symm.trans hr)]
  case h_2 hr => exact absurd (hs.symm.trans hr) (Option.some_ne_none rest)

theorem mentionedFrom_of_strip?_eq_none (h : Fragment.strip? (':' :: name) (c :: cs) = none) :
    mentionedFrom name before (c :: cs) = mentionedFrom name (some c) cs := by
  rw [mentionedFrom]
  split
  case isTrue hc =>
    split
    case h_1 hr => simp [Fragment.strip?, hc, hr] at h
    case h_2    => rw [hc]
  case isFalse   => rfl

-- The search goes from candidate to candidate until one counts.
theorem mentionedFrom_eq_any :
    mentionedFrom name front.getLast? cs = (candidatesFrom name front cs).any counts := by
  fun_induction candidatesFrom name front cs with
  | case1                      => rw [mentionedFrom]; rfl
  | case2 front c cs rest h ih =>
    have hl : (front ++ ':' :: name).getLast? = (':' :: name).getLast? := by
      rw [List.getLast?_append, List.getLast?_cons, Option.some_or]
    rw [mentionedFrom_of_strip? h, List.any_cons, ← ih, hl, counts]
  | case3 front c cs h ih      =>
    rw [mentionedFrom_of_strip?_eq_none h, ← ih, List.getLast?_concat]

theorem mentioned_eq_any (text name : String) :
    mentioned text name = (candidates text name).any counts :=
  @mentionedFrom_eq_any name.toList [] text.toList

end Search

section Complete

-- No candidate starts in a text without colons.
theorem append_eq_append_colon_iff {ds es : List Char} (h : ':' ∉ ds) :
    ds ++ cs = a ++ ':' :: es ↔ ∃ d, a = ds ++ d ∧ cs = d ++ ':' :: es := by
  constructor
  case mp =>
    intro he
    cases List.append_eq_append_iff.mp he
    case inl he => exact he
    case inr he =>
      obtain ⟨d, hd, he⟩ := he
      cases d
      case nil      => exact ⟨[], by simp [hd], by simpa using he.symm⟩
      case cons x d =>
        have ⟨hx, _⟩ := List.cons.inj he
        exact absurd (by simp [hd, ← hx]) h
  case mpr =>
    rintro ⟨d, rfl, rfl⟩
    rw [List.append_assoc]

-- In a text that starts with `:name` a further place is behind that name, as the name has no colon
-- for it to start with.
theorem append_eq_append_place_iff (hn : ':' ∉ name) :
    ':' :: name ++ cs = a ++ ':' :: (name ++ b) ↔
      (a = [] ∧ cs = b) ∨ ∃ d, a = ':' :: name ++ d ∧ cs = d ++ ':' :: (name ++ b) := by
  constructor
  case mp =>
    intro h
    cases a
    case nil      => exact .inl ⟨rfl, by simpa using h⟩
    case cons x a =>
      have ⟨hx, h⟩ := List.cons.inj h
      obtain ⟨d, rfl, hc⟩ := (append_eq_append_colon_iff hn).mp h
      exact .inr ⟨d, by simp [← hx], hc⟩
  case mpr =>
    intro h
    cases h
    case inl h =>
      obtain ⟨rfl, rfl⟩ := h
      rfl
    case inr h =>
      obtain ⟨d, rfl, rfl⟩ := h
      rw [List.append_assoc]

-- So nothing is missed by passing over the name.
theorem mem_candidatesFrom_iff (hn : ':' ∉ name) :
    (a, b) ∈ candidatesFrom name front cs ↔
      ∃ d, a = front ++ d ∧ cs = d ++ ':' :: (name ++ b) := by
  fun_induction candidatesFrom name front cs with
  | case1                      => simp
  | case2 front c cs rest h ih =>
    rw [List.mem_cons, ih, Fragment.strip?_eq_some_iff.mp h]
    simp only [append_eq_append_place_iff hn]
    constructor
    case mp =>
      rintro (h | ⟨d, rfl, hd⟩)
      case inl =>
        cases h
        exact ⟨[], by simp, .inl ⟨rfl, rfl⟩⟩
      case inr => exact ⟨':' :: name ++ d, by simp, .inr ⟨d, rfl, hd⟩⟩
    case mpr =>
      rintro ⟨_, rfl, ⟨rfl, rfl⟩ | ⟨d, rfl, hd⟩⟩
      case inl => exact .inl (by simp)
      case inr => exact .inr ⟨d, by simp, hd⟩
  | case3 front c cs h ih      =>
    rw [ih]
    constructor
    case mp =>
      rintro ⟨d, rfl, rfl⟩
      exact ⟨c :: d, by simp, rfl⟩
    case mpr =>
      rintro ⟨d, rfl, hd⟩
      cases d
      case nil      =>
        have hs : Fragment.strip? (':' :: name) (c :: cs) = some b :=
          Fragment.strip?_eq_some_iff.mpr hd
        rw [h] at hs
        contradiction
      case cons x d =>
        have ⟨hx, hd⟩ := List.cons.inj hd
        exact ⟨d, by simp [hx], hd⟩

theorem mem_candidates_iff {text name a b : String} (hn : ':' ∉ name.toList) :
    (a.toList, b.toList) ∈ candidates text name ↔ text = a ++ Dialect.placeholder name ++ b := by
  rw [candidates, mem_candidatesFrom_iff hn, ← String.toList_inj]
  simp [Dialect.placeholder]

-- The search is as complete as one that looks at every place of the text.
theorem mentioned_iff_exists_place {text name : String} (hn : ':' ∉ name.toList) :
    (mentioned text name ↔
      ∃ a b : String, text = a ++ Dialect.placeholder name ++ b ∧
        a.toList.getLast? ≠ some ':' ∧ ∀ c ∈ b.toList.head?, ¬Text.isAlphanumeric c ∧ c ≠ '_') ∧
    mentioned text name = (candidates text name).any counts ∧
    ∀ a b : String, (a.toList, b.toList) ∈ candidates text name ↔
      text = a ++ Dialect.placeholder name ++ b := by
  refine ⟨?iff, mentioned_eq_any text name, fun _ _ => mem_candidates_iff hn⟩
  rw [mentioned_eq_any, List.any_eq_true]
  constructor
  case mp =>
    rintro ⟨⟨a, b⟩, hm, hc⟩
    rw [← String.toList_ofList (l := a), ← String.toList_ofList (l := b)] at hm hc
    exact ⟨_, _, (mem_candidates_iff hn).mp hm, counts_iff.mp hc⟩
  case mpr =>
    rintro ⟨a, b, ht, hc⟩
    exact ⟨(a.toList, b.toList), (mem_candidates_iff hn).mpr ht, counts_iff.mpr hc⟩

-- The first candidate stands after a further colon and the second one is part of a longer name.
theorem mentioned_behind_other_candidates :
    ':' ∉ "id".toList ∧ mentioned "é::id IN (:idé, :id)" "id" := by
  have hb : ∀ c ∈ ")".toList.head?, ¬Text.isAlphanumeric c ∧ c ≠ '_' := by
    rintro c ⟨⟩
    decide
  exact ⟨by decide, (mentioned_iff_exists_place (by decide)).left.mpr
    ⟨"é::id IN (:idé, ", ")", by decide, by decide, hb⟩⟩

-- With a colon in the name, the candidate behind the first colon hides the one that overlaps with it.
example : "::a:a:a" = "::a" ++ Dialect.placeholder "a:a" ++ "" ∧ ¬mentioned "::a:a:a" "a:a" := by
  decide +kernel

end Complete

end Placeholder

end TableQuery
