import TableQuery.Proofs.Lexeme
import TableQuery.Proofs.Placeholder

/-!
The literals of a text, which may leave the last of them open, and where in a text a parameter is
mentioned: outside literals, or inside one.
-/

namespace TableQuery

-- Where a text goes on. Behind a quote that ends a literal, a further quote goes on with it.
inductive Place
  | outside
  | inside
  | behind
deriving DecidableEq

namespace Place

def next : Place → Char → Place
  | outside, c => if c = '\'' then inside else outside
  | inside, c  => if c = '\'' then behind else inside
  | behind, c  => if c = '\'' then inside else outside

def after (place : Place) (cs : List Char) : Place :=
  cs.foldl next place

-- What is left of the literal that is open.
def current : Place → List Char → List Char
  | outside, _      => []
  | inside, []      => []
  | inside, c :: cs => if c = '\'' then current behind cs else c :: current inside cs
  | behind, []      => []
  | behind, c :: cs => if c = '\'' then c :: current inside cs else []

-- What the literals behind that one say.
def further : Place → List Char → List (List Char)
  | _, []            => []
  | outside, c :: cs =>
    if c = '\'' then current inside cs :: further inside cs else further outside cs
  | inside, c :: cs  => further (inside.next c) cs
  | behind, c :: cs  => further (behind.next c) cs

variable {place : Place} {c : Char} {cs ds : List Char}

-- Every quote opens a literal, closes one, or goes on with one.
theorem inside_next_quote : (place.next '\'' == inside) = !(place == inside) := by
  cases place <;> rfl

theorem inside_next_of_ne (h : c ≠ '\'') : (place.next c == inside) = (place == inside) := by
  cases place
  all_goals rw [next, if_neg h]
  case behind => rfl

theorem next_eq_outside_iff : place.next c = outside ↔ c ≠ '\'' ∧ place ≠ inside := by
  by_cases hc : c = '\'' <;> cases place <;> simp [next, hc]

-- The character behind a quote is a quote, if the literal goes on at all.
theorem current_behind (cs : List Char) :
    behind.current cs = [] ∨ ∃ w, behind.current cs = '\'' :: w := by
  cases cs
  case nil       => exact .inl rfl
  case cons c cs =>
    by_cases hc : c = '\''
    case pos => exact .inr ⟨inside.current cs, by simp [current, hc]⟩
    case neg => exact .inl (by simp [current, hc])

-- A text without quotes takes no part in a literal, unless one is open in front of it.
theorem further_outside_append (h : '\'' ∉ ds) :
    outside.further (ds ++ cs) = outside.further cs := by
  induction ds
  case nil          => rfl
  case cons d ds ih =>
    rw [List.mem_cons, not_or] at h
    rw [List.cons_append, further, if_neg (Ne.symm h.left), ih h.right]

theorem current_append (hp : place ≠ inside) (h : '\'' ∉ ds) (hn : ds ≠ []) :
    place.current (ds ++ cs) = [] := by
  have ⟨d, ds, hd⟩ := List.exists_cons_of_ne_nil hn
  rw [hd, List.mem_cons, not_or] at h
  rw [hd, List.cons_append]
  cases place
  case outside => rfl
  case inside  => contradiction
  case behind  => rw [current, if_neg (Ne.symm h.left)]

theorem further_append (hp : place ≠ inside) (h : '\'' ∉ ds) (hn : ds ≠ []) :
    place.further (ds ++ cs) = outside.further cs := by
  cases place
  case outside => exact further_outside_append h
  case inside  => contradiction
  case behind  =>
    have ⟨d, ds, hd⟩ := List.exists_cons_of_ne_nil hn
    rw [hd, List.mem_cons, not_or] at h
    rw [hd, List.cons_append, further, next, if_neg (Ne.symm h.left),
      further_outside_append h.right]

-- That two texts go on with the same literals.
def Agree (place : Place) (cs ds : List Char) : Prop :=
  place.current cs = place.current ds ∧ place.further cs = place.further ds

namespace Agree

theorem cons {c : Char} (h : (place.next c).Agree cs ds) : place.Agree (c :: cs) (c :: ds) := by
  have ⟨hc, hf⟩ := h
  by_cases hq : c = '\''
  case pos => cases place <;> simp_all [Agree, current, further, next]
  case neg => cases place <;> simp_all [Agree, current, further, next]

-- Where no literal is open, texts without quotes make no difference.
theorem append {as bs : List Char} (hp : place ≠ inside) (ha : '\'' ∉ as) (han : as ≠ [])
    (hb : '\'' ∉ bs) (hbn : bs ≠ []) (h : outside.Agree cs ds) :
    place.Agree (as ++ cs) (bs ++ ds) := by
  rw [Agree, current_append hp ha han, current_append hp hb hbn, further_append hp ha han,
    further_append hp hb hbn]
  exact ⟨rfl, h.right⟩

end Agree

end Place

-- What the literals of a text say, one after the other.
def Text.literals (s : String) : List (List Char) :=
  Place.outside.further s.toList

namespace Lexeme

def literal? : Lexeme → Option (List Char)
  | char _       => none
  | literal text => some text

theorem filterMap_literal?_of_readFrom {inside : Option (List Char)} {cs : List Char}
    {ls : List Lexeme} (h : readFrom inside cs = some ls) :
    ls.filterMap literal? = inside.elim (Place.outside.further cs)
      fun text => (text ++ Place.inside.current cs) :: Place.inside.further cs := by
  fun_induction readFrom inside cs generalizing ls with
  | case1 =>
    cases h
    rfl
  | case2 cs ih =>
    rw [ih h]
    rfl
  | case3 c cs hc ih =>
    obtain ⟨ms, hm, hl⟩ := Option.map_eq_some_iff.mp h
    subst hl
    rw [List.filterMap_cons_none rfl, ih hm]
    simp [Place.further, hc]
  | case4 => contradiction
  | case5 text cs ih =>
    rw [ih h]
    simp [Place.current, Place.further, Place.next]
  | case6 text cs hn ih =>
    obtain ⟨ms, hm, hl⟩ := Option.map_eq_some_iff.mp h
    subst hl
    cases cs
    case nil => simp [literal?, ih hm, Place.current, Place.further]
    case cons c cs =>
      have hc : c ≠ '\'' := fun hc => hn cs rfl (congrArg (· :: cs) hc)
      simp [literal?, ih hm, Place.current, Place.further, Place.next, hc]
  | case7 text c cs _ hc ih =>
    rw [ih h]
    simp [Place.current, Place.further, Place.next, hc]

-- A text that has a reading has the literals that are read in it.
theorem literals_eq_of_read {s : String} {ls : List Lexeme} (h : read s = some ls) :
    Text.literals s = ls.filterMap literal? :=
  (filterMap_literal?_of_readFrom h).symm

end Lexeme

namespace Placeholder

variable {name cs : List Char} {before : Option Char} {place : Place}

theorem endsName_quote (cs : List Char) : endsName ('\'' :: cs) :=
  (by decide : endsName ['\''])

theorem endsName_current_behind (cs : List Char) : endsName (Place.behind.current cs) := by
  cases Place.current_behind cs
  case inl h => simp [h, endsName]
  case inr h =>
    obtain ⟨w, hw⟩ := h
    exact hw ▸ endsName_quote w

theorem occurs_current_behind :
    Occurs name before (Place.behind.current cs) ↔ Occurs name none (Place.behind.current cs) := by
  cases Place.current_behind cs
  case inl h => simp [h, not_occurs_nil]
  case inr h =>
    have ⟨w, hw⟩ := h
    simp [hw, occurs_cons_iff]

-- A name has no quote in it, so what starts with it in a literal stands there in full.
theorem exists_name_current_iff (hn : IsIdentifier name) :
    (∃ b, Place.inside.current cs = name ++ b ∧ endsName b) ↔
      ∃ b, cs = name ++ b ∧ endsName b := by
  induction cs generalizing name
  case nil          => rfl
  case cons c cs ih =>
    by_cases hc : c = '\''
    case pos =>
      rw [Place.current, if_pos hc]
      exact exists_name_iff_of_endsName hn (endsName_current_behind cs)
        (hc ▸ endsName_quote cs)
    case neg =>
      rw [Place.current, if_neg hc]
      cases name
      case nil         => simp [endsName]
      case cons n name =>
        have ih := @ih name fun d hd => hn d (List.mem_cons_of_mem n hd)
        simp only [List.cons_append, List.cons.injEq, and_assoc, exists_and_left, ih]

-- What is mentioned inside literals is mentioned by what they say.
theorem occursWhere_inside_iff (hn : IsIdentifier name) :
    OccursWhere (place.after · = .inside) name before cs ↔
      Occurs name before (place.current cs) ∨ ∃ w ∈ place.further cs, Occurs name none w := by
  induction cs generalizing place before
  case nil =>
    cases place <;> simp [not_occursWhere_nil, not_occurs_nil, Place.current, Place.further]
  case cons c cs ih =>
    have hs : (OccursWhere (fun a => place.after (c :: a) = .inside) name (some c) cs ↔
        Occurs name (some c) ((place.next c).current cs) ∨
          ∃ w ∈ (place.next c).further cs, Occurs name none w) := ih
    have hp : place.after [] = .inside ↔ place = .inside := Iff.rfl
    rw [occursWhere_cons_iff, hs, hp]
    cases place
    case outside =>
      by_cases hc : c = '\''
      case pos =>
        have hq : some '\'' ≠ some ':' := by decide
        simp [Place.next, Place.current, Place.further, hc, not_occurs_nil,
          occurs_iff_of_ne_colon hq]
      case neg => simp [Place.next, Place.current, Place.further, hc, not_occurs_nil]
    case inside =>
      by_cases hc : c = '\''
      case pos =>
        simp only [Place.next, Place.current, Place.further, hc, ↓reduceIte]
        rw [occurs_current_behind, @occurs_current_behind name cs before]
        simp
      case neg =>
        simp only [Place.next, Place.current, Place.further, hc, ↓reduceIte]
        rw [occurs_cons_iff, exists_name_current_iff hn, or_assoc]
        simp
    case behind =>
      by_cases hc : c = '\''
      case pos => simp [Place.next, Place.current, Place.further, hc, occurs_cons_iff]
      case neg => simp [Place.next, Place.current, Place.further, hc, not_occurs_nil]

-- That a text mentions a name outside its literals.
def MentionsOutside (name text : String) : Prop :=
  OccursWhere (Place.outside.after · ≠ .inside) name.toList none text.toList

theorem mentions_iff_outside_or_literal {name text : String} (hn : IsIdentifier name.toList) :
    Mentions name text ↔
      MentionsOutside name text ∨ ∃ w ∈ Text.literals text, Occurs name.toList none w := by
  have hc : Place.outside.current text.toList = [] := by rw [Place.current]
  have hi := @occursWhere_inside_iff name.toList text.toList none .outside hn
  rw [hc, or_iff_right not_occurs_nil] at hi
  rw [Mentions, occurs_iff_or (Place.outside.after · = .inside), hi, or_comm]
  rfl

end Placeholder

end TableQuery
