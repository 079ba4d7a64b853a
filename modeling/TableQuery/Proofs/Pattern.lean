import TableQuery.Proofs.Matching

/-!
Patterns as sequences of items. An escaped text has one item for each of its characters, and each is
for that character, so what stands behind the text keeps its meaning. Between two `%` the text is
matched by the values that contain it.
-/

namespace TableQuery.Like

-- What a pattern asks of the next characters of a value.
inductive Item
  | run               -- that there are some, or none
  | one               -- that there is one
  | exactly (c : Char)
deriving DecidableEq

-- The items of a pattern, unless it ends in an escape character that nothing follows.
def items? (esc : Char) : List Char → Option (List Item)
  | []      => some []
  | p :: ps =>
    if p = esc then
      match ps with
      | []      => none
      | q :: ps => (items? esc ps).map (.exactly q :: ·)
    else if p = '%' then (items? esc ps).map (.run :: ·)
    else if p = '_' then (items? esc ps).map (.one :: ·)
    else (items? esc ps).map (.exactly p :: ·)

-- That a value is, from its first character to its last, what the items ask for.
inductive Matches : List Item → List Char → Prop
  | nil : Matches [] []
  | run {items : List Item} {cs : List Char} (ds : List Char) (h : Matches items cs) :
    Matches (.run :: items) (ds ++ cs)
  | one {items : List Item} {cs : List Char} (c : Char) (h : Matches items cs) :
    Matches (.one :: items) (c :: cs)
  | exactly {items : List Item} {cs : List Char} (c : Char) (h : Matches items cs) :
    Matches (.exactly c :: items) (c :: cs)

variable {esc c : Char} {text ps cs : List Char} {items : List Item}

namespace Matches

theorem nil_iff : Matches [] cs ↔ cs = [] := by
  constructor
  case mp  => rintro ⟨⟩; rfl
  case mpr => rintro rfl; exact nil

theorem run_iff : Matches (.run :: items) cs ↔ ∃ ds, ds <:+ cs ∧ Matches items ds := by
  constructor
  case mp  => rintro (_ | ⟨es, h⟩); exact ⟨_, ⟨es, rfl⟩, h⟩
  case mpr => rintro ⟨ds, ⟨es, rfl⟩, h⟩; exact run es h

theorem one_iff : Matches (.one :: items) cs ↔ ∃ c ds, cs = c :: ds ∧ Matches items ds := by
  constructor
  case mp  => rintro (_ | _ | ⟨c, h⟩); exact ⟨c, _, rfl, h⟩
  case mpr => rintro ⟨c, ds, rfl, h⟩; exact one c h

theorem exactly_iff : Matches (.exactly c :: items) cs ↔ ∃ ds, cs = c :: ds ∧ Matches items ds := by
  constructor
  case mp  => rintro (_ | _ | _ | ⟨_, h⟩); exact ⟨_, rfl, h⟩
  case mpr => rintro ⟨ds, rfl, h⟩; exact exactly c h

end Matches

theorem isMatch_one (he : esc ≠ '_') :
    isMatch esc ('_' :: ps) cs ↔ ∃ c ds, cs = c :: ds ∧ isMatch esc ps ds := by
  have hp : '_' ≠ '%' := by decide
  rw [isMatch.eq_def]
  cases cs
  case nil  => simp [he.symm, hp]
  case cons => simp [he.symm, hp]

-- The matcher finds what the items of the pattern ask for, and nothing if it cannot be read.
theorem isMatch_iff :
    isMatch esc ps cs ↔ ∃ items, items? esc ps = some items ∧ Matches items cs := by
  have hi {item : Item} {items' : Option (List Item)} {cs : List Char} :
      (∃ items, items'.map (item :: ·) = some items ∧ Matches items cs) ↔
        ∃ items, items' = some items ∧ Matches (item :: items) cs := by
    simp
  fun_induction items? esc ps generalizing cs with
  | case1               => simp [isMatch, Matches.nil_iff]
  | case2               => simp [isMatch]
  | case3 q ps ih       =>
    simp only [isMatch_escaped, ih, hi, Matches.exactly_iff]
    grind
  | case4 ps he ih      =>
    simp only [isMatch_percent (Ne.symm he), ih, hi, Matches.run_iff]
    grind
  | case5 ps he _ ih    =>
    simp only [isMatch_one (Ne.symm he), ih, hi, Matches.one_iff]
    grind
  | case6 p ps he hp hu ih =>
    have hs : ¬isSpecial esc p := by simp [isSpecial, he, hp, hu]
    simp only [isMatch_plain hs, ih, hi, Matches.exactly_iff]
    grind

section Items

theorem items?_escaped : items? esc (esc :: c :: ps) = (items? esc ps).map (.exactly c :: ·) := by
  rw [items?, if_pos rfl]

theorem items?_plain (hc : ¬isSpecial esc c) :
    items? esc (c :: ps) = (items? esc ps).map (.exactly c :: ·) := by
  simp only [isSpecial, Bool.or_eq_true, beq_iff_eq, not_or] at hc
  rw [items?.eq_def]
  simp only [hc, ↓reduceIte]

theorem items?_percent (he : esc ≠ '%') :
    items? esc ('%' :: ps) = (items? esc ps).map (.run :: ·) := by
  rw [items?.eq_def]
  simp only [he.symm, ↓reduceIte]

-- Each character of an escaped text is an item of its own, the last one as well.
theorem items?_escapeChars_append :
    items? esc (escapeChars esc text ++ ps) = (items? esc ps).map (text.map .exactly ++ ·) := by
  induction text
  case nil            => simp [escapeChars]
  case cons c text ih =>
    have hc : items? esc (escapeChars esc (c :: text) ++ ps) =
        (items? esc (escapeChars esc text ++ ps)).map (.exactly c :: ·) := by
      rw [escapeChars_cons, List.append_assoc]
      by_cases hs : isSpecial esc c
      case pos => rw [if_pos hs]; exact items?_escaped
      case neg => rw [if_neg hs]; exact items?_plain hs
    rw [hc, ih, Option.map_map]
    rfl

theorem items?_escapeChars : items? esc (escapeChars esc text) = some (text.map .exactly) := by
  have h := @items?_escapeChars_append esc text []
  rwa [List.append_nil, items?, Option.map_some, List.append_nil] at h

theorem items?_containing (he : esc ≠ '%') :
    items? esc (containing esc text) = some (.run :: text.map .exactly ++ [.run]) := by
  rw [containing, List.cons_append, items?_percent he, items?_escapeChars_append,
    items?_percent he, items?]
  rfl

end Items

-- The `%` behind an escaped text is a wildcard, whatever the text ends in.
theorem contains_iff_of_escaped (he : esc ≠ '%') (text value : String) :
    items? esc (escape text esc).toList = some (text.toList.map .exactly) ∧
    items? esc ("%" ++ escape text esc ++ "%").toList
      = some (.run :: text.toList.map .exactly ++ [.run]) ∧
    (Matches (.run :: text.toList.map .exactly ++ [.run]) value.toList ↔
      text.toList <:+: value.toList) ∧
    (isMatch esc ("%" ++ escape text esc ++ "%").toList value.toList ↔
      text.toList <:+: value.toList) := by
  have hp : ("%" ++ escape text esc ++ "%").toList = containing esc text.toList := by
    simp [escape, containing]
  have hi := @items?_containing esc text.toList he
  have hm : isMatch esc (containing esc text.toList) value.toList ↔ _ := isMatch_containing he
  rw [hp]
  refine ⟨?text, hi, ?items, hm⟩
  case text  => rw [escape, String.toList_ofList, items?_escapeChars]
  case items => rw [← hm, isMatch_iff, hi]; simp

-- The text ends in the escape character and has both wildcards, which the value has as well.
theorem contains_iff_of_escaped_ending_in_escape :
    isMatch '#' "%50#%#_##%".toList "at 50%_# off".toList ∧
      ¬isMatch '#' "%50#%#_##%".toList "at 50%_off".toList := by
  have hc := @contains_iff_of_escaped '#' (by decide) "50%_#"
  have he : "%" ++ escape "50%_#" '#' ++ "%" = "%50#%#_##%" := by decide +kernel
  rw [he] at hc
  exact ⟨(hc _).2.2.2.mpr (by decide), mt (hc _).2.2.2.mp (by decide)⟩

end TableQuery.Like
