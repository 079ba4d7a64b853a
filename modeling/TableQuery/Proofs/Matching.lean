import Mathlib
import TableQuery.Like
import TableQuery.Proofs.Name

/-!
What values match a pattern. An escaped text is matched by itself and by nothing else, so between
two `%` it is matched by the values that contain it.
-/

namespace TableQuery.Like

variable {esc c : Char} {text ps cs : List Char}

-- Whether a value matches a pattern. An escape character that nothing follows matches nothing.
def isMatch (esc : Char) : List Char → List Char → Bool
  | [], cs      => cs.isEmpty
  | p :: ps, cs =>
    if p = esc then
      match ps with
      | []      => false
      | q :: ps => cs.head? == some q && isMatch esc ps cs.tail
    else if p = '%' then cs.tails.any (isMatch esc ps)
    else if p = '_' then !cs.isEmpty && isMatch esc ps cs.tail
    else cs.head? == some p && isMatch esc ps cs.tail

theorem head?_and_tail_iff {f : List Char → Bool} :
    (cs.head? == some c && f cs.tail) ↔ ∃ ds, cs = c :: ds ∧ f ds := by
  cases cs
  case nil       => simp
  case cons d ds => grind

theorem isMatch_escaped :
    isMatch esc (esc :: c :: ps) cs ↔ ∃ ds, cs = c :: ds ∧ isMatch esc ps ds := by
  rw [isMatch, if_pos rfl, head?_and_tail_iff]

theorem isMatch_plain (hc : ¬isSpecial esc c) :
    isMatch esc (c :: ps) cs ↔ ∃ ds, cs = c :: ds ∧ isMatch esc ps ds := by
  simp only [isSpecial, Bool.or_eq_true, beq_iff_eq, not_or] at hc
  rw [isMatch.eq_def]
  simp only [hc, ↓reduceIte, head?_and_tail_iff]

theorem isMatch_percent (he : esc ≠ '%') :
    isMatch esc ('%' :: ps) cs ↔ ∃ ds, ds <:+ cs ∧ isMatch esc ps ds := by
  rw [isMatch.eq_def]
  simp [he.symm]

-- Whatever the characters of the text mean in a pattern, escaped they stand for themselves.
theorem isMatch_escapeChars_append :
    isMatch esc (escapeChars esc text ++ ps) cs ↔ ∃ ds, cs = text ++ ds ∧ isMatch esc ps ds := by
  induction text generalizing cs
  case nil            => simp [escapeChars]
  case cons c text ih =>
    have hm : isMatch esc (escapeChars esc (c :: text) ++ ps) cs ↔
        ∃ ds, cs = c :: ds ∧ isMatch esc (escapeChars esc text ++ ps) ds := by
      rw [escapeChars_cons, List.append_assoc]
      by_cases hc : isSpecial esc c
      case pos => rw [if_pos hc]; exact isMatch_escaped
      case neg => rw [if_neg hc]; exact isMatch_plain hc
    rw [hm]
    constructor
    case mp =>
      intro ⟨ds, hd, h⟩
      have ⟨es, he, h⟩ := ih.mp h
      exact ⟨es, by rw [hd, he, List.cons_append], h⟩
    case mpr =>
      intro ⟨ds, hd, h⟩
      exact ⟨text ++ ds, hd, ih.mpr ⟨ds, rfl, h⟩⟩

-- A pattern that is open on both sides.
def containing (esc : Char) (text : List Char) : List Char :=
  '%' :: escapeChars esc text ++ ['%']

theorem isMatch_containing (he : esc ≠ '%') :
    isMatch esc (containing esc text) cs ↔ text <:+: cs := by
  have hp (ds : List Char) : isMatch esc ['%'] ds :=
    (isMatch_percent he).mpr ⟨[], List.nil_suffix, rfl⟩
  rw [containing, List.cons_append, isMatch_percent he]
  simp only [isMatch_escapeChars_append, hp, and_true]
  constructor
  case mp =>
    intro ⟨ds, ⟨a, ha⟩, b, hb⟩
    exact ⟨a, b, by rw [← ha, hb, List.append_assoc]⟩
  case mpr =>
    intro ⟨a, b, hc⟩
    exact ⟨text ++ b, ⟨a, by rw [← hc, List.append_assoc]⟩, b, rfl⟩

section Upper

-- Upper case only ever puts letters in the place of letters.

theorem toUpper_eq_iff (he : ¬esc.isAlpha) : c.toUpper = esc ↔ c = esc := by
  have ht {d : Char} (hd : ¬d.isAlpha) : d.toUpper = d := by
    apply Char.toUpper_eq_of_not_isLower
    simp_all [Char.isAlpha]
  constructor
  case mp =>
    intro h
    rw [← h, Char.isAlpha_toUpper_eq_isAlpha] at he
    rwa [ht he] at h
  case mpr =>
    intro h
    rw [h, ht he]

theorem isSpecial_toUpper (he : ¬esc.isAlpha) : isSpecial esc c.toUpper = isSpecial esc c := by
  have hp : c.toUpper = '%' ↔ c = '%' := toUpper_eq_iff (by decide)
  have hu : c.toUpper = '_' ↔ c = '_' := toUpper_eq_iff (by decide)
  rw [Bool.eq_iff_iff]
  simp only [isSpecial, Bool.or_eq_true, beq_iff_eq, hp, hu, toUpper_eq_iff he]

theorem map_toUpper_escapeChars (he : ¬esc.isAlpha) :
    (escapeChars esc text).map Char.toUpper = escapeChars esc (text.map Char.toUpper) := by
  have hu : esc.toUpper = esc := (toUpper_eq_iff he).mpr rfl
  induction text
  case nil            => rfl
  case cons c text ih =>
    rw [escapeChars_cons, List.map_append, ih, List.map_cons, escapeChars_cons,
      isSpecial_toUpper he]
    split <;> simp [hu]

theorem map_toUpper_containing (he : ¬esc.isAlpha) :
    (containing esc text).map Char.toUpper = containing esc (text.map Char.toUpper) := by
  have hp : Char.toUpper '%' = '%' := by decide
  rw [containing, List.map_append, List.map_cons, map_toUpper_escapeChars he, List.map_singleton,
    hp, containing]

-- In upper case a letter does not escape any more, or its other case does as well.
theorem not_isMatch_of_isAlpha (he : esc.isAlpha) :
    esc.toLower.toUpper = esc.toUpper ∧
      ¬isMatch esc ((containing esc [esc.toLower]).map Char.toUpper) [esc.toUpper] := by
  have ha : ∀ n < 0x80, (Char.ofNat n).isAlpha →
      (Char.ofNat n).toLower.toUpper = (Char.ofNat n).toUpper ∧
        ¬isMatch (.ofNat n) ((containing (.ofNat n) [(Char.ofNat n).toLower]).map Char.toUpper)
          [(Char.ofNat n).toUpper] := by
    decide +kernel
  have hc := ha esc.toNat (Text.toNat_lt_of_isWord (by simp [Text.isWord, Char.isAlphanum, he]))
  rw [Char.ofNat_toNat] at hc
  exact hc he

end Upper

end TableQuery.Like
