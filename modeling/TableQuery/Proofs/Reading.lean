import TableQuery.Bindings
import TableQuery.Field
import TableQuery.Proofs.Matching

/-!
What the condition that searches an expression says of a row. The database knows the upper case of
ASCII letters, and brings the pattern into it, but not the character that escapes.
-/

namespace TableQuery

-- A row as it is read: with the values of parameters, and with a text for each expression that says
-- one and that only the database knows the meaning of.
structure Reading where
  values : Bindings
  text?  : Expr → Option (List Char)

namespace Reading

variable (r : Reading)

mutual

def says? : Expr → Option (List Char)
  | .literal s              => some s.toList
  | .param name             => ((r.values.get? name).bind (·.asString?)).map String.toList
  | .concat parts           => (saysAll? parts).map List.flatten
  | .call "UPPER" false [e] => (says? e).map (·.map Char.toUpper)
  | e                       => r.text? e

def saysAll? : List Expr → Option (List (List Char))
  | []      => some []
  | e :: es => return (← says? e) :: (← saysAll? es)

end

-- Whether a condition on texts is met, if both of them are known.
def meets? : Expr → Option Bool
  | .like e pattern esc => return Like.isMatch esc (← r.says? pattern) (← r.says? e)
  | _                   => none

variable {r} {e : Expr} {name : String} {text value : List Char}

theorem says?_upper (h : r.says? e = some text) :
    r.says? (.upper e) = some (text.map Char.toUpper) := by
  rw [Expr.upper, says?, h, Option.map_some]

theorem says?_pattern (h : r.says? (.param name) = some text) :
    r.says? (.concat [.literal "%", .param name, .literal "%"]) = some ('%' :: text ++ ['%']) := by
  simp [says?, saysAll?] at h ⊢
  simp [h]

theorem meets?_searchCondition (ctx : FieldContext) {t : String} (hv : r.says? e = some value)
    (ht : r.values.get? name = some (.string (Like.escape t ctx.settings.escapeChar))) :
    r.meets? (ctx.searchCondition e name) = some (Like.isMatch ctx.settings.escapeChar
      ((Like.containing ctx.settings.escapeChar t.toList).map Char.toUpper)
      (value.map Char.toUpper)) := by
  have hp : r.says? (.param name) = some (Like.escapeChars ctx.settings.escapeChar t.toList) := by
    simp [says?, ht, Value.asString?, Like.escape]
  rw [FieldContext.searchCondition, meets?, says?_upper (says?_pattern hp), says?_upper hv]
  rfl

end Reading

theorem Settings.escapeChar_ne_percent {settings : Settings} (h : settings.validate = .ok ()) :
    settings.escapeChar ≠ '%' := by
  intro he
  simp [validate, canEscape, he] at h

-- An escaped text is put into upper case with the pattern, and read with the escape character as it
-- is in the settings. That makes no difference unless this has another case.
theorem search_contains_iff {settings : Settings} (h : settings.validate = .ok ()) :
    (∀ (ctx : FieldContext) (r : Reading) (e : Expr) (name text : String) (value : List Char),
      ctx.settings = settings → r.says? e = some value →
      r.values.get? name = some (.string (Like.escape text settings.escapeChar)) →
      r.meets? (ctx.searchCondition e name)
        = some (decide (text.toList.map Char.toUpper <:+: value.map Char.toUpper))) ↔
    ¬settings.escapeChar.isAlpha := by
  constructor
  case mp =>
    intro hc ha
    have ⟨hu, hm⟩ := Like.not_isMatch_of_isAlpha ha
    have ⟨text, hl⟩ : ∃ text : String, text.toList = [settings.escapeChar.toLower] :=
      ⟨.ofList _, String.toList_ofList⟩
    let ctx : FieldContext := { aliases := .ofRoot "" 1, relationships := [], settings }
    let r : Reading := {
      values := ⟨[("", .string (Like.escape text settings.escapeChar))]⟩
      text? _ := some [settings.escapeChar] }
    have hs := hc ctx r (.raw "") "" text [settings.escapeChar] rfl rfl rfl
    rw [Reading.meets?_searchCondition ctx rfl rfl, Option.some.injEq, hl, Bool.eq_iff_iff,
      decide_eq_true_iff] at hs
    refine hm (hs.mpr ?_)
    rw [List.map_singleton, List.map_singleton, hu]
  case mpr =>
    intro ha ctx r e name text value hs hv ht
    subst hs
    have hm : Like.isMatch ctx.settings.escapeChar
        (Like.containing ctx.settings.escapeChar (text.toList.map Char.toUpper))
        (value.map Char.toUpper) ↔ _ :=
      Like.isMatch_containing (Settings.escapeChar_ne_percent h)
    rw [Reading.meets?_searchCondition ctx hv ht, Like.map_toUpper_containing ha,
      Option.some.injEq, Bool.eq_iff_iff, hm, decide_eq_true_iff]

-- The text has a wildcard in it, and not the case of the value.
theorem search_contains_wildcard :
    ∃ (ctx : FieldContext) (r : Reading),
      ctx.settings = {} ∧ r.says? (.path "parent" "rate") = some "Now 50% Off".toList ∧
      r.values.get? "value_0" = some (.string "50#% o") ∧
      r.meets? (ctx.searchCondition (.path "parent" "rate") "value_0") = some true := by
  let ctx : FieldContext := { aliases := .ofRoot "Parent" 5, relationships := [], settings := {} }
  let r : Reading := {
    values  := ⟨[("value_0", .string "50#% o")]⟩
    text? _ := some "Now 50% Off".toList }
  have hs := (@search_contains_iff {} rfl).mpr (by decide) ctx r
    (.path "parent" "rate") "value_0" "50% o" "Now 50% Off".toList rfl rfl rfl
  refine ⟨ctx, r, rfl, rfl, rfl, hs.trans ?_⟩
  rw [Option.some.injEq, decide_eq_true_iff]
  decide

-- In upper case the wildcard is not escaped any more, and what escaped it has to be in the value.
theorem search_misses_wildcard_of_letter :
    ∃ (ctx : FieldContext) (r : Reading), ctx.settings = { escapeChar := 'x' } ∧
      ctx.settings.validate = .ok () ∧
      r.says? (.path "parent" "rate") = some "50% off".toList ∧
      r.values.get? "value_0" = some (.string (Like.escape "50%" 'x')) ∧
      "50%".toList.map Char.toUpper <:+: "50% off".toList.map Char.toUpper ∧
      r.meets? (ctx.searchCondition (.path "parent" "rate") "value_0") = some false := by
  let ctx : FieldContext := {
    aliases       := .ofRoot "Parent" 5
    relationships := []
    settings      := { escapeChar := 'x' } }
  let r : Reading := {
    values  := ⟨[("value_0", .string (Like.escape "50%" 'x'))]⟩
    text? _ := some "50% off".toList }
  have hs : ({ escapeChar := 'x' } : Settings).validate = .ok () := rfl
  refine ⟨ctx, r, rfl, hs, rfl, rfl, by decide, ?_⟩
  rw [Reading.meets?_searchCondition ctx rfl rfl]
  decide +kernel

end TableQuery
