import TableQuery.Json.Record
import TableQuery.Query.Select
import TableQuery.Text.Blank

/-!
How queries are compiled, and what of it is refused.
-/

namespace TableQuery

@[ext]
structure Settings where
  dialect              : Dialect := .jpql
  joinKind             : JoinKind := .left
  escapeChar           : Char := '#'
  aliasLength          : Nat := 5 -- the characters kept of each name in an alias
  parameterStem        : String := "value_"
  formatFunction       : String := "date_format"
  totalCountConditions : Bool := false -- whether the caller's conditions also narrow the total
deriving DecidableEq

inductive SettingsError
  | invalidEscapeChar (c : Char)
  | zeroAliasLength
  | emptyParameterStem
  | emptyFormatFunction
deriving DecidableEq

def SettingsError.message : SettingsError → String
  | invalidEscapeChar c => "'" ++ String.singleton c ++ "' cannot be used as the LIKE escape character"
  | zeroAliasLength     => "Alias prefix length must be greater than zero"
  | emptyParameterStem  => "Parameter prefix must not be empty"
  | emptyFormatFunction => "Format function name must not be empty"

namespace Settings

-- A wildcard or a quote cannot escape; neither can a blank.
def canEscape (c : Char) : Bool :=
  c != '%' && c != '_' && c != '\'' && !Text.isBlank c

def validate (s : Settings) : Except SettingsError Unit :=
  if !canEscape s.escapeChar then .error (.invalidEscapeChar s.escapeChar)
  else if s.aliasLength = 0 then .error .zeroAliasLength
  else if Text.blank s.parameterStem then .error .emptyParameterStem
  else if Text.blank s.formatFunction then .error .emptyFormatFunction
  else .ok ()

def dialectName : Dialect → String
  | .jpql => "jpql"
  | .hql  => "hql"

def joinKindName : JoinKind → String
  | .inner => "inner"
  | .left  => "left"

def toJson (s : Settings) : Json :=
  .object [
    ("dialect", .string (dialectName s.dialect)),
    ("join_kind", .string (joinKindName s.joinKind)),
    ("escape_char", .string (String.singleton s.escapeChar)),
    ("alias_prefix_len", .int s.aliasLength),
    ("param_prefix", .string s.parameterStem),
    ("format_function", .string s.formatFunction),
    ("total_count_conditions", .bool s.totalCountConditions)]

def asDialect : Json → Decoded Dialect :=
  Json.asName [("jpql", .jpql), ("hql", .hql)]

def asJoinKind : Json → Decoded JoinKind :=
  Json.asName [("inner", .inner), ("left", .left)]

def fields : List (Json.Field Settings) := [
  .optionally "dialect" asDialect fun s dialect => { s with dialect },
  .optionally "join_kind" asJoinKind fun s joinKind => { s with joinKind },
  .optionally "escape_char" Json.asChar fun s escapeChar => { s with escapeChar },
  .optionally "alias_prefix_len" Json.asWord fun s n => { s with aliasLength := n.toNat },
  .optionally "param_prefix" Json.asString fun s parameterStem => { s with parameterStem },
  .optionally "format_function" Json.asString fun s formatFunction => { s with formatFunction },
  .optionally "total_count_conditions" Json.asBool fun s totalCountConditions =>
    { s with totalCountConditions }]

def ofJson : Json → Decoded Settings :=
  Json.asRecord fields {}

end Settings

end TableQuery
