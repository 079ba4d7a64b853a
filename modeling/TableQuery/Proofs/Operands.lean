import Mathlib.Data.List.Infix
import TableQuery.Proofs.WellFormed

/-!
The operands of a logical operator, found again in a text. An operator only counts outside literals
and outside parentheses, so whatever stands in either stays with its operand.
-/

namespace TableQuery

namespace Lexeme

def written : Lexeme → List Char
  | char c       => [c]
  | literal text => (Dialect.literal (.ofList text)).toList

def write (ls : List Lexeme) : String :=
  .ofList (ls.flatMap written)

-- What is written of a literal that is open, up to there.
def opened : Option (List Char) → List Char
  | none      => []
  | some text => '\'' :: text.flatMap Dialect.literal.quoted

section Write

variable {inside : Option (List Char)} {cs : List Char} {ls : List Lexeme} {s : String}

theorem opened_append_quote (text : List Char) :
    opened (some (text ++ ['\''])) = opened (some text) ++ ['\'', '\''] := by
  simp [opened, Dialect.literal.quoted]

theorem opened_append_of_ne {c : Char} (hc : c ≠ '\'') (text : List Char) :
    opened (some (text ++ [c])) = opened (some text) ++ [c] := by
  simp [opened, Dialect.literal.quoted, hc]

theorem written_literal (text : List Char) :
    written (literal text) = opened (some text) ++ ['\''] := by
  simp [written, opened, Dialect.literal]

theorem flatMap_written_of_readFrom (h : readFrom inside cs = some ls) :
    ls.flatMap written = opened inside ++ cs := by
  fun_induction readFrom inside cs generalizing ls with
  | case1                => cases h; rfl
  | case2 cs ih          => exact ih h
  | case3 c cs hc ih     =>
    obtain ⟨ms, hm, rfl⟩ := Option.map_eq_some_iff.mp h
    exact congrArg (c :: ·) (ih hm)
  | case4                => contradiction
  | case5 text cs ih     =>
    rw [ih h, opened_append_quote, List.append_assoc]
    rfl
  | case6 text cs _ ih   =>
    obtain ⟨ms, hm, rfl⟩ := Option.map_eq_some_iff.mp h
    rw [List.flatMap_cons, ih hm, written_literal, List.append_assoc]
    rfl
  | case7 text c cs _ hc ih =>
    rw [ih h, opened_append_of_ne hc, List.append_assoc]
    rfl

-- Nothing of a text is lost when it is read.
theorem write_of_read (h : read s = some ls) : write ls = s := by
  rw [write, flatMap_written_of_readFrom h, opened, List.nil_append, String.ofList_toList]

end Write

def operator (op : LogicalOperator) : List Lexeme :=
  (Expr.separator op).toList.map char

-- How deep in parentheses a text goes on. One that closes nothing changes nothing.
def depthBehind (depth : Nat) : Lexeme → Nat
  | char c    => (depthStep depth c).getD depth
  | literal _ => depth

-- What follows the operator that the text starts with, if that stands outside parentheses.
def behindOperator? (op : LogicalOperator) (depth : Nat) (ls : List Lexeme) :
    Option (List Lexeme) :=
  if depth = 0 then ls.dropPrefix? (operator op) else none

section Split

variable {op : LogicalOperator} {depth depth' : Nat} {l : Lexeme} {ls ms rest : List Lexeme}

theorem behindOperator?_eq_some_iff :
    behindOperator? op depth ls = some rest ↔ depth = 0 ∧ ls = operator op ++ rest := by
  rw [behindOperator?]
  split
  case isTrue hd  => simp [List.dropPrefix?_eq_some_iff, hd]
  case isFalse hd => simp [hd]

theorem behindOperator?_succ : behindOperator? op (depth + 1) ls = none :=
  if_neg (Nat.succ_ne_zero depth)

theorem length_behindOperator? (h : behindOperator? op depth ls = some rest) :
    rest.length < ls.length := by
  have ho : 0 < (operator op).length := by cases op <;> decide
  have ⟨_, hl⟩ := behindOperator?_eq_some_iff.mp h
  rw [hl, List.length_append]
  omega

-- The operands that a text consists of, if it goes on at some depth.
def operandsFrom (op : LogicalOperator) (depth : Nat) : List Lexeme → List (List Lexeme)
  | []      => [[]]
  | l :: ls =>
    match _h : behindOperator? op depth (l :: ls) with
    | some rest => [] :: operandsFrom op 0 rest
    | none      => (operandsFrom op (depthBehind depth l) ls).modifyHead (l :: ·)
termination_by ls => ls.length
decreasing_by
  · exact length_behindOperator? _h
  · exact Nat.lt_succ_self _

theorem operandsFrom_cons (h : behindOperator? op depth (l :: ls) = none) :
    operandsFrom op depth (l :: ls)
      = (operandsFrom op (depthBehind depth l) ls).modifyHead (l :: ·) := by
  rw [operandsFrom]
  split
  case h_1 hb => rw [h] at hb; contradiction
  case h_2    => rfl

theorem operandsFrom_operator (ls : List Lexeme) :
    operandsFrom op 0 (operator op ++ ls) = [] :: operandsFrom op 0 ls := by
  have hb : behindOperator? op 0 (operator op ++ ls) = some ls :=
    behindOperator?_eq_some_iff.mpr ⟨rfl, rfl⟩
  have ⟨l, ms, ho⟩ : ∃ l ms, operator op = l :: ms := by cases op <;> exact ⟨_, _, rfl⟩
  rw [ho, List.cons_append] at hb ⊢
  rw [operandsFrom]
  split
  case h_1 hr => rw [Option.some.inj (hb.symm.trans hr)]
  case h_2 hr => rw [hb] at hr; contradiction

-- That the text is part of one operand, whatever follows it.
def Undivided (op : LogicalOperator) (ls : List Lexeme) : Prop :=
  ∀ rest, operandsFrom op 0 (ls ++ rest) = (operandsFrom op 0 rest).modifyHead (ls ++ ·)

theorem Undivided.append (hl : Undivided op ls) (hm : Undivided op ms) :
    Undivided op (ls ++ ms) := by
  intro rest
  rw [List.append_assoc, hl, hm, List.modifyHead_modifyHead]
  simp only [List.append_assoc, Function.comp_def]

theorem depthBehind_succ {k : Nat} {c : Char} (h : depthStep depth c = some k) :
    depthBehind (depth + 1) (char c) = k + 1 := by
  rw [depthStep] at h
  rw [depthBehind, depthStep]
  split at h
  case isTrue ho  => cases h; rw [if_pos ho]; rfl
  case isFalse ho =>
    rw [if_neg ho]
    split at h
    case isFalse hc => cases h; rw [if_neg hc]; rfl
    case isTrue hc  =>
      rw [if_pos hc, if_neg (Nat.succ_ne_zero depth)]
      split at h
      case isTrue  => contradiction
      case isFalse => cases h; simp only [Option.getD_some]; omega

-- Inside parentheses there is no operator, until the one is closed that was open in front.
theorem operandsFrom_inside (h : depthAfter depth (outside ls) = some depth') :
    operandsFrom op (depth + 1) (ls ++ rest)
      = (operandsFrom op (depth' + 1) rest).modifyHead (ls ++ ·) := by
  induction ls generalizing depth
  case nil =>
    cases h
    exact (congrFun List.modifyHead_id _).symm
  case cons l ls ih =>
    have ⟨k, hk, hd⟩ : ∃ k, depthBehind (depth + 1) l = k + 1 ∧
        depthAfter k (outside ls) = some depth' := by
      cases l
      case literal => exact ⟨depth, rfl, h⟩
      case char c =>
        obtain ⟨k, hk, hd⟩ := Option.bind_eq_some_iff.mp h
        exact ⟨k, depthBehind_succ hk, hd⟩
    rw [List.cons_append, operandsFrom_cons behindOperator?_succ, hk, ih hd,
      List.modifyHead_modifyHead]
    rfl

-- What stands outside parentheses and has no operator in it.
structure Inert (op : LogicalOperator) (ls : List Lexeme) : Prop where
  level : ∀ l ∈ ls, depthBehind 0 l = 0
  free  : ¬operator op <:+: ls

-- No operator goes on into something that is no part of one.
theorem Inert.behindOperator?_append (h : Inert op ls) (hl : l ∉ operator op) :
    behindOperator? op 0 (ls ++ l :: rest) = none := by
  rw [Option.eq_none_iff_forall_ne_some]
  intro after hb
  have ⟨_, hb⟩ := behindOperator?_eq_some_iff.mp hb
  cases List.append_eq_append_iff.mp hb
  case inl hb =>
    obtain ⟨more, ho, hr⟩ := hb
    cases more
    case nil         => exact h.free (by simp [ho])
    case cons m more =>
      have ⟨hm, _⟩ := List.cons.inj hr
      exact hl (by simp [ho, hm])
  case inr hb =>
    obtain ⟨more, hs, _⟩ := hb
    exact h.free (hs ▸ (List.prefix_append (operator op) more).isInfix)

theorem Inert.operandsFrom_append (h : Inert op ls) (hl : l ∉ operator op) :
    operandsFrom op 0 (ls ++ l :: rest)
      = (operandsFrom op 0 (l :: rest)).modifyHead (ls ++ ·) := by
  induction ls
  case nil            => exact (congrFun List.modifyHead_id _).symm
  case cons m ls ih =>
    have ⟨hm, hv⟩ := List.forall_mem_cons.mp h.level
    have hi : Inert op ls := ⟨hv, fun ho => h.free (ho.trans (List.suffix_cons m ls).isInfix)⟩
    have hb : behindOperator? op 0 (m :: (ls ++ l :: rest)) = none := h.behindOperator?_append hl
    rw [List.cons_append, operandsFrom_cons hb, hm, ih hi, List.modifyHead_modifyHead]
    rfl

theorem Inert.nil (op : LogicalOperator) : Inert op [] where
  level := nofun
  free  := by cases op <;> decide

theorem Inert.undivided_literal (h : Inert op ls) (text : List Char) :
    Undivided op (ls ++ [literal text]) := by
  have hn : literal text ∉ operator op := by simp [operator]
  intro rest
  rw [List.append_assoc, List.singleton_append, h.operandsFrom_append hn,
    operandsFrom_cons ((Inert.nil op).behindOperator?_append hn), List.modifyHead_modifyHead]
  simp [Function.comp_def, depthBehind]

theorem Inert.undivided_parenthesized (h : Inert op ls)
    (hm : depthAfter 0 (outside ms) = some 0) :
    Undivided op (ls ++ (char '(' :: ms ++ [char ')'])) := by
  have ho : char '(' ∉ operator op := by cases op <;> decide
  intro rest
  rw [List.append_assoc, List.append_assoc, List.cons_append, h.operandsFrom_append ho,
    operandsFrom_cons ((Inert.nil op).behindOperator?_append ho)]
  have hd : depthBehind 0 (char '(') = 0 + 1 := rfl
  have hu : depthBehind (0 + 1) (char ')') = 0 := rfl
  rw [hd, operandsFrom_inside hm, List.singleton_append, operandsFrom_cons behindOperator?_succ, hu]
  simp [List.modifyHead_modifyHead, Function.comp_def]

end Split

end Lexeme

open Lexeme

namespace Text

-- That the literals of a text end in it, and its parentheses, too.
def Closed (s : String) : Prop :=
  ∃ ls, read s = some ls ∧ depthAfter 0 (outside ls) = some 0

instance (s : String) : Decidable (Closed s) :=
  decidable_of_iff ((read s).any fun ls => depthAfter 0 (outside ls) = some 0)
    (by simp [Closed, Option.any_eq_true])

-- The operands of an operator in a text, unless that leaves a literal open.
def operands (op : LogicalOperator) (s : String) : Option (List String) :=
  (read s).map fun ls => (operandsFrom op 0 ls).map write

def Undivided (op : LogicalOperator) (s : String) : Prop :=
  ∃ ls, read s = some ls ∧ Lexeme.Undivided op ls

-- What has no quotes besides.
structure Inert (op : LogicalOperator) (s : String) : Prop where
  unquoted : '\'' ∉ s.toList
  inert    : Lexeme.Inert op (s.toList.map char)

variable {op : LogicalOperator} {s t : String} {ss : List String}

theorem WellFormed.closed (h : WellFormed s) : Closed s :=
  have ⟨ls, hr, hl⟩ := h
  ⟨ls, hr, hl.balanced 0⟩

theorem Inert.empty (op : LogicalOperator) : Inert op "" where
  unquoted := nofun
  inert    := .nil op

theorem Inert.undivided_literal (h : Inert op s) (t : String) :
    Undivided op (s ++ Dialect.literal t) :=
  ⟨_, read_append_of_not_mem h.unquoted (read_literal t), h.inert.undivided_literal _⟩

theorem Inert.undivided_parenthesized (h : Inert op s) (ht : Closed t) :
    Undivided op (s ++ Expr.parenthesized t) :=
  have ⟨_, hr, hd⟩ := ht
  ⟨_, read_append_of_not_mem h.unquoted (read_parenthesized hr), h.inert.undivided_parenthesized hd⟩

namespace Undivided

theorem parenthesized (h : Closed s) : Undivided op (Expr.parenthesized s) := by
  have hu : Undivided op ("" ++ Expr.parenthesized s) := (Inert.empty op).undivided_parenthesized h
  rwa [String.empty_append] at hu

theorem append (hs : Undivided op s) (ht : Undivided op t) (hd : t.toList.head? ≠ some '\'') :
    Undivided op (s ++ t) :=
  have ⟨_, hr, hl⟩ := hs
  have ⟨_, hq, hm⟩ := ht
  ⟨_, read_append hr hq hd, hl.append hm⟩

end Undivided

-- The operands come back as they were, wherever else the word stands in them.
theorem operands_intercalate (h : ∀ s ∈ ss, Undivided op s) (hn : ss ≠ []) :
    operands op ((Expr.separator op).intercalate ss) = some ss := by
  induction ss
  case nil          => contradiction
  case cons s ss ih =>
    have ⟨⟨ls, hr, hu⟩, hs⟩ := List.forall_mem_cons.mp h
    cases ss
    case nil =>
      have hl : operandsFrom op 0 ls = [ls] := by
        have hl := hu []
        rwa [List.append_nil, operandsFrom, List.modifyHead_cons, List.append_nil] at hl
      rw [String.intercalate_singleton, operands, hr, Option.map_some, hl, List.map_singleton,
        write_of_read hr]
    case cons t ss =>
      obtain ⟨ms, hm, hms⟩ := Option.map_eq_some_iff.mp (ih hs (List.cons_ne_nil t ss))
      have hq : '\'' ∉ (Expr.separator op).toList := by cases op <;> decide
      have hc : read ((Expr.separator op) ++ (Expr.separator op).intercalate (t :: ss))
          = some (operator op ++ ms) := read_append_of_not_mem hq hm
      have hl : operandsFrom op 0 (ls ++ (operator op ++ ms)) = ls :: operandsFrom op 0 ms := by
        rw [hu, operandsFrom_operator, List.modifyHead_cons, List.append_nil]
      rw [String.intercalate_cons_cons, String.append_assoc, operands,
        read_append hr hc ((Separates.operator op).head _), Option.map_some, hl, List.map_cons,
        write_of_read hr, hms]

-- The first of these operators stands in parentheses, and the last one in a literal.
example : operands .and "(a AND b) AND ' AND '" = some ["(a AND b)", "' AND '"] := by
  decide +kernel

end Text

open Text

namespace Expr

variable {d : Dialect} {e pattern : Expr}

theorem text_upper (d : Dialect) (e : Expr) :
    (upper e).text d = "UPPER" ++ parenthesized (e.text d) := by
  simp [upper, text, texts_eq_map]

-- Outside parentheses and literals a comparison of this form has no words but its own.
theorem undivided_like_upper (he : Closed (e.text d)) (hp : Closed (pattern.text d)) (esc : Char) :
    Text.Undivided .or ((like (upper e) (upper pattern) esc).text d) := by
  have hu : Text.Inert .or "UPPER" := ⟨by decide, by decide, by decide⟩
  have hl : Text.Inert .or " LIKE UPPER" := ⟨by decide, by decide, by decide⟩
  have hs : Text.Inert .or " ESCAPE " := ⟨by decide, by decide, by decide⟩
  have hlh : Separates " LIKE UPPER" := ⟨by decide, by decide⟩
  have hsh : Separates " ESCAPE " := ⟨by decide, by decide⟩
  have hw : " LIKE " ++ "UPPER" = " LIKE UPPER" := by decide
  have hr : Text.Undivided .or (" LIKE UPPER" ++ parenthesized (pattern.text d) ++
      (" ESCAPE " ++ Dialect.literal (String.singleton esc))) :=
    (hl.undivided_parenthesized hp).append (hs.undivided_literal _) (hsh.head _)
  rw [String.append_assoc] at hr
  have ht := (hu.undivided_parenthesized he).append hr (hlh.head _)
  rw [text, text_upper, text_upper]
  simpa only [← hw, String.append_assoc] using ht

end Expr

end TableQuery
