import TableQuery.Proofs.Outcome
import TableQuery.Request.Basic

/-!
Which requests are in order, and which of their columns are searched.
-/

namespace TableQuery.Request

open Outcome

variable {r : Request}

-- Whether a column is searched, and for something.
def isSearched (r : Request) (c : Column) : Bool :=
  c.searchable && !c.isEmpty && !(r.searchText c).isEmpty

def searched (r : Request) : List Column :=
  r.columns.filter r.isSearched

theorem isSearched_iff {c : Column} :
    r.isSearched c ↔ c.searchable ∧ ¬c.isEmpty ∧ ¬(r.searchText c).isEmpty := by
  simp [isSearched, and_assoc]

def InRange (r : Request) (o : Order) : Prop :=
  o.column.toNat < r.columns.length

instance (r : Request) (o : Order) : Decidable (r.InRange o) :=
  inferInstanceAs (Decidable (_ < _))

theorem column_eq_ok_iff {index : Nat} {c : Column} :
    r.column index = .ok c ↔ r.columns[index]? = some c := by
  simp only [column]
  cases r.columns[index]? <;> simp

theorem column_eq_error_iff {index : Nat} {e : RequestError} :
    r.column index = .error e ↔
      r.columns.length ≤ index ∧ .columnIndexOutOfRange index r.columns.length = e := by
  rw [← List.getElem?_eq_none_iff, column]
  cases r.columns[index]? <;> simp

theorem exists_column_iff {o : Order} : (∃ c, r.column o.column.toNat = .ok c) ↔ r.InRange o := by
  simp only [column_eq_ok_iff, InRange, List.getElem?_eq_some_iff]
  exact ⟨fun ⟨_, h, _⟩ => h, fun h => ⟨_, h, rfl⟩⟩

theorem limit_eq_ok_iff {n : UInt64} :
    r.limit = .ok n ↔ 0 < r.length.toInt ∧ .ofNat r.length.toInt.toNat = n := by
  simp only [limit]
  split
  case isTrue h  => rw [Except.ok.injEq, and_iff_right h]
  case isFalse h => exact ⟨nofun, fun ⟨hl, _⟩ => absurd hl h⟩

theorem limit_eq_error_iff {e : RequestError} :
    r.limit = .error e ↔ ¬0 < r.length.toInt ∧ .invalidLength r.length = e := by
  simp only [limit]
  split
  case isTrue h  => exact ⟨nofun, fun ⟨hl, _⟩ => absurd h hl⟩
  case isFalse h => rw [Except.error.injEq, and_iff_right h]

theorem validate_eq_ok_iff :
    r.validate = .ok () ↔ 0 < r.length.toInt ∧ ∀ o ∈ r.order, r.InRange o := by
  simp only [validate, bind_eq_ok_iff, limit_eq_ok_iff, forM_eq_ok_iff]
  constructor
  case mp =>
    intro ⟨_, ⟨hl, _⟩, ho⟩
    refine ⟨hl, fun o hm => ?_⟩
    have ⟨c, hc, _⟩ := ho o hm
    exact exists_column_iff.mp ⟨c, hc⟩
  case mpr =>
    intro ⟨hl, ho⟩
    refine ⟨_, ⟨hl, rfl⟩, fun o hm => ?_⟩
    have ⟨c, hc⟩ := exists_column_iff.mpr (ho o hm)
    exact ⟨c, hc, rfl⟩

-- What is wrong with a request: its length, or else the first of its orders that names no column.
inductive Refused (r : Request) : RequestError → Prop
  | length (hl : ¬0 < r.length.toInt) : Refused r (.invalidLength r.length)
  | order {before : List Order} {o : Order} {after : List Order} (hl : 0 < r.length.toInt)
      (ho : r.order = before ++ o :: after) (hb : ∀ i ∈ before, r.InRange i) (hn : ¬r.InRange o) :
      Refused r (.columnIndexOutOfRange o.column.toNat r.columns.length)

theorem validate_eq_error_iff {e : RequestError} : r.validate = .error e ↔ r.Refused e := by
  have hok {o : Order} : (do let _ ← r.column o.column.toNat) = .ok () ↔ r.InRange o := by
    simp only [bind_eq_ok_iff, ← exists_column_iff]
    exact ⟨fun ⟨c, hc, _⟩ => ⟨c, hc⟩, fun ⟨c, hc⟩ => ⟨c, hc, rfl⟩⟩
  have herror {o : Order} : (do let _ ← r.column o.column.toNat) = .error e ↔
      ¬r.InRange o ∧ .columnIndexOutOfRange o.column.toNat r.columns.length = e := by
    rw [bind_eq_error_iff, column_eq_error_iff, InRange, Nat.not_lt]
    exact or_iff_left fun ⟨_, _, h⟩ => nomatch h
  simp only [validate, bind_eq_error_iff, limit_eq_error_iff, limit_eq_ok_iff, forM_eq_error_iff,
    hok, herror]
  constructor
  case mp =>
    intro h
    cases h
    case inl h =>
      have ⟨hl, he⟩ := h
      exact he ▸ .length hl
    case inr h =>
      have ⟨_, ⟨hl, _⟩, _, _, _, ho, hb, hn, he⟩ := h
      exact he ▸ .order hl ho hb hn
  case mpr =>
    intro h
    cases h
    case length hl         => exact .inl ⟨hl, rfl⟩
    case order hl ho hb hn => exact .inr ⟨_, ⟨hl, rfl⟩, _, _, _, ho, hb, hn, rfl⟩

-- Nothing can be out of range in a request without orders.
theorem validate_eq_ok_of_order_eq_nil (hl : 0 < r.length.toInt) (ho : r.order = []) :
    r.validate = .ok () := by
  refine validate_eq_ok_iff.mpr ⟨hl, fun o hm => ?_⟩
  rw [ho] at hm
  contradiction

end TableQuery.Request
