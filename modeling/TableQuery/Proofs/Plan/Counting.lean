import TableQuery.Proofs.Evaluation
import TableQuery.Proofs.Plan.Statement

/-!
What the filtered count counts: what the page yields where no group has to meet a condition.
-/

namespace TableQuery

def Select.withoutHaving (s : Select) : Select :=
  { s with having := [] }

namespace Plan

variable {entity : Entity} {request : Request} {clauses : Clauses} {settings : Settings} {p : Plan}

section Evaluation

variable {Row Key : Type} [DecidableEq Key] (db : Database Row Key) (values : Bindings)

theorem isRoot_root : Database.isRoot p.source (.ident ⟨none, p.root⟩) := by
  simp [Database.isRoot, source]

theorem rowCount?_page (h : p.clauses.select = none) :
    db.rowCount? values (p.select .page) = some (db.yielded values (p.select .page)).length := by
  have hc : (p.select .page).columns = [.ident ⟨none, p.root⟩] := by
    rw [select, h]
    rfl
  rw [Database.rowCount?, hc]
  exact if_pos isRoot_root

theorem rowCount?_withoutHaving (h : p.clauses.select = none) :
    db.rowCount? values (p.select .page).withoutHaving
      = some (db.candidates values (p.select .page).withoutHaving).length := by
  have hy : db.yielded values (p.select .page).withoutHaving
      = db.candidates values (p.select .page).withoutHaving :=
    List.filter_eq_self.mpr fun _ _ => rfl
  have hc : (p.select .page).withoutHaving.columns = [.ident ⟨none, p.root⟩] := by
    rw [select, h]
    rfl
  rw [Database.rowCount?, hc, hy]
  exact if_pos isRoot_root

-- Both queries keep the same rows. Counting the keys of rows is counting their groups.
theorem number?_filteredCount :
    db.number? values (p.select .filteredCount)
      = some (db.candidates values (p.select .page).withoutHaving).length := by
  have hk : db.kept values (p.select .filteredCount)
      = db.kept values (p.select .page).withoutHaving := rfl
  cases hg : p.clauses.grouping
  case nil =>
    have hn : db.number? values (p.select .filteredCount)
        = some (db.kept values (p.select .filteredCount)).length := by
      simp only [Database.number?, select, hg]
      exact if_pos isRoot_root
    have hc : db.candidates values (p.select .page).withoutHaving
        = (db.kept values (p.select .page).withoutHaving).map ([·]) := by
      simp [Database.candidates, select, Select.withoutHaving, hg]
    rw [hn, hc, hk, List.length_map]
  case cons g gs =>
    have hn : db.number? values (p.select .filteredCount)
        = some (Database.countDistinct ((db.kept values (p.select .filteredCount)).map
            (db.keys values (p.clauses.grouping.map .raw)))) := by
      simp only [Database.number?, select, hg]
      rfl
    have hc : db.candidates values (p.select .page).withoutHaving
        = Database.groups (db.keys values (p.clauses.grouping.map .raw))
            (db.kept values (p.select .page).withoutHaving) := by
      simp [Database.candidates, select, Select.withoutHaving, hg]
    rw [hn, hc, hk, Database.length_groups]

end Evaluation

-- One row, which meets every condition; no group meets any.
def ungrouped : Database Unit Unit where
  rows _ _         := [()]
  holds _ _ _      := true
  key _ _ _        := ()
  groupHolds _ _ _ := false

theorem length_candidates_ungrouped (values : Bindings) (s : Select) :
    (ungrouped.candidates values s.withoutHaving).length = 1 := by
  have hk : ungrouped.kept values s.withoutHaving = [()] := by simp [Database.kept, ungrouped]
  rw [Database.candidates, hk]
  split
  case isTrue  => rfl
  case isFalse => rw [Database.length_groups]; rfl

theorem yielded_ungrouped (values : Bindings) {s : Select} (h : s.having ≠ []) :
    ungrouped.yielded values s = [] := by
  have hn (group : List Unit) : s.having.all (ungrouped.groupHolds values · group) = false := by
    have ⟨e, he⟩ := List.exists_mem_of_ne_nil _ h
    exact List.all_eq_false.mpr ⟨e, he, nofun⟩
  rw [Database.yielded, List.filter_eq_nil_iff]
  exact fun group _ => Bool.eq_false_iff.mp (hn group)

theorem filteredCount_counts_page_iff (h : prepare entity request clauses settings = .ok p)
    (hs : clauses.select = none) :
    ∃ page filtered values,
      p.Compiled .page page values ∧ p.Compiled .filteredCount filtered values ∧
      (∀ (Row Key : Type) [DecidableEq Key] (db : Database Row Key),
        ∃ n, db.number? values filtered = some n ∧
          db.rowCount? values page.withoutHaving = some n) ∧
      ((∀ (Row Key : Type) [DecidableEq Key] (db : Database Row Key),
        db.number? values filtered = db.rowCount? values page) ↔ p.clauses.having = []) := by
  have hv := validate_of_prepare h
  have hp : p.clauses.select = none := by rw [clauses_of_prepare h, Clauses.mapFragments, hs]; rfl
  refine ⟨_, _, p.bound .page, compiled hv .page, compiled hv .filteredCount, ?all, ?exact⟩
  case all =>
    intro Row Key _ db
    exact ⟨_, number?_filteredCount db _, rowCount?_withoutHaving db _ hp⟩
  case exact =>
    constructor
    case mp =>
      intro ha
      have hu := ha Unit Unit ungrouped
      rw [number?_filteredCount, rowCount?_page ungrouped _ hp, length_candidates_ungrouped] at hu
      by_contra hh
      have hm : (p.select .page).having ≠ [] := mt List.map_eq_nil_iff.mp hh
      rw [yielded_ungrouped _ hm] at hu
      contradiction
    case mpr =>
      intro hh Row Key _ db
      have hw : (p.select .page).withoutHaving = p.select .page := by
        simp [Select.withoutHaving, select, hh]
      rw [number?_filteredCount, ← rowCount?_withoutHaving db _ hp, hw]

-- Without a condition on groups there is nothing that the count could leave out.
theorem filteredCount_counts_page_of_grouping :
    ∃ p, prepare { name := "Parent" }
        { search := { value := "b" }, columns := [.ofDescriptor "name" ""] }
        { conditions := ["parent.rank > 0"], grouping := ["parent.city"] } {} = .ok p ∧
      ∃ page filtered values,
        p.Compiled .page page values ∧ p.Compiled .filteredCount filtered values ∧
        ∀ (Row Key : Type) [DecidableEq Key] (db : Database Row Key),
          db.number? values filtered = db.rowCount? values page := by
  refine exists_prepare (check_eq_ok_of_order_eq_nil rfl rfl (by decide) rfl) fun hp => ?_
  have ⟨page, filtered, values, hc, hf, _, he⟩ := filteredCount_counts_page_iff hp rfl
  exact ⟨page, filtered, values, hc, hf, he.mpr rfl⟩

-- Parents, each given by the city it lives in, where a group has to be of two at least.
def cities (parents : List String) : Database String String where
  rows _ _             := parents
  holds _ _ _          := true
  key _ _ city         := city
  groupHolds _ _ group := 1 < group.length

-- The only parent of a city is counted, but its group is not on the page.
theorem filteredCount_ignores_having :
    ∃ p, prepare { name := "Parent" } {}
        { grouping := ["parent.city"], having := ["COUNT(parent) > 1"] } {} = .ok p ∧
      ∃ page filtered values,
        p.Compiled .page page values ∧ p.Compiled .filteredCount filtered values ∧
        (cities ["Rome"]).number? values filtered = some 1 ∧
        (cities ["Rome"]).rowCount? values page = some 0 := by
  refine exists_prepare (check_eq_ok_of_order_eq_nil rfl rfl (by decide) rfl) fun hp => ?_
  have hv := validate_of_prepare hp
  refine ⟨_, _, _, compiled hv .page, compiled hv .filteredCount, ?number, ?rowCount⟩
  case number   => decide +kernel
  case rowCount => decide +kernel

end Plan

end TableQuery
