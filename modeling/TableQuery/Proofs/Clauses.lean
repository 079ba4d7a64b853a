import Mathlib.Data.List.Nodup
import TableQuery.Clauses
import TableQuery.Proofs.Numbering

/-!
Values that are bound under new names. The names depend on what is bound already and on how many
are needed, never on the values.
-/

namespace TableQuery

namespace Bindings

variable {b : Bindings} {name : String} {value : Value}

theorem insert_of_not_mem (h : name ∉ b.names) :
    b.insert name value = ⟨b.entries ++ [(name, value)]⟩ := by
  have hg : ∀ es : List (String × Value), name ∉ es.map (·.1) →
      insert.go name value es = es ++ [(name, value)] := by
    intro es hm
    induction es
    case nil          => rfl
    case cons e es ih =>
      rw [List.map_cons, List.mem_cons, not_or] at hm
      rw [insert.go, if_neg (Ne.symm hm.left), ih hm.right, List.cons_append]
  rw [insert, hg b.entries h]

theorem get?_append (b : Bindings) (es : List (String × Value)) (name : String) :
    get? ⟨b.entries ++ es⟩ name = (b.get? name).or (es.lookup name) :=
  List.lookup_append

-- A name that is bound once has the value that it is bound with.
theorem lookup_eq_some_of_mem {es : List (String × Value)} (hn : (es.map (·.1)).Nodup)
    (h : (name, value) ∈ es) : es.lookup name = some value := by
  induction es
  case nil          => contradiction
  case cons e es ih =>
    have ⟨he, hn⟩ := List.nodup_cons.mp hn
    cases List.mem_cons.mp h
    case inl h => rw [← h, lookup_cons, if_pos rfl]
    case inr h =>
      have hm : name ∈ es.map (·.1) := List.mem_map_of_mem h
      have hx : name ≠ e.1 := ne_of_mem_of_not_mem hm he
      rw [lookup_cons, if_neg hx, ih hn h]

theorem get?_eq_none_iff : b.get? name = none ↔ name ∉ b.names := by
  rw [mem_names_iff, Option.not_isSome_iff_eq_none]

-- That each name of `b` has the same value in `b'`.
def Sub (b b' : Bindings) : Prop :=
  ∀ name value, b.get? name = some value → b'.get? name = some value

theorem Sub.restrict {b' : Bindings} {p q : String → Bool} (h : b.Sub b')
    (hp : ∀ name ∈ b.names, p name → q name) : (b.restrict p).Sub (b'.restrict q) := by
  intro name value hv
  rw [get?_restrict] at hv ⊢
  have ⟨hm, hv⟩ := Option.ite_none_right_eq_some.mp hv
  have hn : name ∈ b.names := mem_names_iff.mpr (by simp [hv])
  rw [if_pos (hp name hn hm), h name value hv]

theorem restrict_congr {p q : String → Bool} (h : ∀ name ∈ b.names, p name = q name) :
    b.restrict p = b.restrict q :=
  congrArg Bindings.mk (List.filter_congr fun e he => h e.1 (List.mem_map_of_mem he))

theorem names_restrict (b : Bindings) (p : String → Bool) :
    (b.restrict p).names = b.names.filter p :=
  List.filter_map.symm

end Bindings

-- The first free name that starts with `stem`, numbered from the number of names taken on.
def freeName (stem : String) (taken : List String) : String :=
  stem ++ toString (firstFree (stem ++ toString ·) taken taken.length)

def freeNames (stem : String) (taken : List String) : Nat → List String
  | 0         => []
  | count + 1 =>
    freeName stem taken :: freeNames stem (taken ++ [freeName stem taken]) count

section FreeNames

variable {stem name : String} {taken : List String} {count : Nat}

theorem freeName_not_mem : freeName stem taken ∉ taken :=
  firstFree_append_not_mem stem taken taken.length

@[simp]
theorem length_freeNames : (freeNames stem taken count).length = count := by
  induction count generalizing taken
  case zero         => rfl
  case succ _ ih    => rw [freeNames, List.length_cons, ih]

theorem not_mem_of_mem_freeNames (h : name ∈ freeNames stem taken count) : name ∉ taken := by
  induction count generalizing taken
  case zero      => contradiction
  case succ _ ih =>
    cases List.mem_cons.mp h
    case inl h => exact h ▸ freeName_not_mem
    case inr h => exact mt (List.mem_append_left _) (ih h)

theorem freeNames_nodup : (freeNames stem taken count).Nodup := by
  induction count generalizing taken
  case zero      => exact List.nodup_nil
  case succ _ ih =>
    refine List.nodup_cons.mpr ⟨fun h => ?_, ih⟩
    exact not_mem_of_mem_freeNames h (List.mem_append_right _ (List.mem_singleton.mpr rfl))

theorem exists_number_of_mem_freeNames (h : name ∈ freeNames stem taken count) :
    ∃ k : Nat, name = stem ++ toString k := by
  induction count generalizing taken
  case zero      => contradiction
  case succ _ ih =>
    cases List.mem_cons.mp h
    case inl h => exact ⟨_, h⟩
    case inr h => exact ih h

end FreeNames

namespace Clauses

variable {c : Clauses} {stem : String}

theorem forall_mem_fragments_iff {P : String → Prop} :
    (∀ f ∈ c.fragments, P f) ↔ (∀ f ∈ c.select, P f) ∧ (∀ f ∈ c.conditions, P f) ∧
      (∀ f ∈ c.grouping, P f) ∧ (∀ f ∈ c.having, P f) ∧ ∀ f ∈ c.order, P f := by
  simp [fragments, or_imp, forall_and]

theorem fragments_eq_nil_iff :
    c.fragments = [] ↔ c.select = none ∧ c.conditions = [] ∧ c.grouping = [] ∧ c.having = [] ∧
      c.order = [] := by
  simp [fragments]

theorem forall_mem_push {P : String → Prop} {fragments : List String} {fragment : String}
    (hs : ∀ f ∈ fragments, P f) (h : P fragment) : ∀ f ∈ push fragments fragment, P f := by
  rw [push]
  split
  case isTrue  => exact hs
  case isFalse => exact List.forall_mem_append.mpr ⟨hs, List.forall_mem_singleton.mpr h⟩

theorem forall_mem_foldl_push {P : String → Prop} {fragments added : List String}
    (hs : ∀ f ∈ fragments, P f) (ha : ∀ f ∈ added, P f) :
    ∀ f ∈ added.foldl push fragments, P f := by
  induction added generalizing fragments
  case nil         => exact hs
  case cons a _ ih =>
    have ⟨h, ha⟩ := List.forall_mem_cons.mp ha
    exact ih (forall_mem_push hs h) ha

-- Each fragment is made of one that was there.
theorem forall_mem_mapFragments {P : String → Prop} {g : String → String}
    (h : ∀ f ∈ c.fragments, P (g f)) : ∀ f ∈ (c.mapFragments g).fragments, P f := by
  have ⟨hs, hc, hg, hh, ho⟩ := forall_mem_fragments_iff.mp h
  have hm {l : List String} (hl : ∀ f ∈ l, P (g f)) : ∀ f ∈ (l.map g).foldl push [], P f :=
    forall_mem_foldl_push (List.forall_mem_nil _) (List.forall_mem_map.mpr hl)
  refine forall_mem_fragments_iff.mpr ⟨?select, hm hc, hm hg, hm hh, hm ho⟩
  case select =>
    intro f hf
    have ⟨s, hc, hf⟩ := Option.map_eq_some_iff.mp hf
    exact hf ▸ hs s hc

theorem fragments_mapFragments_eq_nil (h : c.fragments = []) (f : String → String) :
    (c.mapFragments f).fragments = [] := by
  obtain ⟨hs, hc, hg, hh, ho⟩ := fragments_eq_nil_iff.mp h
  rw [fragments_eq_nil_iff, mapFragments, hs, hc, hg, hh, ho]
  exact ⟨rfl, rfl, rfl, rfl, rfl⟩

-- With further values, under names that have none.
def withEntries (c : Clauses) (entries : List (String × Value)) : Clauses :=
  { c with values.entries := c.values.entries ++ entries }

theorem nextName_eq : c.nextName stem = freeName stem c.values.names := by
  simp [nextName, freeName, Bindings.names, Bindings.size]

theorem nextName_not_mem : c.nextName stem ∉ c.values.names :=
  nextName_eq ▸ freeName_not_mem

theorem bindNext_eq (value : Value) :
    c.bindNext stem value = c.withEntries [(c.nextName stem, value)] := by
  rw [bindNext, insert, Bindings.insert_of_not_mem nextName_not_mem, withEntries]

theorem names_withEntries (es : List (String × Value)) :
    (c.withEntries es).values.names = c.values.names ++ es.map (·.1) :=
  List.map_append

theorem withEntries_withEntries (es es' : List (String × Value)) :
    (c.withEntries es).withEntries es' = c.withEntries (es ++ es') := by
  simp [withEntries]

end Clauses

end TableQuery
