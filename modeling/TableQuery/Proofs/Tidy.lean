import Mathlib.Data.List.Forall2
import Mathlib.Data.List.Induction
import TableQuery.Proofs.Clauses

/-!
What a caller can do with clauses, one thing after the other, and what holds of them then. No list
has a blank fragment, and none has a fragment twice. The SELECT override is left out if it is blank
when it is set; a mapping that makes it blank leaves it there.
-/

namespace TableQuery.Clauses

structure Tidy (fragments : List String) : Prop where
  nodup  : fragments.Nodup
  filled : ∀ f ∈ fragments, ¬Text.blank f

variable {c : Clauses} {fragments added : List String} {fragment : String}

section Push

-- Of fragments that are added to none, the first of each stays, and no blank ones.
theorem foldl_push_nil : added.foldl push [] = (added.filter (!Text.blank ·)).eraseDups := by
  induction added using List.reverseRecOn
  case nil                     => rfl
  case append_singleton fs f ih =>
    rw [List.foldl_append, List.foldl_cons, List.foldl_nil, ih, push, List.filter_append,
      List.eraseDups_append]
    by_cases hb : Text.blank f
    case pos => simp [hb, List.removeAll]
    case neg =>
      by_cases hm : f ∈ fs
      case pos => simp [hb, hm, List.removeAll]
      case neg => simp [hb, hm, List.removeAll, List.eraseDups_cons]

theorem Tidy.nil : Tidy [] :=
  ⟨List.nodup_nil, nofun⟩

theorem Tidy.push (h : Tidy fragments) : Tidy (push fragments fragment) := by
  rw [Clauses.push]
  split
  case isTrue     => exact h
  case isFalse hn =>
    rw [Bool.or_eq_true, not_or, List.contains_iff_mem] at hn
    constructor
    case nodup  => exact List.nodup_append.mpr ⟨h.nodup, by simp, by grind⟩
    case filled => exact List.forall_mem_append.mpr ⟨h.filled, List.forall_mem_singleton.mpr hn.left⟩

theorem Tidy.foldl_push (h : Tidy fragments) : Tidy (added.foldl Clauses.push fragments) := by
  induction added generalizing fragments
  case nil        => exact h
  case cons _ ih  => exact ih h.push

end Push

-- The lists of fragments, clause by clause.
def lists (c : Clauses) : List (List String) :=
  [c.conditions, c.grouping, c.having, c.order]

section Actions

-- What can be done with clauses.
inductive Action
  | setSelect (select : String)
  | addCondition (fragment : String)
  | addGrouping (fragment : String)
  | addHaving (fragment : String)
  | addOrder (fragment : String)
  | insert (name : String) (value : Value)
  | bindNext (stem : String) (value : Value)
  | mapFragments (f : String → String)

def act (c : Clauses) : Action → Clauses
  | .setSelect select      => c.setSelect select
  | .addCondition fragment => c.addCondition fragment
  | .addGrouping fragment  => c.addGrouping fragment
  | .addHaving fragment    => c.addHaving fragment
  | .addOrder fragment     => c.addOrder fragment
  | .insert name value     => c.insert name value
  | .bindNext stem value   => c.bindNext stem value
  | .mapFragments f        => c.mapFragments f

def after (c : Clauses) (actions : List Action) : Clauses :=
  actions.foldl act c

theorem after_append_singleton (actions : List Action) (a : Action) :
    c.after (actions ++ [a]) = (c.after actions).act a := by
  rw [after, List.foldl_append]
  rfl

theorem tidy_act (h : ∀ l ∈ c.lists, Tidy l) (a : Action) : ∀ l ∈ (c.act a).lists, Tidy l := by
  simp only [lists, List.forall_mem_cons] at h ⊢
  obtain ⟨hc, hg, hh, ho, hn⟩ := h
  cases a
  case addCondition => exact ⟨hc.push, hg, hh, ho, hn⟩
  case addGrouping  => exact ⟨hc, hg.push, hh, ho, hn⟩
  case addHaving    => exact ⟨hc, hg, hh.push, ho, hn⟩
  case addOrder     => exact ⟨hc, hg, hh, ho.push, hn⟩
  case mapFragments =>
    exact ⟨.foldl_push .nil, .foldl_push .nil, .foldl_push .nil, .foldl_push .nil, hn⟩
  all_goals exact ⟨hc, hg, hh, ho, hn⟩

theorem tidy_after (h : ∀ l ∈ c.lists, Tidy l) (actions : List Action) :
    ∀ l ∈ (c.after actions).lists, Tidy l := by
  induction actions generalizing c
  case nil         => exact h
  case cons a _ ih => exact ih (tidy_act h a)

theorem lists_mapFragments (c : Clauses) (f : String → String) :
    (c.mapFragments f).lists
      = c.lists.map fun l => ((l.map f).filter (!Text.blank ·)).eraseDups := by
  simp only [lists, mapFragments, foldl_push_nil, List.map_cons, List.map_nil]

end Actions

section Override

def Action.Overrides (a : Action) : Prop :=
  ∃ select, a = .setSelect select

-- What is put in the place of an override.
def Action.mapped (s : String) : Action → String
  | mapFragments f => f s
  | _              => s

-- That `t` was the last override to be set, and has been mapped to `s` since.
def Overridden (actions : List Action) (t s : String) : Prop :=
  ∃ before rest, actions = before ++ .setSelect t :: rest ∧ (∀ a ∈ rest, ¬a.Overrides) ∧
    s = rest.foldl Action.mapped t

variable {a : Action} {actions : List Action} {s t : String}

theorem select_act_of_not_overrides (h : ¬a.Overrides) :
    (c.act a).select = c.select.map a.mapped := by
  cases a
  case setSelect select => exact absurd ⟨select, rfl⟩ h
  case mapFragments     => rfl
  all_goals exact Option.map_id'.symm

theorem overridden_append_singleton_iff :
    Overridden (actions ++ [a]) t s ↔ (a = .setSelect t ∧ s = t) ∨
      (¬a.Overrides ∧ ∃ r, Overridden actions t r ∧ s = a.mapped r) := by
  constructor
  case mp =>
    intro ⟨before, rest, he, hr, hs⟩
    cases rest using List.reverseRecOn
    case nil =>
      have ⟨_, ha⟩ := List.append_inj' he rfl
      exact .inl ⟨List.singleton_inj.mp ha, hs⟩
    case append_singleton rest b _ =>
      rw [← List.cons_append, ← List.append_assoc] at he
      have ⟨ha, hb⟩ := List.append_inj' he rfl
      have ⟨hr, hn⟩ := List.forall_mem_append.mp hr
      rw [List.singleton_inj.mp hb]
      rw [List.foldl_append] at hs
      exact .inr ⟨hn b (List.mem_singleton_self b), _, ⟨before, rest, ha, hr, rfl⟩, hs⟩
  case mpr =>
    intro h
    cases h
    case inl h => exact ⟨actions, [], by rw [h.left], List.forall_mem_nil _, h.right⟩
    case inr h =>
      have ⟨hn, r, ⟨before, rest, ha, hr, he⟩, hs⟩ := h
      refine ⟨before, rest ++ [a], by simp [ha], ?_, by simp [hs, he]⟩
      exact List.forall_mem_append.mpr ⟨hr, List.forall_mem_singleton.mpr hn⟩

theorem select_after_eq_some_iff :
    (after {} actions).select = some s ↔ ∃ t, ¬Text.blank t ∧ Overridden actions t s := by
  induction actions using List.reverseRecOn generalizing s
  case nil                           => simp [after, Overridden]
  case append_singleton actions a ih =>
    rw [after_append_singleton]
    by_cases ha : a.Overrides
    case pos =>
      obtain ⟨select, rfl⟩ := ha
      have ho : (Action.setSelect select).Overrides := ⟨select, rfl⟩
      simp only [overridden_append_singleton_iff, act, setSelect, ho]
      grind
    case neg =>
      have hn (t : String) : a ≠ .setSelect t := fun he => ha ⟨t, he⟩
      simp only [select_act_of_not_overrides ha, overridden_append_singleton_iff, ha,
        Option.map_eq_some_iff, ih, hn]
      grind

end Override

section Bags

-- What can be done with bags of clauses: a new one, something with one of them, or a copy of it,
-- which is a bag of its own.
inductive Step
  | create
  | act (index : Nat) (a : Action)
  | copy (index : Nat)

def Step.run {β : Type} (start : β) (f : β → Action → β) (bags : List β) : Step → List β
  | create      => bags ++ [start]
  | act index a => bags.modify index (f · a)
  | copy index  => bags ++ bags[index]?.toList

def bags (steps : List Step) : List Clauses :=
  steps.foldl (Step.run {} Clauses.act) []

-- For each bag, what has been done with it. A copy has what was done before with the bag that it was
-- copied from.
def histories (steps : List Step) : List (List Action) :=
  steps.foldl (Step.run [] fun actions a => actions ++ [a]) []

-- What is done alike with two kinds of bags is done alike with several of them.
theorem Step.map_run {β γ : Type} {start : β} {start' : γ} {f : β → Action → β}
    {f' : γ → Action → γ} {g : β → γ} (hs : g start = start')
    (hf : ∀ b a, g (f b a) = f' (g b) a) (bs : List β) (step : Step) :
    (run start f bs step).map g = run start' f' (bs.map g) step := by
  cases step
  case create      => simp [run, hs]
  case copy index  => cases h : bs[index]? <;> simp [run, h]
  case act index a =>
    refine List.ext_getElem? fun i => ?_
    simp only [run, List.getElem?_map, List.getElem?_modify]
    cases bs[i]?
    case none   => rfl
    case some b => by_cases hi : index = i <;> simp [hi, hf]

theorem bags_eq_map_histories (steps : List Step) :
    bags steps = (histories steps).map (after {}) := by
  have hr (hs : List (List Action)) (step : Step) :
      step.run {} act (hs.map (after {}))
        = (step.run [] (fun actions a => actions ++ [a]) hs).map (after {}) :=
    (Step.map_run (show after {} [] = {} from rfl) after_append_singleton hs step).symm
  exact @List.foldl_hom _ _ _ (List.map (after {})) _ _ steps [] hr

-- What holds of clauses that all of these actions were done with.
structure Orderly (c : Clauses) (actions : List Action) : Prop where
  tidy   : ∀ l ∈ c.lists, Tidy l
  select : ∀ s, c.select = some s ↔ ∃ t, ¬Text.blank t ∧ Overridden actions t s
  filled : (∀ f ∈ c.fragments, ¬Text.blank f) ↔
    ∀ t s, ¬Text.blank t → Overridden actions t s → ¬Text.blank s
  mapped : ∀ f, (c.mapFragments f).select = c.select.map f ∧
    (c.mapFragments f).lists
      = c.lists.map (fun l => ((l.map f).filter (!Text.blank ·)).eraseDups) ∧
    (c.mapFragments f).values = c.values

theorem orderly_after (actions : List Action) : Orderly (after {} actions) actions where
  tidy     := tidy_after (by simp [lists, Tidy.nil]) actions
  select _ := select_after_eq_some_iff
  filled   := by
    have ht := tidy_after (c := {}) (by simp [lists, Tidy.nil]) actions
    simp only [lists, List.forall_mem_cons] at ht
    have ⟨hc, hg, hh, ho, _⟩ := ht
    rw [forall_mem_fragments_iff]
    simp only [Option.mem_def, select_after_eq_some_iff]
    constructor
    case mp  => exact fun ⟨hs, _⟩ t s hb ht => hs s ⟨t, hb, ht⟩
    case mpr =>
      exact fun hs => ⟨fun s ⟨t, hb, ht⟩ => hs t s hb ht, hc.filled, hg.filled, hh.filled, ho.filled⟩
  mapped f := ⟨rfl, lists_mapFragments _ f, rfl⟩

-- Every list drops a blank fragment wherever it comes from. An override that is blank from the start
-- is dropped as well, so that only a mapping can leave a blank one.
theorem bags_orderly (steps : List Step) : (bags steps).Forall₂ Orderly (histories steps) := by
  rw [bags_eq_map_histories, List.forall₂_map_left_iff, List.forall₂_same]
  exact fun actions _ => orderly_after actions

-- Everything is mapped to a blank: the condition is dropped, the override is not.
theorem mapFragments_blank_select :
    ∃ c ∈ bags [.create, .act 0 (.setSelect "p.a"), .act 0 (.addCondition "p.b = 1"),
        .act 0 (.mapFragments fun _ => " ")],
      c.select = some " " ∧ c.conditions = [] ∧ ∃ f ∈ c.fragments, Text.blank f :=
  ⟨_, List.mem_cons_self, rfl, rfl, " ", List.mem_cons_self, rfl⟩

end Bags

end TableQuery.Clauses
