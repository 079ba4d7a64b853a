import TableQuery.Json.Record
import TableQuery.Proofs.Outcome

/-!
Records as they are read from JSON. Fields are put into a record one after the other, so what
putting a field keeps holds of the record that is read; and an object that has all the fields in
their order is read like the array of their values.
-/

namespace TableQuery.Json

open Outcome

variable {σ α : Type} {P : σ → Prop} {fields : List (Field σ)} {r r' : σ}

def Field.Keeps (P : σ → Prop) (f : Field σ) : Prop :=
  ∀ r j r', P r → f.put r j = .ok r' → P r'

theorem Field.keeps_optionally {name : String} {decode : Json → Decoded α} {set : σ → α → σ}
    (h : ∀ {r j a}, P r → decode j = .ok a → P (set r a)) :
    (optionally name decode set).Keeps P := by
  intro r j r' hr hp
  have ⟨a, ha, hs⟩ := bind_eq_ok_iff.mp hp
  exact Except.ok.inj hs ▸ h hr ha

theorem readMembers_induction {seen : List String} {members : List (String × Json)}
    (hf : ∀ f ∈ fields, f.Keeps P) (hr : P r) (h : readMembers fields seen r members = .ok r') :
    P r' := by
  fun_induction readMembers fields seen r members with
  | case1 seen r _ => exact Except.ok.inj h ▸ hr
  | case2 => contradiction
  | case3 seen r name j ms _ ih =>
    have ⟨_, _, h⟩ := bind_eq_ok_iff.mp h
    exact ih hr h
  | case4 => contradiction
  | case5 seen r name j ms f hm _ ih =>
    have ⟨r₁, hp, h⟩ := bind_eq_ok_iff.mp h
    exact ih r₁ (hf f (List.mem_of_find?_eq_some hm) r j r₁ hr hp) h

theorem readRow_induction {items : List Json} (hf : ∀ f ∈ fields, f.Keeps P) (hr : P r)
    (h : readRow r fields items = .ok r') : P r' := by
  fun_induction readRow r fields items with
  | case1 => exact Except.ok.inj h ▸ hr
  | case2 => contradiction
  | case3 r f fs _ ih =>
    have ⟨_, hfs⟩ := List.forall_mem_cons.mp hf
    exact ih hfs hr h
  | case4 => contradiction
  | case5 r f fs j js ih =>
    have ⟨hf, hfs⟩ := List.forall_mem_cons.mp hf
    have ⟨r₁, hp, h⟩ := bind_eq_ok_iff.mp h
    exact ih r₁ hfs (hf r j r₁ hr hp) h

theorem asRecord_induction {j : Json} (hf : ∀ f ∈ fields, f.Keeps P) (hr : P r)
    (h : asRecord fields r j = .ok r') : P r' := by
  cases j
  case object => exact readMembers_induction hf hr h
  case array  => exact readRow_induction hf hr h
  all_goals contradiction

section Zip

variable {before fs : List (Field σ)} {seen : List String} {js : List Json}

theorem find?_name_append (f : Field σ) (fs : List (Field σ)) (hn : f.name ∉ before.map (·.name)) :
    (before ++ f :: fs).find? (·.name == f.name) = some f := by
  have hb : before.find? (·.name == f.name) = none := by
    rw [List.find?_eq_none]
    intro g hg h
    exact hn (beq_iff_eq.mp h ▸ List.mem_map_of_mem hg)
  rw [List.find?_append, hb, Option.none_or]
  exact List.find?_cons_of_pos (beq_self_eq_true f.name)

-- The fields that have been seen are those in front of the ones that are left.
theorem readMembers_zip (hs : ∀ name, name ∈ seen ↔ name ∈ before.map (·.name))
    (hn : ((before ++ fs).map (·.name)).Nodup) (hl : js.length = fs.length) :
    readMembers (before ++ fs) seen r ((fs.map (·.name)).zip js) = readRow r fs js := by
  induction fs generalizing before seen r js
  case nil =>
    have hj : js = [] := List.length_eq_zero_iff.mp hl
    have ha : before.all fun f => f.optional || seen.contains f.name := by
      rw [List.all_eq_true]
      intro f hf
      simp [hs, List.mem_map_of_mem hf]
    subst hj
    rw [List.append_nil, List.map_nil, List.zip_nil_left, readMembers, if_pos ha, readRow]
  case cons f fs ih =>
    have ⟨j, js, hj⟩ := List.exists_cons_of_length_eq_add_one hl
    have hf : f.name ∉ before.map (·.name) := by
      rw [List.map_append, List.map_cons, List.nodup_append] at hn
      exact fun hf => hn.right.right _ hf _ List.mem_cons_self rfl
    have hs' : ∀ name, name ∈ f.name :: seen ↔ name ∈ (before ++ [f]).map (·.name) := by
      intro name
      simp [hs, or_comm]
    subst hj
    rw [List.map_cons, List.zip_cons_cons, readMembers, find?_name_append f fs hf, readRow]
    simp only [List.contains_eq_mem, hs, hf, decide_false, Bool.false_eq_true, if_false]
    congr 1
    funext r'
    rw [List.append_cons] at hn ⊢
    exact ih hs' hn (Nat.succ.inj hl)

theorem asRecord_zip (fields : List (Field σ)) (r : σ) (js : List Json)
    (hn : (fields.map (·.name)).Nodup) (hl : js.length = fields.length) :
    asRecord fields r (.object ((fields.map (·.name)).zip js)) = readRow r fields js :=
  @readMembers_zip σ r [] fields [] js (fun _ => .rfl) hn hl

end Zip

end TableQuery.Json
