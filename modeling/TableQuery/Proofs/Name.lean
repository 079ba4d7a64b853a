import TableQuery.Proofs.Scope

/-!
Names of fields and aliases. What is made of names by itself is a name again.
-/

namespace TableQuery

namespace Text

section Chars

variable {P : Char → Prop} {s t sep : String}

theorem forall_mem_append (hs : ∀ c ∈ s.toList, P c) (ht : ∀ c ∈ t.toList, P c) :
    ∀ c ∈ (s ++ t).toList, P c := by
  intro c hc
  rw [String.toList_append] at hc
  cases List.mem_append.mp hc
  case inl hc => exact hs c hc
  case inr hc => exact ht c hc

theorem forall_mem_intercalate {l : List String} (hp : ∀ c ∈ sep.toList, P c)
    (h : ∀ s ∈ l, ∀ c ∈ s.toList, P c) : ∀ c ∈ (sep.intercalate l).toList, P c := by
  induction l
  case nil         => exact nofun
  case cons s l ih =>
    have ⟨hs, hl⟩ := List.forall_mem_cons.mp h
    cases l
    case nil      => rwa [String.intercalate_singleton]
    case cons t l =>
      rw [String.intercalate_cons_cons]
      exact forall_mem_append (forall_mem_append hs hp) (ih hl)

end Chars

def IsName (s : String) : Prop :=
  ∀ c ∈ s.toList, isWord c

instance : DecidablePred IsName :=
  fun s => List.decidableBAll (isWord ·) s.toList

variable {c : Char} {cs before : List Char} {s t : String}

theorem isWord_of_isDigit (h : c.isDigit) : isWord c := by
  simp [isWord, Char.isAlphanum, h]

-- Name characters are ASCII, so each has one lower case, which is a name character.
theorem toNat_lt_of_isWord (h : isWord c) : c.toNat < 0x80 := by
  rw [isWord, Bool.or_eq_true, beq_iff_eq] at h
  cases h
  case inl h =>
    have hr : (decide (65 ≤ c.val ∧ c.val ≤ 90) || 97 ≤ c.val && c.val ≤ 122) ||
        48 ≤ c.val && c.val ≤ 57 := h
    simp [UInt32.le_iff_toNat_le] at hr
    omega
  case inr h => exact h ▸ (by decide)

theorem of_toNat_lt {P : Char → Prop} {n : Nat} (h : ∀ k < n, P (.ofNat k)) (hc : c.toNat < n) :
    P c :=
  Char.ofNat_toNat c ▸ h c.toNat hc

theorem isWord_toLower (h : isWord c) : isWord c.toLower := by
  refine of_toNat_lt (P := fun c => isWord c → isWord c.toLower) ?_ (toNat_lt_of_isWord h) h
  decide +kernel

namespace IsName

theorem append (hs : IsName s) (ht : IsName t) : IsName (s ++ t) :=
  forall_mem_append hs ht

theorem toString (n : Nat) : IsName (toString n) :=
  fun _ hc => isWord_of_isDigit (isDigit_of_mem_toString hc)

theorem lowerAfter (h : ∀ c ∈ cs, isWord c) : ∀ c ∈ lowerAfter before cs, isWord c := by
  induction cs generalizing before
  case nil          => exact h
  case cons c cs ih =>
    have ⟨hc, hcs⟩ := List.forall_mem_cons.mp h
    have hn : c ≠ 'Σ' := by
      intro hs
      exact absurd (hs ▸ hc) (by decide)
    rw [Text.lowerAfter, if_neg hn, lowerChar, if_pos (toNat_lt_of_isWord hc), List.singleton_append]
    exact List.forall_mem_cons.mpr ⟨isWord_toLower hc, ih hcs⟩

theorem lower (h : IsName s) : IsName (lower s) := by
  rw [IsName, Text.lower, String.toList_ofList]
  exact lowerAfter h

end IsName
end Text

open Text

namespace Aliases

variable {a : Aliases} {path : String} {cs p : List Char} {length : Nat}

theorem mem_of_mem_parts {c : Char} (hp : p ∈ parts cs) (hc : c ∈ p) : c ∈ cs := by
  fun_induction parts cs generalizing p with
  | case1                  => exact List.mem_singleton.mp hp ▸ hc
  | case2 cs ih            =>
    cases List.mem_cons.mp hp
    case inl hp => exact absurd (hp ▸ hc) List.not_mem_nil
    case inr hp => exact List.mem_cons_of_mem _ (ih hp hc)
  | case3 d cs _ _ _       =>
    have hd := List.mem_singleton.mp hp
    exact List.mem_cons.mpr (.inl (List.mem_singleton.mp (hd ▸ hc)))
  | case4 d cs _ q qs hq ih =>
    cases List.mem_cons.mp hp
    case inl hp =>
      cases List.mem_cons.mp (hp ▸ hc)
      case inl hc => exact hc ▸ List.mem_cons_self
      case inr hc => exact List.mem_cons_of_mem d (ih (hq ▸ List.mem_cons_self) hc)
    case inr hp => exact List.mem_cons_of_mem d (ih (hq ▸ List.mem_cons_of_mem q hp) hc)

theorem isName_stem (h : IsName path) : IsName (stem length path) := by
  have hp : ∀ p ∈ parts path.toList, IsName (lower (.ofList (p.take length))) := by
    intro p hp
    refine .lower fun c hc => ?_
    rw [String.toList_ofList] at hc
    exact h c (mem_of_mem_parts hp (List.mem_of_mem_take hc))
  exact forall_mem_intercalate (by decide : IsName "_") (List.forall_mem_map.mpr hp)

theorem isName_numbered {stem : String} (h : IsName stem) (k : Nat) : IsName (numbered stem k) :=
  (h.append (by decide)).append (.toString k)

theorem isName_ofRoot {root : String} (h : IsName root) : IsName (ofRoot root length).rootAlias := by
  simp only [ofRoot]
  split
  case isTrue  => exact isName_numbered (isName_stem h) 0
  case isFalse => exact h.lower

theorem rootAlias_ofRoot_ne_empty (root : String) : (ofRoot root length).rootAlias ≠ "" := by
  simp only [ofRoot]
  split
  case isTrue h  => simp [numbered]
  case isFalse h => grind [String.isEmpty_iff]

-- That what is named by a name has one as its alias.
def Spelled (a : Aliases) : Prop :=
  ∀ e ∈ a.entries, IsName e.1 → IsName e.2

theorem ofRoot_spelled (root : String) (length : Nat) : (ofRoot root length).Spelled := by
  have he : (ofRoot root length).entries = [(root, (ofRoot root length).rootAlias)] := rfl
  simp only [Spelled, he, List.forall_mem_singleton]
  exact isName_ofRoot

namespace Spelled

theorem register (h : a.Spelled) : (a.register path).Spelled := by
  by_cases hm : path ∈ a.paths
  case pos => rwa [register_of_mem hm]
  case neg =>
    rw [Spelled, register_entries_of_not_mem hm]
    exact List.forall_mem_append.mpr
      ⟨h, List.forall_mem_singleton.mpr fun hp => isName_numbered (isName_stem hp) _⟩

theorem isName_of_lookup {name : String} (h : a.Spelled) (hl : a.lookup path = some name)
    (hp : IsName path) : IsName name :=
  h _ (mem_entries_of_lookup hl) hp

end Spelled
end Aliases

namespace Scope

variable {s : Scope} {field : String} {kind : JoinKind} {asked : List (String × JoinKind)}

-- A join that is there already keeps its alias.
theorem spelled_join (h : s.aliases.Spelled) : (s.join field kind).aliases.Spelled := by
  by_cases hm : field ∈ s.fields
  case pos => rwa [join_of_mem hm]
  case neg =>
    rw [join_of_not_mem hm]
    exact h.register

theorem spelled_joinAll (h : s.aliases.Spelled) : (s.joinAll asked).aliases.Spelled := by
  induction asked generalizing s
  case nil         => exact h
  case cons a _ ih => exact ih (spelled_join h)

end Scope

end TableQuery
