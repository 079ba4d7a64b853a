import Mathlib.Data.List.Infix
import TableQuery.Proofs.Fragment
import TableQuery.Text.Alphanumeric

/-!
Where references start. A fragment has one wherever the root's alias, a field and their points stand
outside literals and no name or path goes on in front of them, as far as names are written in ASCII.
-/

namespace TableQuery

-- That `word` stands behind `before` in a text that goes on at a place, and starts outside its
-- literals.
structure Place.Stands (place : Place) (word before text : List Char) : Prop where
  within : before ++ word <+: text
  starts : place.after (before ++ word.take 1) = .outside

instance {place : Place} {word before text : List Char} :
    Decidable (place.Stands word before text) :=
  decidable_of_iff (before ++ word <+: text ∧ place.after (before ++ word.take 1) = .outside)
    ⟨fun ⟨hw, hs⟩ => ⟨hw, hs⟩, fun ⟨hw, hs⟩ => ⟨hw, hs⟩⟩

namespace Place.Stands

variable {place : Place} {word before text : List Char} {b c : Char}

theorem before_prefix (h : place.Stands word before text) : before <+: text :=
  (List.prefix_append before word).trans h.within

theorem nil_iff (hn : word ≠ []) :
    place.Stands word [] (c :: text) ↔ word <+: c :: text ∧ place.next c = .outside := by
  obtain ⟨d, ds, rfl⟩ := List.exists_cons_of_ne_nil hn
  constructor
  case mp =>
    intro ⟨hw, hs⟩
    obtain ⟨rfl, _⟩ := List.cons_prefix_cons.mp hw
    exact ⟨hw, hs⟩
  case mpr =>
    intro ⟨hw, hs⟩
    obtain ⟨rfl, _⟩ := List.cons_prefix_cons.mp hw
    exact ⟨hw, hs⟩

theorem cons_iff :
    place.Stands word (b :: before) (c :: text) ↔
      b = c ∧ (place.next c).Stands word before text := by
  constructor
  case mp =>
    intro ⟨hp, hs⟩
    obtain ⟨rfl, hw⟩ := List.cons_prefix_cons.mp hp
    exact ⟨rfl, hw, hs⟩
  case mpr =>
    rintro ⟨rfl, hw, hs⟩
    refine ⟨?_, hs⟩
    rw [List.cons_append]
    exact List.cons_prefix_cons.mpr ⟨rfl, hw⟩

-- What goes on behind a word does not move its start.
theorem of_append {more : List Char} (h : place.Stands (word ++ more) before text)
    (hn : word ≠ []) : place.Stands word before text where
  within := by
    have hp := h.within
    rw [← List.append_assoc] at hp
    exact (List.prefix_append _ _).trans hp
  starts := by
    have hs := h.starts
    rwa [List.take_append_of_le_length (List.length_pos_iff.mpr hn)] at hs

end Place.Stands

open Text

namespace Fragment

variable {root field cs : List Char} {c : Char} {quoted : Bool} {before : Option Char}
  {place : Place}

-- A reference that stands where a name may start, in a text that goes on behind `last`.
def Referred (root : List Char) (place : Place) (last : Option Char) (text : List Char) : Prop :=
  ∃ field before, field ≠ [] ∧ (∀ c ∈ field, isWord c) ∧
    place.Stands ((Piece.reference field).chars root) before text ∧
    isBoundary (before.getLast?.or last)

theorem not_referred_nil : ¬Referred root place before [] := by
  intro ⟨field, before, _, _, hs, _⟩
  have hn := List.prefix_nil.mp hs.within
  simp [Piece.chars] at hn

theorem chars_reference_ne_nil : (Piece.reference field).chars root ≠ [] := by
  simp [Piece.chars]

theorem reference?_isSome_iff_exists :
    (reference? root cs).isSome ↔ ∃ field, field ≠ [] ∧ (∀ c ∈ field, isWord c) ∧
      (Piece.reference field).chars root <+: cs := by
  rw [Option.isSome_iff_exists]
  constructor
  case mp =>
    rintro ⟨⟨field, rest⟩, h⟩
    obtain ⟨hc, hn, hw⟩ := reference?_eq_some_iff.mp h
    exact ⟨field, hn, hw, rest, by simp [hc, Piece.chars]⟩
  case mpr =>
    rintro ⟨field, hn, hw, rest, hc⟩
    exact ⟨(field, rest), reference?_eq_some_iff.mpr ⟨by simp [← hc, Piece.chars], hn, hw⟩⟩

theorem referred_cons_iff :
    Referred root place before (c :: cs) ↔
      (place.next c = .outside ∧ isBoundary before ∧ (reference? root (c :: cs)).isSome) ∨
        Referred root (place.next c) (some c) cs := by
  rw [reference?_isSome_iff_exists]
  constructor
  case mp =>
    intro ⟨field, front, hn, hw, hs, hb⟩
    cases front
    case nil =>
      have ⟨hp, ho⟩ := (Place.Stands.nil_iff chars_reference_ne_nil).mp hs
      exact .inl ⟨ho, hb, field, hn, hw, hp⟩
    case cons d front =>
      obtain ⟨rfl, hs⟩ := Place.Stands.cons_iff.mp hs
      rw [Placeholder.getLast?_cons_or] at hb
      exact .inr ⟨field, front, hn, hw, hs, hb⟩
  case mpr =>
    intro h
    cases h
    case inl h =>
      obtain ⟨ho, hb, field, hn, hw, hp⟩ := h
      have hs := (Place.Stands.nil_iff chars_reference_ne_nil).mpr ⟨hp, ho⟩
      exact ⟨field, [], hn, hw, hs, hb⟩
    case inr h =>
      obtain ⟨field, front, hn, hw, hs, hb⟩ := h
      refine ⟨field, c :: front, hn, hw, Place.Stands.cons_iff.mpr ⟨rfl, hs⟩, ?_⟩
      rwa [Placeholder.getLast?_cons_or]

-- The quotes so far tell whether a literal is open.
theorem exists_reference_iff (hq : quoted = (place == .inside)) :
    (∃ field, .reference field ∈ piecesFrom root quoted before cs) ↔
      Referred root place before cs := by
  fun_induction piecesFrom root quoted before cs generalizing place with
  | case1 => simp [not_referred_nil]
  | case2 quoted before cs ih =>
    rw [referred_cons_iff, Place.next_eq_outside_iff, ← ih (hq ▸ Place.inside_next_quote.symm)]
    simp
  | case3 quoted before c cs hc hb field rest hr _ =>
    obtain ⟨ho, hb⟩ : quoted = false ∧ isBoundary before := by simpa using hb
    have hp : place ≠ .inside := by simpa [ho] using hq
    simp [referred_cons_iff, Place.next_eq_outside_iff, hc, hp, hb, hr]
  | case4 quoted before c cs hc _ hr ih =>
    rw [referred_cons_iff, hr, ← ih (hq.trans (Place.inside_next_of_ne hc).symm)]
    simp
  | case5 quoted before c cs hc hb ih =>
    have hn : ¬(place ≠ .inside ∧ isBoundary before) := by simp_all
    rw [referred_cons_iff, Place.next_eq_outside_iff,
      ← ih (hq.trans (Place.inside_next_of_ne hc).symm)]
    grind

theorem referencedFields_eq_nil_iff {fragment root : String} :
    referencedFields fragment root = [] ↔
      ¬Referred root.toList .outside none fragment.toList := by
  rw [← @exists_reference_iff root.toList fragment.toList false none .outside rfl,
    List.eq_nil_iff_forall_not_mem, not_exists]
  simp only [mem_referencedFields]
  exact ⟨fun h field hm => h (.ofList field) (by rwa [String.toList_ofList]), fun h f => h f.toList⟩

-- Where there are no references, every character is written as itself.
theorem written_piecesFrom {aliases : Aliases} {relationships : List String}
    (h : ∀ field, .reference field ∉ piecesFrom root quoted before cs) :
    written aliases relationships (piecesFrom root quoted before cs) = cs := by
  fun_induction piecesFrom root quoted before cs with
  | case1               => rfl
  | case3 _ _ _ _ _ _ f => exact absurd List.mem_cons_self (h f)
  | case2 _ _ _ ih
  | case4 _ _ _ _ _ _ _ ih
  | case5 _ _ _ _ _ _ ih =>
    rw [written_char, ih fun field hm => h field (List.mem_cons_of_mem _ hm)]

theorem resolve_eq_self {aliases : Aliases} {relationships : List String} {fragment : String}
    (h : referencedFields fragment aliases.rootAlias = []) :
    resolve aliases relationships fragment = fragment := by
  rw [← String.toList_inj, toList_resolve]
  refine written_piecesFrom fun field hm => ?_
  have hf : .ofList field ∈ referencedFields fragment aliases.rootAlias := by
    rwa [mem_referencedFields, String.toList_ofList]
  rw [h] at hf
  contradiction

section Tail

-- Whether a name or path goes on behind a character, where names are written with the letters and
-- digits of any script.
def continues (c : Char) : Bool :=
  isAlphanumeric c || c == '_' || c == '.'

-- The root's alias stands outside literals only as the tail of a longer name or path.
def Tail (root fragment : String) : Prop :=
  ∀ before, Place.outside.Stands root.toList before fragment.toList →
    before.getLast?.any continues

instance (root fragment : String) : Decidable (Tail root fragment) :=
  decidable_of_iff
    (∀ before ∈ fragment.toList.inits, Place.outside.Stands root.toList before fragment.toList →
      before.getLast?.any continues)
    ⟨fun h before hs => h before ((List.mem_inits _ _).mpr hs.before_prefix) hs,
      fun h before _ => h before⟩

-- The test at a boundary only knows the letters and digits of ASCII.
theorem isBoundary_iff_of_continues (h : continues c) :
    isBoundary (some c) ↔ 0x80 ≤ c.toNat := by
  constructor
  case mp =>
    intro hb
    obtain ⟨hw, hp⟩ : isWord c = false ∧ c ≠ '.' := by simpa [isBoundary] using hb
    obtain ⟨ha, hu⟩ : c.isAlphanum = false ∧ c ≠ '_' := by simpa [isWord] using hw
    have hc : isAlphanumeric c := by simpa [continues, hu, hp] using h
    rw [isAlphanumeric, ha, Bool.false_or, Bool.and_eq_true] at hc
    exact of_decide_eq_true hc.left
  case mpr =>
    intro hn
    have hw : isWord c = false := by
      rw [← Bool.not_eq_true]
      exact fun hw => Nat.not_lt.mpr hn (toNat_lt_of_isWord hw)
    have hp : c ≠ '.' := by
      intro hp
      rw [hp] at hn
      exact absurd hn (by decide)
    simp [isBoundary, hw, hp]

variable {root fragment : String}

theorem Tail.ne_nil (h : Tail root fragment) : root.toList ≠ [] := by
  intro hr
  have hc := h [] ⟨by simp [hr], by simp [hr, Place.after]⟩
  contradiction

theorem Tail.exists_getLast? (h : Tail root fragment) {field before : List Char}
    (hs : Place.outside.Stands ((Piece.reference field).chars root.toList) before fragment.toList) :
    ∃ c, before.getLast? = some c ∧ (isBoundary (some c) ↔ 0x80 ≤ c.toNat) := by
  rw [Piece.chars, List.append_assoc] at hs
  obtain ⟨c, hc, hn⟩ := (Option.any_eq_true _ _).mp (h before (hs.of_append h.ne_nil))
  exact ⟨c, hc, isBoundary_iff_of_continues hn⟩

theorem untouched_iff (h : Tail root fragment) :
    (referencedFields fragment root = [] ∧ ∀ aliases relationships, aliases.rootAlias = root →
      resolve aliases relationships fragment = fragment) ↔
    ∀ field before, field ≠ [] → (∀ c ∈ field, isWord c) →
      Place.outside.Stands ((Piece.reference field).chars root.toList) before fragment.toList →
      ∀ c ∈ before.getLast?, c.toNat < 0x80 := by
  constructor
  case mp =>
    intro ⟨hr, _⟩ field before hn hw hs c hc
    have ⟨d, hd, hb⟩ := h.exists_getLast? hs
    have he : d = c := Option.some.inj (hd.symm.trans hc)
    refine Nat.lt_of_not_le fun hl => referencedFields_eq_nil_iff.mp hr ?_
    exact ⟨field, before, hn, hw, hs, by rwa [Option.or_none, hd, hb, he]⟩
  case mpr =>
    intro ha
    have hr : referencedFields fragment root = [] := by
      rw [referencedFields_eq_nil_iff]
      intro ⟨field, before, hn, hw, hs, hb⟩
      have ⟨c, hc, hi⟩ := h.exists_getLast? hs
      rw [Option.or_none, hc, hi] at hb
      exact Nat.not_lt.mpr hb (ha field before hn hw hs c hc)
    exact ⟨hr, fun _ _ he => resolve_eq_self (he ▸ hr)⟩

theorem untouched_of_longer_name :
    Tail "parent" "grandparent.child.x = 'parent.child.y'" ∧
    referencedFields "grandparent.child.x = 'parent.child.y'" "parent" = [] ∧
    resolve ((Aliases.ofRoot "Parent" 5).register "child") ["child"]
        "grandparent.child.x = 'parent.child.y'"
      = "grandparent.child.x = 'parent.child.y'" := by
  have ht : Tail "parent" "grandparent.child.x = 'parent.child.y'" := by decide +kernel
  have ha : "grandparent.child.x = 'parent.child.y'".toList.all (·.toNat < 0x80) := by
    decide +kernel
  have ⟨hr, hu⟩ := (untouched_iff ht).mpr fun field before _ _ hs c hc =>
    of_decide_eq_true (List.all_eq_true.mp ha c (hs.before_prefix.subset (List.mem_of_getLast? hc)))
  exact ⟨ht, hr, hu _ _ (by decide +kernel)⟩

-- A letter outside ASCII does not hold a reference off, so the name that it belongs to is torn
-- apart.
theorem torn_after_letter :
    Tail "parent" "éparent.child.x = 1" ∧
    referencedFields "éparent.child.x = 1" "parent" = ["child"] ∧
    resolve ((Aliases.ofRoot "Parent" 5).register "child") ["child"] "éparent.child.x = 1"
      = "échild_1.x = 1" := by
  decide +kernel

end Tail

end Fragment

end TableQuery
