import TableQuery.Proofs.Name
import TableQuery.Query.Projection

/-!
What is left of a SELECT override. The keyword in front of a projection is taken away if a space is
right behind it, and stays where it is before any other blank.
-/

namespace TableQuery

namespace Text

variable {c : Char} {s t : String}

theorem toLower_of_le_toNat (h : 0x80 ≤ c.toNat) : c.toLower = c := by
  have hz : 'Z'.val.toNat = 90 := rfl
  have hc : c.val.toNat = c.toNat := rfl
  have hu : ¬(c.val ≥ 'A'.val ∧ c.val ≤ 'Z'.val) := by
    rw [ge_iff_le, UInt32.le_iff_toNat_le, UInt32.le_iff_toNat_le]
    omega
  exact dif_neg hu

-- Blanks have one case, and are not the other case of anything.
theorem toLower_of_isBlank (h : isBlank c ∨ isBlank c.toLower) : c.toLower = c := by
  by_cases hc : c.toNat < 0x80
  case pos =>
    refine of_toNat_lt (P := fun c => isBlank c ∨ isBlank c.toLower → c.toLower = c) ?_ hc h
    decide +kernel
  case neg => exact toLower_of_le_toNat (Nat.not_lt.mp hc)

theorem not_isWord_of_isBlank (h : isBlank c) : ¬isWord c := by
  intro hw
  refine of_toNat_lt (P := fun c => isBlank c → ¬isWord c) ?_ (toNat_lt_of_isWord hw) h hw
  decide +kernel

def trimStart (s : String) : String :=
  .ofList (s.toList.dropWhile isBlank)

theorem toList_trimStart : (trimStart s).toList = s.toList.dropWhile isBlank :=
  String.toList_ofList

theorem trimStart_append (h : blank s) : trimStart (s ++ t) = trimStart t := by
  have hb := List.all_eq_true.mp h
  rw [trimStart, String.toList_append, List.dropWhile_append_of_pos hb, trimStart]

theorem trimStart_eq_self {cs : List Char} (h : s.toList = c :: cs) (hc : ¬isBlank c) :
    trimStart s = s := by
  rw [trimStart, h, List.dropWhile_cons_of_neg hc, ← h, String.ofList_toList]

theorem exists_append_trimStart (s : String) : ∃ lead, blank lead ∧ s = lead ++ trimStart s := by
  refine ⟨.ofList (s.toList.takeWhile isBlank), ?blank, ?append⟩
  case blank  => rw [blank, String.toList_ofList, List.all_takeWhile]
  case append =>
    rw [← String.toList_inj, String.toList_append, String.toList_ofList, toList_trimStart,
      List.takeWhile_append_dropWhile]

end Text

open Text

namespace Projection

-- How the keyword comes to stand in front of a projection: the blanks before it, the keyword as it
-- is spelled, and the blanks between it and the projection.
structure Introduces (lead word gap : String) : Prop where
  lead : blank lead
  word : word.toList.map Char.toLower = "select".toList
  gap  : blank gap ∧ gap ≠ ""

def StartsWithKeyword (s : String) : Prop :=
  ∃ lead word gap rest, Introduces lead word gap ∧ s = lead ++ word ++ gap ++ rest

variable {s lead word gap projection : String}

namespace Introduces

variable (h : Introduces lead word gap)
include h

theorem not_isBlank_of_mem_word {c : Char} (hc : c ∈ word.toList) : ¬isBlank c := by
  intro hb
  have hm := h.word ▸ List.mem_map_of_mem hc
  rw [toLower_of_isBlank (.inl hb)] at hm
  have hn : "select".toList.all (!isBlank ·) := by decide
  simpa [hb] using List.all_eq_true.mp hn c hm

theorem not_mem {c : Char} (hb : ¬isBlank c) (hl : c.toLower ∉ "select".toList) :
    c ∉ (lead ++ word ++ gap).toList := by
  rw [String.toList_append, String.toList_append, List.mem_append, List.mem_append]
  rintro ((hc | hc) | hc)
  · exact hb (List.all_eq_true.mp h.lead c hc)
  · exact hl (h.word ▸ List.mem_map_of_mem hc)
  · exact hb (List.all_eq_true.mp h.gap.left c hc)

theorem length_word : word.toList.length = 6 := by
  rw [← List.length_map Char.toLower, h.word]
  rfl

theorem exists_gap_cons : ∃ c cs, gap.toList = c :: cs ∧ isBlank c ∧ ∀ c ∈ cs, isBlank c := by
  have ⟨hb, hn⟩ := h.gap
  have ⟨c, cs, hg⟩ := List.exists_cons_of_ne_nil (mt String.toList_eq_nil_iff.mp hn)
  rw [blank, hg, List.all_cons, Bool.and_eq_true] at hb
  exact ⟨c, cs, hg, hb.left, List.all_eq_true.mp hb.right⟩

theorem trimStart_append (rest : String) :
    trimStart (lead ++ word ++ gap ++ rest) = word ++ gap ++ rest := by
  have hn : word.toList ≠ [] := List.ne_nil_of_length_eq_add_one h.length_word
  have ⟨c, cs, hw⟩ := List.exists_cons_of_ne_nil hn
  rw [String.append_assoc, String.append_assoc, Text.trimStart_append h.lead,
    ← String.append_assoc]
  have hs : (word ++ gap ++ rest).toList = c :: (cs ++ gap.toList ++ rest.toList) := by simp [hw]
  exact trimStart_eq_self hs (h.not_isBlank_of_mem_word (hw ▸ List.mem_cons_self))

end Introduces

theorem stripSelect_eq : stripSelect s =
    if ((trimStart s).toList.take 7).map Char.toLower = "select ".toList then
      trimStart (.ofList ((trimStart s).toList.drop 7))
    else trimStart s := by
  simp only [stripSelect, trimStart, String.toList_ofList]

-- The keyword is recognised by seven characters, of which the last one has to be a space.
theorem stripSelect_introduced (h : Introduces lead word gap)
    (hp : trimStart projection = projection) :
    stripSelect (lead ++ word ++ gap ++ projection)
      = if gap.toList.head? = some ' ' then projection else word ++ gap ++ projection := by
  have ⟨c, cs, hg, hc, hcs⟩ := h.exists_gap_cons
  have hs : (word ++ gap ++ projection).toList
      = (word.toList ++ [c]) ++ (cs ++ projection.toList) := by simp [hg]
  have hl : (word.toList ++ [c]).length = 7 := by simp [h.length_word]
  rw [stripSelect_eq, h.trimStart_append, hs, List.take_left' hl, List.drop_left' hl,
    List.map_append, h.word, hg, List.head?_cons]
  refine if_congr ?keyword ?space rfl
  case keyword =>
    have hk : "select ".toList = "select".toList ++ [' '] := rfl
    rw [hk, List.append_cancel_left_eq, List.map_singleton, List.singleton_inj,
      toLower_of_isBlank (.inl hc), Option.some_inj]
  case space =>
    rw [trimStart, String.toList_ofList, List.dropWhile_append_of_pos hcs]
    exact hp

theorem stripSelect_of_not_startsWithKeyword (h : ¬StartsWithKeyword s) :
    stripSelect s = trimStart s := by
  rw [stripSelect_eq, if_neg]
  intro hk
  have ⟨lead, hl, hs⟩ := exists_append_trimStart s
  have hk : _ = "select".toList ++ [' '] := hk
  obtain ⟨word, gap, ht, hw, hg⟩ := List.map_eq_append_iff.mp hk
  obtain ⟨c, rfl, hc⟩ := List.map_eq_singleton_iff.mp hg
  have hb : isBlank c.toLower := hc ▸ rfl
  rw [toLower_of_isBlank (.inr hb)] at hb
  refine h ⟨lead, .ofList word, .ofList [c], .ofList ((trimStart s).toList.drop 7),
    ⟨hl, ?word, ?gap, ?nonempty⟩, ?append⟩
  case word     => rwa [String.toList_ofList]
  case gap      => simpa [blank] using hb
  case nonempty => simp
  case append   =>
    have hd := List.take_append_drop 7 (trimStart s).toList
    rw [ht] at hd
    rw [String.append_assoc, String.append_assoc, ← String.ofList_append, ← String.ofList_append,
      ← List.append_assoc, hd, String.ofList_toList]
    exact hs

-- How the text of a query starts that selects `projection`.
def Selects (text projection : String) : Prop :=
  ∃ rest, text = "SELECT " ++ projection ++ " FROM " ++ rest

-- If a text starts as it does with more in front of it, what is in front is found at its end again.
theorem forall_mem_of_prefix_append {front text tail : List Char} (h : text <+: front ++ text)
    (ht : tail <:+ text) (hl : tail.length ≤ front.length) : ∀ c ∈ tail, c ∈ front := by
  obtain ⟨found, hf⟩ := h
  have hp : found.Perm front :=
    (List.perm_append_left_iff text).mp (hf ▸ List.perm_append_comm)
  have hs : tail <:+ text ++ found := hf ▸ ht.trans (List.suffix_append ..)
  have hs : tail <:+ found :=
    List.suffix_of_suffix_length_le hs (List.suffix_append ..) (hp.length_eq ▸ hl)
  exact fun c hc => hp.mem_iff.mp (hs.mem hc)

-- The projection could only be read in front of its keyword if there were an F in the keyword.
theorem Introduces.not_selects {text : String} (h : Introduces lead word gap)
    (ht : Selects text (word ++ gap ++ projection)) : ¬Selects text projection := by
  obtain ⟨rest, rfl⟩ := ht
  intro ⟨rest', he⟩
  let keyword := word.toList ++ gap.toList
  let selected := projection.toList ++ " FROM ".toList
  have he : keyword ++ selected ++ rest.toList = selected ++ rest'.toList := by
    simpa [← String.toList_inj, keyword, selected] using he
  have hp : selected <+: keyword ++ selected :=
    List.prefix_of_prefix_length_le ⟨_, he.symm⟩ (List.prefix_append ..) (by simp)
  have hl : " FROM ".toList.length ≤ keyword.length := by
    rw [List.length_append, h.length_word]
    exact Nat.le_add_right 6 _
  have hm : 'F' ∈ keyword :=
    forall_mem_of_prefix_append hp (List.suffix_append ..) hl 'F' (by decide)
  have hk : keyword <:+ (lead ++ word ++ gap).toList := ⟨lead.toList, by simp [keyword]⟩
  exact h.not_mem (by decide) (by decide) (hk.mem hm)

end Projection
end TableQuery
