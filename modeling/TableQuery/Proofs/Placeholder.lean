import TableQuery.Proofs.Candidate
import TableQuery.Proofs.Numbering
import TableQuery.Proofs.Rendering

/-!
Which parameters a text mentions: those whose `:name` occurs in it as a whole word. How that carries
over to texts that are put together from parts.
-/

namespace TableQuery

namespace Placeholder

variable {name cs : List Char} {before : Option Char}

-- Somewhere `:name` stands as a whole word and not after a further colon, in a text that goes on
-- after `before`.
def Occurs (name : List Char) (before : Option Char) (cs : List Char) : Prop :=
  ∃ a b, cs = a ++ ':' :: (name ++ b) ∧ a.getLast?.or before ≠ some ':' ∧ endsName b

-- The same at places of which `P` holds, given by what is in front of them.
def OccursWhere (P : List Char → Prop) (name : List Char) (before : Option Char)
    (cs : List Char) : Prop :=
  ∃ a b, cs = a ++ ':' :: (name ++ b) ∧ a.getLast?.or before ≠ some ':' ∧ endsName b ∧ P a

theorem getLast?_cons_or (c : Char) (a : List Char) (before : Option Char) :
    (c :: a).getLast?.or before = a.getLast?.or (some c) := by
  rw [List.getLast?_cons]
  cases a.getLast? <;> rfl

section Where

variable {P : List Char → Prop}

theorem not_occursWhere_nil : ¬OccursWhere P name before [] := by
  intro ⟨a, b, h, _⟩
  simp at h

theorem occursWhere_cons_iff {c : Char} :
    OccursWhere P name before (c :: cs) ↔
      (c = ':' ∧ before ≠ some ':' ∧ (∃ b, cs = name ++ b ∧ endsName b) ∧ P []) ∨
        OccursWhere (fun a => P (c :: a)) name (some c) cs := by
  constructor
  case mp =>
    intro ⟨a, b, h, hb, he, hp⟩
    cases a
    case nil =>
      have ⟨hc, hs⟩ := List.cons.inj h
      exact .inl ⟨hc, hb, ⟨b, hs, he⟩, hp⟩
    case cons d a =>
      have ⟨hc, hs⟩ := List.cons.inj h
      rw [getLast?_cons_or, ← hc] at hb
      exact .inr ⟨a, b, hs, hb, he, hc ▸ hp⟩
  case mpr =>
    intro h
    cases h
    case inl h =>
      have ⟨hc, hb, ⟨b, hs, he⟩, hp⟩ := h
      exact ⟨[], b, hc ▸ hs ▸ rfl, hb, he, hp⟩
    case inr h =>
      have ⟨a, b, hs, hb, he, hp⟩ := h
      exact ⟨c :: a, b, hs ▸ rfl, getLast?_cons_or c a before ▸ hb, he, hp⟩

-- No occurrence starts in front of the first colon.
theorem occursWhere_append_iff {ds : List Char} (h : ':' ∉ ds) :
    OccursWhere P name before (ds ++ cs) ↔
      OccursWhere (fun a => P (ds ++ a)) name (ds.getLast?.or before) cs := by
  have hl (a : List Char) :
      (ds ++ a).getLast?.or before = a.getLast?.or (ds.getLast?.or before) := by
    rw [List.getLast?_append, Option.or_assoc]
  simp only [OccursWhere, append_eq_append_colon_iff h]
  constructor
  case mp =>
    rintro ⟨_, b, ⟨a, rfl, hs⟩, hb, he, hp⟩
    exact ⟨a, b, hs, hl a ▸ hb, he, hp⟩
  case mpr =>
    rintro ⟨a, b, hs, hb, he, hp⟩
    exact ⟨ds ++ a, b, ⟨a, rfl, hs⟩, (hl a).symm ▸ hb, he, hp⟩

end Where

theorem occurs_iff_occursWhere :
    Occurs name before cs ↔ OccursWhere (fun _ => True) name before cs := by
  simp only [Occurs, OccursWhere, and_true]

theorem occurs_iff_or (P : List Char → Prop) :
    Occurs name before cs ↔
      OccursWhere P name before cs ∨ OccursWhere (fun a => ¬P a) name before cs := by
  simp only [Occurs, OccursWhere]
  grind

theorem not_occurs_nil : ¬Occurs name before [] :=
  mt occurs_iff_occursWhere.mp not_occursWhere_nil

theorem occurs_cons_iff {c : Char} :
    Occurs name before (c :: cs) ↔
      (c = ':' ∧ before ≠ some ':' ∧ ∃ b, cs = name ++ b ∧ endsName b) ∨
        Occurs name (some c) cs := by
  simp only [occurs_iff_occursWhere, occursWhere_cons_iff, and_true]

theorem occurs_append_iff {ds : List Char} (h : ':' ∉ ds) :
    Occurs name before (ds ++ cs) ↔ Occurs name (ds.getLast?.or before) cs := by
  simp only [occurs_iff_occursWhere, occursWhere_append_iff h]

theorem mentionedFrom_iff (hn : ':' ∉ name) :
    mentionedFrom name before cs ↔ Occurs name before cs := by
  have hb : before.toList.getLast? = before := by cases before <;> rfl
  have hl (a : List Char) : (before.toList ++ a).getLast? = a.getLast?.or before := by
    rw [List.getLast?_append, hb]
  rw [← hb, mentionedFrom_eq_any, List.any_eq_true, hb]
  constructor
  case mp =>
    rintro ⟨⟨_, b⟩, hm, hc⟩
    obtain ⟨a, rfl, ht⟩ := (mem_candidatesFrom_iff hn).mp hm
    simp only [counts, hl, Bool.and_eq_true, bne_iff_ne] at hc
    exact ⟨a, b, ht, hc.right, hc.left⟩
  case mpr =>
    rintro ⟨a, b, ht, ha, he⟩
    refine ⟨(before.toList ++ a, b), (mem_candidatesFrom_iff hn).mpr ⟨a, rfl, ht⟩, ?_⟩
    simp only [counts, hl, Bool.and_eq_true, bne_iff_ne]
    exact ⟨he, ha⟩

-- What names are written with: letters and digits of any script, and underscores.
def IsIdentifier (name : List Char) : Prop :=
  ∀ c ∈ name, ¬endsName [c]

instance : DecidablePred IsIdentifier :=
  fun name => List.decidableBAll (¬endsName [·]) name

theorem IsIdentifier.not_mem_colon (hn : IsIdentifier name) : ':' ∉ name :=
  fun hm => hn ':' hm (by decide)

theorem IsIdentifier.append_toString {stem : String} (hn : IsIdentifier stem.toList) (k : Nat) :
    IsIdentifier (stem ++ toString k).toList := by
  intro c hc
  rw [String.toList_append] at hc
  cases List.mem_append.mp hc
  case inl hc => exact hn c hc
  case inr hc =>
    have ha : Text.isAlphanumeric c :=
      Text.isAlphanumeric_of_isAlphanum (by simp [Char.isAlphanum, isDigit_of_mem_toString hc])
    simp [endsName, ha]

section Append

variable {ds : List Char}

theorem endsName_append_iff (he : endsName ds) : endsName (cs ++ ds) ↔ endsName cs := by
  cases cs
  case nil  => exact iff_of_true he rfl
  case cons => rfl

-- No name goes on into a text that ends it.
theorem exists_name_append_iff (hn : IsIdentifier name) (he : endsName ds) :
    (∃ b, cs ++ ds = name ++ b ∧ endsName b) ↔ ∃ b, cs = name ++ b ∧ endsName b := by
  constructor
  case mp =>
    intro ⟨b, h, hb⟩
    cases List.append_eq_append_iff.mp h
    case inl h =>
      obtain ⟨more, hm, hd⟩ := h
      cases more
      case nil         => exact ⟨[], by simp [hm], rfl⟩
      case cons c more =>
        rw [hd] at he
        exact absurd he (hn c (by simp [hm]))
    case inr h =>
      obtain ⟨more, hm, hd⟩ := h
      rw [hd, endsName_append_iff he] at hb
      exact ⟨more, hm, hb⟩
  case mpr =>
    intro ⟨b, h, hb⟩
    exact ⟨b ++ ds, by simp [h], (endsName_append_iff he).mpr hb⟩

theorem exists_name_iff_of_endsName (hn : IsIdentifier name) (hc : endsName cs) (hd : endsName ds) :
    (∃ b, cs = name ++ b ∧ endsName b) ↔ ∃ b, ds = name ++ b ∧ endsName b :=
  (@exists_name_append_iff name [] cs hn hc).trans (@exists_name_append_iff name [] ds hn hd).symm

theorem occurs_append (hn : IsIdentifier name) (he : endsName ds) :
    Occurs name before (cs ++ ds) ↔
      Occurs name before cs ∨ Occurs name (cs.getLast?.or before) ds := by
  induction cs generalizing before
  case nil          => simp [not_occurs_nil]
  case cons c cs ih =>
    rw [List.cons_append, occurs_cons_iff, occurs_cons_iff, exists_name_append_iff hn he, ih,
      getLast?_cons_or, or_assoc]

-- Of what stands in front of a text, only a colon matters.
theorem occurs_iff_of_ne_colon (hb : before ≠ some ':') :
    Occurs name before cs ↔ Occurs name none cs := by
  cases cs <;> simp [not_occurs_nil, occurs_cons_iff, hb]

end Append

-- A blank in front of the colon and a character behind the name show that `:name` is a whole word.
theorem mentioned_of_within {n text after : String} (hn : ':' ∉ n.toList)
    (ha : after.toList ≠ []) (he : endsName after.toList)
    (hw : Text.Within (" :" ++ n ++ after) text) : mentioned text n := by
  have ⟨a, b, ht⟩ := hw
  refine (mentionedFrom_iff hn).mpr ⟨a.toList ++ [' '], after.toList ++ b.toList, ?_, ?_, ?_⟩
  · simp [ht]
  · simp
  · have ⟨c, cs, hc⟩ := List.exists_cons_of_ne_nil ha
    rw [hc] at he ⊢
    exact he

-- That a text, by itself, mentions a name.
def Mentions (name text : String) : Prop :=
  Occurs name.toList none text.toList

-- What ends a name in front of it and does not start with a colon.
def Breaks (s : String) : Prop :=
  endsName s.toList ∧ s.toList.head? ≠ some ':'

instance : DecidablePred Breaks :=
  fun s => inferInstanceAs (Decidable (endsName s.toList ∧ s.toList.head? ≠ some ':'))

namespace Breaks

variable {s t : String}

theorem append (hs : Breaks s) (ht : Breaks t) : Breaks (s ++ t) := by
  rw [Breaks] at hs
  rw [Breaks, String.toList_append]
  cases h : s.toList
  case nil       => exact ht
  case cons c cs => rwa [h] at hs

-- Only the start of a text counts.
theorem append_right (hs : Breaks s) (hn : s ≠ "") (t : String) : Breaks (s ++ t) := by
  have ⟨c, cs, hc⟩ := List.exists_cons_of_ne_nil (mt String.toList_eq_nil_iff.mp hn)
  rw [Breaks, hc] at hs
  rwa [Breaks, String.toList_append, hc]

theorem join {l : List String} (h : ∀ s ∈ l, Breaks s) : Breaks (String.join l) := by
  induction l
  case nil         => exact ⟨rfl, nofun⟩
  case cons s l ih =>
    have ⟨hs, hl⟩ := List.forall_mem_cons.mp h
    rw [String.join_cons]
    exact hs.append (ih hl)

end Breaks

section Mentions

variable {name s t sep : String}

theorem mentioned_iff (hn : IsIdentifier name.toList) {text : String} :
    mentioned text name ↔ Mentions name text :=
  mentionedFrom_iff hn.not_mem_colon

theorem mentions_append (hn : IsIdentifier name.toList) (ht : Breaks t) :
    Mentions name (s ++ t) ↔ Mentions name s ∨ Mentions name t := by
  have ⟨he, hc⟩ := ht
  rw [Mentions, String.toList_append, occurs_append hn he]
  refine or_congr_right ?_
  rw [Mentions]
  cases h : t.toList
  case nil       => simp [not_occurs_nil]
  case cons c cs =>
    have hc : c ≠ ':' := by simpa [h] using hc
    simp [occurs_cons_iff, hc]

-- Without a colon in front nothing can be mentioned before `t` starts.
theorem mentions_append_of_not_mem (hs : ':' ∉ s.toList) :
    Mentions name (s ++ t) ↔ Mentions name t := by
  have hl : s.toList.getLast?.or none ≠ some ':' := by
    rw [Option.or_none]
    exact fun h => hs (List.mem_of_getLast? h)
  rw [Mentions, String.toList_append, occurs_append_iff hs, occurs_iff_of_ne_colon hl, Mentions]

theorem not_mentions_of_not_mem (hs : ':' ∉ s.toList) : ¬Mentions name s := by
  rw [← String.append_empty (s := s), mentions_append_of_not_mem hs]
  exact not_occurs_nil

theorem mentions_enclosed (hn : IsIdentifier name.toList) (hs : ':' ∉ s.toList) (hb : Breaks sep)
    (he : ':' ∉ sep.toList) : Mentions name (s ++ t ++ sep) ↔ Mentions name t := by
  rw [String.append_assoc, mentions_append_of_not_mem hs, mentions_append hn hb,
    or_iff_left (not_mentions_of_not_mem he)]

-- A text goes on to mention what its end does, whatever else is in front of that.
theorem Mentions.append_left (h : Mentions name t) (hs : s.toList.getLast? ≠ some ':') :
    Mentions name (s ++ t) := by
  have ⟨a, b, ht, hb, he⟩ := h
  refine ⟨s.toList ++ a, b, by simp [ht], ?_, he⟩
  rw [List.getLast?_append]
  cases ha : a.getLast?
  case none   => simpa using hs
  case some c => simpa [ha] using hb

theorem mentions_intercalate (hn : IsIdentifier name.toList) (hb : Breaks sep) (he : sep ≠ "")
    (hs : ':' ∉ sep.toList) {l : List String} :
    Mentions name (sep.intercalate l) ↔ ∃ s ∈ l, Mentions name s := by
  induction l
  case nil         => exact iff_of_false not_occurs_nil nofun
  case cons s l ih =>
    cases l
    case nil      => simp
    case cons t l =>
      rw [String.intercalate_cons_cons, String.append_assoc,
        mentions_append hn (hb.append_right he _), mentions_append_of_not_mem hs, ih]
      simp

end Mentions

end Placeholder

end TableQuery
