import TableQuery.Proofs.Name
import TableQuery.Proofs.Record
import TableQuery.Proofs.Request
import TableQuery.Request.Wire

/-!
Columns as they can be made. However a column came about, its paths were read from a descriptor, so
that their segments are names.
-/

namespace TableQuery

open Text Outcome

theorem Segment.isName_read (cs : List Char) : IsName (Segment.read cs).1.name := by
  have hn : IsName (.ofList (cs.takeWhile isWord)) := by
    intro c hc
    rw [String.toList_ofList] at hc
    exact List.all_eq_true.mp List.all_takeWhile c hc
  unfold Segment.read
  split
  case h_1 => split <;> exact hn
  case h_2 => exact hn

namespace FieldPath

def Named (p : FieldPath) : Prop :=
  ∀ s ∈ p.segments, IsName s.name

theorem isName_readMore (cs : List Char) : ∀ s ∈ (readMore cs).1, IsName s.name := by
  fun_induction readMore cs with
  | case1 cs _ more rest hr ih =>
    rw [hr] at ih
    exact List.forall_mem_cons.mpr ⟨Segment.isName_read cs, ih⟩
  | case2 => exact List.forall_mem_nil _
  | case3 => exact List.forall_mem_nil _

theorem named_read (cs : List Char) : (read cs).1.Named :=
  List.forall_mem_cons.mpr ⟨Segment.isName_read cs, isName_readMore _⟩

end FieldPath

namespace Descriptor

theorem named_pieces (cs : List Char) : ∀ piece ∈ pieces cs, piece.2.Named := by
  fun_induction pieces cs with
  | case1 cs _ ih => exact List.forall_mem_cons.mpr ⟨FieldPath.named_read _, ih⟩
  | case2         => exact List.forall_mem_nil _

theorem named_parse (text : String) : ∀ p ∈ (parse text).paths, p.Named :=
  List.forall_mem_map.mpr (named_pieces text.toList)

end Descriptor

namespace SubField

variable {ps : List FieldPath} {slots : List (Option String)}

theorem length_zip : (zip ps slots).length = min ps.length slots.length :=
  List.length_zipWith

-- The paths that have a slot. What is in the slots does not matter.
theorem map_path_zip_eq : (zip ps slots).map (·.path) = ps.take slots.length := by
  induction ps generalizing slots
  case nil          => rw [List.take_nil]; rfl
  case cons p ps ih =>
    cases slots
    case nil             => rfl
    case cons slot slots => exact congrArg (p :: ·) ih

theorem map_path_zip (h : slots.length = ps.length) : (zip ps slots).map (·.path) = ps := by
  rw [map_path_zip_eq, h, List.take_length]

theorem zip_map (f : Option String → Option String) :
    zip ps (slots.map f) = (zip ps slots).map fun s => { s with format := f s.format } := by
  rw [zip, List.zipWith_map_right, zip, List.map_zipWith]

end SubField

theorem Layout.paths_ofDescriptor (d : Descriptor) : (ofDescriptor d).paths = d.paths := by
  unfold ofDescriptor
  split
  case h_1 hp => exact hp.symm
  case h_2 hp => exact hp.symm
  case h_3    => exact SubField.map_path_zip List.length_replicate

namespace Column

-- How a column can come about. What is set on it later leaves its paths as they were read.
inductive Made : Column → Prop
  | ofDescriptor (data searched : String) : Made (.ofDescriptor data searched)
  | update {c : Column} (hc : Made c) (name : String) (searchable orderable : Bool)
      (search : Search) (format : Option String) :
      Made { c with name, searchable, orderable, search, format }
  | setSubFormat {c : Column} (hc : Made c) (index : Nat) (format : Option String) :
      Made (c.setSubFormat index format).1
  | subColumn {c sub : Column} {subs : List Column} (hc : Made c) (hs : c.subColumns = .ok subs)
      (hm : sub ∈ subs) : Made sub

variable {c sub : Column} {subs : List Column} {index : Nat} {format : Option String}
  {ps : List FieldPath} {ds : List String} {slots : List (Option String)}

section Operations

theorem isMultiField_iff : c.isMultiField ↔ ∃ ps ds slots, c.layout = .multi ps ds slots := by
  rw [isMultiField]
  cases c.layout <;> simp

theorem setSubFormat_of_lt (hl : c.layout = .multi ps ds slots) (hi : index < slots.length) :
    c.setSubFormat index format =
      ({ c with layout := .multi ps ds (slots.set index format) }, .ok ()) := by
  simp only [setSubFormat, hl, hi, ↓reduceIte]

-- Either a slot is filled, or nothing happens.
theorem setSubFormat_cases (c : Column) (index : Nat) (format : Option String) :
    (∃ ps ds slots, c.layout = .multi ps ds slots ∧ c.setSubFormat index format =
      ({ c with layout := .multi ps ds (slots.set index format) }, .ok ())) ∨
    ∃ e, c.setSubFormat index format = (c, .error e) := by
  by_cases h : ∃ ps ds slots, c.layout = .multi ps ds slots ∧ index < slots.length
  case pos =>
    obtain ⟨ps, ds, slots, hl, hi⟩ := h
    exact .inl ⟨ps, ds, slots, hl, setSubFormat_of_lt hl hi⟩
  case neg =>
    unfold setSubFormat
    split
    case h_1 ps ds slots hl => exact .inr ⟨_, if_neg fun hi => h ⟨ps, ds, slots, hl, hi⟩⟩
    case h_2                => exact .inr ⟨_, rfl⟩

-- It fails where there is no slot under the index, and for nothing else.
theorem setSubFormat_eq_error_iff {e : ColumnError} :
    (c.setSubFormat index format).2 = .error e ↔
      (¬c.isMultiField ∧ e = .notMultiField c.data) ∨
      (∃ ps ds slots, c.layout = .multi ps ds slots ∧ slots.length ≤ index ∧
        e = .subColumnOutOfRange c.data index slots.length) := by
  rw [setSubFormat, isMultiField]
  cases hl : c.layout
  case multi ps ds slots =>
    by_cases hi : index < slots.length
    case pos => simp [hi, Nat.not_le.mpr hi]
    case neg => simp [hi, Nat.not_lt.mp hi, eq_comm]
  all_goals simp [eq_comm]

theorem setSubFormat_of_error {e : ColumnError} (h : (c.setSubFormat index format).2 = .error e) :
    (c.setSubFormat index format).1 = c := by
  obtain ⟨ps, ds, slots, hl, hs⟩ | ⟨e, hs⟩ := c.setSubFormat_cases index format
  case inl =>
    rw [hs] at h
    contradiction
  case inr => rw [hs]

theorem subColumns_eq_ok_iff :
    c.subColumns = .ok subs ↔ ∃ ps ds slots, c.layout = .multi ps ds slots ∧
      subs = (SubField.zip ps slots).map c.ofSubField := by
  rw [subColumns]
  cases c.layout
  case multi => simp [eq_comm]
  all_goals simp

end Operations

theorem paths_setSubFormat : (c.setSubFormat index format).1.layout.paths = c.layout.paths := by
  obtain ⟨ps, ds, slots, hl, hs⟩ | ⟨e, hs⟩ := c.setSubFormat_cases index format
  case inl => simp only [hs, hl, Layout.paths, SubField.map_path_zip_eq, List.length_set]
  case inr => rw [hs]

theorem paths_subColumn (h : c.subColumns = .ok subs) (hm : sub ∈ subs) :
    ∀ p ∈ sub.layout.paths, p ∈ c.layout.paths := by
  obtain ⟨ps, ds, slots, hl, rfl⟩ := subColumns_eq_ok_iff.mp h
  obtain ⟨f, hf, rfl⟩ := List.mem_map.mp hm
  intro p hp
  rw [hl]
  exact List.mem_map.mpr ⟨f, hf, (List.mem_singleton.mp hp).symm⟩

namespace Made

theorem named (h : c.Made) : ∀ p ∈ c.layout.paths, p.Named := by
  induction h
  case ofDescriptor data searched =>
    rw [Column.ofDescriptor, Layout.paths_ofDescriptor]
    exact Descriptor.named_parse data
  case update ih          => exact ih
  case setSubFormat ih    => rwa [paths_setSubFormat]
  case subColumn hs hm ih => exact fun p hp => ih p (paths_subColumn hs hm p hp)

theorem ofDraft (d : Draft) : Made (.ofDraft d) :=
  .update (.ofDescriptor (d.data.getD "") "") d.name d.searchable d.orderable d.search none

theorem setColumnFormat (h : c.Made) (format : String) :
    (Request.setColumnFormat format c).1.Made := by
  rw [Request.setColumnFormat]
  split
  case isTrue  => exact inTurn_induction (fun index _ hc => hc.setSubFormat index _) h _
  case isFalse => exact .update h c.name c.searchable c.orderable c.search (some format)

end Made
end Column

namespace Request

variable {r : Request}

-- What holds of all columns in the form in which they are sent holds of those that are read.
theorem forall_mem_columns_of_ofDocument {P : Column → Prop} {document : Json.Document}
    (hd : ∀ d, P (.ofDraft d)) (h : Decoded.ofDocument ofJson document = .ok r) :
    ∀ c ∈ r.columns, P c := by
  have hl : ∀ {j cs}, Json.asList Column.ofJson j = .ok cs → ∀ c ∈ cs, P c := by
    intro j cs h c hc
    cases j
    case array items =>
      have ⟨j, _, hj⟩ := exists_of_mem_mapM h hc
      have ⟨d, _, hc⟩ := bind_eq_ok_iff.mp hj
      exact Except.ok.inj hc ▸ hd d
    all_goals contradiction
  have hf : ∀ f ∈ fields, f.Keeps fun r => ∀ c ∈ r.columns, P c := by
    simp only [fields, List.forall_mem_cons]
    refine ⟨?_, ?_, ?_, ?_, ?_, ?columns, nofun⟩
    case columns => exact Json.Field.keeps_optionally fun _ h => hl h
    all_goals
      apply Json.Field.keeps_optionally
      exact fun hr _ => hr
  rw [Decoded.ofDocument, bind_eq_ok_iff] at h
  have ⟨r', hr, h⟩ := h
  have hm := Json.asRecord_induction hf (fun _ hc => absurd hc List.not_mem_nil) hr
  split at h
  case isTrue  => exact Except.ok.inj h ▸ hm
  case isFalse => contradiction

def Made (r : Request) : Prop :=
  ∀ c ∈ r.columns, c.Made

namespace Made

theorem setDateFormatAt (h : r.Made) (format : String) (index : Nat) :
    (setDateFormatAt format index r).1.Made := by
  rw [Request.setDateFormatAt]
  split
  case h_1      => exact h
  case h_2 c hc =>
    intro d hd
    cases List.mem_or_eq_of_mem_set hd
    case inl hd => exact h d hd
    case inr hd =>
      have hm := List.mem_of_getElem? (column_eq_ok_iff.mp hc)
      exact hd ▸ (h c hm).setColumnFormat format

theorem setDateFormat (h : r.Made) (format : String) (indices : List Nat) :
    (setDateFormat format indices r).1.Made :=
  inTurn_induction (fun index _ hr => hr.setDateFormatAt format index) h indices

-- Whatever a client sends.
theorem ofDocument {document : Json.Document} (h : Decoded.ofDocument ofJson document = .ok r) :
    r.Made :=
  forall_mem_columns_of_ofDocument .ofDraft h

end Made
end Request

end TableQuery
