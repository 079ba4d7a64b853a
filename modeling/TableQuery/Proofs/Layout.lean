import Mathlib.Data.List.Forall2
import TableQuery.Proofs.Descriptor.Division

/-!
What columns keep of their descriptors. The layout is read once, when the column is made; whatever
is done with the column later, it is what reading the descriptor again would give, formats aside.
-/

namespace TableQuery

open Text Outcome

-- A path that stands by itself is read back.
theorem FieldPath.Spelled.parse_display {p : FieldPath} (h : p.Spelled) :
    Descriptor.parse p.display = ⟨[p], []⟩ := by
  apply Descriptor.Divides.parse_eq
  constructor
  case whole    => exact ⟨"", "", by decide, by decide, by simp [Descriptor.display]⟩
  case count    => rfl
  case between  => exact List.forall_mem_nil _
  case spelled  => exact List.forall_mem_singleton.mpr h
  case segments => simp [FieldPath.allOf_display h]

namespace Layout

variable {l : Layout} {ps : List FieldPath} {ds : List String} {slots : List (Option String)}
  {d : Descriptor}

-- Empties all slots, and keeps them.
def withoutFormats : Layout → Layout
  | multi ps ds slots => multi ps ds (slots.map fun _ => none)
  | l                 => l

def formats : Layout → List (Option String)
  | multi _ _ slots => slots
  | _               => []

def withFormats (slots : List (Option String)) : Layout → Layout
  | multi ps ds _ => multi ps ds slots
  | l             => l

theorem withoutFormats_ofDescriptor (d : Descriptor) :
    (ofDescriptor d).withoutFormats = ofDescriptor d := by
  unfold ofDescriptor
  split
  case h_1 => rfl
  case h_2 => rfl
  case h_3 => simp [withoutFormats]

theorem paths_withoutFormats (l : Layout) : l.withoutFormats.paths = l.paths := by
  cases l
  case multi => simp only [withoutFormats, paths, SubField.map_path_zip_eq, List.length_map]
  all_goals rfl

theorem withFormats_withoutFormats (l : Layout) : l.withoutFormats.withFormats l.formats = l := by
  cases l <;> rfl

-- There are several fields where the descriptor has several paths, and then there is a slot for each.
theorem multi_eq_ofDescriptor (h : multi ps ds slots = ofDescriptor d) :
    ⟨ps, ds⟩ = d ∧ 2 ≤ ps.length ∧ slots = List.replicate ps.length none := by
  unfold ofDescriptor at h
  split at h
  case h_1 => contradiction
  case h_2 => contradiction
  case h_3 h₀ h₁ =>
    obtain ⟨rfl, hd, rfl⟩ := multi.inj h
    refine ⟨Descriptor.ext rfl hd, ?_, rfl⟩
    match hp : d.paths with
    | []          => exact absurd hp h₀
    | [p]         => exact absurd hp (h₁ p)
    | _ :: _ :: _ => exact Nat.le_add_left 2 _

end Layout

namespace Column

variable {c sub : Column} {subs : List Column} {index : Nat} {format : Option String}
  {ps : List FieldPath} {ds : List String} {slots : List (Option String)}

-- The layout that the column would have if it were made now.
def Parsed (c : Column) : Prop :=
  c.layout.withoutFormats = .ofDescriptor (.parse c.data)

namespace Parsed

theorem paths (h : c.Parsed) : c.layout.paths = (Descriptor.parse c.data).paths := by
  rw [← Layout.paths_withoutFormats, h, Layout.paths_ofDescriptor]

theorem layout_eq (h : c.Parsed) :
    c.layout = (Layout.ofDescriptor (.parse c.data)).withFormats c.layout.formats := by
  rw [← h, Layout.withFormats_withoutFormats]

theorem spelled (h : c.Parsed) : ∀ p ∈ c.layout.paths, p.Spelled :=
  h.paths ▸ (Descriptor.divides_parse c.data).spelled

theorem ofDescriptor (data searched : String) : (ofDescriptor data searched).Parsed :=
  Layout.withoutFormats_ofDescriptor _

section Several

variable (h : c.Parsed) (hl : c.layout = .multi ps ds slots)

include h hl

theorem multi_eq : .multi ps ds (slots.map fun _ => none)
    = Layout.ofDescriptor (.parse c.data) := by
  rw [← h, hl]
  rfl

theorem descriptor_eq : ⟨ps, ds⟩ = Descriptor.parse c.data :=
  (Layout.multi_eq_ofDescriptor (h.multi_eq hl)).left

theorem two_le_length : 2 ≤ ps.length :=
  (Layout.multi_eq_ofDescriptor (h.multi_eq hl)).right.left

theorem length_slots : slots.length = ps.length := by
  have hs := congrArg List.length (Layout.multi_eq_ofDescriptor (h.multi_eq hl)).right.right
  rwa [List.length_map, List.length_replicate] at hs

theorem length_delimiters : ds.length + 1 = ps.length := by
  have hd := Descriptor.divides_parse c.data
  rw [← h.descriptor_eq hl] at hd
  have hc : ds.length = ps.length - 1 := hd.count
  have hn := h.two_le_length hl
  omega

-- A name for each field, and a slot for each name.
theorem length_fieldNames : c.fieldNames.length = slots.length := by
  rw [fieldNames, hl, h.length_slots hl, List.length_map]

end Several

theorem setSubFormat (h : c.Parsed) (index : Nat) (format : Option String) :
    (c.setSubFormat index format).1.Parsed := by
  obtain ⟨ps, ds, slots, hl, hs⟩ | ⟨e, hs⟩ := c.setSubFormat_cases index format
  case inl =>
    rw [Parsed, hl] at h
    rw [hs, Parsed, ← h, Layout.withoutFormats, Layout.withoutFormats, List.map_const',
      List.map_const', List.length_set]
  case inr => rwa [hs]

theorem subColumn (h : c.Parsed) (hs : c.subColumns = .ok subs) (hm : sub ∈ subs) :
    sub.Parsed := by
  obtain ⟨ps, ds, slots, hl, rfl⟩ := subColumns_eq_ok_iff.mp hs
  have ⟨f, hf, he⟩ := List.mem_map.mp hm
  have hp : f.path.Spelled := h.spelled f.path (by rw [hl]; exact List.mem_map_of_mem hf)
  rw [← he, Parsed, ofSubField, hp.parse_display]
  rfl

end Parsed

theorem Made.parsed (h : c.Made) : c.Parsed := by
  induction h
  case ofDescriptor data searched => exact .ofDescriptor data searched
  case update ih                  => exact ih
  case setSubFormat ih            => exact ih.setSubFormat _ _
  case subColumn hs hm ih         => exact ih.subColumn hs hm

section Actions

-- What can be done with a column.
inductive Action
  | setSearchable (searchable : Bool)
  | setOrderable (orderable : Bool)
  | setSearch (search : Search)
  | setFormat (format : Option String)
  | setSubFormat (index : Nat) (format : Option String)
  | takeSub (index : Nat)

-- The column afterwards, and whether that was done.
def act (c : Column) : Action → Column × Except ColumnError Unit
  | .setSearchable searchable   => ({ c with searchable }, .ok ())
  | .setOrderable orderable     => ({ c with orderable }, .ok ())
  | .setSearch search           => ({ c with search }, .ok ())
  | .setFormat format           => ({ c with format }, .ok ())
  | .setSubFormat index format  => c.setSubFormat index format
  | .takeSub index              =>
    match c.subColumns with
    | .ok subs => (subs[index]?.getD c, .ok ())
    | .error e => (c, .error e)

def after (c : Column) (actions : List Action) : Column :=
  actions.foldl (fun c a => (c.act a).1) c

-- How a column can begin: by its descriptor, or as it is sent.
inductive Begun : Column → Prop
  | ofDescriptor (data searched : String) : Begun (.ofDescriptor data searched)
  | ofJson {c : Column} {j : Json} (h : Column.ofJson j = .ok c) : Begun c

theorem Begun.made (h : c.Begun) : c.Made := by
  cases h
  case ofDescriptor data searched => exact .ofDescriptor data searched
  case ofJson j h =>
    have ⟨d, _, hd⟩ := bind_eq_ok_iff.mp h
    exact Except.ok.inj hd ▸ .ofDraft d

theorem Made.act (h : c.Made) (a : Action) : (c.act a).1.Made := by
  cases a
  case setSearchable searchable => exact .update h c.name searchable c.orderable c.search c.format
  case setOrderable orderable   => exact .update h c.name c.searchable orderable c.search c.format
  case setSearch search         => exact .update h c.name c.searchable c.orderable search c.format
  case setFormat format         => exact .update h c.name c.searchable c.orderable c.search format
  case setSubFormat index format => exact .setSubFormat h index format
  case takeSub index =>
    rw [Column.act]
    split
    case h_1 subs hs =>
      cases hi : subs[index]?
      case none     => exact h
      case some sub => exact .subColumn h hs (List.mem_of_getElem? hi)
    case h_2 => exact h

theorem Made.after (h : c.Made) (actions : List Action) : (c.after actions).Made := by
  induction actions generalizing c
  case nil          => exact h
  case cons a _ ih  => exact ih (h.act a)

end Actions

-- What a field of a column is by itself.
structure IsSubColumn (c : Column) (path : FieldPath) (format : Option String) (sub : Column) :
    Prop where
  layout     : sub.layout = .single path
  data       : sub.data = path.display
  parse      : Descriptor.parse sub.data = ⟨[path], []⟩
  searchable : sub.searchable = c.searchable
  orderable  : sub.orderable = c.orderable
  search     : sub.search = c.search
  format     : sub.format = format

-- What the sub-columns of a column are: one for each path, with the format in the path's slot.
structure AreSubColumns (c : Column) (ps : List FieldPath) (slots : List (Option String))
    (subs : List Column) : Prop where
  length : subs.length = ps.length
  fields : ∀ (i : Nat) path format, ps[i]? = some path → slots[i]? = some format →
    ∃ sub, subs[i]? = some sub ∧ c.IsSubColumn path format sub

theorem Parsed.areSubColumns (h : c.Parsed) (hl : c.layout = .multi ps ds slots) :
    c.AreSubColumns ps slots ((SubField.zip ps slots).map c.ofSubField) where
  length := by rw [List.length_map, SubField.length_zip, h.length_slots hl, Nat.min_self]
  fields i path format hp hf := by
    have hz : (SubField.zip ps slots)[i]? = some ⟨path, format⟩ := by
      rw [SubField.zip, List.getElem?_zipWith, hp, hf]
    have hm : path ∈ c.layout.paths := by
      rw [hl]
      exact List.mem_map_of_mem (List.mem_of_getElem? hz)
    refine ⟨_, by rw [List.getElem?_map, hz, Option.map_some], ?_⟩
    exact ⟨rfl, rfl, (h.spelled path hm).parse_display, rfl, rfl, rfl, rfl⟩

-- What the layout of a column has to do with its descriptor.
structure Matched (c : Column) : Prop where
  layout    : c.layout.withoutFormats = .ofDescriptor (.parse c.data)
  paths     : c.layout.paths = (Descriptor.parse c.data).paths
  shape     : ∀ ps ds slots, c.layout = .multi ps ds slots →
    2 ≤ ps.length ∧ slots.length = ps.length ∧ ds.length + 1 = ps.length
  subs      : ∀ ps ds slots, c.layout = .multi ps ds slots → ∃ subs, c.AreSubColumns ps slots subs ∧
    ∀ format, { c with format }.subColumns = .ok subs
  set       : ∀ ps ds slots index format, c.layout = .multi ps ds slots → index < ps.length →
    c.setSubFormat index format =
      ({ c with layout := .multi ps ds (slots.set index format) }, .ok ())
  refused   : ∀ index format e, (c.setSubFormat index format).2 = .error e ↔
    (¬c.isMultiField ∧ e = .notMultiField c.data) ∨
    (c.isMultiField ∧ c.fieldNames.length ≤ index ∧
      e = .subColumnOutOfRange c.data index c.fieldNames.length)
  unchanged : ∀ index format e, (c.setSubFormat index format).2 = .error e →
    (c.setSubFormat index format).1 = c

theorem Parsed.setSubFormat_eq_error_iff (h : c.Parsed) {e : ColumnError} :
    (c.setSubFormat index format).2 = .error e ↔
      (¬c.isMultiField ∧ e = .notMultiField c.data) ∨
      (c.isMultiField ∧ c.fieldNames.length ≤ index ∧
        e = .subColumnOutOfRange c.data index c.fieldNames.length) := by
  rw [Column.setSubFormat_eq_error_iff]
  refine or_congr_right ⟨?mp, ?mpr⟩
  case mp =>
    rintro ⟨ps, ds, slots, hl, hi, he⟩
    rw [h.length_fieldNames hl]
    exact ⟨isMultiField_iff.mpr ⟨ps, ds, slots, hl⟩, hi, he⟩
  case mpr =>
    rintro ⟨hm, hi, he⟩
    obtain ⟨ps, ds, slots, hl⟩ := isMultiField_iff.mp hm
    rw [h.length_fieldNames hl] at hi he
    exact ⟨ps, ds, slots, hl, hi, he⟩

-- Whichever field it is for.
theorem Parsed.setSubFormat_ok (h : c.Parsed) (hm : c.isMultiField)
    (hi : index < c.fieldNames.length) : (c.setSubFormat index format).2 = .ok () := by
  obtain ⟨ps, ds, slots, hl⟩ := isMultiField_iff.mp hm
  rw [setSubFormat_of_lt hl (h.length_fieldNames hl ▸ hi)]

theorem Parsed.matched (h : c.Parsed) : c.Matched where
  layout               := h
  paths                := h.paths
  shape _ _ _ hl       := ⟨h.two_le_length hl, h.length_slots hl, h.length_delimiters hl⟩
  subs ps ds slots hl  := by
    refine ⟨_, h.areSubColumns hl, fun _ => ?_⟩
    exact subColumns_eq_ok_iff.mpr ⟨ps, ds, slots, hl, rfl⟩
  set _ _ _ _ _ hl hi := setSubFormat_of_lt hl (h.length_slots hl ▸ hi)
  refused _ _ _        := h.setSubFormat_eq_error_iff
  unchanged _ _ _      := setSubFormat_of_error

theorem layout_matches_descriptor (h : c.Begun) (actions : List Action) :
    (c.after actions).Matched :=
  (h.made.after actions).parsed.matched

-- The first sub-format is set, the second is for a field that is not there.
theorem layout_matches_descriptor_of_two :
    ∃ c, c = (ofDescriptor "child?.a + b" "x").after
        [.setSubFormat 1 (some "%d"), .setSubFormat 2 none, .setFormat (some "%Y")] ∧
      c.layout = .multi [⟨[⟨"child", true⟩, ⟨"a", false⟩]⟩, ⟨[⟨"b", false⟩]⟩] [" + "]
        [none, some "%d"] ∧
      (c.setSubFormat 2 none).1 = c ∧
      ∃ sub sub', c.subColumns = .ok [sub, sub'] ∧ Descriptor.parse sub.data
        = ⟨[⟨[⟨"child", true⟩, ⟨"a", false⟩]⟩], []⟩ ∧ sub.format = none ∧ sub'.format = some "%d" := by
  have h := layout_matches_descriptor (.ofDescriptor "child?.a + b" "x")
    [.setSubFormat 1 (some "%d"), .setSubFormat 2 none, .setFormat (some "%Y")]
  refine ⟨_, rfl, ?_⟩
  generalize hc : after _ _ = c at h ⊢
  have hl : c.layout = .multi [⟨[⟨"child", true⟩, ⟨"a", false⟩]⟩, ⟨[⟨"b", false⟩]⟩] [" + "]
      [none, some "%d"] := by
    rw [← hc]
    decide +kernel
  refine ⟨hl, h.unchanged 2 none (.subColumnOutOfRange c.data 2 2) ?refused, ?subs⟩
  case refused =>
    refine (h.refused 2 none _).mpr (.inr ?_)
    simp [isMultiField, fieldNames, hl]
  case subs =>
    obtain ⟨subs, hs, hf⟩ := h.subs _ _ _ hl
    obtain ⟨sub, sub', rfl⟩ := List.length_eq_two.mp hs.length
    obtain ⟨_, hi, hsub⟩ := hs.fields 0 _ _ rfl rfl
    cases hi
    obtain ⟨_, hi, hsub'⟩ := hs.fields 1 _ _ rfl rfl
    cases hi
    exact ⟨sub, sub', hf c.format, hsub.parse, hsub.format, hsub'.format⟩

end Column

end TableQuery
