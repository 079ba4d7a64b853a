import TableQuery.Proofs.Layout

/-!
Date formats that are set on columns. A column that is listed has the format afterwards, on itself
or on each of its fields, and whatever is not listed is as it was.
-/

namespace TableQuery

namespace Column

variable {c : Column} {ps : List FieldPath} {ds : List String} {before after : List (Option String)}
  {format : String}

-- A column as it is with a date format.
def withDateFormat (format : String) (c : Column) : Column :=
  match c.layout with
  | .multi ps ds slots => { c with layout := .multi ps ds (slots.map fun _ => some format) }
  | _                  => { c with format := some format }

theorem withDateFormat_of_multi {slots : List (Option String)} (h : c.layout = .multi ps ds slots) :
    c.withDateFormat format =
      { c with layout := .multi ps ds (slots.map fun _ => some format) } := by
  rw [withDateFormat, h]

theorem withDateFormat_of_not_multi (h : ¬c.isMultiField) :
    c.withDateFormat format = { c with format := some format } := by
  unfold withDateFormat
  split
  case h_1 hl => simp [isMultiField, hl] at h
  case h_2    => rfl

-- A second time the same is set.
theorem withDateFormat_withDateFormat :
    (c.withDateFormat format).withDateFormat format = c.withDateFormat format := by
  by_cases h : c.isMultiField
  case neg =>
    rw [withDateFormat_of_not_multi h]
    exact withDateFormat_of_not_multi h
  case pos =>
    obtain ⟨ps, ds, slots, hl⟩ := isMultiField_iff.mp h
    rw [withDateFormat_of_multi hl, withDateFormat_of_multi rfl, List.map_map]
    rfl

-- The slots are filled one after the other, and each of them is there.
theorem inTurn_setSubFormat (h : c.layout = .multi ps ds (before ++ after)) :
    inTurn (fun index c => c.setSubFormat index (some format))
        (List.range' before.length after.length) c =
      ({ c with layout := .multi ps ds (before ++ after.map fun _ => some format) }, .ok ()) := by
  induction after generalizing before c
  case nil                =>
    rw [List.map_nil, ← h]
    rfl
  case cons slot after ih =>
    let dated := before ++ [some format]
    have hs : c.setSubFormat before.length (some format) =
        ({ c with layout := .multi ps ds (dated ++ after) }, .ok ()) := by
      rw [setSubFormat_of_lt h (by simp)]
      simp [dated]
    have hl : before.length + 1 = dated.length := by simp [dated]
    rw [List.length_cons, List.range'_succ, inTurn_cons_of_ok hs, hl, ih rfl]
    simp [dated]

-- The fields are counted by their names. There is a slot for each of them, so none is missed, and
-- none is asked for that is not there.
theorem Parsed.setColumnFormat_eq (h : c.Parsed) (format : String) :
    Request.setColumnFormat format c = (c.withDateFormat format, .ok ()) := by
  rw [Request.setColumnFormat]
  split
  case isFalse hm => rw [withDateFormat_of_not_multi hm]
  case isTrue hm  =>
    obtain ⟨ps, ds, slots, hl⟩ := isMultiField_iff.mp hm
    rw [h.length_fieldNames hl, List.range_eq_range', withDateFormat_of_multi hl]
    exact @inTurn_setSubFormat c ps ds [] slots format hl

-- What it means for a column that a date format was set on it.
structure Dated (format : String) (c c' : Column) : Prop where
  single : ¬c.isMultiField → c' = { c with format := some format }
  multi  : ∀ ps ds slots, c.layout = .multi ps ds slots →
    c' = { c with layout := .multi ps ds (List.replicate ps.length (some format)) }
  subs   : ∀ subs, c.subColumns = .ok subs →
    c'.subColumns = .ok (subs.map ({ · with format := some format }))

theorem Parsed.dated_withDateFormat (h : c.Parsed) (format : String) :
    c.Dated format (c.withDateFormat format) where
  single               := withDateFormat_of_not_multi
  multi ps ds slots hl := by
    rw [withDateFormat_of_multi hl, List.map_const', h.length_slots hl]
  subs subs hs         := by
    obtain ⟨ps, ds, slots, hl, rfl⟩ := subColumns_eq_ok_iff.mp hs
    rw [withDateFormat_of_multi hl]
    refine subColumns_eq_ok_iff.mpr ⟨_, _, _, rfl, ?_⟩
    rw [SubField.zip_map, List.map_map, List.map_map]
    rfl

end Column

namespace Request

variable {r : Request} {format : String} {index : Nat} {indices others : List Nat}

-- A request with a date format on the columns that are listed.
def withDateFormat (format : String) (indices : List Nat) (r : Request) : Request where
  __ := r
  columns := r.columns.mapIdx fun i c => if i ∈ indices then c.withDateFormat format else c

theorem getElem?_withDateFormat (i : Nat) :
    (r.withDateFormat format indices).columns[i]? =
      r.columns[i]?.map fun c => if i ∈ indices then c.withDateFormat format else c :=
  List.getElem?_mapIdx

theorem length_withDateFormat :
    (r.withDateFormat format indices).columns.length = r.columns.length :=
  List.length_mapIdx

theorem withDateFormat_nil : r.withDateFormat format [] = r := by
  refine Request.ext rfl rfl rfl rfl rfl (List.ext_getElem? fun i => ?_)
  simp [getElem?_withDateFormat]

-- What has been set on one column, and is set on others then, has been set on all of them.
theorem withDateFormat_set (h : index < r.columns.length) :
    withDateFormat format indices
        { r with columns := r.columns.set index (r.columns[index].withDateFormat format) } =
      r.withDateFormat format (index :: indices) := by
  refine Request.ext rfl rfl rfl rfl rfl (List.ext_getElem? fun i => ?_)
  rw [getElem?_withDateFormat, getElem?_withDateFormat, List.getElem?_set]
  by_cases hn : index = i
  case neg => simp [hn, Ne.symm hn]
  case pos =>
    subst hn
    by_cases hm : index ∈ indices <;> simp [h, hm, Column.withDateFormat_withDateFormat]

theorem withDateFormat_withDateFormat (h : ∀ i ∈ others, i ∈ indices) :
    (r.withDateFormat format indices).withDateFormat format others
      = r.withDateFormat format indices := by
  refine Request.ext rfl rfl rfl rfl rfl (List.ext_getElem? fun i => ?_)
  rw [getElem?_withDateFormat, getElem?_withDateFormat, Option.map_map]
  congr 1
  funext c
  by_cases hm : i ∈ others
  case pos => simp [hm, h i hm, Column.withDateFormat_withDateFormat]
  case neg => simp [hm]

theorem withDateFormat_congr (h : ∀ i, i ∈ others ↔ i ∈ indices) :
    r.withDateFormat format others = r.withDateFormat format indices := by
  simp only [withDateFormat, h]

section Run

-- One index: a column that is there is set, and one that is not ends it all.

theorem setDateFormatAt_of_lt (hm : r.Made) (h : index < r.columns.length) :
    setDateFormatAt format index r =
      ({ r with columns := r.columns.set index (r.columns[index].withDateFormat format) },
        .ok ()) := by
  have hc : r.column index = .ok r.columns[index] :=
    column_eq_ok_iff.mpr (List.getElem?_eq_getElem h)
  have hp : r.columns[index].Parsed := (hm _ (List.getElem_mem h)).parsed
  rw [setDateFormatAt, hc]
  simp only [hp.setColumnFormat_eq, Outcome.ok_mapError]

theorem setDateFormatAt_of_not_lt (h : ¬index < r.columns.length) :
    setDateFormatAt format index r =
      (r, .error (.columnIndexOutOfRange index r.columns.length)) := by
  have hc : r.column index = .error (.columnIndexOutOfRange index r.columns.length) :=
    column_eq_error_iff.mpr ⟨Nat.not_lt.mp h, rfl⟩
  rw [setDateFormatAt, hc]

-- All columns in front of the first index without one are set.
theorem setDateFormat_append (hm : r.Made) (h : ∀ i ∈ indices, i < r.columns.length)
    (rest : List Nat) :
    setDateFormat format (indices ++ rest) r =
      setDateFormat format rest (r.withDateFormat format indices) := by
  induction indices generalizing r
  case nil                   => rw [withDateFormat_nil, List.nil_append]
  case cons index indices ih =>
    have ⟨hi, hs⟩ := List.forall_mem_cons.mp h
    have ha := @setDateFormatAt_of_lt _ format _ hm hi
    have hm' := hm.setDateFormatAt format index
    rw [ha] at hm'
    rw [List.cons_append, setDateFormat, inTurn_cons_of_ok ha, ← setDateFormat,
      ih hm' (by simpa using hs), withDateFormat_set hi]

theorem setDateFormat_of_forall_lt (hm : r.Made) (h : ∀ i ∈ indices, i < r.columns.length) :
    setDateFormat format indices r = (r.withDateFormat format indices, .ok ()) := by
  have hs := @setDateFormat_append _ format _ hm h []
  rwa [List.append_nil] at hs

theorem setDateFormat_of_not_lt (hm : r.Made) (h : ∀ i ∈ indices, i < r.columns.length)
    (hi : ¬index < r.columns.length) (rest : List Nat) :
    setDateFormat format (indices ++ index :: rest) r =
      (r.withDateFormat format indices,
        .error (.columnIndexOutOfRange index r.columns.length)) := by
  have hn := @setDateFormatAt_of_not_lt (r.withDateFormat format indices) format index
    (by rwa [length_withDateFormat])
  rw [setDateFormat_append hm h, setDateFormat, inTurn_cons_of_error hn,
    length_withDateFormat]

theorem forall_lt_or_exists_not_lt (r : Request) (indices : List Nat) :
    (∀ i ∈ indices, i < r.columns.length) ∨
      ∃ before index after, indices = before ++ index :: after ∧
        (∀ i ∈ before, i < r.columns.length) ∧ ¬index < r.columns.length := by
  induction indices
  case nil                   => exact .inl (List.forall_mem_nil _)
  case cons index indices ih =>
    by_cases hi : index < r.columns.length
    case neg => exact .inr ⟨[], index, indices, rfl, List.forall_mem_nil _, hi⟩
    case pos =>
      cases ih
      case inl h => exact .inl (List.forall_mem_cons.mpr ⟨hi, h⟩)
      case inr h =>
        have ⟨before, index', after, hs, hb, hn⟩ := h
        exact .inr ⟨index :: before, index', after, congrArg _ hs,
          List.forall_mem_cons.mpr ⟨hi, hb⟩, hn⟩

end Run

-- What it means for a request that a date format was set on the columns that are listed.
structure Dated (format : String) (indices : List Nat) (r r' : Request) : Prop where
  rest   : r' = { r with columns := r'.columns }
  length : r'.columns.length = r.columns.length
  listed : ∀ i ∈ indices, ∀ c, r.columns[i]? = some c →
    ∃ c', r'.columns[i]? = some c' ∧ c.Dated format c'
  others : ∀ i ∉ indices, r'.columns[i]? = r.columns[i]?

theorem dated_withDateFormat (h : r.Made) (format : String) (indices : List Nat) :
    r.Dated format indices (r.withDateFormat format indices) where
  rest            := rfl
  length          := length_withDateFormat
  listed i hi c hc := by
    have hp : c.Parsed := (h c (List.mem_of_getElem? hc)).parsed
    refine ⟨c.withDateFormat format, ?_, hp.dated_withDateFormat format⟩
    simp [getElem?_withDateFormat, hc, hi]
  others i hi     := by simp [getElem?_withDateFormat, hi]

-- Only an index without a column makes this fail: each field of a column has a slot for its format.
theorem setDateFormat_touches_listed (h : r.Made) (format : String) (indices : List Nat) :
    (∀ c : Column, c.Made → (setColumnFormat format c).2 = .ok () ∧
      (c.isMultiField → ∀ index < c.fieldNames.length,
        (c.setSubFormat index (some format)).2 = .ok ())) ∧
    ((setDateFormat format indices r).2 = .ok () ↔ ∀ i ∈ indices, i < r.columns.length) ∧
    ((setDateFormat format indices r).2 = .ok () →
      ∃ r', setDateFormat format indices r = (r', .ok ()) ∧ r.Dated format indices r' ∧
        (∀ again, (∀ i ∈ again, i ∈ indices) → setDateFormat format again r' = (r', .ok ())) ∧
        ∀ others, (∀ i, i ∈ others ↔ i ∈ indices) →
          setDateFormat format others r = (r', .ok ())) ∧
    ∀ e, (setDateFormat format indices r).2 = .error e →
      ∃ before index after r', indices = before ++ index :: after ∧
        (∀ i ∈ before, i < r.columns.length) ∧ r.columns.length ≤ index ∧
        e = .columnIndexOutOfRange index r.columns.length ∧
        setDateFormat format indices r = (r', .error e) ∧ r.Dated format before r' := by
  refine ⟨fun c hc => ⟨?loop, fun hm _ hi => hc.parsed.setSubFormat_ok hm hi⟩, ?_⟩
  case loop => rw [hc.parsed.setColumnFormat_eq]
  cases forall_lt_or_exists_not_lt r indices
  case inl hl =>
    have hs := @setDateFormat_of_forall_lt _ format _ h hl
    refine ⟨iff_of_true (by rw [hs]) hl, fun _ => ?_, by simp [hs]⟩
    refine ⟨_, hs, dated_withDateFormat h format indices, ?again, ?others⟩
    case again =>
      intro again ha
      have hm : (r.withDateFormat format indices).Made := by
        have hm := h.setDateFormat format indices
        rwa [hs] at hm
      have hl : ∀ i ∈ again, i < (r.withDateFormat format indices).columns.length :=
        fun i hi => length_withDateFormat.symm ▸ hl i (ha i hi)
      rw [setDateFormat_of_forall_lt hm hl, withDateFormat_withDateFormat ha]
    case others =>
      intro others ho
      have hl : ∀ i ∈ others, i < r.columns.length := fun i hi => hl i ((ho i).mp hi)
      rw [setDateFormat_of_forall_lt h hl, withDateFormat_congr ho]
  case inr hl =>
    obtain ⟨before, index, after, rfl, hb, hn⟩ := hl
    have hs := @setDateFormat_of_not_lt _ format _ _ h hb hn after
    refine ⟨iff_of_false (by simp [hs]) fun h => hn (h index (by simp)), by simp [hs], ?_⟩
    intro e he
    rw [hs] at he
    obtain rfl := Except.error.inj he
    exact ⟨before, index, after, _, rfl, hb, Nat.not_lt.mp hn, rfl, hs,
      dated_withDateFormat h format before⟩

-- The third column has two fields and is listed twice. There is no column for the seven, so the
-- second one is left alone.
theorem setDateFormat_touches_listed_of_missing : ∃ r r' : Request, r.Made ∧
    r.columns = [.ofDescriptor "date" "", .ofDescriptor "" "",
      .ofDescriptor "child.date - date" ""] ∧
    setDateFormat "%Y" [2, 0, 2, 7, 1] r = (r', .error (.columnIndexOutOfRange 7 3)) ∧
    r'.columns[1]? = some (.ofDescriptor "" "") ∧
    ∃ c sub sub', r'.columns[2]? = some c ∧ c.format = none ∧ c.subColumns = .ok [sub, sub'] ∧
      sub.format = some "%Y" ∧ sub'.format = some "%Y" := by
  let r : Request := { columns := [.ofDescriptor "date" "", .ofDescriptor "" "",
    .ofDescriptor "child.date - date" ""] }
  have hm : r.Made := by
    simp only [r, Made, List.forall_mem_cons]
    exact ⟨.ofDescriptor _ _, .ofDescriptor _ _, .ofDescriptor _ _, nofun⟩
  have ⟨_, _, _, hn⟩ := setDateFormat_touches_listed hm "%Y" [2, 0, 2, 7, 1]
  obtain ⟨before, index, after, r', hi, hb, hl, he, hs, hd⟩ :=
    hn (.columnIndexOutOfRange 7 3) (by decide +kernel)
  have hb' : before = [2, 0, 2, 7, 1].takeWhile (· < r.columns.length) := by
    rw [hi, List.takeWhile_append_of_pos (by simpa using hb), List.takeWhile_cons,
      if_neg (by simpa using hl), List.append_nil]
  obtain rfl : before = [2, 0, 2] := hb'
  obtain ⟨c, hc, hd'⟩ := hd.listed 2 (by decide) _ rfl
  have hf := hd'.multi [⟨[⟨"child", false⟩, ⟨"date", false⟩]⟩, ⟨[⟨"date", false⟩]⟩] [" - "]
    [none, none] (by decide +kernel)
  subst hf
  exact ⟨r, r', hm, rfl, hs, hd.others 1 (by decide), _, _, _, hc, rfl, rfl, rfl, rfl⟩

end Request

end TableQuery
