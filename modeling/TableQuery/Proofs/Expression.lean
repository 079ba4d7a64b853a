import TableQuery.Proofs.Field
import TableQuery.Proofs.Layout

/-!
What the expressions of columns have to do with their descriptors. The fields stand in the order in
which the descriptor names them, with the text of the descriptor between them, and each has its own
format.
-/

namespace TableQuery.FieldContext

open Text

variable {ctx : FieldContext} {forSearch : Bool} {c c' : Column} {f : SubField}
  {fs : List SubField} {es : List Expr} {ds : List String}

-- What stands for a field: its path, and around it the field's format where a search looks for it.
inductive Shown (ctx : FieldContext) (forSearch : Bool) (f : SubField) : Expr → Prop
  | plain (h : forSearch → f.format = none) : Shown ctx forSearch f (ctx.pathExpr f.path)
  | formatted {pattern : String} (hs : forSearch) (hf : f.format = some pattern) :
      Shown ctx forSearch f (.format ctx.settings.formatFunction (ctx.pathExpr f.path) pattern)

theorem shown_subExpr : ctx.Shown forSearch f (ctx.subExpr forSearch f) := by
  cases hf : f.format
  case none =>
    rw [subExpr, hf]
    exact .plain fun _ => hf
  case some pattern =>
    rw [subExpr, hf]
    cases forSearch
    case false => exact .plain nofun
    case true  => exact .formatted rfl hf

section Alternate

-- With one delimiter less than there are fields, none of either is left over.
theorem length_alternate (h : ds.length + 1 = es.length) :
    (alternate es ds).length = 2 * es.length - 1 := by
  fun_induction alternate es ds with
  | case1 => rfl
  | case2 => rfl
  | case3 => simp_all
  | case4 e es d ds _ ih =>
    have hl := ih (Nat.succ.inj h)
    simp only [List.length_cons] at h ⊢
    omega

theorem getElem?_alternate_even (h : ds.length + 1 = es.length) (i : Nat) :
    (alternate es ds)[2 * i]? = es[i]? := by
  fun_induction alternate es ds generalizing i with
  | case1 => rfl
  | case2 => cases i <;> rfl
  | case3 => simp_all
  | case4 e es d ds _ ih =>
    cases i
    case zero   => rfl
    case succ i => exact ih (Nat.succ.inj h) i

theorem getElem?_alternate_odd (h : ds.length + 1 = es.length) (i : Nat) :
    (alternate es ds)[2 * i + 1]? = ds[i]?.map .literal := by
  fun_induction alternate es ds generalizing i with
  | case1 => contradiction
  | case2 => simp_all
  | case3 => simp_all
  | case4 e es d ds _ ih =>
    cases i
    case zero   => rfl
    case succ i => exact ih (Nat.succ.inj h) i

theorem alternate_cons_cons (e e' : Expr) (d : String) :
    alternate (e :: e' :: es) (d :: ds) = e :: .literal d :: alternate (e' :: es) ds :=
  rfl

end Alternate

-- The texts of a concatenation's parts, where each part that is not a delimiter is a further path.
def respelled : List Expr → List FieldPath → List String
  | .literal d :: es, ps => d :: respelled es ps
  | _ :: es, p :: ps     => p.display :: respelled es ps
  | _, _                 => []

theorem Shown.respelled_cons {e : Expr} (h : ctx.Shown forSearch f e) (p : FieldPath)
    (ps : List FieldPath) : respelled (e :: es) (p :: ps) = p.display :: respelled es ps := by
  cases h
  case plain     => rw [pathExpr]; split <;> rfl
  case formatted => rfl

-- The fields and the delimiters are taken by turns, as a descriptor is displayed.
theorem join_respelled (h : ds.length + 1 = fs.length) :
    String.join (respelled (alternate (fs.map (ctx.subExpr forSearch)) ds) (fs.map (·.path)))
      = Descriptor.display ⟨fs.map (·.path), ds⟩ := by
  induction fs generalizing ds
  case nil          => contradiction
  case cons f fs ih =>
    have h := Nat.succ.inj h
    cases fs
    case nil =>
      rw [List.length_eq_zero_iff.mp h, List.map_singleton, List.map_singleton, alternate,
        shown_subExpr.respelled_cons]
      simp [respelled, Descriptor.display]
    case cons g fs =>
      obtain ⟨d, ds, rfl⟩ := List.exists_cons_of_length_eq_add_one h
      have ih := ih h
      simp only [List.map_cons] at ih ⊢
      rw [alternate_cons_cons, shown_subExpr.respelled_cons, respelled, String.join_cons,
        String.join_cons, ih]
      simp [Descriptor.display, String.append_assoc]

-- Without formats nothing is left of a column but what its descriptor says.
theorem expr?_false_eq (h : c.Parsed) :
    ctx.expr? false c = ctx.expr? false (.ofDescriptor c.data "") := by
  have hf (format : Option String) (e : Expr) : ctx.formatted false format e = e := by
    cases format <;> rfl
  have hs : ctx.subExpr false = fun f => ctx.pathExpr f.path := funext fun f => hf f.format _
  have hl : (Column.ofDescriptor c.data "").layout = c.layout.withoutFormats := h.symm
  simp only [expr?, hl, hf, hs]
  cases c.layout
  case multi => simp only [Layout.withoutFormats, SubField.zip_map, List.map_map, Function.comp_def]
  all_goals rfl

-- How the parts of a concatenation go with the fields of a column and the delimiters between them.
structure Alternating (ctx : FieldContext) (forSearch : Bool) (fs : List SubField)
    (ds : List String) (parts : List Expr) : Prop where
  length     : parts.length = 2 * fs.length - 1
  fields     : ∀ i f, fs[i]? = some f → ∃ e, parts[2 * i]? = some e ∧ ctx.Shown forSearch f e
  delimiters : ∀ i d, ds[i]? = some d → parts[2 * i + 1]? = some (.literal d)

theorem alternating_alternate (h : ds.length + 1 = fs.length) :
    ctx.Alternating forSearch fs ds (alternate (fs.map (ctx.subExpr forSearch)) ds) := by
  have h : ds.length + 1 = (fs.map (ctx.subExpr forSearch)).length := by rwa [List.length_map]
  constructor
  case length => rw [length_alternate h, List.length_map]
  case fields =>
    intro i f hi
    rw [getElem?_alternate_even h, List.getElem?_map, hi]
    exact ⟨_, rfl, shown_subExpr⟩
  case delimiters =>
    intro i d hi
    rw [getElem?_alternate_odd h, hi]
    rfl

-- What the expression of a column has to do with its descriptor. Only the fields of a column that
-- has several are written in a format of their own.
structure Mirrored (ctx : FieldContext) (forSearch : Bool) (c : Column) (e? : Option Expr) :
    Prop where
  blank  : e? = none ↔ (Descriptor.parse c.data).paths = []
  single : ∀ p, (Descriptor.parse c.data).paths = [p] →
    ∃ e, e? = some e ∧ ctx.Shown forSearch ⟨p, c.format⟩ e
  multi  : 2 ≤ (Descriptor.parse c.data).paths.length →
    ∃ ps ds slots parts, c.layout = .multi ps ds slots ∧ e? = some (.concat parts) ∧
      ⟨ps, ds⟩ = Descriptor.parse c.data ∧ slots.length = ps.length ∧ ds.length + 1 = ps.length ∧
      ctx.Alternating forSearch (SubField.zip ps slots) ds parts ∧
      ∃ lead trail, IsGap lead.toList ∧ IsGap trail.toList ∧
        c.data = lead ++ String.join (respelled parts ps) ++ trail

theorem mirrored_expr? (h : c.Parsed) : ctx.Mirrored forSearch c (ctx.expr? forSearch c) := by
  have hp := h.paths
  rw [expr?]
  cases hl : c.layout
  case empty =>
    rw [hl, Layout.paths] at hp
    constructor
    case blank  => exact iff_of_true rfl hp.symm
    case single => exact fun p hs => absurd (hp.trans hs) (List.cons_ne_nil p []).symm
    case multi  => exact fun hn => absurd hn (by simp [← hp])
  case single p =>
    rw [hl, Layout.paths] at hp
    constructor
    case blank  => simp [← hp]
    case single =>
      intro q hs
      cases hp.trans hs
      exact ⟨_, rfl, shown_subExpr⟩
    case multi  => exact fun hn => absurd hn (by simp [← hp])
  case multi ps ds slots =>
    have hd := h.descriptor_eq hl
    have hs := h.length_slots hl
    have hc := h.length_delimiters hl
    have hm : 2 ≤ (Descriptor.parse c.data).paths.length := hd ▸ h.two_le_length hl
    constructor
    case blank  => exact iff_of_false (Option.some_ne_none _) fun hs => absurd hm (by simp [hs])
    case single => exact fun p hs => absurd hm (by simp [hs])
    case multi  =>
      intro _
      obtain ⟨lead, trail, hg, ht, hw⟩ := (Descriptor.divides_parse c.data).whole
      have hz : (SubField.zip ps slots).length = ps.length := by
        rw [SubField.length_zip, hs, Nat.min_self]
      have ha := @alternating_alternate ctx forSearch _ _ (hz.symm ▸ hc)
      have hj := @join_respelled ctx forSearch _ _ (hz.symm ▸ hc)
      rw [SubField.map_path_zip hs, hd] at hj
      refine ⟨ps, ds, slots, _, hl, rfl, hd, hs, hc, ha, lead, trail, hg, ht, ?_⟩
      rw [hj]
      exact hw

theorem columnExpr_mirrors_descriptor (ctx : FieldContext) (h : c.Made) :
    (∀ forSearch, ∃ e?, ctx.columnExpr forSearch c = .ok e? ∧ ctx.Mirrored forSearch c e?) ∧
    ∀ c', c'.Made → c'.data = c.data → ctx.columnExpr false c' = ctx.columnExpr false c := by
  constructor
  case left  => exact fun forSearch => ⟨_, columnExpr_eq c, mirrored_expr? h.parsed⟩
  case right =>
    intro c' h' hd
    rw [columnExpr_eq, columnExpr_eq, expr?_false_eq h.parsed, expr?_false_eq h'.parsed, hd]

-- The first field is that of a relationship, the second one has a format.
theorem columnExpr_mirrors_descriptor_of_two : ∃ (ctx : FieldContext) (c : Column),
    ctx = ⟨⟨5, "parent", "parent", [("child", "child_1")]⟩, ["child"], {}⟩ ∧
    c = (Column.ofDescriptor "(child?.a - b)" "").after
      [.setSubFormat 1 (some "%d"), .setFormat (some "%Y")] ∧
    (∃ e?, ctx.Mirrored true c e? ∧ e? = some (.concat [.path "child_1" "a", .literal " - ",
      .format "date_format" (.path "parent" "b") "%d"])) ∧
    ctx.columnExpr false (.ofDescriptor c.data "") = ctx.columnExpr false c := by
  refine ⟨_, _, rfl, rfl, ?_⟩
  have hm := Column.Made.after (.ofDescriptor "(child?.a - b)" "")
    [.setSubFormat 1 (some "%d"), .setFormat (some "%Y")]
  generalize hc : Column.after _ _ = c at hm ⊢
  have hl : c.layout = .multi [⟨[⟨"child", true⟩, ⟨"a", false⟩]⟩, ⟨[⟨"b", false⟩]⟩] [" - "]
      [none, some "%d"] := by
    rw [← hc]
    decide +kernel
  have ⟨hs, hf⟩ := columnExpr_mirrors_descriptor
    ⟨⟨5, "parent", "parent", [("child", "child_1")]⟩, ["child"], {}⟩ hm
  obtain ⟨e?, he, hr⟩ := hs true
  refine ⟨⟨e?, hr, ?_⟩, hf _ (.ofDescriptor _ "") rfl⟩
  rw [columnExpr_eq, expr?, hl] at he
  exact (Except.ok.inj he).symm

end TableQuery.FieldContext
