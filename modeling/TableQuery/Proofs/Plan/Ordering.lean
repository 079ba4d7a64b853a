import TableQuery.Proofs.Expression
import TableQuery.Proofs.Plan.Composition
import TableQuery.Proofs.Plan.Declaration

/-!
The order of a page. The ORDER BY clause has what the request asks for, one item after the other, and
then what the caller adds; a column that cannot be ordered or names no field is passed over.
-/

namespace TableQuery

-- The ORDER BY clause ends a statement.
theorem Select.text_eq_append_order (d : Dialect) (s : Select) :
    s.text d = { s with order := [] }.text d
      ++ clause "ORDER BY" ", " (s.order.map (OrderItem.text d)) := by
  simp [text, tailText, fromText, whereText, clause, String.append_assoc]

namespace Plan

variable {entity : Entity} {request : Request} {clauses : Clauses} {settings : Settings} {p : Plan}
  {c : Column} {path : FieldPath} {e : Expr} {orders : List Order}

-- How a field is written: by the alias of the join that its path leads through, or by the root's.
inductive Located (p : Plan) (path : FieldPath) : Expr → Prop
  | joined {j : Join} (hj : j ∈ p.scope.joins) (hf : path.base? = some j.field) :
      Located p path (.path j.aliasName path.remainder)
  | root (hn : ∀ base, path.base? = some base → base ∉ p.entity.relationships) :
      Located p path (.path p.root path.name)

-- What rows are ordered by for a column: its field, or its fields put together with the text
-- between them. No formats are left.
inductive Sorting (p : Plan) (c : Column) : Expr → Prop
  | single {path : FieldPath} {e : Expr} (hp : (Descriptor.parse c.data).paths = [path])
      (he : p.Located path e) : Sorting p c e
  | concat {parts : List Expr} (hn : 2 ≤ (Descriptor.parse c.data).paths.length)
      (hl : parts.length = 2 * (Descriptor.parse c.data).paths.length - 1)
      (hp : ∀ i path, (Descriptor.parse c.data).paths[i]? = some path →
        ∃ e, parts[2 * i]? = some e ∧ p.Located path e)
      (hd : ∀ i d, (Descriptor.parse c.data).delimiters[i]? = some d →
        parts[2 * i + 1]? = some (.literal d)) : Sorting p c (.concat parts)

-- What becomes of the orders of a request.
inductive Ordered (p : Plan) : List Order → List OrderItem → Prop
  | nil : Ordered p [] []
  | skip {o : Order} {orders : List Order} {items : List OrderItem} {c : Column}
      (hc : p.request.columns[o.column.toNat]? = some c)
      (hs : ¬c.orderable ∨ (Descriptor.parse c.data).paths = []) (ht : Ordered p orders items) :
      Ordered p (o :: orders) items
  | item {o : Order} {orders : List Order} {items : List OrderItem} {c : Column} {e : Expr}
      (hc : p.request.columns[o.column.toNat]? = some c) (ho : c.orderable) (he : p.Sorting c e)
      (ht : Ordered p orders items) : Ordered p (o :: orders) (⟨e, some o.dir⟩ :: items)

theorem located_pathExpr (h : prepare entity request clauses settings = .ok p)
    (hc : c ∈ request.columns) (hp : path ∈ c.layout.paths) :
    p.Located path (p.fields.pathExpr path) := by
  by_cases hb : ∃ base, path.base? = some base ∧ base ∈ entity.relationships
  case pos =>
    have ⟨base, hb, hr⟩ := hb
    have ⟨j, hj, hf, he⟩ := exists_join_of_path h hc hp hb hr
    rw [he]
    exact .joined hj (hf ▸ hb)
  case neg =>
    have hn : ∀ base, path.base? = some base → base ∉ entity.relationships :=
      fun base hb' hr => hb ⟨base, hb', hr⟩
    rw [pathExpr_eq_of_prepare h hn]
    exact .root (entity_of_prepare h ▸ hn)

theorem located_of_shown (h : prepare entity request clauses settings = .ok p)
    (hc : c ∈ request.columns) {f : SubField} (hp : f.path ∈ c.layout.paths)
    (hs : p.fields.Shown false f e) : p.Located f.path e := by
  cases hs
  case plain        => exact located_pathExpr h hc hp
  case formatted hs => contradiction

theorem sorting_of_expr? (h : prepare entity request clauses settings = .ok p)
    (hc : c ∈ request.columns) (hm : c.Made) (he : p.fields.expr? false c = some e) :
    p.Sorting c e := by
  have hp := hm.parsed.paths
  have hr := @FieldContext.mirrored_expr? p.fields false c hm.parsed
  rw [he] at hr
  match hd : (Descriptor.parse c.data).paths with
  | []      => exact absurd (hr.blank.mpr hd) (Option.some_ne_none e)
  | [path]  =>
    obtain ⟨_, he, hs⟩ := hr.single path hd
    cases he
    exact .single hd (located_of_shown h hc (by simp [hp, hd]) hs)
  | path :: path' :: paths =>
    have hn : 2 ≤ (Descriptor.parse c.data).paths.length := by simp [hd]
    obtain ⟨ps, ds, slots, parts, hl, he, hw, hs, _, ha, _⟩ := hr.multi hn
    cases he
    have hfs : (Descriptor.parse c.data).paths = (SubField.zip ps slots).map (·.path) := by
      rw [← hw, SubField.map_path_zip hs]
    have hds : (Descriptor.parse c.data).delimiters = ds := by rw [← hw]
    refine .concat hn ?length ?fields fun i d hi => ha.delimiters i d (hds ▸ hi)
    case length => rw [ha.length, hfs, List.length_map]
    case fields =>
      intro i path hi
      rw [hfs, List.getElem?_map, Option.map_eq_some_iff] at hi
      obtain ⟨f, hi, rfl⟩ := hi
      have ⟨e, he, hs⟩ := ha.fields i f hi
      have hf : f.path ∈ c.layout.paths := by
        rw [hl]
        exact List.mem_map_of_mem (List.mem_of_getElem? hi)
      exact ⟨e, he, located_of_shown h hc hf hs⟩

theorem ordered_orderItems (h : prepare entity request clauses settings = .ok p)
    (hm : request.Made) (ho : ∀ o ∈ orders, request.InRange o) :
    p.Ordered orders (orders.filterMap p.orderItem?) := by
  induction orders
  case nil               => exact .nil
  case cons o orders ih =>
    have ⟨hr, hs⟩ := List.forall_mem_cons.mp ho
    have ⟨c, hc⟩ := Request.exists_column_iff.mpr hr
    have hc := Request.column_eq_ok_iff.mp hc
    have hcm := List.mem_of_getElem? hc
    rw [← request_of_prepare h] at hc
    by_cases hn : c.orderable
    case neg =>
      have hi : p.orderItem? o = none := by simp [orderItem?, hc, Option.filter_some, hn]
      rw [List.filterMap_cons_none hi]
      exact .skip hc (.inl hn) (ih hs)
    case pos =>
      cases he : p.fields.expr? false c
      case none =>
        have hi : p.orderItem? o = none := by simp [orderItem?, hc, Option.filter_some, hn, he]
        have hp : (Descriptor.parse c.data).paths = [] :=
          (FieldContext.mirrored_expr? (hm c hcm).parsed).blank.mp he
        rw [List.filterMap_cons_none hi]
        exact .skip hc (.inr hp) (ih hs)
      case some e =>
        have hi : p.orderItem? o = some ⟨e, some o.dir⟩ := by
          simp [orderItem?, hc, Option.filter_some, hn, he]
        rw [List.filterMap_cons_some hi]
        exact .item hc hn (sorting_of_expr? h hcm (hm c hcm) he) (ih hs)

theorem order_follows_request (h : prepare entity request clauses settings = .ok p)
    (hm : request.Made) :
    p.clauses = clauses.mapFragments (Fragment.resolve p.scope.aliases entity.relationships) ∧
    (∃ items select values q clause,
      p.Ordered request.order items ∧
      p.statement .page = .ok (select, values) ∧
      select.order = items ++ p.clauses.order.map (⟨.raw ·, none⟩) ∧
      p.query .page = .ok q ∧
      q.text = { select with order := [] }.text settings.dialect ++ clause ∧
      Select.IsClause "ORDER BY" ", "
        (items.map (OrderItem.text settings.dialect) ++ p.clauses.order) clause) ∧
    ∀ kind, kind ≠ .page → ∃ select values q,
      p.statement kind = .ok (select, values) ∧ select.order = [] ∧
      p.query kind = .ok q ∧ q.text = select.text settings.dialect := by
  have hv := validate_of_prepare h
  have hr := request_of_prepare h
  have ho := (Request.validate_eq_ok_iff.mp hv).right
  rw [hr] at ho
  rw [← settings_of_prepare h]
  refine ⟨clauses_of_prepare h, ?page, fun kind hk => ?counts⟩
  case page =>
    refine ⟨_, _, _, _, _, ordered_orderItems h hm ho, statement_eq hv .page, hr ▸ rfl,
      query_eq hv .page, Select.text_eq_append_order _ _, ?_⟩
    rw [select, List.map_append, OrderItem.map_text_raw, hr]
    exact Select.isClause_clause ..
  case counts =>
    refine ⟨_, _, _, statement_eq hv kind, ?_, query_eq hv kind, rfl⟩
    cases kind
    case page => contradiction
    all_goals rfl

-- The first column is ordered by twice. The second cannot be ordered, and the last is blank.
theorem order_follows_request_of_skipped :
    ∃ p, prepare { name := "Parent", relationships := ["child"] }
        { order   := [⟨2, .desc⟩, ⟨1, .asc⟩, ⟨0, .asc⟩, ⟨3, .desc⟩, ⟨0, .asc⟩]
          columns := [.ofDescriptor "id" "",
            { Column.ofDescriptor "data" "" with orderable := false },
            .ofDescriptor "child?.a - b" "", .ofDescriptor "" ""] }
        { order := ["parent.child.rank DESC"] } {} = .ok p ∧
      ∃ items q front clause, p.Ordered p.request.order items ∧ p.query .page = .ok q ∧
        q.text = front ++ clause ∧
        clause = " ORDER BY CONCAT(child_1.a, ' - ', parent.b) DESC, " ++
          "parent.id ASC, parent.id ASC, child_1.rank DESC" := by
  refine exists_prepare (check_eq_ok_iff.mpr
    ⟨rfl, rfl, Request.validate_eq_ok_iff.mpr ⟨by decide, by decide +kernel⟩⟩) fun hp => ?_
  have hm : Request.Made { columns := [.ofDescriptor "id" "",
      { Column.ofDescriptor "data" "" with orderable := false },
      .ofDescriptor "child?.a - b" "", .ofDescriptor "" ""] } := by
    simp only [Request.Made, List.forall_mem_cons]
    exact ⟨.ofDescriptor .., .update (.ofDescriptor "data" "") "" true false ⟨"", false⟩ none,
      .ofDescriptor .., .ofDescriptor .., nofun⟩
  obtain ⟨_, ⟨items, select, _, q, clause, ho, hs, hi, hq, ht, hc⟩, _⟩ :=
    order_follows_request hp hm
  have hs := Except.ok.inj (hs.symm.trans (statement_eq (validate_of_prepare hp) .page))
  obtain rfl : select = _ := congrArg Prod.fst hs
  have hi := congrArg (List.map (OrderItem.text .jpql)) hi
  rw [List.map_append, OrderItem.map_text_raw] at hi
  rw [← hi] at hc
  refine ⟨items, q, _, clause, ho, hq, ht, (hc.present ?_).trans ?_⟩
  all_goals decide +kernel

end Plan

end TableQuery
