import Mathlib.Data.Nat.Find
import TableQuery.Executor.Memory
import TableQuery.Proofs.Answer
import TableQuery.Proofs.Plan.Search

/-!
Searches over rows in memory. The rows found are those with one of the searched texts, whatever the
values are bound by, and the pages of a size are these rows in pieces.
-/

namespace TableQuery

variable {σ ρ : Type}

theorem flatMap_pieces {α : Type} (l : List α) (size n : Nat) :
    (List.range n).flatMap (fun k => (l.drop (k * size)).take size) = l.take (n * size) := by
  induction n
  case zero      => simp
  case succ n ih => simp [List.range_succ, ih, Nat.succ_mul, List.take_add]

-- Whether one of the row's texts contains one of `searched`, both in upper case. If nothing is
-- searched, any row will do.
def Row.Meets (searched : List String) (r : Row) : Prop :=
  searched = [] ∨ ∃ text ∈ searched, ∃ field ∈ r.texts,
    (Text.upper text).toList <:+: (Text.upper field).toList

instance (searched : List String) (r : Row) : Decidable (r.Meets searched) :=
  inferInstanceAs (Decidable (_ ∨ _))

namespace Memory

variable {m : Memory} {b : Bindings}

section Needles

theorem isInfix_iff {needle text : List Char} : isInfix needle text ↔ needle <:+: text := by
  induction text
  case nil          => simp [isInfix, List.infix_nil]
  case cons c cs ih => simp [isInfix, List.infix_cons_iff, ih]

theorem found_iff {searched : List String} {r : Row} : found searched r ↔ r.Meets searched := by
  simp [found, contains, isInfix_iff, Row.Meets]

-- Whether a name is such as those that a search's parameters have.
def IsNeedle (name : String) : Prop :=
  "value_".toList <+: name.toList

instance (name : String) : Decidable (IsNeedle name) :=
  inferInstanceAs (Decidable (_ <+: _))

theorem needles_append (es es' : List (String × Value)) :
    needles ⟨es ++ es'⟩ = needles ⟨es⟩ ++ needles ⟨es'⟩ := by
  simp [needles]

theorem needles_eq_nil (h : ∀ name ∈ b.names, ¬IsNeedle name) : needles b = [] := by
  have hf : (b.entries.filter fun e => "value_".toList.isPrefixOf e.1.toList) = [] :=
    List.filter_eq_nil_iff.mpr fun e he =>
      mt List.isPrefixOf_iff_prefix.mp (h e.1 (List.mem_map_of_mem he))
  rw [needles, hf, List.filterMap_nil]

theorem needles_eq (h : ∀ name ∈ b.names, IsNeedle name) :
    needles b = (b.entries.map (·.2)).filterMap fun v => v.asString?.map (Like.unescape · '#') := by
  have hf : (b.entries.filter fun e => "value_".toList.isPrefixOf e.1.toList) = b.entries :=
    List.filter_eq_self.mpr fun e he =>
      List.isPrefixOf_iff_prefix.mpr (h e.1 (List.mem_map_of_mem he))
  rw [needles, hf, List.filterMap_map]
  rfl

end Needles

section Calls

variable {q : Query} {log : List String}

theorem executor_page {start limit : UInt64} (hm : m.failure = none) (ho : q.offset = some start)
    (hl : q.limit = some limit) : m.executor.page q log =
      (⟨0, .ok (((m.matching q.params).drop start.toNat).take limit.toNat)⟩, log ++ [q.text]) := by
  rw [Executor.page_eq ho hl]
  simp only [executor, answer, hm]
  rfl

theorem executor_count (hm : m.failure = none) : m.executor.count q log =
    (⟨0, .ok (m.matching q.params).length⟩, log ++ [q.text]) := by
  have hn : Executor.rowCount (m.matching q.params).length = .ok (m.matching q.params).length :=
    Executor.rowCount_eq_ok_iff.mpr ⟨Int.natCast_nonneg _, Int.toNat_natCast _⟩
  simp only [Executor.count, executor, answer, hm, ← hn]
  rfl

-- Every call is answered when it is made, so all of them are.
theorem runTogether_executor (log : List String) {queries : Plan.Queries} {start limit : UInt64}
    (hm : m.failure = none) (ho : queries.page.offset = some start)
    (hl : queries.page.limit = some limit) :
    runTogether (m.executor.page queries.page) (m.executor.count queries.totalCount)
        (m.executor.count queries.filteredCount) log
      = (.ok (((m.matching queries.page.params).drop start.toNat).take limit.toNat,
          (m.matching queries.totalCount.params).length,
          (m.matching queries.filteredCount.params).length),
        log ++ [queries.page.text, queries.totalCount.text, queries.filteredCount.text]) := by
  rw [runTogether_eq (executor_page hm ho hl) (executor_count hm) (executor_count hm),
    Task.finish_of_result? rfl rfl rfl]
  simp [Pending.failure?, Task.failsAtOnce]

end Calls

end Memory

namespace Plan

variable {p : Plan} {kind : QueryKind}

theorem needles_searchEntries (he : p.settings.escapeChar = '#')
    (hs : p.settings.parameterStem = "value_") :
    Memory.needles ⟨p.searchEntries⟩ = p.request.searched.map p.request.searchText := by
  have hn : ∀ name ∈ Bindings.names ⟨p.searchEntries⟩, Memory.IsNeedle name := by
    intro name h
    rw [Bindings.names, names_searchEntries] at h
    obtain ⟨k, hk⟩ := exists_number_of_mem_freeNames h
    rw [hk, hs, Memory.IsNeedle, String.toList_append]
    exact List.prefix_append ..
  have hz : p.searchEntries.map (·.2) = p.request.searched.map p.searchValue := by
    rw [searchEntries, List.map_snd_zip]
    rw [List.length_map, length_searchNames]
  rw [Memory.needles_eq hn, hz, List.filterMap_map,
    List.filterMap_eq_map_iff_forall_eq_some.mpr]
  intro column _
  simp [searchValue, Value.asString?, he]

-- The caller's values are no needles, and the search's are all in the text.
theorem needles_params (he : p.settings.escapeChar = '#')
    (hs : p.settings.parameterStem = "value_")
    (hv : ∀ name ∈ p.clauses.values.names, ¬Memory.IsNeedle name) (kind : QueryKind) :
    Memory.needles (p.params kind) =
      if kind = .totalCount then [] else p.request.searched.map p.request.searchText := by
  have hr (f : String → Bool) : Memory.needles (p.clauses.values.restrict f) = [] := by
    refine Memory.needles_eq_nil fun name hn => hv name ?_
    rw [Bindings.names_restrict] at hn
    exact List.mem_of_mem_filter hn
  split
  case isTrue hk  => exact hk ▸ hr _
  case isFalse hk =>
    have hb : (p.bound kind).entries = p.clauses.values.entries ++ p.searchEntries := by
      cases kind
      case totalCount => contradiction
      all_goals rfl
    have hm : (p.searchEntries.filter fun e => Placeholder.mentioned (p.queryText kind) e.1)
        = p.searchEntries := by
      refine List.filter_eq_self.mpr fun e h => mentioned_of_mem_searchNames ?_ hk ?_
      · rw [hs]
        decide
      · exact names_searchEntries ▸ List.mem_map_of_mem h
    rw [params, Bindings.restrict, hb, List.filter_append, hm, Memory.needles_append,
      needles_searchEntries he hs]
    exact congrArg (· ++ _) (hr _)

-- Where the page starts has no part in whether a request is accepted.
theorem exists_prepare_start {entity : Entity} {request : Request} {clauses : Clauses}
    {settings : Settings} (h : prepare entity request clauses settings = .ok p) (start : UInt64) :
    ∃ p', prepare entity { request with start } clauses settings = .ok p' :=
  have ⟨hc, _⟩ := prepare_eq_ok_iff.mp h
  ⟨_, prepare_eq_ok_iff.mpr ⟨hc, rfl⟩⟩

end Plan

-- The rows in which a request finds what it searches for.
def Request.rowsFound (r : Request) (rows : List Row) : List Row :=
  rows.filter fun row => row.Meets (r.searched.map r.searchText)

namespace Table

variable {t : Table} {request : Request} {m : Memory} {p : Plan}

section Respond

variable (hm : m.failure = none) (he : t.settings.escapeChar = '#')
  (hs : t.settings.parameterStem = "value_")
  (hv : ∀ name ∈ t.clauses.values.names, ¬Memory.IsNeedle name)
  (hp : Plan.prepare t.entity request t.clauses t.settings = .ok p)

include he hs hv hp in
theorem matching_params (kind : QueryKind) : m.matching (p.params kind) =
    if kind = .totalCount then m.rows else request.rowsFound m.rows := by
  rw [← Plan.settings_of_prepare hp] at he hs
  rw [← Plan.values_of_prepare hp] at hv
  have hf (needles : List String) : m.rows.filter (Memory.found needles)
      = m.rows.filter fun row => row.Meets needles :=
    List.filter_congr fun row _ => by rw [Bool.eq_iff_iff, Memory.found_iff, decide_eq_true_iff]
  rw [Memory.matching, Plan.needles_params he hs hv, Plan.request_of_prepare hp, hf]
  split
  case isTrue  => exact List.filter_eq_self.mpr fun _ _ => decide_eq_true (.inl rfl)
  case isFalse => rfl

include hm he hs hv hp in
theorem respond_executor (log : List String) : t.respond request m.executor log = .ok (
    { draw            := request.draw
      recordsTotal    := m.rows.length
      recordsFiltered := (request.rowsFound m.rows).length
      data            := ((request.rowsFound m.rows).drop request.start.toNat).take
        request.length.toInt.toNat
      error           := none },
    log ++ [p.queryText .page, p.queryText .totalCount, p.queryText .filteredCount]) := by
  have hq := queries_eq_of_prepare hp
  have ⟨limit, hl, hpo, hpl⟩ := page_of_queries hq
  have hr := respond_of_serve (serve_of_ok hq (Memory.runTogether_executor log hm hpo hpl))
  have hn : limit.toNat = request.length.toInt.toNat := by
    have ⟨_, hl⟩ := Request.limit_eq_ok_iff.mp hl
    have := request.length.toInt_lt
    rw [← hl, UInt64.toNat_ofNat', Nat.mod_eq_of_lt (by omega)]
  rw [hr, ← hn]
  simp only [Plan.compiledQuery, matching_params he hs hv hp]
  rfl

end Respond

-- That these are the first `n` pages, each as long as the request says, whatever the executor has
-- been asked before.
def Pages (t : Table) (request : Request) (x : Executor σ ρ) (n : Nat)
    (pages : List (Response ρ)) : Prop :=
  (List.range n).Forall₂ (fun k page => ∃ start : UInt64,
    start.toNat = k * request.length.toInt.toNat ∧
    ∀ s, ∃ s', t.respond { request with start } x s = .ok (page, s')) pages

theorem exists_pages (hm : m.failure = none) (he : t.settings.escapeChar = '#')
    (hs : t.settings.parameterStem = "value_")
    (hv : ∀ name ∈ t.clauses.values.names, ¬Memory.IsNeedle name)
    (hp : Plan.prepare t.entity request t.clauses t.settings = .ok p) {n : Nat}
    (hn : ∀ k < n, k * request.length.toInt.toNat < UInt64.size) :
    ∃ pages, t.Pages request m.executor n pages ∧ pages.flatMap (·.data) =
      (request.rowsFound m.rows).take (n * request.length.toInt.toNat) := by
  let page (k : Nat) : Response Row := {
    draw            := request.draw
    recordsTotal    := m.rows.length
    recordsFiltered := (request.rowsFound m.rows).length
    data            := ((request.rowsFound m.rows).drop (k * request.length.toInt.toNat)).take
      request.length.toInt.toNat
    error           := none }
  refine ⟨(List.range n).map page, ?_, ?_⟩
  · refine List.forall₂_map_right_iff.mpr (List.forall₂_same.mpr fun k hk => ?_)
    let start := UInt64.ofNat (k * request.length.toInt.toNat)
    have hk : start.toNat = k * request.length.toInt.toNat :=
      (UInt64.toNat_ofNat' ..).trans (Nat.mod_eq_of_lt (hn k (List.mem_range.mp hk)))
    have ⟨p', hp'⟩ := Plan.exists_prepare_start hp start
    refine ⟨start, hk, fun log => ?_⟩
    have hr := respond_executor hm he hs hv hp' log
    rw [hk] at hr
    exact ⟨_, hr⟩
  · rw [List.flatMap_map, ← flatMap_pieces]

-- The offsets are words, so all rows are reached if there are no more of them than words.
theorem respond_rowsFound (hm : m.failure = none) (he : t.settings.escapeChar = '#')
    (hs : t.settings.parameterStem = "value_")
    (hv : ∀ name ∈ t.clauses.values.names, ¬"value_".toList <+: name.toList)
    (hp : Plan.prepare t.entity request t.clauses t.settings = .ok p) :
    (∀ log, ∃ log', t.respond request m.executor log = .ok (
      { draw            := request.draw
        recordsTotal    := m.rows.length
        recordsFiltered := (request.rowsFound m.rows).length
        data            := ((request.rowsFound m.rows).drop request.start.toNat).take
          request.length.toInt.toNat
        error           := none }, log')) ∧
    (∀ n, (∀ k < n, k * request.length.toInt.toNat < UInt64.size) →
      ∃ pages, t.Pages request m.executor n pages ∧ pages.flatMap (·.data) =
        (request.rowsFound m.rows).take (n * request.length.toInt.toNat)) ∧
    (m.rows.length ≤ UInt64.size → ∃ n pages, t.Pages request m.executor n pages ∧
      pages.flatMap (·.data) = request.rowsFound m.rows) := by
  refine ⟨fun log => ⟨_, respond_executor hm he hs hv hp log⟩,
    fun n hn => exists_pages hm he hs hv hp hn, fun hr => ?_⟩
  let found := request.rowsFound m.rows
  let size := request.length.toInt.toNat
  have hl : 0 < size := by
    have hr := Plan.validate_of_prepare hp
    rw [Plan.request_of_prepare hp] at hr
    exact Int.pos_iff_toNat_pos.mp (Request.validate_eq_ok_iff.mp hr).left
  have hx : ∃ n, found.length ≤ n * size := ⟨found.length, Nat.le_mul_of_pos_right _ hl⟩
  have hn : ∀ k < Nat.find hx, k * size < UInt64.size := fun k hk =>
    calc k * size
      _ < found.length  := Nat.not_le.mp (Nat.find_min hx hk)
      _ ≤ m.rows.length := List.length_filter_le ..
      _ ≤ UInt64.size   := hr
  have ⟨pages, hp, hd⟩ := exists_pages hm he hs hv hp hn
  exact ⟨_, pages, hp, hd.trans (List.take_of_length_le (Nat.find_spec hx))⟩

-- A wildcard stands for itself, so the second row is not found. The caller's own value is kept
-- apart from the search.
theorem respond_rowsFound_of_wildcard :
    let t : Table := {
      entity  := { name := "Parent" }
      clauses := { conditions := ["parent.rank > :low"], values := ⟨[("low", .int 1)]⟩ } }
    let request : Request := {
      start   := 1
      length  := 1
      search  := { value := "5%" }
      columns := [.ofDescriptor "data" ""] }
    let m : Memory := { rows := [⟨1, "5%", none⟩, ⟨2, "50", none⟩, ⟨3, "-", some "a 5% b"⟩] }
    (∃ log, t.respond request m.executor [] = .ok (
      { draw := 1, recordsTotal := 3, recordsFiltered := 2, data := [⟨3, "-", some "a 5% b"⟩]
        error := none }, log)) ∧
    ∃ n pages, t.Pages request m.executor n pages ∧
      pages.flatMap (·.data) = [⟨1, "5%", none⟩, ⟨3, "-", some "a 5% b"⟩] := by
  intro t request m
  have hc : Plan.check { name := "Parent" } request {} = .ok () :=
    Plan.check_eq_ok_of_order_eq_nil rfl rfl (by decide) rfl
  have hf : request.rowsFound m.rows = [⟨1, "5%", none⟩, ⟨3, "-", some "a 5% b"⟩] := by
    decide +kernel
  have ⟨hr, _, hp⟩ := @respond_rowsFound t request m _ rfl rfl rfl (by decide)
    (Plan.prepare_eq_ok_iff.mpr ⟨hc, rfl⟩)
  rw [hf] at hr hp
  exact ⟨hr [], hp (by decide)⟩

end Table

end TableQuery
