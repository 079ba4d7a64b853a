import TableQuery.Proofs.Json.Document
import TableQuery.Proofs.Layout

/-!
Requests as they are sent. What is written of a request is read back as that request without its
formats, which are not sent; what a client sends has none, so it is read back as it is. How
documents are written does not matter, as long as they are read back.
-/

namespace TableQuery

open Outcome

namespace Json

variable {α β : Type}

theorem asWord_toNat (x : UInt64) : asWord (.int x.toNat) = .ok x := by
  have hx : (x.toNat : Int) < wordBound := Int.ofNat_lt.mpr x.toNat_lt
  rw [asWord, if_pos ⟨Int.natCast_nonneg _, hx⟩, Int.toNat_natCast, UInt64.ofNat_toNat]

theorem asLong_toInt (x : Int64) : asLong (.int x.toInt) = .ok x := by
  have hx : -longBound ≤ x.toInt ∧ x.toInt < longBound := ⟨x.le_toInt, x.toInt_lt⟩
  rw [asLong, if_pos hx, Int64.ofInt_toInt]

theorem asList_map {decode : Json → Decoded β} {encode : α → Json} {f : α → β} {xs : List α}
    (h : ∀ x ∈ xs, decode (encode x) = .ok (f x)) :
    asList decode (.array (xs.map encode)) = .ok (xs.map f) := by
  rw [asList]
  induction xs
  case nil          => rfl
  case cons x xs ih =>
    have ⟨hx, hs⟩ := List.forall_mem_cons.mp h
    rw [List.map_cons, List.mapM_cons, hx, ok_bind, ih hs]
    rfl

theorem depthOfItems_map_le {encode : α → Json} {xs : List α} {n : Nat}
    (h : ∀ x ∈ xs, (encode x).depth ≤ n) : depthOfItems (xs.map encode) ≤ n := by
  induction xs
  case nil          => exact Nat.zero_le n
  case cons x xs ih =>
    have ⟨hx, hs⟩ := List.forall_mem_cons.mp h
    exact Nat.max_le.mpr ⟨hx, ih hs⟩

namespace Writable

theorem word (x : UInt64) : Writable (.int x.toNat) :=
  .int (by omega) (Int.ofNat_lt.mpr x.toNat_lt)

theorem long (x : Int64) : Writable (.int x.toInt) := by
  have hl : x.toInt < longBound := x.toInt_lt
  exact .int x.le_toInt (Int.lt_trans hl (by decide))

theorem arrayOf {encode : α → Json} {xs : List α} (h : ∀ x ∈ xs, (encode x).Writable) :
    Writable (.array (xs.map encode)) :=
  .array (List.forall_mem_map.mpr h)

end Writable

-- A way of writing documents as texts, and of reading texts as documents.
structure Codec where
  write : Json → String
  read  : String → Document

namespace Codec

-- The least that is asked of a codec. It may leave out what is nested too deeply.
def Lossless (codec : Codec) : Prop :=
  ∀ j : Json, j.Writable → j.depth ≤ depthLimit → codec.read (codec.write j) = ⟨j, true⟩

-- Documents without gaps.
def compact : Codec where
  write := text
  read  := Document.read

theorem lossless_compact : compact.Lossless :=
  fun _ h _ => h.read_text

end Codec
end Json

open Json

theorem map_eq_self_iff {α : Type} {f : α → α} {l : List α} : l.map f = l ↔ ∀ a ∈ l, f a = a := by
  have h := @List.map_inj_left _ _ l f id
  rwa [List.map_id] at h

theorem Layout.withoutFormats_eq_self_iff {l : Layout} :
    l.withoutFormats = l ↔ ∀ format ∈ l.formats, format = none := by
  cases l
  case multi ps ds slots =>
    simp only [withoutFormats, formats, multi.injEq, true_and, map_eq_self_iff, @eq_comm _ none]
  all_goals exact ⟨fun _ => List.forall_mem_nil _, fun _ => rfl⟩

namespace Search

theorem ofJson_toJson (s : Search) : ofJson s.toJson = .ok s :=
  asRecord_zip fields {} [.string s.value, .bool s.regex] (by decide) rfl

theorem writable_toJson (s : Search) : s.toJson.Writable := by
  refine .object ?_
  simp only [List.forall_mem_cons]
  exact ⟨.string s.value, .bool s.regex, nofun⟩

end Search

namespace Order

theorem of?_display (o : Order) : of? o.column o.dir.display = some o := by
  have hd : Direction.ofString? o.dir.display = some o.dir := by cases o.dir <;> decide
  rw [of?, hd, Option.map_some]

theorem asRecord_toJson (o : Order) : asRecord fields {} o.toJson = .ok ⟨o.column, o.dir.display⟩ := by
  refine (asRecord_zip fields {} [.int o.column.toNat, .string o.dir.display] (by decide) rfl).trans ?_
  simp only [fields, readRow, Field.required, asWord_toNat, ok_bind]
  rfl

theorem ofJson_toJson (o : Order) : ofJson o.toJson = .ok o := by
  rw [ofJson, asRecord_toJson, ok_bind]
  simp only [of?_display]

theorem writable_toJson (o : Order) : o.toJson.Writable := by
  refine .object ?_
  simp only [List.forall_mem_cons]
  exact ⟨.word o.column, .string o.dir.display, nofun⟩

end Order

namespace Column

variable {c : Column}

def withoutFormats (c : Column) : Column :=
  { c with format := none, layout := c.layout.withoutFormats }

-- Whether no format is set, neither on the column nor on one of its fields.
def Unformatted (c : Column) : Prop :=
  c.format = none ∧ ∀ format ∈ c.layout.formats, format = none

theorem withoutFormats_eq_self_iff : c.withoutFormats = c ↔ c.Unformatted := by
  simp [Column.ext_iff, withoutFormats, Unformatted, Layout.withoutFormats_eq_self_iff,
    @eq_comm _ none]

theorem unformatted_ofDraft (d : Draft) : (ofDraft d).Unformatted :=
  ⟨rfl, Layout.withoutFormats_eq_self_iff.mp (Layout.withoutFormats_ofDescriptor _)⟩

-- What a column is sent as. The descriptor is read again where it arrives.
def toDraft (c : Column) : Draft where
  data       := some c.data
  name       := c.name
  searchable := c.searchable
  orderable  := c.orderable
  search     := c.search

theorem asRecord_toJson (c : Column) : asRecord fields {} c.toJson = .ok c.toDraft := by
  have hz := asRecord_zip fields {} [.string c.data, .string c.name, .bool c.searchable,
    .bool c.orderable, c.search.toJson] (by decide) rfl
  refine hz.trans ?_
  simp only [fields, readRow, Field.optionally, Search.ofJson_toJson]
  rfl

theorem Parsed.ofDraft_toDraft (h : c.Parsed) : ofDraft c.toDraft = c.withoutFormats := by
  rw [withoutFormats, h]
  rfl

theorem ofJson_toJson (h : c.Parsed) : ofJson c.toJson = .ok c.withoutFormats := by
  rw [ofJson, asRecord_toJson, ok_bind, h.ofDraft_toDraft]
  rfl

theorem writable_toJson (c : Column) : c.toJson.Writable := by
  refine .object ?_
  simp only [List.forall_mem_cons]
  exact ⟨.string c.data, .string c.name, .bool c.searchable, .bool c.orderable,
    c.search.writable_toJson, nofun⟩

end Column

namespace Request

variable {r : Request}

def withoutFormats (r : Request) : Request :=
  { r with columns := r.columns.map (·.withoutFormats) }

theorem ofJson_toJson (h : r.Made) : ofJson r.toJson = .ok r.withoutFormats := by
  have ho : asList Order.ofJson (.array (r.order.map (·.toJson))) = .ok (r.order.map id) :=
    asList_map fun o _ => o.ofJson_toJson
  have hc : asList Column.ofJson (.array (r.columns.map (·.toJson)))
      = .ok (r.columns.map (·.withoutFormats)) :=
    asList_map fun c hc => Column.ofJson_toJson (h c hc).parsed
  have hz := asRecord_zip fields {} [.int r.draw.toNat, .int r.start.toNat, .int r.length.toInt,
    r.search.toJson, .array (r.order.map (·.toJson)), .array (r.columns.map (·.toJson))]
    (by decide) rfl
  refine hz.trans ?_
  simp only [fields, readRow, Field.optionally, asWord_toNat, asLong_toInt, Search.ofJson_toJson, ho,
    hc, List.map_id, ok_bind]
  rfl

theorem writable_toJson (r : Request) : r.toJson.Writable := by
  refine .object ?_
  simp only [List.forall_mem_cons]
  exact ⟨.word r.draw, .word r.start, .long r.length, r.search.writable_toJson,
    .arrayOf fun o _ => o.writable_toJson, .arrayOf fun c _ => c.writable_toJson, nofun⟩

theorem depth_toJson_le (r : Request) : r.toJson.depth ≤ depthLimit := by
  have ho : depthOfItems (r.order.map (·.toJson)) ≤ 1 :=
    depthOfItems_map_le fun _ _ => Nat.le_refl 1
  have hc : depthOfItems (r.columns.map (·.toJson)) ≤ 2 :=
    depthOfItems_map_le fun _ _ => Nat.le_refl 2
  have hs : r.search.toJson.depth = 1 := rfl
  simp only [toJson, depth, depthOfMembers, hs, depthLimit]
  omega

section Codec

variable {codec : Json.Codec}

def textIn (codec : Json.Codec) (r : Request) : String :=
  codec.write r.toJson

def readIn (codec : Json.Codec) (text : String) : Decoded Request :=
  .ofDocument ofJson (codec.read text)

theorem readIn_textIn_eq (hl : codec.Lossless) (h : r.Made) :
    readIn codec (r.textIn codec) = .ok r.withoutFormats := by
  rw [readIn, textIn, hl r.toJson r.writable_toJson r.depth_toJson_le, Decoded.ofDocument]
  simp only [ofJson_toJson h, ok_bind, if_true]

theorem withoutFormats_eq_self_iff : r.withoutFormats = r ↔ ∀ c ∈ r.columns, c.Unformatted := by
  simp [Request.ext_iff, withoutFormats, map_eq_self_iff, Column.withoutFormats_eq_self_iff]

theorem readIn_textIn_eq_self_iff (hl : codec.Lossless) (h : r.Made) :
    readIn codec (r.textIn codec) = .ok r ↔ ∀ c ∈ r.columns, c.Unformatted := by
  rw [readIn_textIn_eq hl h, Except.ok.injEq, withoutFormats_eq_self_iff]

-- What it means that requests can be sent with a codec.
structure Sendable (codec : Json.Codec) : Prop where
  cleared : ∀ r : Request, r.Made → readIn codec (r.textIn codec) = .ok r.withoutFormats
  kept    : ∀ r : Request, r.Made →
    (readIn codec (r.textIn codec) = .ok r ↔ ∀ c ∈ r.columns, c.Unformatted)
  again   : ∀ text r, readIn codec text = .ok r → readIn codec (r.textIn codec) = .ok r

-- What is read has no formats, since none are sent.
theorem sendable_of_lossless (hl : codec.Lossless) : Sendable codec where
  cleared _   := readIn_textIn_eq hl
  kept _      := readIn_textIn_eq_self_iff hl
  again _ _ h := (readIn_textIn_eq_self_iff hl (.ofDocument h)).mpr
    (forall_mem_columns_of_ofDocument Column.unformatted_ofDraft h)

end Codec

-- With any codec, and so with the one that requests are read and written with.
theorem wire_round_trip :
    (∀ codec : Json.Codec, codec.Lossless → Sendable codec) ∧
    (∀ r : Request, r.Made → read r.text = .ok r.withoutFormats) ∧
    (∀ r : Request, r.Made → (read r.text = .ok r ↔ ∀ c ∈ r.columns, c.Unformatted)) ∧
    ∀ text r, read text = .ok r → read r.text = .ok r := by
  have h := sendable_of_lossless Codec.lossless_compact
  exact ⟨fun _ => sendable_of_lossless, h.cleared, h.kept, h.again⟩

-- A field of a column has a format, and is also sent as a column by itself.
theorem wire_round_trip_of_formatted :
    ∃ r r' : Request, r.Made ∧ r.search.value = "\x07é\\" ∧ r.length = -3 ∧
      r.columns.map (·.data) = ["child?.a + b", "b"] ∧ (∃ c ∈ r.columns, ¬c.Unformatted) ∧
      r' = { r with columns := [.ofDescriptor "child?.a + b" "\n", .ofDescriptor "b" "\n"] } ∧
      Json.Codec.compact.Lossless ∧ read r.text = .ok r' ∧ read r.text ≠ .ok r ∧
      read r'.text = .ok r' := by
  let parent := Column.after (.ofDescriptor "child?.a + b" "\n") [.setSubFormat 1 (some "%d")]
  let child := parent.after [.takeSub 1]
  let r : Request := {
    draw    := 7
    start   := 0xffffffffffffffff
    length  := -3
    search  := ⟨"\x07é\\", true⟩
    order   := [⟨1, .desc⟩]
    columns := [parent, child] }
  have hp : parent.Made := (Column.Begun.ofDescriptor _ _).made.after _
  have hm : r.Made := List.forall_mem_cons.mpr ⟨hp, List.forall_mem_singleton.mpr (hp.after _)⟩
  have hu : ¬child.Unformatted := fun h => absurd h.left (by decide +kernel)
  have hc : child ∈ r.columns := by simp [r]
  have hw : r.withoutFormats.columns
      = [.ofDescriptor "child?.a + b" "\n", .ofDescriptor "b" "\n"] := by decide +kernel
  have ⟨hsend, hread, heq, _⟩ := wire_round_trip
  have hs := hsend .compact Json.Codec.lossless_compact
  refine ⟨r, r.withoutFormats, hm, rfl, rfl, ?data, ⟨child, hc, hu⟩, ?cleared,
    Json.Codec.lossless_compact, hs.cleared r hm, ?kept,
    hs.again r.text r.withoutFormats (hread r hm)⟩
  case data    => decide +kernel
  case cleared =>
    rw [← hw]
    rfl
  case kept    => exact fun h => hu ((heq r hm).mp h child hc)

end Request

end TableQuery
