import TableQuery.Column.Basic
import TableQuery.Order

/-!
Requests for one page of a table.
-/

namespace TableQuery

inductive RequestError
  | invalidDirection (token : String)
  | columnIndexOutOfRange (index count : Nat)
  | invalidLength (length : Int64)
  | column (e : ColumnError)
deriving DecidableEq

def RequestError.message : RequestError → String
  | invalidDirection token => "'" ++ token ++ "' not a valid direction."
  | columnIndexOutOfRange index count =>
    "Column index " ++ toString index ++ " is out of range for " ++ toString count
      ++ " columns"
  | invalidLength length => "Page length must be positive, got " ++ toString length.toInt
  | column e => e.message

-- `draw` is sent back with the answer, so that the client can tell which request it belongs to;
-- `start` is the offset of the page's first row, and `length` the size of the page.
@[ext]
structure Request where
  draw    : UInt64 := 1
  start   : UInt64 := 0
  length  : Int64 := 10
  search  : Search := {}
  order   : List Order := []
  columns : List Column := []
deriving DecidableEq

section Turns

variable {α σ ε : Type} {step : α → σ → σ × Except ε Unit} {a : α} {s s' : σ}

-- One step for each element, until a step fails. What has been done by then stays done.
def inTurn (step : α → σ → σ × Except ε Unit) : List α → σ → σ × Except ε Unit
  | [], s      => (s, .ok ())
  | a :: as, s =>
    match step a s with
    | (s, .ok ())   => inTurn step as s
    | (s, .error e) => (s, .error e)

theorem inTurn_cons_of_ok (h : step a s = (s', .ok ())) (as : List α) :
    inTurn step (a :: as) s = inTurn step as s' := by
  rw [inTurn, h]

theorem inTurn_cons_of_error {e : ε} (h : step a s = (s', .error e)) (as : List α) :
    inTurn step (a :: as) s = (s', .error e) := by
  rw [inTurn, h]

-- What every step preserves, whether it fails or not, holds of the result.
theorem inTurn_induction {P : σ → Prop} (hs : ∀ a s, P s → P (step a s).1) (h : P s)
    (as : List α) : P (inTurn step as s).1 := by
  induction as generalizing s
  case nil          => exact h
  case cons a as ih =>
    have hp := hs a s h
    rw [inTurn]
    split
    case h_1 he =>
      rw [he] at hp
      exact ih hp
    case h_2 he => rwa [he] at hp

end Turns

def Order.parse (column : UInt64) (dir : String) : Except RequestError Order :=
  match Order.of? column dir with
  | some o => .ok o
  | none   => .error (.invalidDirection dir)

namespace Request

variable (r : Request)

def setSearchValue (value : String) : Request :=
  { r with search.value := value }

def column (index : Nat) : Except RequestError Column :=
  match r.columns[index]? with
  | some c => .ok c
  | none   => .error (.columnIndexOutOfRange index r.columns.length)

-- What a column is searched for: its own text, or the text for the whole table if it has none.
def searchText (c : Column) : String :=
  if c.search.isEmpty then r.search.value else c.search.value

-- The size of the page. All rows at once are not offered.
def limit : Except RequestError UInt64 :=
  if 0 < r.length.toInt then .ok (.ofNat r.length.toInt.toNat)
  else .error (.invalidLength r.length)

-- Whether the page has a size and every order names a column.
def validate : Except RequestError Unit := do
  let _ ← r.limit
  r.order.forM fun o => do
    let _ ← r.column o.column.toNat

-- The format goes to the column itself, or to each of its fields if there are several.
def setColumnFormat (format : String) (c : Column) : Column × Except ColumnError Unit :=
  if c.isMultiField then
    inTurn (fun index c => c.setSubFormat index (some format)) (List.range c.fieldNames.length) c
  else ({ c with format := some format }, .ok ())

def setDateFormatAt (format : String) (index : Nat) (r : Request) :
    Request × Except RequestError Unit :=
  match r.column index with
  | .error e => (r, .error e)
  | .ok c    =>
    let (c, result) := setColumnFormat format c
    ({ r with columns := r.columns.set index c }, result.mapError .column)

-- Sets a date format on columns, so that a search finds the dates in that form. The columns in
-- front of an index that is out of range are kept as set.
def setDateFormat (format : String) (indices : List Nat) (r : Request) :
    Request × Except RequestError Unit :=
  inTurn (setDateFormatAt format) indices r

end Request

end TableQuery
