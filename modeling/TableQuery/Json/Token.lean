import TableQuery.Json.Numeral

/-!
The tokens of JSON text. Reading a token takes at least one character, so every text has its
tokens; from the first malformed one on there is only `torn`.
-/

namespace TableQuery.Json

inductive Token
  | openArray
  | closeArray
  | openObject
  | closeObject
  | comma
  | colon
  | text (s : Option String) -- nothing, where the literal is well formed but denotes no text
  | scalar (j : Json)        -- any other value without parts
  | torn

namespace Token

def isGap (c : Char) : Bool :=
  c == ' ' || c == '\n' || c == '\t' || c == '\x0d'

-- The code unit that four hexadecimal digits name.
def unit? (a b c d : Char) : Option Nat := do
  let (a, b) := (← Text.hexDigit? a, ← Text.hexDigit? b)
  let (c, d) := (← Text.hexDigit? c, ← Text.hexDigit? d)
  return ((a * 16 + b) * 16 + c) * 16 + d

-- The character that a backslash and `c` name.
def named? (c : Char) : Option Char :=
  match c with
  | '"' | '\\' | '/' => some c
  | 'b' => some '\x08'
  | 'f' => some '\x0c'
  | 'n' => some '\n'
  | 'r' => some '\x0d'
  | 't' => some '\t'
  | _   => none

-- The code units of a text literal after its opening quote, and what follows the closing one.
def readUnits : List Char → Option (List Nat × List Char)
  | []      => none
  | c :: cs =>
    if c = '"' then some ([], cs)
    else if c = '\\' then
      match cs with
      | 'u' :: a :: b :: d :: e :: rest => do
        let u ← unit? a b d e
        let (us, rest) ← readUnits rest
        return (u :: us, rest)
      | d :: rest => do
        let u ← named? d
        let (us, rest) ← readUnits rest
        return (u.toNat :: us, rest)
      | [] => none
    else if c.toNat < 0x20 then none
    else do
      let (us, rest) ← readUnits cs
      return (c.toNat :: us, rest)

def isHigh (u : Nat) : Bool :=
  0xd800 ≤ u && u ≤ 0xdbff

def isLow (u : Nat) : Bool :=
  0xdc00 ≤ u && u ≤ 0xdfff

-- The characters of code units: a high and a low surrogate next to each other are one character,
-- and neither stands alone.
def ofUnits? : List Nat → Option (List Char)
  | []      => some []
  | u :: us =>
    if isHigh u then
      match us with
      | v :: vs =>
        if isLow v then
          (ofUnits? vs).map (.ofNat (0x10000 + (u - 0xd800) * 0x400 + (v - 0xdc00)) :: ·)
        else none
      | [] => none
    else if isLow u then none
    else (ofUnits? us).map (.ofNat u :: ·)

def readLiteral (cs : List Char) : Option (Token × List Char) :=
  match cs with
  | 't' :: 'r' :: 'u' :: 'e' :: rest        => some (scalar (.bool true), rest)
  | 'f' :: 'a' :: 'l' :: 's' :: 'e' :: rest => some (scalar (.bool false), rest)
  | 'n' :: 'u' :: 'l' :: 'l' :: rest        => some (scalar .null, rest)
  | _                                       => none

-- The token that starts with `c`, and what follows it.
def read (c : Char) (cs : List Char) : Option (Token × List Char) :=
  match c with
  | '[' => some (openArray, cs)
  | ']' => some (closeArray, cs)
  | '{' => some (openObject, cs)
  | '}' => some (closeObject, cs)
  | ',' => some (comma, cs)
  | ':' => some (colon, cs)
  | '"' => (readUnits cs).map fun (us, rest) => (text ((ofUnits? us).map .ofList), rest)
  | _   =>
    if c.isAlpha then readLiteral (c :: cs)
    else (Numeral.read (c :: cs)).map fun (n, rest) => (scalar n.toJson, rest)

theorem length_readUnits {cs rest : List Char} (h : readUnits cs = some (us, rest)) :
    rest.length ≤ cs.length := by
  fun_induction readUnits cs generalizing us rest with
  | case1 => contradiction
  | case2 => simp_all
  | case3 _ a b d e rest' ih =>
    simp only [Option.bind_eq_bind, Option.bind_eq_some_iff] at h
    obtain ⟨_, _, ⟨_, _⟩, hr, h⟩ := h
    simp only [Option.pure_def, Option.some.injEq, Prod.mk.injEq] at h
    have := ih (h.right ▸ hr)
    simp only [List.length_cons]
    omega
  | case4 _ d rest' _ ih =>
    simp only [Option.bind_eq_bind, Option.bind_eq_some_iff] at h
    obtain ⟨_, _, ⟨_, _⟩, hr, h⟩ := h
    simp only [Option.pure_def, Option.some.injEq, Prod.mk.injEq] at h
    have := ih (h.right ▸ hr)
    simp only [List.length_cons]
    omega
  | case5 => contradiction
  | case6 => contradiction
  | case7 c cs _ _ _ ih =>
    simp only [Option.bind_eq_bind, Option.bind_eq_some_iff] at h
    obtain ⟨⟨_, _⟩, hr, h⟩ := h
    simp only [Option.pure_def, Option.some.injEq, Prod.mk.injEq] at h
    have := ih (h.right ▸ hr)
    simp only [List.length_cons]
    omega

theorem length_readLiteral {cs rest : List Char} (h : readLiteral cs = some (t, rest)) :
    rest.length < cs.length := by
  unfold readLiteral at h
  split at h <;> simp_all <;> omega

theorem length_read {cs rest : List Char} (h : read c cs = some (t, rest)) :
    rest.length ≤ cs.length := by
  unfold read at h
  split at h
  case h_7 =>
    simp only [Option.map_eq_some_iff] at h
    obtain ⟨⟨_, _⟩, hr, h⟩ := h
    simp only [Prod.mk.injEq] at h
    exact h.right ▸ length_readUnits hr
  case h_8 =>
    split at h
    case isTrue => exact Nat.le_of_lt_succ (length_readLiteral h)
    case isFalse =>
      simp only [Option.map_eq_some_iff] at h
      obtain ⟨⟨_, _⟩, hr, h⟩ := h
      simp only [Prod.mk.injEq] at h
      exact h.right ▸ Nat.le_of_lt_succ (Numeral.length_read hr)
  all_goals simp_all

end Token

def tokens : List Char → List Token
  | []      => []
  | c :: cs =>
    if Token.isGap c then tokens cs
    else match h : Token.read c cs with
      | none           => [.torn]
      | some (t, rest) =>
        have := Token.length_read h
        t :: tokens rest
termination_by cs => cs.length

end TableQuery.Json
