import TableQuery.Json.Printer
import TableQuery.Json.Reader
import TableQuery.Proofs.Numbering

/-!
The tokens of written text. What is written for a text or a number is read back as one token,
whatever stands behind it, as long as that does not go on with the number.
-/

namespace TableQuery.Json

namespace Token

variable {cs rest : List Char} {c d : Char}

section Text

theorem named?_of_mnemonic? (h : mnemonic? c = some d) : named? d = some c := by
  unfold mnemonic? at h
  split at h
  case h_1 => exact Option.some.inj h ▸ rfl
  case h_2 => exact Option.some.inj h ▸ rfl
  case h_8 => contradiction
  all_goals exact Option.some.inj h ▸ rfl

theorem mnemonic?_ne_u (h : mnemonic? c = some d) : d ≠ 'u' := by
  intro hd
  have hn := named?_of_mnemonic? h
  rw [hd] at hn
  contradiction

theorem unit?_hexPair {n : Nat} (h : n < 0x20) :
    unit? '0' '0' (Nat.digitChar (n / 16)) (Nat.digitChar (n % 16)) = some n := by
  have hu : ∀ n < 0x20,
      unit? '0' '0' (Nat.digitChar (n / 16)) (Nat.digitChar (n % 16)) = some n := by decide
  exact hu n h

theorem readUnits_quote (rest : List Char) : readUnits ('"' :: rest) = some ([], rest) := by
  rw [readUnits.eq_def]
  exact if_pos rfl

theorem readUnits_plain (hm : mnemonic? c = none) (hc : ¬c.toNat < 0x20) (rest : List Char) :
    readUnits (c :: rest) = (readUnits rest).map fun (us, rest) => (c.toNat :: us, rest) := by
  have hq : c ≠ '"' := by
    intro hq
    rw [hq] at hm
    contradiction
  have hb : c ≠ '\\' := by
    intro hb
    rw [hb] at hm
    contradiction
  rw [readUnits.eq_def]
  simp only [if_neg hq, if_neg hb, if_neg hc]
  cases readUnits rest <;> rfl

theorem readUnits_mnemonic (hm : mnemonic? c = some d) (rest : List Char) :
    readUnits ('\\' :: d :: rest)
      = (readUnits rest).map fun (us, rest) => (c.toNat :: us, rest) := by
  have hu := mnemonic?_ne_u hm
  rw [readUnits, if_neg (by decide), if_pos rfl, named?_of_mnemonic? hm]
  · cases readUnits rest <;> rfl
  · exact fun _ _ _ _ _ h _ => hu h

theorem readUnits_control (hc : c.toNat < 0x20) (rest : List Char) :
    readUnits (['\\', 'u', '0', '0'] ++ hexPair c.toNat ++ rest)
      = (readUnits rest).map fun (us, rest) => (c.toNat :: us, rest) := by
  simp only [hexPair, List.cons_append, List.nil_append]
  rw [readUnits, if_neg (by decide), if_pos rfl]
  simp only [unit?_hexPair hc]
  cases readUnits rest <;> rfl

-- Each character is read back from its escape.
theorem readUnits_escapeChar_append (c : Char) (rest : List Char) :
    readUnits (escapeChar c ++ rest)
      = (readUnits rest).map fun (us, rest) => (c.toNat :: us, rest) := by
  unfold escapeChar
  split
  case h_1 hm => exact readUnits_mnemonic hm rest
  case h_2 hm =>
    split
    case isTrue hc  => exact readUnits_control hc rest
    case isFalse hc => exact readUnits_plain hm hc rest

theorem readUnits_escaped (cs rest : List Char) :
    readUnits (cs.flatMap escapeChar ++ '"' :: rest) = some (cs.map Char.toNat, rest) := by
  induction cs
  case nil          => exact readUnits_quote rest
  case cons c cs ih =>
    rw [List.flatMap_cons, List.append_assoc, readUnits_escapeChar_append, ih]
    rfl

-- No character is half of a surrogate pair.
theorem not_isSurrogate_toNat (c : Char) : ¬isHigh c.toNat ∧ ¬isLow c.toNat := by
  have hv : c.toNat < 0xd800 ∨ 0xdfff < c.toNat ∧ c.toNat < 0x110000 := c.valid
  simp only [isHigh, isLow, Bool.and_eq_true, decide_eq_true_eq]
  omega

theorem ofUnits?_toNat (cs : List Char) : ofUnits? (cs.map Char.toNat) = some cs := by
  induction cs
  case nil          => rw [List.map_nil, ofUnits?]
  case cons c cs ih =>
    have ⟨hh, hl⟩ := not_isSurrogate_toNat c
    rw [List.map_cons, ofUnits?.eq_def]
    simp only [if_neg hh, if_neg hl, ih, Char.ofNat_toNat]
    rfl

theorem read_quoted (s : String) (rest : List Char) :
    read '"' (s.toList.flatMap escapeChar ++ '"' :: rest) = some (text (some s), rest) := by
  simp [read, readUnits_escaped, ofUnits?_toNat]

end Text

end Token

-- What can stand behind a value: nothing, or what ends it in an array or an object.
def Follows (cs : List Char) : Prop :=
  ∀ c ∈ cs.head?, c = ',' ∨ c = ']' ∨ c = '\x7d'

theorem follows_cons {c : Char} (h : c = ',' ∨ c = ']' ∨ c = '\x7d') (cs : List Char) :
    Follows (c :: cs) :=
  fun _ hd => Option.some.inj hd ▸ h

namespace Numeral

variable {rest : List Char} {n : Nat}

theorem natural_toDigits (n : Nat) : Text.natural (Nat.toDigits 10 n) = n := by
  have hn : Text.natural (Nat.toDigits 10 n) = Nat.ofDigitChars 10 (Nat.toDigits 10 n) 0 := by
    simp only [Text.natural, Nat.ofDigitChars, Nat.mul_comm]
  rw [hn, Nat.ofDigitChars_ten_toDigits]

theorem isDigit_of_mem_toDigits {c : Char} (h : c ∈ Nat.toDigits 10 n) : c.isDigit :=
  Nat.isDigit_of_mem_toDigits (by decide) (by decide) h

-- A number of several digits does not start with a zero.
theorem head?_toDigits_ne_zero (h : 0 < n) : (Nat.toDigits 10 n).head? ≠ some '0' := by
  induction n using Nat.strongRecOn
  case ind n ih =>
    by_cases hn : n < 10
    case pos =>
      have hd : ∀ n < 10, 0 < n → Nat.digitChar n ≠ '0' := by decide
      rw [Nat.toDigits_of_lt_base hn, List.head?_singleton, Ne, Option.some.injEq]
      exact hd n hn h
    case neg =>
      have hm : 0 < n / 10 := by omega
      rw [Nat.toDigits_of_base_le (by decide) (by omega), List.head?_append,
        List.head?_eq_some_head Nat.toDigits_ne_nil, Option.some_or,
        ← List.head?_eq_some_head Nat.toDigits_ne_nil]
      exact ih (n / 10) (by omega) hm

section Read

theorem readDigits_append (hr : Follows rest) :
    readDigits (Nat.toDigits 10 n ++ rest) = some (Nat.toDigits 10 n, rest) := by
  have hn : ∀ c ∈ Nat.toDigits 10 n, c.isDigit := fun c => isDigit_of_mem_toDigits
  have hs : rest.takeWhile Char.isDigit = [] ∧ rest.dropWhile Char.isDigit = rest := by
    cases rest
    case nil       => exact ⟨rfl, rfl⟩
    case cons c cs =>
      have hc : ¬c.isDigit := by
        obtain rfl | rfl | rfl := hr c rfl <;> decide
      exact ⟨List.takeWhile_cons_of_neg hc, List.dropWhile_cons_of_neg hc⟩
  rw [readDigits, List.takeWhile_append_of_pos hn, List.dropWhile_append_of_pos hn, hs.left,
    hs.right, List.append_nil, if_neg (by simp)]

theorem readWhole_append (hr : Follows rest) :
    readWhole (Nat.toDigits 10 n ++ rest) = some (Nat.toDigits 10 n, rest) := by
  have hz : ¬((Nat.toDigits 10 n).head? = some '0' && (Nat.toDigits 10 n).length ≠ 1) := by
    cases Nat.eq_zero_or_pos n
    case inl h =>
      subst h
      decide
    case inr h => simp [head?_toDigits_ne_zero h]
  rw [readWhole, readDigits_append hr]
  exact if_neg hz

theorem readFraction_of_follows (hr : Follows rest) : readFraction rest = some ([], rest) := by
  unfold readFraction
  split
  case h_1 => exact absurd (hr '.' rfl) (by decide)
  case h_2 => rfl

theorem readExponent_of_follows (hr : Follows rest) : readExponent rest = some (none, rest) := by
  unfold readExponent
  split
  case h_1 c cs =>
    have he : ¬(c = 'e' || c = 'E') := by
      obtain rfl | rfl | rfl := hr c rfl <;> decide
    exact if_neg he
  case h_2 => rfl

theorem read_toDigits (hr : Follows rest) :
    read (Nat.toDigits 10 n ++ rest) = some (⟨false, Nat.toDigits 10 n, [], none⟩, rest) := by
  have hw := @readWhole_append _ n hr
  have ⟨d, ds, hd⟩ := List.exists_cons_of_ne_nil (@Nat.toDigits_ne_nil n 10)
  have hm : d ≠ '-' := by
    intro hm
    have hi : d.isDigit := isDigit_of_mem_toDigits (hd ▸ List.mem_cons_self)
    exact absurd (hm ▸ hi) (by decide)
  rw [hd, List.cons_append] at hw ⊢
  simp [read, hm, hw, readFraction_of_follows hr, readExponent_of_follows hr]

theorem read_neg_toDigits (hr : Follows rest) :
    read ('-' :: (Nat.toDigits 10 n ++ rest))
      = some (⟨true, Nat.toDigits 10 n, [], none⟩, rest) := by
  simp [read, readWhole_append hr, readFraction_of_follows hr, readExponent_of_follows hr]

end Read

theorem toJson_toDigits (h : n < wordBound) :
    toJson ⟨false, Nat.toDigits 10 n, [], none⟩ = .int n := by
  simp [toJson, natural_toDigits, h]

theorem toJson_neg_toDigits (h₀ : 0 < n) (h : n ≤ longBound) :
    toJson ⟨true, Nat.toDigits 10 n, [], none⟩ = .int (-n) := by
  simp [toJson, natural_toDigits, h₀, h]

end Numeral

variable {c : Char} {cs rest : List Char} {t : Token}

theorem tokens_of_read (hc : ¬Token.isGap c) (ht : Token.read c cs = some (t, rest)) :
    tokens (c :: cs) = t :: tokens rest := by
  rw [tokens, if_neg hc]
  split
  case h_1 h => rw [ht] at h; contradiction
  case h_2 h =>
    rw [ht, Option.some.injEq, Prod.mk.injEq] at h
    rw [h.left, h.right]

theorem tokens_quoted (s : String) (rest : List Char) :
    tokens (quoted s ++ rest) = .text (some s) :: tokens rest := by
  rw [quoted, List.cons_append, List.cons_append, List.append_assoc]
  exact tokens_of_read (by decide) (Token.read_quoted s rest)

section Number

variable {m : Numeral} {n : Int}

theorem Token.read_numeral (h : c.isDigit ∨ c = '-') :
    read c cs = (Numeral.read (c :: cs)).map fun (m, rest) => (scalar m.toJson, rest) := by
  have ha : ¬c.isAlpha := by
    cases h
    case inl h =>
      have hd : 48 ≤ c.val && c.val ≤ 57 := h
      intro ha
      have hr : decide (65 ≤ c.val ∧ c.val ≤ 90) || 97 ≤ c.val && c.val ≤ 122 := ha
      simp [UInt32.le_iff_toNat_le] at hd hr
      omega
    case inr h => exact h ▸ by decide
  unfold read
  split
  case h_8 => exact if_neg ha
  all_goals exact absurd h (by decide)

theorem tokens_of_numeral (h : c.isDigit ∨ c = '-') (hm : Numeral.read (c :: cs) = some (m, rest)) :
    tokens (c :: cs) = .scalar m.toJson :: tokens rest := by
  have hg : ¬Token.isGap c := by
    intro hg
    simp only [Token.isGap, Bool.or_eq_true, beq_iff_eq] at hg
    obtain ((rfl | rfl) | rfl) | rfl := hg <;> exact absurd h (by decide)
  exact tokens_of_read hg (by rw [Token.read_numeral h, hm, Option.map_some])

theorem tokens_toString (hl : -longBound ≤ n) (hw : n < wordBound) (hr : Follows rest) :
    tokens ((toString n).toList ++ rest) = .scalar (.int n) :: tokens rest := by
  rw [Int.toString_eq_repr]
  cases n
  case ofNat n =>
    have hm := @Numeral.read_toDigits _ n hr
    have ⟨d, ds, hd⟩ := List.exists_cons_of_ne_nil (@Nat.toDigits_ne_nil n 10)
    have hi : d.isDigit := Numeral.isDigit_of_mem_toDigits (hd ▸ List.mem_cons_self)
    have hj := Numeral.toJson_toDigits (Int.ofNat_lt.mp hw)
    have ht : (Int.ofNat n).repr.toList = Nat.toDigits 10 n := Nat.toList_repr
    rw [hd] at hj
    rw [ht]
    rw [hd, List.cons_append] at hm ⊢
    exact hj ▸ tokens_of_numeral (.inl hi) hm
  case negSucc n =>
    have hj := Numeral.toJson_neg_toDigits n.succ_pos (by omega)
    have ht : (Int.negSucc n).repr.toList = '-' :: Nat.toDigits 10 (n + 1) := by
      rw [Int.repr, String.toList_append, Nat.toList_repr]
      rfl
    rw [ht]
    exact hj ▸ tokens_of_numeral (.inr rfl) (Numeral.read_neg_toDigits hr)

end Number

end TableQuery.Json
