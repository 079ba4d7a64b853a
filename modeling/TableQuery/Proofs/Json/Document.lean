import TableQuery.Proofs.Json.Token

/-!
Documents that are read back. What is written of a value takes the reader from where it waits for a
value to where that value has been put, whatever is open around it and whatever follows.
-/

namespace TableQuery.Json

variable {j : Json} {items : List Json} {members : List (String × Json)} {fs : List Frame}
variable {cs rest : List Char} {r : Reader} {t : Token} {want : Want}

-- What can be written without loss: everything but doubles and flaws, where integers fit 64 bits.
inductive Writable : Json → Prop
  | null : Writable null
  | bool (b : Bool) : Writable (bool b)
  | int {n : Int} (hl : -longBound ≤ n) (hw : n < wordBound) : Writable (int n)
  | string (s : String) : Writable (string s)
  | array {items : List Json} (h : ∀ j ∈ items, Writable j) : Writable (array items)
  | object {members : List (String × Json)} (h : ∀ m ∈ members, Writable m.2) :
    Writable (object members)

namespace Reader

def run (r : Reader) (cs : List Char) : Reader :=
  (tokens cs).foldl step r

theorem run_of_tokens (h : tokens cs = t :: tokens rest) : r.run cs = (r.step t).run rest := by
  rw [run, h, List.foldl_cons, run]

theorem run_of_read {c : Char} (hc : ¬Token.isGap c) (h : Token.read c cs = some (t, rest)) :
    r.run (c :: cs) = (r.step t).run rest :=
  run_of_tokens (tokens_of_read hc h)

end Reader

open Reader

-- Whether the reader waits for a value, be it the first of an array.
def Want.IsValue (want : Want) : Prop :=
  want = .value ∨ want = .valueOrClose

def Want.IsName (want : Want) : Prop :=
  want = .name ∨ want = .nameOrClose

-- The value is read where the reader waits for one, up to what follows.
def ReadBack (j : Json) : Prop :=
  ∀ fs want rest, want.IsValue → Follows rest →
    (inside fs want).run (j.chars ++ rest) = (put j fs).run rest

theorem readBack_of_tokens (ht : ∀ {rest}, Follows rest → tokens (j.chars ++ rest) = t :: tokens rest)
    (hs : ∀ {fs want}, want.IsValue → (inside fs want).step t = put j fs) : ReadBack j := by
  intro fs want rest hw hr
  rw [run_of_tokens (ht hr), hs hw]

theorem readBack_scalar (ht : ∀ {rest}, Follows rest →
    tokens (j.chars ++ rest) = .scalar j :: tokens rest) : ReadBack j := by
  refine readBack_of_tokens ht fun hw => ?_
  obtain rfl | rfl := hw <;> rfl

theorem readBack_string (s : String) : ReadBack (string s) := by
  refine readBack_of_tokens (fun _ => tokens_quoted s _) fun hw => ?_
  obtain rfl | rfl := hw <;> rfl

section Items

variable {done : List Json}

-- In `done` are the items in front, the last one first.
theorem run_items (h : ∀ i ∈ j :: items, ReadBack i) (hw : want.IsValue) :
    (inside (.array done :: fs) want).run (charsOfItems (j :: items) ++ ']' :: rest)
      = (put (.array (done.reverse ++ j :: items)) fs).run rest := by
  induction items generalizing j done want
  case nil =>
    have hj := h j List.mem_cons_self
    have hf := follows_cons (.inr (.inl rfl)) rest
    rw [charsOfItems, hj _ _ _ hw hf, run_of_read (by decide) rfl]
    simp [put, step]
  case cons k items ih =>
    have ⟨hj, hi⟩ := List.forall_mem_cons.mp h
    have hr := @ih k .value (j :: done) hi (.inl rfl)
    have hf := follows_cons (.inl rfl) (charsOfItems (k :: items) ++ ']' :: rest)
    rw [charsOfItems, List.append_assoc, List.cons_append, hj _ _ _ hw hf,
      run_of_read (by decide) rfl]
    simpa [put, step] using hr

theorem readBack_array (h : ∀ i ∈ items, ReadBack i) : ReadBack (array items) := by
  intro fs want rest hw hr
  have hs : (inside fs want).step .openArray = inside (.array [] :: fs) .valueOrClose := by
    obtain rfl | rfl := hw <;> rfl
  rw [chars, List.cons_append, List.cons_append, List.append_assoc, run_of_read (by decide) rfl, hs]
  cases items
  case nil =>
    rw [charsOfItems, List.nil_append, List.singleton_append, run_of_read (by decide) rfl]
    rfl
  case cons => exact run_items h (.inr rfl)

end Items

section Members

variable {name : String} {done : List (String × Json)}

-- What is read of a member: its name, the colon and its value.
theorem run_member (hj : ReadBack j) (hw : want.IsName) (hr : Follows rest) :
    (inside (.object done none :: fs) want).run (quoted name ++ ':' :: (j.chars ++ rest))
      = (inside (.object ((name, j) :: done) none :: fs) .separator).run rest := by
  have hs : (inside (.object done none :: fs) want).step (.text (some name))
      = inside (.object done (some (some name)) :: fs) .colon := by
    obtain rfl | rfl := hw <;> rfl
  rw [run_of_tokens (tokens_quoted name _), hs, run_of_read (by decide) rfl]
  exact hj _ _ _ (.inl rfl) hr

theorem run_members (h : ∀ m ∈ (name, j) :: members, ReadBack m.2) (hw : want.IsName) :
    (inside (.object done none :: fs) want).run
        (charsOfMembers ((name, j) :: members) ++ '\x7d' :: rest)
      = (put (.object (done.reverse ++ (name, j) :: members)) fs).run rest := by
  induction members generalizing name j done want
  case nil =>
    have hj := h (name, j) List.mem_cons_self
    have hf := follows_cons (.inr (.inr rfl)) rest
    rw [charsOfMembers, List.append_assoc, List.cons_append, run_member hj hw hf,
      run_of_read (by decide) rfl]
    simp [step]
  case cons m members ih =>
    have ⟨hj, hm⟩ := List.forall_mem_cons.mp h
    have hr := @ih m.2 .name m.1 ((name, j) :: done) hm (.inl rfl)
    rw [charsOfMembers]
    simp only [List.append_assoc, List.cons_append]
    rw [run_member hj hw (follows_cons (.inl rfl) _), run_of_read (by decide) rfl]
    simpa [step] using hr

theorem readBack_object (h : ∀ m ∈ members, ReadBack m.2) : ReadBack (object members) := by
  intro fs want rest hw hr
  have hs : (inside fs want).step .openObject = inside (.object [] none :: fs) .nameOrClose := by
    obtain rfl | rfl := hw <;> rfl
  rw [chars, List.cons_append, List.cons_append, List.append_assoc, run_of_read (by decide) rfl, hs]
  cases members
  case nil =>
    rw [charsOfMembers, List.nil_append, List.singleton_append, run_of_read (by decide) rfl]
    rfl
  case cons => exact run_members h (.inr rfl)

end Members

-- Arrays and objects are read back because their parts are, so the induction is over these.
theorem Writable.readBack (h : j.Writable) : ReadBack j := by
  induction h
  case null          => exact readBack_scalar fun _ => tokens_of_read (by decide) rfl
  case bool b        =>
    cases b
    case false => exact readBack_scalar fun _ => tokens_of_read (by decide) rfl
    case true  => exact readBack_scalar fun _ => tokens_of_read (by decide) rfl
  case int hl hw     => exact readBack_scalar fun hr => tokens_toString hl hw hr
  case string s      => exact readBack_string s
  case array ih      => exact readBack_array ih
  case object ih     => exact readBack_object ih

theorem Writable.read_text (h : j.Writable) : Document.read j.text = ⟨j, true⟩ := by
  have hr := h.readBack [] .value [] (.inl rfl) nofun
  rw [List.append_nil, run, run, tokens, List.foldl_nil] at hr
  rw [Document.read, text, String.toList_ofList, hr, put]

end TableQuery.Json
