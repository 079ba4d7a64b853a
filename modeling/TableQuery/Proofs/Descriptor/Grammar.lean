import TableQuery.Proofs.Descriptor.Division

/-!
The grammar of descriptors. Its rules are tried in their order, take as much as they can and never
give anything back; they accept every text. What they take is collected from the left to the right,
and that is what is parsed.

  descriptor = delimiter? (path (delimiter path)*)? delimiter?
  path       = segment ("." segment)*
  segment    = name mark?
  mark       = "?" without a word character behind it
  name       = word character+
  delimiter  = (any character that no path starts at)+
-/

namespace TableQuery.Descriptor

open Text

namespace Grammar

-- A rule fails, or takes what it stands for from the head of the text.
abbrev Rule := StateT (List Char) Option

variable {α β : Type}

def char (p : Char → Bool) : Rule Char
  | []      => none
  | c :: cs => if p c then some (c, cs) else none

def optional (r : Rule α) : Rule (Option α) := fun cs =>
  match r cs with
  | some (a, rest) => some (some a, rest)
  | none           => some (none, cs)

-- Takes nothing, and only looks whether the rule would fail.
def absent (r : Rule α) : Rule Unit := fun cs =>
  match r cs with
  | some _ => none
  | none   => some ((), cs)

def repeated (r : Rule α) (cs : List Char) : List α × List Char :=
  match r cs with
  | some (a, rest) =>
    if rest.length < cs.length then
      let (as, rest) := repeated r rest
      (a :: as, rest)
    else ([], cs)
  | none           => ([], cs)
termination_by cs.length

def many (r : Rule α) : Rule (List α) := fun cs =>
  some (repeated r cs)

def several (r : Rule α) : Rule (List α) := do
  return (← r) :: (← many r)

def finished : Rule Unit
  | [] => some ((), [])
  | _  => none

def name : Rule String :=
  return .ofList (← several (char isWord))

def mark : Rule Unit := do
  let _ ← char (· == '?')
  absent (char isWord)

def segment : Rule Segment :=
  return ⟨← name, (← optional mark).isSome⟩

def furtherSegment : Rule Segment := do
  let _ ← char (· == '.')
  segment

def path : Rule FieldPath :=
  return ⟨(← segment) :: (← many furtherSegment)⟩

def gapChar : Rule Char := do
  absent path
  char fun _ => true

def delimiter : Rule String :=
  return .ofList (← several gapChar)

def furtherPath : Rule (String × FieldPath) :=
  return (← delimiter, ← path)

-- What a text is made of, its end included.
inductive Part
  | path (p : FieldPath)
  | delimiter (text : String)
  | finish

def further (ps : List (String × FieldPath)) : List Part :=
  ps.flatMap fun (text, p) => [.delimiter text, .path p]

def paths : Rule (List Part) :=
  return .path (← path) :: further (← many furtherPath)

def parts : Rule (List Part) := do
  let lead ← optional delimiter
  let ps ← optional paths
  let trail ← optional delimiter
  finished
  return lead.toList.map .delimiter ++ ps.getD [] ++ trail.toList.map .delimiter ++ [.finish]

-- What has been collected of a text. A delimiter is pending until a path follows it, and counts if
-- there is a path in front of it, too.
structure Collected where
  paths      : List FieldPath := []
  delimiters : List String := []
  pending    : Option String := none

def Collected.add (s : Collected) : Part → Collected
  | .path p         =>
    if s.paths.isEmpty then { s with paths := [p] }
    else
      { paths      := s.paths ++ [p]
        delimiters := s.delimiters ++ [s.pending.getD ""]
        pending    := none }
  | .delimiter text => { s with pending := some text }
  | .finish         => s

def Collected.descriptor (s : Collected) : Descriptor :=
  ⟨s.paths, s.delimiters⟩

def collect (parts : List Part) : Descriptor :=
  (parts.foldl Collected.add {}).descriptor

def descriptor : Rule Descriptor :=
  return collect (← parts)

variable {r : Rule α} {f : α → Rule β} {a : α} {c : Char} {cs rest : List Char} {p : Char → Bool}

theorem bind_of_some (h : r cs = some (a, rest)) : (r >>= f) cs = f a rest := by
  simp [bind, StateT.bind, h]

theorem bind_of_none (h : r cs = none) : (r >>= f) cs = none := by
  simp [bind, StateT.bind, h]

theorem char_of_pos (h : p c) (cs : List Char) : char p (c :: cs) = some (c, cs) :=
  if_pos h

theorem char_of_neg (h : ¬p c) (cs : List Char) : char p (c :: cs) = none :=
  if_neg h

theorem optional_of_some (h : r cs = some (a, rest)) : optional r cs = some (some a, rest) := by
  rw [optional, h]

theorem optional_of_none (h : r cs = none) : optional r cs = some (none, cs) := by
  rw [optional, h]

theorem repeated_of_none (h : r cs = none) : repeated r cs = ([], cs) := by
  rw [repeated, h]

theorem repeated_of_some (h : r cs = some (a, rest)) (hl : rest.length < cs.length) :
    repeated r cs = (a :: (repeated r rest).1, (repeated r rest).2) := by
  rw [repeated, h]
  exact if_pos hl

theorem several_of_none (h : r cs = none) : several r cs = none :=
  bind_of_none h

theorem several_of_some (h : r cs = some (a, rest)) :
    several r cs = some (a :: (repeated r rest).1, (repeated r rest).2) :=
  bind_of_some h

theorem repeated_char (p : Char → Bool) (cs : List Char) :
    repeated (char p) cs = (cs.takeWhile p, cs.dropWhile p) := by
  induction cs
  case nil          => exact repeated_of_none rfl
  case cons c cs ih =>
    by_cases hc : p c
    case pos =>
      rw [repeated_of_some (char_of_pos hc cs) (Nat.lt_succ_self _), ih,
        List.takeWhile_cons_of_pos hc, List.dropWhile_cons_of_pos hc]
    case neg =>
      rw [repeated_of_none (char_of_neg hc cs), List.takeWhile_cons_of_neg hc,
        List.dropWhile_cons_of_neg hc]

theorem name_eq (h : startsWord cs) :
    name cs = some (.ofList (cs.takeWhile isWord), cs.dropWhile isWord) := by
  have ⟨c, rest, hc, hw⟩ := startsWord_iff.mp h
  have hs := several_of_some (char_of_pos (p := isWord) hw rest)
  rw [repeated_char] at hs
  rw [hc, name, bind_of_some hs, List.takeWhile_cons_of_pos hw, List.dropWhile_cons_of_pos hw]
  rfl

theorem name_eq_none (h : ¬startsWord cs) : name cs = none := by
  cases cs
  case nil  => rfl
  case cons => exact bind_of_none (several_of_none (char_of_neg (p := isWord) h _))

theorem absent_of_some (h : r cs = some (a, rest)) : absent r cs = none := by
  rw [absent, h]

theorem absent_of_none (h : r cs = none) : absent r cs = some ((), cs) := by
  rw [absent, h]

theorem char_eq_none (h : ¬startsWord cs) : char isWord cs = none := by
  cases cs
  case nil  => rfl
  case cons => exact char_of_neg (p := isWord) h _

theorem mark_of_startsWord (h : startsWord cs) : mark ('?' :: cs) = none := by
  have ⟨c, rest, hc, hw⟩ := startsWord_iff.mp h
  rw [mark, bind_of_some (char_of_pos rfl cs), hc, absent_of_some (char_of_pos hw rest)]

theorem mark_of_not_startsWord (h : ¬startsWord cs) : mark ('?' :: cs) = some ((), cs) := by
  rw [mark, bind_of_some (char_of_pos rfl cs), absent_of_none (char_eq_none h)]

theorem mark_eq_none (h : ∀ rest, cs ≠ '?' :: rest) : mark cs = none := by
  cases cs
  case nil       => rfl
  case cons c cs =>
    have hc : c ≠ '?' := fun hc => h cs (hc ▸ rfl)
    exact bind_of_none (char_of_neg (by simpa using hc) cs)

theorem optional_mark (cs : List Char) :
    optional mark cs = some (if Segment.isMark cs then some () else none,
      cs.drop (Segment.isMark cs).toNat) := by
  unfold Segment.isMark
  split
  case h_1 cs =>
    by_cases h : startsWord cs
    case pos => simp [optional_of_none (mark_of_startsWord h), h]
    case neg => simp [optional_of_some (mark_of_not_startsWord h), h]
  case h_2 cs h => exact optional_of_none (mark_eq_none h)

theorem segment_eq (h : startsWord cs) :
    segment cs = some ((Segment.read cs).1, (Segment.read cs).2) := by
  rw [segment, bind_of_some (name_eq h), bind_of_some (optional_mark _), Segment.read_eq]
  cases Segment.isMark (cs.dropWhile isWord) <;> rfl

theorem segment_eq_none (h : ¬startsWord cs) : segment cs = none :=
  bind_of_none (name_eq_none h)

theorem furtherSegment_eq (h : startsWord cs) :
    furtherSegment ('.' :: cs) = some ((Segment.read cs).1, (Segment.read cs).2) := by
  rw [furtherSegment, bind_of_some (char_of_pos rfl cs), segment_eq h]

theorem repeated_furtherSegment (cs : List Char) :
    repeated furtherSegment cs = FieldPath.readMore cs := by
  fun_induction FieldPath.readMore cs with
  | case1 cs hn more rest hr ih =>
    rw [hr] at ih
    rw [repeated_of_some (furtherSegment_eq hn) (Nat.lt_succ_of_le (Segment.length_read cs)), ih]
  | case2 cs hn =>
    apply repeated_of_none
    rw [furtherSegment, bind_of_some (char_of_pos rfl cs), segment_eq_none hn]
  | case3 cs hne =>
    apply repeated_of_none
    cases cs
    case nil       => rfl
    case cons c cs =>
      have hc : c ≠ '.' := fun hc => hne cs (hc ▸ rfl)
      exact bind_of_none (char_of_neg (by simpa using hc) cs)

theorem path_eq (h : startsWord cs) :
    path cs = some ((FieldPath.read cs).1, (FieldPath.read cs).2) := by
  rw [path, bind_of_some (segment_eq h), bind_of_some rfl, repeated_furtherSegment, FieldPath.read]
  rfl

theorem path_eq_none (h : ¬startsWord cs) : path cs = none :=
  bind_of_none (segment_eq_none h)

theorem gapChar_of_pos (h : ¬isWord c) (cs : List Char) : gapChar (c :: cs) = some (c, cs) := by
  have hc : ¬startsWord (c :: cs) := h
  rw [gapChar, bind_of_some (absent_of_none (path_eq_none hc))]
  rfl

theorem gapChar_of_neg (h : isWord c) (cs : List Char) : gapChar (c :: cs) = none := by
  have hc : startsWord (c :: cs) := h
  exact bind_of_none (absent_of_some (path_eq hc))

theorem repeated_gapChar (cs : List Char) : repeated gapChar cs = (gap cs, afterGap cs) := by
  induction cs
  case nil          => exact repeated_of_none rfl
  case cons c cs ih =>
    by_cases hc : isWord c
    case pos =>
      rw [repeated_of_none (gapChar_of_neg hc cs)]
      simp [gap, afterGap, hc]
    case neg =>
      rw [repeated_of_some (gapChar_of_pos hc cs) (Nat.lt_succ_self _), ih]
      simp [gap, afterGap, hc]

theorem delimiter_eq (h : gap cs ≠ []) :
    delimiter cs = some (.ofList (gap cs), afterGap cs) := by
  cases cs
  case nil       => contradiction
  case cons c cs =>
    have hc : ¬isWord c := by
      intro hc
      simp [gap, hc] at h
    have hg : gap (c :: cs) = c :: gap cs := List.takeWhile_cons_of_pos (by simpa using hc)
    have ha : afterGap (c :: cs) = afterGap cs := List.dropWhile_cons_of_pos (by simpa using hc)
    rw [delimiter, bind_of_some (several_of_some (gapChar_of_pos hc cs)), repeated_gapChar, hg, ha]
    rfl

theorem delimiter_eq_none (h : gap cs = []) : delimiter cs = none := by
  cases cs
  case nil       => rfl
  case cons c cs =>
    have hc : isWord c := by simpa [gap] using h
    exact bind_of_none (several_of_none (gapChar_of_neg hc cs))

theorem optional_delimiter (cs : List Char) :
    ∃ g, optional delimiter cs = some (g, afterGap cs) := by
  by_cases hg : gap cs = []
  case pos =>
    have hc := gap_append_afterGap cs
    rw [hg, List.nil_append] at hc
    exact ⟨none, hc.symm ▸ optional_of_none (delimiter_eq_none hg)⟩
  case neg => exact ⟨_, optional_of_some (delimiter_eq hg)⟩

theorem furtherPath_eq (hg : gap cs ≠ []) (hn : startsWord (afterGap cs)) :
    furtherPath cs = some ((.ofList (gap cs), (FieldPath.read (afterGap cs)).1),
      (FieldPath.read (afterGap cs)).2) := by
  rw [furtherPath, bind_of_some (delimiter_eq hg), bind_of_some (path_eq hn)]
  rfl

-- A delimiter that no path follows is given back.
theorem furtherPath_eq_none (hn : ¬startsWord (afterGap cs)) : furtherPath cs = none := by
  by_cases hg : gap cs = []
  case pos => exact bind_of_none (delimiter_eq_none hg)
  case neg => rw [furtherPath, bind_of_some (delimiter_eq hg), bind_of_none (path_eq_none hn)]

theorem repeated_furtherPath (h : ¬startsWord cs) :
    ∃ trail, IsGap trail ∧ repeated furtherPath cs =
      ((pieces cs).map fun piece => (.ofList piece.1, piece.2), trail) := by
  fun_induction pieces cs with
  | case1 cs hn ih =>
    obtain ⟨trail, ht, hr⟩ := ih (FieldPath.ends_read _).word
    have hg : gap cs ≠ [] := by
      intro hg
      have hc := gap_append_afterGap cs
      rw [hg, List.nil_append] at hc
      exact h (hc ▸ hn)
    have hl : (FieldPath.read (afterGap cs)).2.length < cs.length :=
      Nat.lt_of_lt_of_le (FieldPath.length_read_lt hn) (List.dropWhile_suffix _).length_le
    refine ⟨trail, ht, ?_⟩
    rw [repeated_of_some (furtherPath_eq hg hn) hl, hr]
    rfl
  | case2 cs hn =>
    have hr := repeated_of_none (furtherPath_eq_none hn)
    exact ⟨cs, isGap_of_not_startsWord_afterGap hn, hr⟩

theorem paths_eq (h : startsWord (afterGap cs)) :
    ∃ p ps trail, IsGap trail ∧ paths (afterGap cs) = some (.path p :: further ps, trail) ∧
      ofPieces (pieces cs) = ⟨p :: ps.map (·.2), ps.map (·.1)⟩ := by
  have ⟨trail, ht, hr⟩ := repeated_furtherPath (FieldPath.ends_read (afterGap cs)).word
  let ps := (pieces (FieldPath.read (afterGap cs)).2).map
    fun piece => (String.ofList piece.1, piece.2)
  refine ⟨(FieldPath.read (afterGap cs)).1, ps, trail, ht, ?taken, ?pieces⟩
  case taken  =>
    rw [paths, bind_of_some (path_eq h), bind_of_some rfl, hr]
    rfl
  case pieces =>
    rw [pieces_of_startsWord h]
    simp [ofPieces, ps]

section Collect

variable {s : Collected} {ps : List (String × FieldPath)}

-- Behind a first path, every delimiter counts, since a path follows it.
theorem descriptor_add_further (h : s.paths ≠ []) :
    ((further ps).foldl Collected.add s).descriptor
      = ⟨s.paths ++ ps.map (·.2), s.delimiters ++ ps.map (·.1)⟩ := by
  induction ps generalizing s
  case nil          => simp [further, Collected.descriptor]
  case cons q ps ih =>
    have hs : ((s.add (.delimiter q.1)).add (.path q.2))
        = ⟨s.paths ++ [q.2], s.delimiters ++ [q.1], none⟩ := by
      simp [Collected.add, h]
    have hf : further (q :: ps) = .delimiter q.1 :: .path q.2 :: further ps := rfl
    rw [hf, List.foldl_cons, List.foldl_cons, hs, ih (by simp)]
    simp

-- A delimiter in front of all paths or behind them does not count.
theorem collect_eq (lead trail : Option String) (p : FieldPath) :
    collect (lead.toList.map .delimiter ++ .path p :: further ps ++ trail.toList.map .delimiter
      ++ [.finish]) = ⟨p :: ps.map (·.2), ps.map (·.1)⟩ := by
  have hs : (lead.toList.map Part.delimiter).foldl Collected.add {} = ⟨[], [], lead⟩ := by
    cases lead <;> rfl
  have hf := @descriptor_add_further ⟨[p], [], lead⟩ ps (List.cons_ne_nil p [])
  rw [collect, List.foldl_append, List.foldl_append, List.foldl_append, hs]
  cases trail <;> exact hf

end Collect

-- The rules accept every text as a whole.
theorem descriptor_eq (text : String) : descriptor text.toList = some (parse text, []) := by
  have ⟨lead, hl⟩ := optional_delimiter text.toList
  by_cases h : startsWord (afterGap text.toList)
  case pos =>
    have ⟨p, ps, rest, hg, hp, hs⟩ := paths_eq h
    have ⟨trail, ht⟩ := optional_delimiter rest
    rw [afterGap_of_isGap hg] at ht
    have hr : parts text.toList = some (lead.toList.map .delimiter ++ .path p :: further ps
        ++ trail.toList.map .delimiter ++ [.finish], []) := by
      rw [parts, bind_of_some hl, bind_of_some (optional_of_some hp), bind_of_some ht]
      rfl
    have hd : parse text = ofPieces (pieces text.toList) := rfl
    rw [descriptor, bind_of_some hr, collect_eq, hd, hs]
    rfl
  case neg =>
    have hg := isGap_of_not_startsWord_afterGap h
    rw [afterGap_of_isGap hg] at hl
    have hr : parts text.toList = some (lead.toList.map .delimiter ++ [.finish], []) := by
      rw [parts, bind_of_some hl]
      cases lead <;> rfl
    rw [descriptor, bind_of_some hr, parse, pieces_gap hg]
    cases lead <;> rfl

end Grammar

theorem divides_every_text (text : String) :
    Grammar.descriptor text.toList = some (parse text, []) ∧
    (parse text).Divides text ∧ (∀ d, d.Divides text → d = parse text) ∧
    ((parse text).paths = [] → (parse text).delimiters = [] ∧ IsGap text.toList) ∧
    ((parse text).paths ≠ [] → (parse text).delimiters.length + 1 = (parse text).paths.length) := by
  have hd := divides_parse text
  refine ⟨Grammar.descriptor_eq text, hd, fun _ h => h.parse_eq.symm, ?none, ?some⟩
  case none =>
    intro hp
    obtain ⟨lead, trail, hl, ht, hw⟩ := hd.whole
    have hw : text = lead ++ trail := by simpa [display, hp] using hw
    refine ⟨by simpa [hp] using hd.count, ?_⟩
    rw [hw, String.toList_append]
    exact hl.append ht
  case some =>
    intro hp
    have hl := List.length_pos_iff.mpr hp
    have hc := hd.count
    omega

end TableQuery.Descriptor
