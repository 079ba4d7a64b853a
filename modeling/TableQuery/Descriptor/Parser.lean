import TableQuery.Descriptor.Basic
import TableQuery.Text.Word

/-!
Reading descriptors. A path starts at every word character and goes on as far as it can; whatever
stands between two paths is their delimiter, and every text has a reading.
-/

namespace TableQuery

-- The segment at the head of the text, and what follows it. A question mark in front of a further
-- word character does not belong to the segment.
def Segment.read (cs : List Char) : Segment × List Char :=
  let name := String.ofList (cs.takeWhile Text.isWord)
  match cs.dropWhile Text.isWord with
  | '?' :: rest => if Text.startsWord rest then (⟨name, false⟩, '?' :: rest) else (⟨name, true⟩, rest)
  | rest        => (⟨name, false⟩, rest)

theorem Segment.length_read (cs : List Char) : (Segment.read cs).2.length ≤ cs.length := by
  have h : (cs.dropWhile Text.isWord).length ≤ cs.length :=
    (List.dropWhile_suffix Text.isWord).length_le
  unfold Segment.read
  split
  case h_1 rest hr =>
    rw [hr, List.length_cons] at h
    split
    · exact h
    · exact Nat.le_of_succ_le h
  case h_2 => exact h

namespace FieldPath

-- Further segments, each after a point.
def readMore : List Char → List Segment × List Char
  | '.' :: cs =>
    if Text.startsWord cs then
      let (more, rest) := readMore (Segment.read cs).2
      ((Segment.read cs).1 :: more, rest)
    else ([], '.' :: cs)
  | cs        => ([], cs)
termination_by cs => cs.length
decreasing_by exact Nat.lt_succ_of_le (Segment.length_read cs)

theorem length_readMore (cs : List Char) : (readMore cs).2.length ≤ cs.length := by
  fun_induction readMore cs with
  | case1 cs _ more rest hr ih =>
    rw [hr] at ih
    exact Nat.le_succ_of_le (Nat.le_trans ih (Segment.length_read cs))
  | case2 => exact Nat.le_refl _
  | case3 => exact Nat.le_refl _

def read (cs : List Char) : FieldPath × List Char :=
  let (more, rest) := readMore (Segment.read cs).2
  (⟨(Segment.read cs).1 :: more⟩, rest)

end FieldPath

namespace Descriptor

def gap (cs : List Char) : List Char :=
  cs.takeWhile (!Text.isWord ·)

def afterGap (cs : List Char) : List Char :=
  cs.dropWhile (!Text.isWord ·)

end Descriptor

theorem Segment.length_read_lt {cs : List Char} (h : Text.startsWord cs) :
    (Segment.read cs).2.length < cs.length := by
  match cs with
  | []      => contradiction
  | c :: cs =>
    have hc : Text.isWord c := h
    have hd : (c :: cs).dropWhile Text.isWord = cs.dropWhile Text.isWord := by simp [hc]
    have hr : (Segment.read (c :: cs)).2 = (Segment.read cs).2 := by
      unfold Segment.read
      rw [hd]
      split <;> simp only
      split <;> rfl
    rw [hr]
    exact Nat.lt_succ_of_le (Segment.length_read cs)

theorem FieldPath.length_read_lt {cs : List Char} (h : Text.startsWord cs) :
    (FieldPath.read cs).2.length < cs.length :=
  Nat.lt_of_le_of_lt (FieldPath.length_readMore _) (Segment.length_read_lt h)

namespace Descriptor

-- The paths of a text, each with the text in front of it.
def pieces (cs : List Char) : List (List Char × FieldPath) :=
  if _h : Text.startsWord (afterGap cs) then
    (gap cs, (FieldPath.read (afterGap cs)).1) :: pieces (FieldPath.read (afterGap cs)).2
  else []
termination_by cs.length
decreasing_by
  exact Nat.lt_of_lt_of_le (FieldPath.length_read_lt ‹_›) (List.dropWhile_suffix _).length_le

def parse (text : String) : Descriptor where
  paths      := (pieces text.toList).map (·.2)
  delimiters := (pieces text.toList).tail.map fun piece => .ofList piece.1

end Descriptor

end TableQuery
