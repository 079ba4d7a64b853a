import Mathlib.Data.List.TakeWhile
import TableQuery.Proofs.Column

/-!
How a text divides into the paths of a descriptor and what stands between them. There is one way to
divide a text in which every identifier is read as far as it goes, and it is the one that is parsed.
-/

namespace TableQuery

open Text

variable {cs rest gap lead trail name : List Char}

namespace Text

-- Text that no name is part of.
def IsGap (cs : List Char) : Prop :=
  ∀ c ∈ cs, ¬isWord c

instance : DecidablePred IsGap :=
  fun cs => List.decidableBAll (¬isWord ·) cs

theorem IsGap.append (hg : IsGap gap) (hr : IsGap rest) : IsGap (gap ++ rest) :=
  List.forall_mem_append.mpr ⟨hg, hr⟩

theorem startsWord_iff : startsWord cs ↔ ∃ c rest, cs = c :: rest ∧ isWord c := by
  cases cs
  case nil  => simp [startsWord]
  case cons => simp [startsWord]

theorem not_startsWord_dropWhile (cs : List Char) : ¬startsWord (cs.dropWhile isWord) := by
  intro h
  have ⟨c, rest, hc, hw⟩ := startsWord_iff.mp h
  have := List.head?_dropWhile_not isWord cs
  simp_all

theorem not_startsWord_append (hg : IsGap gap) (hr : ¬startsWord rest) :
    ¬startsWord (gap ++ rest) := by
  cases gap
  case nil       => exact hr
  case cons c cs => exact hg c List.mem_cons_self

theorem IsGap.not_startsWord (h : IsGap gap) : ¬startsWord gap := by
  cases gap
  case nil  => exact Bool.false_ne_true
  case cons => exact h _ List.mem_cons_self

theorem takeWhile_isWord_append_of_not (hn : ∀ c ∈ name, isWord c) (hr : ¬startsWord rest) :
    (name ++ rest).takeWhile isWord = name := by
  rw [List.takeWhile_append_of_pos hn]
  cases rest
  case nil       => exact List.append_nil name
  case cons c cs => rw [List.takeWhile_cons_of_neg (p := isWord) hr, List.append_nil]

theorem dropWhile_isWord_append_of_not (hn : ∀ c ∈ name, isWord c) (hr : ¬startsWord rest) :
    (name ++ rest).dropWhile isWord = rest := by
  rw [List.dropWhile_append_of_pos hn]
  cases rest
  case nil       => rfl
  case cons c cs => exact List.dropWhile_cons_of_neg (p := isWord) hr

end Text

namespace Segment

-- Whether a question mark stands here that no name follows.
def isMark : List Char → Bool
  | '?' :: cs => !startsWord cs
  | _         => false

-- The identifiers of a text as segments. An identifier starts at a word character, unless one
-- stands in front of it, and goes on as far as it can.
def segmentsFrom (inside : Bool) : List Char → List Segment
  | []      => []
  | c :: cs =>
    if isWord c && !inside then
      ⟨.ofList ((c :: cs).takeWhile isWord), isMark ((c :: cs).dropWhile isWord)⟩
        :: segmentsFrom true cs
    else segmentsFrom (isWord c) cs

def allOf (cs : List Char) : List Segment :=
  segmentsFrom false cs

-- What a segment is written as behind its name.
def mark (s : Segment) : List Char :=
  if s.nullable then ['?'] else []

variable {s : Segment} {more : List Segment}

theorem toList_display (s : Segment) : s.display.toList = s.name.toList ++ s.mark := by
  unfold display mark
  cases s.nullable <;> simp

theorem isMark_iff : isMark cs ↔ ∃ rest, cs = '?' :: rest ∧ ¬startsWord rest := by
  unfold isMark
  split
  case h_1 => simp
  case h_2 => simp_all

theorem isMark_eq_false (h : ∀ rest, cs ≠ '?' :: rest) : isMark cs = false := by
  rw [Bool.eq_false_iff, Ne, isMark_iff]
  exact fun ⟨rest, hc, _⟩ => h rest hc

theorem read_eq (cs : List Char) :
    read cs = (⟨.ofList (cs.takeWhile isWord), isMark (cs.dropWhile isWord)⟩,
      (cs.dropWhile isWord).drop (isMark (cs.dropWhile isWord)).toNat) := by
  unfold read
  generalize cs.dropWhile isWord = ds
  split
  case h_1 rest => cases h : startsWord rest <;> simp [isMark, h]
  case h_2 h    => simp [isMark_eq_false fun rest hc => h rest hc]

section Identifiers

theorem segmentsFrom_word_append (hn : ∀ c ∈ name, isWord c) (hr : ¬startsWord rest) :
    segmentsFrom true (name ++ rest) = allOf rest := by
  induction name
  case nil =>
    cases rest
    case nil       => rfl
    case cons c cs =>
      have hc : isWord c = false := Bool.eq_false_iff.mpr hr
      simp [allOf, segmentsFrom, hc]
  case cons c cs ih =>
    have ⟨hc, hs⟩ := List.forall_mem_cons.mp hn
    simp [segmentsFrom, hc, ih hs]

theorem allOf_gap_append (hg : IsGap gap) (rest : List Char) :
    allOf (gap ++ rest) = allOf rest := by
  induction gap
  case nil          => rfl
  case cons c cs ih =>
    have ⟨hc, hs⟩ := List.forall_mem_cons.mp hg
    rw [Bool.not_eq_true] at hc
    simpa [allOf, segmentsFrom, hc] using ih hs

theorem allOf_name_append (hn : ∀ c ∈ name, isWord c) (he : name ≠ []) (hr : ¬startsWord rest) :
    allOf (name ++ rest) = ⟨.ofList name, isMark rest⟩ :: allOf rest := by
  have ht := takeWhile_isWord_append_of_not hn hr
  have hd := dropWhile_isWord_append_of_not hn hr
  cases name
  case nil       => exact absurd rfl he
  case cons c cs =>
    have ⟨hc, hs⟩ := List.forall_mem_cons.mp hn
    rw [List.cons_append] at ht hd ⊢
    simp [allOf, segmentsFrom, hc, ht, hd, segmentsFrom_word_append hs hr]

-- A question mark is part of no identifier, whether it is a mark or not.
theorem allOf_drop_mark (cs : List Char) : allOf (cs.drop (isMark cs).toNat) = allOf cs := by
  cases h : isMark cs
  case false => rfl
  case true  =>
    have ⟨rest, hc, _⟩ := isMark_iff.mp h
    have hq : IsGap ['?'] := by decide
    rw [hc]
    exact (allOf_gap_append hq rest).symm

theorem allOf_eq_read (h : startsWord cs) :
    allOf cs = (read cs).1 :: allOf (read cs).2 := by
  have hn : ∀ c ∈ cs.takeWhile isWord, isWord c := List.all_eq_true.mp List.all_takeWhile
  have he : cs.takeWhile isWord ≠ [] := by
    have ⟨c, rest, hc, hw⟩ := startsWord_iff.mp h
    simp [hc, hw]
  have ha := allOf_name_append hn he (not_startsWord_dropWhile cs)
  rw [List.takeWhile_append_dropWhile] at ha
  rw [ha, read_eq, allOf_drop_mark]

end Identifiers

-- How a segment can be written: with a name.
structure Spelled (s : Segment) : Prop where
  name : IsName s.name
  ne   : s.name.toList ≠ []

theorem Spelled.startsWord_append (hs : s.Spelled) (rest : List Char) :
    startsWord (s.display.toList ++ rest) := by
  have ⟨c, cs, hc⟩ := List.exists_cons_of_ne_nil hs.ne
  have hw : isWord c := hs.name c (hc ▸ List.mem_cons_self)
  rw [toList_display, hc]
  exact hw

theorem not_startsWord_mark_append (hr : ¬startsWord rest) : ¬startsWord (s.mark ++ rest) := by
  refine not_startsWord_append ?_ hr
  unfold mark
  split
  case isTrue  => decide
  case isFalse => exact List.forall_mem_nil _

theorem allOf_display_append (hs : s.Spelled) (hr : ¬startsWord rest) :
    allOf (s.display.toList ++ rest) = ⟨s.name, isMark (s.mark ++ rest)⟩ :: allOf rest := by
  have hm : ∀ c ∈ s.mark, ¬isWord c := by
    unfold mark
    cases s.nullable
    case false => exact nofun
    case true  => exact List.forall_mem_singleton.mpr (by decide)
  rw [toList_display, List.append_assoc,
    allOf_name_append hs.name hs.ne (not_startsWord_mark_append hr), allOf_gap_append hm,
    String.ofList_toList]

theorem isMark_mark_append (hr : ¬startsWord rest) (hm : ¬isMark rest) :
    isMark (s.mark ++ rest) = s.nullable := by
  unfold mark
  cases s.nullable
  case false => exact Bool.eq_false_iff.mpr hm
  case true  => exact isMark_iff.mpr ⟨rest, rfl, hr⟩

-- A segment by itself, in front of something that does not change how it is read.
theorem allOf_display_append_of_not_isMark (hs : s.Spelled) (hr : ¬startsWord rest)
    (hm : ¬isMark rest) : allOf (s.display.toList ++ rest) = s :: allOf rest := by
  rw [allOf_display_append hs hr, isMark_mark_append hr hm]

theorem drop_mark_append (s : Segment) (rest : List Char) :
    (s.mark ++ rest).drop s.nullable.toNat = rest := by
  unfold mark
  cases s.nullable <;> rfl

-- A segment is read back if it is the one that the text is said to start with.
theorem read_display_append (hs : s.Spelled) (hr : ¬startsWord rest)
    (ha : allOf (s.display.toList ++ rest) = s :: more) :
    read (s.display.toList ++ rest) = (s, rest) ∧ allOf rest = more := by
  rw [allOf_display_append hs hr] at ha
  have ⟨hm, ha⟩ := List.cons.inj ha
  have hm : isMark (s.mark ++ rest) = s.nullable := congrArg nullable hm
  have hd := not_startsWord_mark_append (s := s) hr
  refine ⟨?_, ha⟩
  rw [toList_display, List.append_assoc, read_eq, takeWhile_isWord_append_of_not hs.name hd,
    dropWhile_isWord_append_of_not hs.name hd, hm, drop_mark_append, String.ofList_toList]

theorem display_append_read (cs : List Char) :
    (read cs).1.display.toList ++ (read cs).2 = cs := by
  have hw := cs.takeWhile_append_dropWhile (p := isWord)
  rw [read_eq, toList_display, String.toList_ofList, List.append_assoc]
  cases h : isMark (cs.dropWhile isWord)
  case false => exact hw
  case true  =>
    have ⟨rest, hc, _⟩ := isMark_iff.mp h
    rw [hc] at hw ⊢
    exact hw

theorem not_startsWord_read (cs : List Char) : ¬startsWord (read cs).2 := by
  rw [read_eq]
  cases h : isMark (cs.dropWhile isWord)
  case false => exact not_startsWord_dropWhile cs
  case true  =>
    have ⟨rest, hc, hr⟩ := isMark_iff.mp h
    rw [hc]
    exact hr

theorem spelled_read (h : startsWord cs) : (read cs).1.Spelled where
  name := isName_read cs
  ne   := by
    have ⟨c, rest, hc, hw⟩ := startsWord_iff.mp h
    simp [read_eq, hc, hw]

end Segment

namespace FieldPath

variable {p : FieldPath} {ss : List Segment} {more : List Segment}

-- Where a path ends: no name goes on, and none follows after a point.
structure Ends (cs : List Char) : Prop where
  word  : ¬startsWord cs
  point : ∀ rest, cs = '.' :: rest → ¬startsWord rest

structure Spelled (p : FieldPath) : Prop where
  ne       : p.segments ≠ []
  segments : ∀ s ∈ p.segments, s.Spelled

-- What segments are written as behind another one.
def writtenMore (ss : List Segment) : List Char :=
  ss.flatMap fun s => '.' :: s.display.toList

theorem toList_display_cons (s : Segment) (ss : List Segment) :
    (display ⟨s :: ss⟩).toList = s.display.toList ++ writtenMore ss := by
  induction ss generalizing s
  case nil          => simp [display, writtenMore]
  case cons t ss ih =>
    rw [display, List.map_cons, List.map_cons, String.intercalate_cons_cons, String.toList_append,
      ← List.map_cons, ← display.eq_def ⟨t :: ss⟩, ih]
    simp [writtenMore]

theorem not_startsWord_writtenMore (hr : ¬startsWord rest) :
    ¬startsWord (writtenMore ss ++ rest) := by
  cases ss
  case nil  => exact hr
  case cons => exact Bool.false_ne_true

theorem Ends.readMore_eq (h : Ends rest) : readMore rest = ([], rest) := by
  unfold readMore
  split
  case h_1 cs => exact if_neg (h.point cs rfl)
  case h_2    => rfl

theorem readMore_append (hs : ∀ s ∈ ss, s.Spelled) (hr : Ends rest)
    (ha : Segment.allOf (writtenMore ss ++ rest) = ss ++ more) :
    readMore (writtenMore ss ++ rest) = (ss, rest) ∧ Segment.allOf rest = more := by
  induction ss
  case nil          => exact ⟨hr.readMore_eq, ha⟩
  case cons s ss ih =>
    have ⟨hs, hss⟩ := List.forall_mem_cons.mp hs
    have hw : writtenMore (s :: ss) ++ rest
        = '.' :: (s.display.toList ++ (writtenMore ss ++ rest)) := by
      simp [writtenMore]
    have hg : IsGap ['.'] := by decide
    rw [hw, ← List.singleton_append, Segment.allOf_gap_append hg] at ha
    have ⟨hd, ha⟩ := Segment.read_display_append hs (not_startsWord_writtenMore hr.word) ha
    have ⟨hm, ha⟩ := ih hss ha
    rw [hw, readMore, if_pos (hs.startsWord_append _), hd, hm]
    exact ⟨rfl, ha⟩

theorem writtenMore_append_readMore (cs : List Char) :
    writtenMore (readMore cs).1 ++ (readMore cs).2 = cs := by
  fun_induction readMore cs with
  | case1 cs _ more rest hr ih =>
    rw [hr] at ih
    have hd := Segment.display_append_read cs
    rw [← ih] at hd
    simpa [writtenMore] using hd
  | case2 => rfl
  | case3 => rfl

theorem ends_readMore (h : ¬startsWord cs) : Ends (readMore cs).2 := by
  fun_induction readMore cs with
  | case1 cs _ more rest hr ih =>
    rw [hr] at ih
    exact ih (Segment.not_startsWord_read cs)
  | case2 cs hn  => exact ⟨h, fun rest hc => (List.cons.inj hc).right ▸ hn⟩
  | case3 cs hne => exact ⟨h, fun rest hc => absurd hc (hne rest)⟩

theorem spelled_readMore (cs : List Char) : ∀ s ∈ (readMore cs).1, s.Spelled := by
  fun_induction readMore cs with
  | case1 cs hn more rest hr ih =>
    rw [hr] at ih
    exact List.forall_mem_cons.mpr ⟨Segment.spelled_read hn, ih⟩
  | case2 => exact List.forall_mem_nil _
  | case3 => exact List.forall_mem_nil _

theorem allOf_eq_readMore (cs : List Char) :
    Segment.allOf cs = (readMore cs).1 ++ Segment.allOf (readMore cs).2 := by
  fun_induction readMore cs with
  | case1 cs hn more rest hr ih =>
    rw [hr] at ih
    have hg : IsGap ['.'] := by decide
    have ha := Segment.allOf_gap_append hg cs
    rw [List.singleton_append] at ha
    rw [ha, Segment.allOf_eq_read hn, ih, List.cons_append]
  | case2 => rfl
  | case3 => rfl

theorem read_display_append (hp : p.Spelled) (hr : Ends rest)
    (ha : Segment.allOf (p.display.toList ++ rest) = p.segments ++ more) :
    read (p.display.toList ++ rest) = (p, rest) ∧ Segment.allOf rest = more := by
  obtain ⟨ss⟩ := p
  cases ss
  case nil          => exact absurd rfl hp.ne
  case cons s ss =>
    have ⟨hs, hss⟩ := List.forall_mem_cons.mp hp.segments
    rw [toList_display_cons, List.append_assoc] at ha ⊢
    have ⟨hd, ha⟩ := Segment.read_display_append hs (not_startsWord_writtenMore hr.word) ha
    have ⟨hm, ha⟩ := readMore_append hss hr ha
    rw [read, hd, hm]
    exact ⟨rfl, ha⟩

theorem display_append_read (cs : List Char) :
    (read cs).1.display.toList ++ (read cs).2 = cs := by
  rw [read, toList_display_cons, List.append_assoc, writtenMore_append_readMore,
    Segment.display_append_read]

theorem ends_read (cs : List Char) : Ends (read cs).2 :=
  ends_readMore (Segment.not_startsWord_read cs)

theorem spelled_read (h : startsWord cs) : (read cs).1.Spelled where
  ne       := List.cons_ne_nil _ _
  segments := List.forall_mem_cons.mpr ⟨Segment.spelled_read h, spelled_readMore _⟩

theorem allOf_eq_read (h : startsWord cs) :
    Segment.allOf cs = (read cs).1.segments ++ Segment.allOf (read cs).2 := by
  rw [Segment.allOf_eq_read h, allOf_eq_readMore]
  rfl

theorem Spelled.startsWord_append (hp : p.Spelled) (rest : List Char) :
    startsWord (p.display.toList ++ rest) := by
  obtain ⟨ss⟩ := p
  cases ss
  case nil       => exact absurd rfl hp.ne
  case cons s ss =>
    rw [toList_display_cons, List.append_assoc]
    exact (hp.segments s List.mem_cons_self).startsWord_append _

theorem allOf_display_append_writtenMore {s : Segment} (hs : s.Spelled) :
    Segment.allOf (s.display.toList ++ writtenMore ss) = s :: Segment.allOf (writtenMore ss) := by
  apply Segment.allOf_display_append_of_not_isMark hs
  all_goals cases ss <;> exact Bool.false_ne_true

theorem allOf_writtenMore (hs : ∀ s ∈ ss, s.Spelled) : Segment.allOf (writtenMore ss) = ss := by
  induction ss
  case nil          => rfl
  case cons s ss ih =>
    have ⟨hs, hss⟩ := List.forall_mem_cons.mp hs
    have hw : writtenMore (s :: ss) = ['.'] ++ (s.display.toList ++ writtenMore ss) := by
      simp [writtenMore]
    rw [hw, Segment.allOf_gap_append (by decide), allOf_display_append_writtenMore hs, ih hss]

-- The segments of a path are all that its text names.
theorem allOf_display (hp : p.Spelled) : Segment.allOf p.display.toList = p.segments := by
  obtain ⟨ss⟩ := p
  cases ss
  case nil       => exact absurd rfl hp.ne
  case cons s ss =>
    have ⟨hs, hss⟩ := List.forall_mem_cons.mp hp.segments
    rw [toList_display_cons, allOf_display_append_writtenMore hs, allOf_writtenMore hss]

end FieldPath

namespace Descriptor

variable {d : Descriptor} {text : String} {p : FieldPath} {more : List Segment}
  {ps : List (List Char × FieldPath)}

-- What can stand between two paths. A point by itself would lead on.
structure IsDelimiter (cs : List Char) : Prop where
  gap      : IsGap cs
  ne       : cs ≠ []
  ne_point : cs ≠ ['.']

-- The paths with the delimiters between them.
def display (d : Descriptor) : String :=
  match d.paths with
  | []      => ""
  | p :: ps => p.display ++ String.join (List.zipWith (fun g p => g ++ p.display) d.delimiters ps)

-- How a text divides into paths and delimiters.
structure Divides (d : Descriptor) (text : String) : Prop where
  whole    : ∃ lead trail, IsGap lead.toList ∧ IsGap trail.toList ∧
    text = lead ++ d.display ++ trail
  count    : d.delimiters.length = d.paths.length - 1
  between  : ∀ g ∈ d.delimiters, IsDelimiter g.toList
  spelled  : ∀ p ∈ d.paths, p.Spelled
  segments : d.paths.flatMap (·.segments) = Segment.allOf text.toList

section Pieces

-- The text in front of the first path is not part of the descriptor.
def ofPieces (ps : List (List Char × FieldPath)) : Descriptor where
  paths      := ps.map (·.2)
  delimiters := ps.tail.map fun piece => .ofList piece.1

def writtenPieces (ps : List (List Char × FieldPath)) : List Char :=
  ps.flatMap fun piece => piece.1 ++ piece.2.display.toList

theorem gap_append_afterGap (cs : List Char) : Descriptor.gap cs ++ afterGap cs = cs :=
  List.takeWhile_append_dropWhile

theorem isGap_gap (cs : List Char) : IsGap (Descriptor.gap cs) := by
  intro c hc
  have hn : !isWord c := List.all_eq_true.mp List.all_takeWhile c hc
  simpa using hn

theorem isGap_of_not_startsWord_afterGap (h : ¬startsWord (afterGap cs)) : IsGap cs := by
  have ha : afterGap cs = [] := by
    cases hd : afterGap cs
    case nil       => rfl
    case cons c ds =>
      have hn := List.head?_dropWhile_not (!isWord ·) cs
      rw [afterGap] at hd
      rw [hd] at hn
      simp_all [startsWord, afterGap]
  rw [← gap_append_afterGap cs, ha, List.append_nil]
  exact isGap_gap cs

theorem gap_append (hg : IsGap gap) (hr : startsWord rest) :
    Descriptor.gap (gap ++ rest) = gap ∧ afterGap (gap ++ rest) = rest := by
  have ⟨c, cs, hc, hw⟩ := startsWord_iff.mp hr
  have hg : ∀ c ∈ gap, !isWord c := by simpa [IsGap] using hg
  rw [Descriptor.gap, afterGap, List.takeWhile_append_of_pos hg, List.dropWhile_append_of_pos hg]
  simp [hc, hw]

theorem afterGap_of_isGap (h : IsGap gap) : afterGap gap = [] := by
  rw [afterGap, List.dropWhile_eq_nil_iff]
  simpa [IsGap] using h

theorem pieces_of_startsWord (h : startsWord (afterGap cs)) :
    pieces cs = (Descriptor.gap cs, (FieldPath.read (afterGap cs)).1)
      :: pieces (FieldPath.read (afterGap cs)).2 := by
  rw [pieces, dif_pos h]

theorem pieces_gap (hg : IsGap gap) : pieces gap = [] := by
  rw [pieces, afterGap_of_isGap hg]
  exact dif_neg Bool.false_ne_true

theorem pieces_append (hg : IsGap gap) (hp : p.Spelled) (hr : FieldPath.Ends rest)
    (ha : Segment.allOf (gap ++ (p.display.toList ++ rest)) = p.segments ++ more) :
    pieces (gap ++ (p.display.toList ++ rest)) = (gap, p) :: pieces rest ∧
      Segment.allOf rest = more := by
  have hn := hp.startsWord_append rest
  have ⟨hg', ha'⟩ := gap_append hg hn
  rw [Segment.allOf_gap_append hg] at ha
  have ⟨hd, ha⟩ := FieldPath.read_display_append hp hr ha
  rw [pieces_of_startsWord (by rwa [ha']), ha', hd, hg']
  exact ⟨rfl, ha⟩

theorem IsDelimiter.ends (h : IsDelimiter gap) : FieldPath.Ends (gap ++ rest) := by
  obtain ⟨c, cs, hc⟩ := List.exists_cons_of_ne_nil h.ne
  subst hc
  have ⟨hc, hs⟩ := List.forall_mem_cons.mp h.gap
  constructor
  case word  => exact hc
  case point =>
    intro ds hd hw
    have ⟨hp, hd⟩ := List.cons.inj hd
    subst hd
    cases cs
    case nil  => exact h.ne_point (hp ▸ rfl)
    case cons => exact hs _ List.mem_cons_self hw

theorem ends_of_isGap (h : IsGap gap) : FieldPath.Ends gap where
  word          := h.not_startsWord
  point _ hc    :=
    have hg := List.forall_mem_cons.mp (hc ▸ h)
    IsGap.not_startsWord hg.right

theorem pieces_writtenPieces (ht : IsGap trail) (hg : ∀ piece ∈ ps, IsGap piece.1)
    (hb : ∀ piece ∈ ps.tail, IsDelimiter piece.1) (hp : ∀ piece ∈ ps, piece.2.Spelled)
    (ha : Segment.allOf (writtenPieces ps ++ trail) = ps.flatMap (·.2.segments)) :
    pieces (writtenPieces ps ++ trail) = ps := by
  induction ps
  case nil              => exact pieces_gap ht
  case cons piece ps ih =>
    have ⟨hg, hgs⟩ := List.forall_mem_cons.mp hg
    have ⟨hp, hps⟩ := List.forall_mem_cons.mp hp
    have hr : FieldPath.Ends (writtenPieces ps ++ trail) := by
      cases ps
      case nil  => exact ends_of_isGap ht
      case cons =>
        have hd := hb _ List.mem_cons_self
        simpa [writtenPieces] using hd.ends
    have hw : writtenPieces (piece :: ps) ++ trail
        = piece.1 ++ (piece.2.display.toList ++ (writtenPieces ps ++ trail)) := by
      simp [writtenPieces]
    rw [hw, List.flatMap_cons] at ha
    have ⟨hd, ha⟩ := pieces_append hg hp hr ha
    rw [hw, hd, ih hgs (fun q hq => hb q (List.mem_of_mem_tail hq)) hps ha]

theorem exists_writtenPieces (cs : List Char) :
    ∃ trail, IsGap trail ∧ writtenPieces (pieces cs) ++ trail = cs := by
  fun_induction pieces cs with
  | case1 cs h ih =>
    obtain ⟨trail, ht, hw⟩ := ih
    refine ⟨trail, ht, ?_⟩
    rw [writtenPieces, List.flatMap_cons, ← writtenPieces, List.append_assoc, hw, List.append_assoc,
      FieldPath.display_append_read, gap_append_afterGap]
  | case2 cs h => exact ⟨cs, isGap_of_not_startsWord_afterGap h, rfl⟩

theorem isGap_pieces (cs : List Char) : ∀ piece ∈ pieces cs, IsGap piece.1 := by
  fun_induction pieces cs with
  | case1 cs _ ih => exact List.forall_mem_cons.mpr ⟨isGap_gap cs, ih⟩
  | case2         => exact List.forall_mem_nil _

theorem spelled_pieces (cs : List Char) : ∀ piece ∈ pieces cs, piece.2.Spelled := by
  fun_induction pieces cs with
  | case1 cs h ih => exact List.forall_mem_cons.mpr ⟨FieldPath.spelled_read h, ih⟩
  | case2         => exact List.forall_mem_nil _

theorem allOf_eq_pieces (cs : List Char) :
    Segment.allOf cs = (pieces cs).flatMap (·.2.segments) := by
  fun_induction pieces cs with
  | case1 cs h ih =>
    have hg := Segment.allOf_gap_append (isGap_gap cs) (afterGap cs)
    rw [gap_append_afterGap] at hg
    rw [List.flatMap_cons, ← ih, ← FieldPath.allOf_eq_read h, hg]
  | case2 cs h =>
    have hg := Segment.allOf_gap_append (isGap_of_not_startsWord_afterGap h) []
    rwa [List.append_nil] at hg

-- Behind a path, whatever leads to the next one is a delimiter.
theorem isDelimiter_pieces (h : FieldPath.Ends cs) : ∀ piece ∈ pieces cs, IsDelimiter piece.1 := by
  fun_induction pieces cs with
  | case1 cs hn ih =>
    refine List.forall_mem_cons.mpr ⟨?_, ih (FieldPath.ends_read _)⟩
    have hc := gap_append_afterGap cs
    constructor
    case gap => exact isGap_gap cs
    case ne  =>
      intro (hg : Descriptor.gap cs = [])
      rw [hg, List.nil_append] at hc
      exact h.word (hc ▸ hn)
    case ne_point =>
      intro (hg : Descriptor.gap cs = ['.'])
      rw [hg] at hc
      exact h.point _ hc.symm hn
  | case2 => exact List.forall_mem_nil _

theorem isDelimiter_tail_pieces (cs : List Char) :
    ∀ piece ∈ (pieces cs).tail, IsDelimiter piece.1 := by
  rw [pieces]
  split
  case isTrue  => exact isDelimiter_pieces (FieldPath.ends_read _)
  case isFalse => exact List.forall_mem_nil _

end Pieces

theorem toList_display_ofPieces (piece : List Char × FieldPath) :
    writtenPieces (piece :: ps) = piece.1 ++ (ofPieces (piece :: ps)).display.toList := by
  have hz : List.zipWith (fun g p => g ++ FieldPath.display p)
      (ps.map fun piece => String.ofList piece.1) (ps.map (·.2))
      = ps.map fun piece => String.ofList piece.1 ++ piece.2.display := by
    rw [List.zipWith_map, List.zipWith_self]
  simp [writtenPieces, ofPieces, display, hz, String.toList_join, List.flatMap_map]

-- The text in front of the first path can be anything.
theorem ofPieces_zip (lead : List Char) {ps : List FieldPath} (hp : d.paths = p :: ps)
    (hc : d.delimiters.length = ps.length) :
    ofPieces ((lead, p) :: (d.delimiters.map (·.toList)).zip ps) = d := by
  have hs : (d.delimiters.map (·.toList)).length = ps.length := by rw [List.length_map, hc]
  have hd : ((d.delimiters.map (·.toList)).zip ps).map (fun piece => String.ofList piece.1)
      = d.delimiters := by
    rw [← Function.comp_def String.ofList, ← List.map_map, List.map_fst_zip hs.le, List.map_map]
    simp [Function.comp_def]
  rw [ofPieces, List.map_cons, List.map_snd_zip hs.ge, List.tail_cons, hd, ← hp]

theorem divides_parse (text : String) : (parse text).Divides text where
  whole := by
    have ⟨trail, ht, hw⟩ := exists_writtenPieces text.toList
    have hg := isGap_pieces text.toList
    have hp : parse text = ofPieces (pieces text.toList) := rfl
    rw [hp]
    cases hps : pieces text.toList
    case nil           =>
      refine ⟨"", .ofList trail, by decide, by rwa [String.toList_ofList], ?_⟩
      rw [hps] at hw
      simpa [writtenPieces, display, ofPieces, ← String.toList_inj] using hw.symm
    case cons piece ps =>
      rw [hps] at hg hw
      refine ⟨.ofList piece.1, .ofList trail, ?_, by rwa [String.toList_ofList], ?_⟩
      · rw [String.toList_ofList]
        exact hg piece List.mem_cons_self
      · rw [toList_display_ofPieces] at hw
        simpa [← String.toList_inj] using hw.symm
  count := by simp [parse]
  between := by
    refine List.forall_mem_map.mpr fun piece hp => ?_
    rw [String.toList_ofList]
    exact isDelimiter_tail_pieces text.toList piece hp
  spelled := List.forall_mem_map.mpr (spelled_pieces text.toList)
  segments := by rw [allOf_eq_pieces, parse, List.flatMap_map]

-- The pieces of a text are found again in it, so no other descriptor divides it.
theorem Divides.parse_eq (h : d.Divides text) : parse text = d := by
  obtain ⟨lead, trail, hl, ht, hw⟩ := h.whole
  cases hp : d.paths
  case nil =>
    have hd : d.delimiters = [] := by simpa [hp] using h.count
    have hg : IsGap text.toList := by
      rw [hw, display, hp, String.append_empty, String.toList_append]
      exact hl.append ht
    rw [parse, pieces_gap hg]
    exact Descriptor.ext hp.symm hd.symm
  case cons p ps =>
    have hc : d.delimiters.length = ps.length := by simpa [hp] using h.count
    let qs := (lead.toList, p) :: (d.delimiters.map (·.toList)).zip ps
    have hz : ofPieces qs = d := ofPieces_zip lead.toList hp hc
    have hw : text.toList = writtenPieces qs ++ trail.toList := by
      rw [toList_display_ofPieces, hz, hw, String.toList_append, String.toList_append]
    have hb : ∀ piece ∈ qs.tail, IsDelimiter piece.1 := by
      intro piece hm
      have ⟨g, hg, he⟩ := List.mem_map.mp (List.of_mem_zip hm).left
      exact he ▸ h.between g hg
    have hg : ∀ piece ∈ qs, IsGap piece.1 :=
      List.forall_mem_cons.mpr ⟨hl, fun piece hm => (hb piece hm).gap⟩
    have hm : qs.map (·.2) = d.paths := congrArg paths hz
    have hs : ∀ piece ∈ qs, piece.2.Spelled :=
      List.forall_mem_map.mp (hm ▸ h.spelled)
    have ha : Segment.allOf (writtenPieces qs ++ trail.toList) = qs.flatMap (·.2.segments) := by
      rw [← hw, ← h.segments, ← hm, List.flatMap_map]
    have hq : pieces text.toList = qs := by
      rw [hw, pieces_writtenPieces ht hg hb hs ha]
    rw [← hz, ← hq]
    rfl

end Descriptor
end TableQuery
