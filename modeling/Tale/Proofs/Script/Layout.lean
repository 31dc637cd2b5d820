import Mathlib.Algebra.GroupWithZero.Nat
import Tale.Proofs.Text
import Tale.Proofs.Text.Cutting
import Tale.Script.Report

/-! The layout of reports.

A source is made of its lines, and a place among its characters lies in one of them. The marks under a line
stand under the columns of the places that are covered, with blanks in front and behind. The two numbers in
the head of an excerpt can be read off.
-/

set_option autoImplicit false

namespace Tale.Script.Report

open Text

/-! ## Lines -/

theorem flatten_cutLines (passed source : List Char) :
    (cutLines passed source).flatten = passed.reverse ++ source := by
  fun_induction cutLines passed source with
  | case1 passed empty => simp [List.isEmpty_iff.mp empty]
  | case2 passed filled => simp
  | case3 passed rest ih => simp [ih]
  | case4 passed c rest _ ends ih => simp [ih]
  | case5 passed c rest _ inside ih => simp [ih]

theorem flatten_sourceLines (source : List Char) : (sourceLines source).flatten = source := by
  unfold sourceLines
  split
  · next empty =>
    rw [List.isEmpty_iff.mp empty]
    rfl
  · rw [flatten_cutLines]
    rfl

theorem cutLines_whole {passed source : List Char} (clean : '\n' ∉ passed) :
    ∀ line ∈ cutLines passed source, '\n' ∉ line.dropLast := by
  fun_induction cutLines passed source with
  | case1 => exact nofun
  | case2 passed filled =>
    intro line member
    rw [List.mem_singleton.mp member]
    exact fun inside => clean (List.mem_reverse.mp ((List.dropLast_sublist _).subset inside))
  | case3 passed rest ih =>
    intro line member
    rcases List.mem_cons.mp member with rfl | later
    · simpa [List.dropLast_append_of_ne_nil] using clean
    · exact ih (by simp) line later
  | case4 passed c rest _ ends ih =>
    intro line member
    rcases List.mem_cons.mp member with rfl | later
    · simpa using clean
    · exact ih (by simp) line later
  | case5 passed c rest _ inside ih =>
    apply ih
    intro member
    rcases List.mem_cons.mp member with rfl | earlier
    · exact inside (by decide)
    · exact clean earlier

theorem sourceLines_whole {source line : List Char} (member : line ∈ sourceLines source) :
    '\n' ∉ line.dropLast := by
  unfold sourceLines at member
  split at member
  · rw [List.mem_singleton.mp member]
    exact nofun
  · exact cutLines_whole (by simp) line member

theorem cutLines_inside {c : Char} (inside : ¬ isLineEnd c) (passed rest : List Char) :
    cutLines passed (c :: rest) = cutLines (c :: passed) rest := by
  rw [cutLines, if_neg inside]
  rintro later rfl
  exact absurd rfl inside

/-- A text is cut behind each line feed, whatever follows. -/
theorem cutLines_lineFeed (passed above below : List Char) :
    cutLines passed (above ++ '\n' :: below) = cutLines passed (above ++ ['\n']) ++ cutLines [] below := by
  induction passed, above using cutLines.induct with
  | case1 | case2 => simp [cutLines, isLineEnd]
  | case3 passed rest ih => simp [cutLines, ih]
  | case4 passed c rest apart ends ih =>
    by_cases last : c = '\r' ∧ rest = []
    · rw [last.1, last.2]
      rfl
    · -- The line feed behind the rest belongs to no carriage return.
      have cut (more : List Char) : cutLines passed (c :: (rest ++ '\n' :: more)) =
          (c :: passed).reverse :: cutLines [] (rest ++ '\n' :: more) := by
        rw [cutLines, if_pos ends]
        intro later returned same
        rcases List.append_eq_cons_iff.mp same with ⟨none, -⟩ | ⟨others, some, -⟩
        · exact last ⟨returned, none⟩
        · exact apart others returned some
      rw [List.cons_append, List.cons_append, cut, cut, ih, List.cons_append]
  | case5 passed c rest apart inside ih =>
    rw [List.cons_append, List.cons_append, cutLines_inside inside, cutLines_inside inside, ih]

theorem cutLines_begun {passed : List Char} (begun : passed ≠ []) (rest : List Char) :
    ∃ after later, cutLines passed rest = (passed.reverse ++ after) :: later := by
  fun_induction cutLines passed rest with
  | case1 passed empty => exact absurd (List.isEmpty_iff.mp empty) begun
  | case2 passed filled => exact ⟨[], [], by rw [List.append_nil]⟩
  | case3 passed rest ih => exact ⟨['\r', '\n'], cutLines [] rest, by simp⟩
  | case4 passed c rest apart ends ih => exact ⟨[c], cutLines [] rest, by simp⟩
  | case5 passed c rest apart inside ih =>
    obtain ⟨after, later, cut⟩ := ih (List.cons_ne_nil c passed)
    exact ⟨c :: after, later, by simp [cut]⟩

/-- The only characters of a text that end a line are line feeds, some of them behind carriage returns. -/
def EndsByLineFeeds (source : List Char) : Prop :=
  ∀ front c rest, source = front ++ c :: rest → isLineEnd c →
    c = '\n' ∨ c = '\r' ∧ ∃ later, rest = '\n' :: later

theorem EndsByLineFeeds.below {above below : List Char} (plain : EndsByLineFeeds (above ++ below)) :
    EndsByLineFeeds below := by
  intro front c rest split
  exact plain (above ++ front) c rest (by rw [split, List.append_assoc])

theorem cutLines_uncut {passed line below : List Char} (plain : EndsByLineFeeds (line ++ below))
    (whole : '\n' ∉ line) (begun : passed ++ line ≠ []) :
    ∃ after later, cutLines passed (line ++ below) = (passed.reverse ++ line ++ after) :: later := by
  induction line generalizing passed with
  | nil =>
    rw [List.append_nil] at begun ⊢
    exact cutLines_begun begun below
  | cons c rest ih =>
    by_cases ends : isLineEnd c
    · rcases plain [] c (rest ++ below) rfl ends with rfl | ⟨rfl, later, next⟩
      · exact absurd List.mem_cons_self whole
      · rcases List.append_eq_cons_iff.mp next with ⟨rfl, rfl⟩ | ⟨others, rfl, -⟩
        · exact ⟨['\n'], cutLines [] later, by simp [cutLines]⟩
        · simp at whole
    · obtain ⟨after, later, cut⟩ := @ih (c :: passed) (@EndsByLineFeeds.below [c] (rest ++ below) plain)
        (fun inside => whole (List.mem_cons_of_mem c inside)) (by simp)
      exact ⟨after, later, by simpa [cutLines_inside ends] using cut⟩

theorem sourceLines_line {above line below : List Char} (plain : EndsByLineFeeds (line ++ below))
    (begins : above = [] ∨ ∃ earlier, above = earlier ++ ['\n']) (whole : '\n' ∉ line) (some : line ≠ []) :
    ∃ earlier after later, earlier.flatten = above ∧
      sourceLines (above ++ line ++ below) = earlier ++ (line ++ after) :: later := by
  have filled : (above ++ line ++ below).isEmpty = false := by simp [some]
  obtain ⟨after, later, cut⟩ := @cutLines_uncut [] line below plain whole some
  refine ⟨cutLines [] above, after, later, flatten_cutLines [] above, ?_⟩
  rw [sourceLines, filled, if_neg Bool.false_ne_true, List.append_assoc]
  rcases begins with rfl | ⟨earlier, rfl⟩
  · exact cut
  · rw [List.append_assoc, List.singleton_append, cutLines_lineFeed, cut]
    rfl

theorem locate_append {above below : List (List Char)} {text : List Char} {place number offset : Nat}
    (starts : offset + above.flatten.length ≤ place)
    (stops : place < offset + above.flatten.length + text.length) :
    locate place number offset (above ++ text :: below) =
      some ⟨number + above.length, offset + above.flatten.length, text⟩ := by
  induction above generalizing number offset with
  | nil =>
    rw [List.flatten_nil, List.length_nil, Nat.add_zero] at stops
    cases below with
    | nil =>
      rw [List.nil_append, locate, if_pos (Nat.le_of_lt stops)]
      rfl
    | cons next below =>
      rw [List.nil_append, locate, if_pos stops]
      · rfl
      · exact List.cons_ne_nil _ _
  | cons head rest ih =>
    rw [List.flatten_cons, List.length_append] at starts stops
    have filled : rest ++ text :: below ≠ [] := by simp
    rw [List.cons_append, locate, if_neg (by omega), ih (by omega) (by omega)]
    · rw [List.flatten_cons, List.length_append, List.length_cons, Nat.add_assoc, Nat.add_assoc,
        Nat.add_comm 1]
    · exact filled

theorem locate_sound {lines : List (List Char)} {place number offset : Nat} {line : Line}
    (found : locate place number offset lines = some line) (starts : offset ≤ place) :
    ∃ above below, lines = above ++ line.text :: below ∧ line.number = number + above.length ∧
      line.offset = offset + above.flatten.length ∧ line.offset ≤ place := by
  fun_induction locate place number offset lines with
  | case1 => cases found
  | case2 number offset text within =>
    cases found
    exact ⟨[], [], rfl, rfl, rfl, starts⟩
  | case3 => cases found
  | case4 number offset text rest _ within =>
    cases found
    exact ⟨[], rest, rfl, rfl, rfl, starts⟩
  | case5 number offset text rest _ beyond ih =>
    obtain ⟨above, below, rfl, numbered, placed, before⟩ := ih found (by omega)
    refine ⟨text :: above, below, rfl, ?_, ?_, before⟩
    · rw [numbered, List.length_cons]
      omega
    · rw [placed, List.flatten_cons, List.length_append]
      omega

/-! ## Columns -/

def placeColumns (text : List Char) (place : Nat) : Nat :=
  match text[place]? with
  | some c => cellColumns place c
  | none => 1

def columnsFrom (text : List Char) (first count : Nat) : Nat :=
  ((List.range' first count).map (placeColumns text)).sum

theorem cellWidths_eq (text : List Char) (count : Nat) :
    cellWidths text count = (List.range' 0 count).map (placeColumns text) := by
  have measured (image : Char × Nat → Nat) :
      ((text.take count).zipIdx.map image).length = min count text.length := by simp
  apply List.ext_getElem?
  intro place
  rw [cellWidths, measured, List.getElem?_map]
  by_cases inside : place < min count text.length
  · obtain ⟨within, there⟩ := Nat.lt_min.mp inside
    rw [List.getElem?_append_left (by rwa [measured]), List.getElem?_range' within]
    simp [placeColumns, within, there]
  · rw [List.getElem?_append_right (by rw [measured]; omega), measured, List.getElem?_replicate]
    by_cases within : place < count
    · have behind : text.length ≤ place := by omega
      rw [if_pos (by omega), List.getElem?_range' within]
      simp [placeColumns, behind]
    · rw [if_neg (by omega), List.getElem?_eq_none (by simpa using within)]
      rfl

theorem columnsFrom_add (text : List Char) (first count more : Nat) :
    columnsFrom text first (count + more) =
      columnsFrom text first count + columnsFrom text (first + count) more := by
  rw [columnsFrom, ← List.range'_append_1, List.map_append, List.sum_append]
  rfl

theorem columnsFrom_behind {text : List Char} {first : Nat} (behind : text.length ≤ first) (count : Nat) :
    columnsFrom text first count = count := by
  have ones : (List.range' first count).map (placeColumns text) = List.replicate count 1 := by
    rw [List.eq_replicate_iff]
    refine ⟨by simp, fun width member => ?_⟩
    obtain ⟨place, among, rfl⟩ := List.mem_map.mp member
    have beyond : text.length ≤ place := by
      have := (List.mem_range'_1.mp among).1
      omega
    simp [placeColumns, beyond]
  rw [columnsFrom, ones]
  simp

/-! ## Marks -/

theorem length_spread (width : Nat) (first next : Char) : (spread width first next).length = width := by
  cases width <;> simp [spread]

theorem mem_spread {width : Nat} {first next mark : Char} (member : mark ∈ spread width first next) :
    mark = first ∨ mark = next := by
  cases width with
  | zero => cases member
  | succ more =>
    rcases List.mem_cons.mp member with same | later
    · exact .inl same
    · exact .inr (List.eq_of_mem_replicate later)

theorem spread_same (width : Nat) (mark : Char) : spread width mark mark = List.replicate width mark := by
  cases width <;> rfl

/-- What the underline has under a place, given the columns that it takes. -/
def mark (first last stem : Nat) (entry : Nat × Nat) : List Char :=
  let covered := first ≤ entry.2 && entry.2 < last
  if entry.2 = stem then (if covered then spread entry.1 '┬' '─' else spread entry.1 '│' ' ')
  else if covered then spread entry.1 '─' '─'
  else spread entry.1 ' ' ' '

theorem underline_eq_marks (widths : List Nat) (first last stem : Nat) :
    underline widths first last stem = widths.zipIdx.flatMap (mark first last stem) :=
  rfl

section Marks

variable {widths : List Nat} {first last stem : Nat}

theorem length_mark (first last stem : Nat) (entry : Nat × Nat) :
    (mark first last stem entry).length = entry.1 := by
  unfold mark
  dsimp only
  split <;> split <;> exact length_spread ..

theorem mem_mark {entry : Nat × Nat} (starts : first ≤ entry.2) (stops : entry.2 < last) {c : Char}
    (member : c ∈ mark first last stem entry) : c = '─' ∨ c = '┬' := by
  simp only [mark, starts, stops, decide_true, Bool.and_self, if_true] at member
  split at member
  · exact (mem_spread member).symm
  · exact .inl ((mem_spread member).elim id id)

theorem mark_outside {entry : Nat × Nat} (starts : first ≤ stem) (stops : stem < last)
    (outside : entry.2 < first ∨ last ≤ entry.2) :
    mark first last stem entry = List.replicate entry.1 ' ' := by
  have apart : entry.2 ≠ stem := by omega
  have uncovered : (decide (first ≤ entry.2) && decide (entry.2 < last)) = false := by
    simp only [Bool.and_eq_false_iff, decide_eq_false_iff_not]
    omega
  simp only [mark, apart, uncovered, if_false, Bool.false_eq_true]
  exact spread_same ..

theorem length_marks (offset : Nat) :
    ((widths.zipIdx offset).flatMap (mark first last stem)).length = widths.sum := by
  induction widths generalizing offset with
  | nil => rfl
  | cons width rest ih =>
    rw [List.zipIdx_cons, List.flatMap_cons, List.length_append, List.sum_cons, length_mark, ih]

theorem marks_outside {offset : Nat} (starts : first ≤ stem) (stops : stem < last)
    (outside : offset + widths.length ≤ first ∨ last ≤ offset) :
    (widths.zipIdx offset).flatMap (mark first last stem) = List.replicate widths.sum ' ' := by
  rw [List.eq_replicate_iff]
  constructor
  · exact length_marks offset
  · intro c member
    obtain ⟨entry, among, inside⟩ := List.mem_flatMap.mp member
    have low := List.le_snd_of_mem_zipIdx among
    have high := List.snd_lt_add_of_mem_zipIdx among
    rw [mark_outside starts stops (by omega)] at inside
    exact List.eq_of_mem_replicate inside

end Marks

/-- Marks stand under the places that are covered, and blanks under the others, if the stem is among those. -/
theorem underline_eq (text : List Char) {first count stem : Nat} (more : Nat) (starts : first ≤ stem)
    (stops : stem < first + count) :
    ∃ marks, (∀ mark ∈ marks, mark = '─' ∨ mark = '┬') ∧ marks.length = columnsFrom text first count ∧
      underline (cellWidths text (first + count + more)) first (first + count) stem =
        List.replicate (columnsFrom text 0 first) ' ' ++ marks ++
          List.replicate (columnsFrom text (first + count) more) ' ' := by
  let widths (first count : Nat) : List Nat := (List.range' first count).map (placeColumns text)
  have sized (first count : Nat) : (widths first count).length = count := by simp [widths]
  have split : cellWidths text (first + count + more) =
      widths 0 first ++ widths first count ++ widths (first + count) more := by
    rw [cellWidths_eq, ← List.range'_append_1, ← List.range'_append_1, List.map_append, List.map_append,
      Nat.zero_add, Nat.zero_add]
  refine ⟨((widths first count).zipIdx first).flatMap (mark first (first + count) stem), ?_, ?_, ?_⟩
  · intro c member
    obtain ⟨entry, among, inside⟩ := List.mem_flatMap.mp member
    have low := List.le_snd_of_mem_zipIdx among
    have high := List.snd_lt_add_of_mem_zipIdx among
    rw [sized] at high
    exact mem_mark low (by omega) inside
  · exact length_marks first
  · rw [split, underline_eq_marks, List.zipIdx_append, List.zipIdx_append, List.flatMap_append,
      List.flatMap_append, List.length_append, sized, sized, Nat.zero_add, Nat.zero_add,
      marks_outside starts stops (.inl (by rw [sized]; omega)),
      marks_outside starts stops (.inr (Nat.le_refl _))]
    rfl

/-! ## Numbers -/

theorem number_inj {front other : String} {number second : Nat}
    (same : front ++ ":" ++ toString number = other ++ ":" ++ toString second) :
    front = other ∧ number = second := by
  have digits (number : Nat) : (toString number).toList = naturalDigits number := by
    simp [naturalDigits, toString, Nat.repr]
  have cut (front : String) (number : Nat) :
      cutLast [':'] (front ++ ":" ++ toString number).toList = some (front.toList, naturalDigits number) := by
    have absent : ':' ∉ naturalDigits number := fun member => by
      cases isDigit_of_mem_naturalDigits member
    rw [String.toList_append, String.toList_append, digits]
    exact cutLast_append absent [] front.toList
  have both := cut front number
  rw [same, cut] at both
  simp only [Option.some.injEq, Prod.mk.injEq] at both
  exact ⟨(String.toList_injective both.1).symm, (naturalDigits_injective both.2).symm⟩

end Tale.Script.Report
