import Mathlib.Data.List.Basic
import Tale.Proofs.Text.Cutting
import Tale.Story.Run

/-! Placeholders are filled in in one pass.

`Splits` says how a text falls into literal pieces and placeholders when it is read from the left, without a
word about scanning it. Every text falls apart in one way only, and the scanner writes its pieces one after
the other. What stands for a placeholder is written and never looked at again.
-/

set_option autoImplicit false

namespace Tale

namespace Placeholder

/-- How a text falls into pieces, read from the left. -/
inductive Splits : List Char → List Piece → Prop where
  | plain {words : List Char} (outside : '{' ∉ words) : Splits words [.literal words]
  /-- An opening brace without a closing one behind it makes all the rest literal. -/
  | unclosed {words rest : List Char} (outside : '{' ∉ words) (never : '}' ∉ rest) :
      Splits (words ++ '{' :: rest) [.literal (words ++ '{' :: rest)]
  | placeholder {words name rest : List Char} {pieces : List Piece} (outside : '{' ∉ words)
      (inside : '}' ∉ name) (onward : Splits rest pieces) :
      Splits (words ++ '{' :: (name ++ '}' :: rest)) (.literal words :: .slot name :: pieces)

/-- No literal piece holds an opening brace, so none was left open. -/
def AllClosed (pieces : List Piece) : Prop := ∀ words, .literal words ∈ pieces → '{' ∉ words

theorem AllClosed.tail {first : Piece} {rest : List Piece} (closed : AllClosed (first :: rest)) :
    AllClosed rest :=
  fun words member => closed words (List.mem_cons_of_mem _ member)

theorem cut_unique {mark : Char} {before other after rest : List Char} (absent : mark ∉ before)
    (absentToo : mark ∉ other) (same : before ++ mark :: after = other ++ mark :: rest) :
    before = other ∧ after = rest := by
  have first := Text.cutFirst_append absent [] after
  have second := Text.cutFirst_append absentToo [] rest
  rw [List.append_assoc, List.singleton_append] at first second
  rw [same, second] at first
  exact Prod.mk.inj (Option.some.inj first.symm)

namespace Splits

theorem exists_pieces (text : List Char) : ∃ pieces, Splits text pieces := by
  by_cases opened : '{' ∈ text
  case neg => exact ⟨_, .plain opened⟩
  obtain ⟨words, behind, rfl, outside⟩ := List.eq_append_cons_of_mem opened
  by_cases closed : '}' ∈ behind
  case neg => exact ⟨_, .unclosed outside closed⟩
  obtain ⟨name, rest, rfl, inside⟩ := List.eq_append_cons_of_mem closed
  obtain ⟨pieces, onward⟩ := exists_pieces rest
  exact ⟨_, .placeholder outside inside onward⟩
termination_by text.length
decreasing_by
  simp_all
  omega

theorem unique {text : List Char} {first second : List Piece} (splits : Splits text first)
    (again : Splits text second) : first = second := by
  -- The first opening brace decides how the rest splits, and the first closing one behind it.
  induction splits generalizing second with
  | plain outside =>
    cases again with
    | plain => rfl
    | unclosed | placeholder => simp at outside
  | @unclosed words rest outside never =>
    generalize same : words ++ '{' :: rest = text at again
    cases again with
    | plain absent => simp [← same] at absent
    | unclosed => rfl
    | placeholder absent =>
      obtain ⟨-, rfl⟩ := cut_unique outside absent same
      simp at never
  | @placeholder words name rest pieces outside inside onward ih =>
    generalize same : words ++ '{' :: (name ++ '}' :: rest) = text at again
    cases again with
    | plain absent => simp [← same] at absent
    | unclosed absent never =>
      obtain ⟨-, rfl⟩ := cut_unique outside absent same
      simp at never
    | placeholder absent within further =>
      obtain ⟨rfl, behind⟩ := cut_unique outside absent same
      obtain ⟨rfl, rfl⟩ := cut_unique inside within behind
      rw [ih further]

variable {text : List Char} {pieces : List Piece}

theorem written (splits : Splits text pieces) : pieces.flatMap Piece.written = text := by
  induction splits with
  | plain | unclosed => simp [Piece.written]
  | placeholder outside inside onward ih => simp [Piece.written, ih]

end Splits

/-! ## The scanner -/

section Scanning

variable (value : String → Option (List Char))

theorem foldl_outside {words : List Char} (outside : '{' ∉ words) (written : List Char) :
    words.foldl (Scan.step value) ⟨written, none⟩ = ⟨words.reverse ++ written, none⟩ := by
  induction words generalizing written with
  | nil => rfl
  | cons c rest ih =>
    obtain ⟨apart, later⟩ := List.ne_and_not_mem_of_not_mem_cons outside
    have step : Scan.step value ⟨written, none⟩ c = ⟨c :: written, none⟩ := by
      simp [Scan.step, apart.symm]
    rw [List.foldl_cons, step, ih later, List.reverse_cons, List.append_assoc, List.singleton_append]

theorem foldl_inside {name : List Char} (inside : '}' ∉ name) (written read : List Char) :
    name.foldl (Scan.step value) ⟨written, some read⟩ = ⟨written, some (name.reverse ++ read)⟩ := by
  induction name generalizing read with
  | nil => rfl
  | cons c rest ih =>
    obtain ⟨apart, later⟩ := List.ne_and_not_mem_of_not_mem_cons inside
    have step : Scan.step value ⟨written, some read⟩ c = ⟨written, some (c :: read)⟩ := by
      simp [Scan.step, apart.symm]
    rw [List.foldl_cons, step, ih later, List.reverse_cons, List.append_assoc, List.singleton_append]

theorem foldl_opened {words name : List Char} (outside : '{' ∉ words) (inside : '}' ∉ name)
    (written : List Char) : (words ++ '{' :: name).foldl (Scan.step value) ⟨written, none⟩ =
      ⟨words.reverse ++ written, some name.reverse⟩ := by
  rw [List.foldl_append, foldl_outside value outside, List.foldl_cons]
  exact (foldl_inside value inside _ []).trans (by rw [List.append_nil])

/-- A placeholder is filled in where it is closed, and the scan goes on as if behind a literal piece. -/
theorem foldl_placeholder {words name : List Char} (outside : '{' ∉ words) (inside : '}' ∉ name)
    (rest written : List Char) :
    (words ++ '{' :: (name ++ '}' :: rest)).foldl (Scan.step value) ⟨written, none⟩ =
      rest.foldl (Scan.step value)
        ⟨((Piece.slot name).filled value).reverse ++ (words.reverse ++ written), none⟩ := by
  rw [← List.cons_append, ← List.append_assoc, List.foldl_append, foldl_opened value outside inside,
    List.foldl_cons]
  simp [Scan.step]

variable {value} {text : List Char} {pieces : List Piece}

-- Over the pieces and not over the text, since the scan holds back a name until it is closed.
theorem Splits.scan (splits : Splits text pieces) (written : List Char) :
    (text.foldl (Scan.step value) ⟨written, none⟩).finish =
      written.reverse ++ pieces.flatMap (Piece.filled value) := by
  induction splits generalizing written with
  | plain outside =>
    rw [foldl_outside value outside]
    simp [Scan.finish, Piece.filled]
  | unclosed outside never =>
    rw [foldl_opened value outside never]
    simp [Scan.finish, Piece.filled]
  | placeholder outside inside onward ih =>
    rw [foldl_placeholder value outside inside, ih]
    simp [Piece.filled]

theorem Splits.scan_closed (splits : Splits text pieces) (closed : AllClosed pieces)
    (written : List Char) : text.foldl (Scan.step value) ⟨written, none⟩ =
      ⟨(pieces.flatMap (Piece.filled value)).reverse ++ written, none⟩ := by
  induction splits generalizing written with
  | plain outside =>
    rw [foldl_outside value outside]
    simp [Piece.filled]
  | unclosed outside never => exact absurd (by simp) (closed _ (List.mem_singleton_self _))
  | placeholder outside inside onward ih =>
    rw [foldl_placeholder value outside inside, ih closed.tail.tail]
    simp [Piece.filled]

theorem Splits.interpolate_eq (splits : Splits text pieces) :
    interpolate value text = pieces.flatMap (Piece.filled value) :=
  splits.scan []

theorem Splits.interpolate_append (splits : Splits text pieces) (closed : AllClosed pieces)
    (more : List Char) :
    interpolate value (text ++ more) = interpolate value text ++ interpolate value more := by
  obtain ⟨others, further⟩ := exists_pieces more
  rw [splits.interpolate_eq, further.interpolate_eq, interpolate, List.foldl_append,
    splits.scan_closed closed, further.scan]
  simp

theorem Piece.filled_of_none {piece : Piece}
    (unnamed : ∀ name, piece = .slot name → value (String.ofList name) = none) :
    piece.filled value = piece.written := by
  cases piece with
  | literal words => rfl
  | slot name => rw [filled, unnamed name rfl, Option.getD_none, written]

theorem Splits.interpolate_unnamed (splits : Splits text pieces)
    (unnamed : ∀ name, .slot name ∈ pieces → value (String.ofList name) = none) :
    interpolate value text = text := by
  have kept : ∀ piece ∈ pieces, piece.filled value = piece.written := fun piece member =>
    Piece.filled_of_none fun name same => unnamed name (same ▸ member)
  rw [splits.interpolate_eq, List.flatMap_congr kept, splits.written]

end Scanning

end Placeholder

open Placeholder

def Story.pieceShown (story : Story) : Piece → List Char
  | .literal words => words
  | .slot name =>
    match story.bindings.find? (String.ofList name) with
    | some value => value.shown
    | none => (Piece.slot name).written

theorem Story.filled_eq_pieceShown (story : Story) :
    Piece.filled (fun name => (story.bindings.find? name).map Value.shown) = story.pieceShown := by
  funext piece
  cases piece with
  | literal words => rfl
  | slot name =>
    rw [Piece.filled, Story.pieceShown]
    cases story.bindings.find? (String.ofList name) <;> rfl

/-- A text that is read to the player splits into pieces in one way, of which each placeholder that names a
variable gives way to what is shown for its value and all else stays. So a text without such placeholders
stays as it is, and two texts are filled in apart from each other unless the first leaves a brace open. -/
theorem Story.interpolate_in_one_pass (story : Story) (text : String) : ∃ pieces,
    (∀ others, Splits text.toList others ↔ others = pieces) ∧
    pieces.flatMap Piece.written = text.toList ∧
    (story.interpolate text).toList = pieces.flatMap story.pieceShown ∧
    ((∀ name, .slot name ∈ pieces → story.bindings.find? (String.ofList name) = none) →
      story.interpolate text = text) ∧
    (AllClosed pieces → ∀ more,
      story.interpolate (text ++ more) = story.interpolate text ++ story.interpolate more) := by
  obtain ⟨pieces, splits⟩ := Splits.exists_pieces text.toList
  refine ⟨pieces, fun others => ?_, splits.written, ?_, fun unnamed => ?_, fun closed more => ?_⟩
  · exact ⟨fun again => again.unique splits, fun same => same ▸ splits⟩
  · rw [Story.interpolate, String.toList_ofList, splits.interpolate_eq, Story.filled_eq_pieceShown]
  · rw [Story.interpolate, splits.interpolate_unnamed, String.ofList_toList]
    intro name member
    rw [unnamed name member, Option.map_none]
  · rw [Story.interpolate, String.toList_append, splits.interpolate_append closed, String.ofList_append]
    rfl

/-- Braces in a value and around an unknown name are nothing special, and neither is a brace that stays open. -/
example : interpolate (fun name => if name = "who" then some "{ship}".toList else none)
    "Hail, {who}! No {guest}, \x7bwho".toList = "Hail, {ship}! No {guest}, \x7bwho".toList := by
  decide +kernel

end Tale
