import Mathlib.Data.List.DropRight
import Mathlib.Data.List.Infix
import Tale.Text.Blank
import Tale.Text.Cut

/-! Texts without white space at their ends, and texts cut at marks.

A text that was put together from trimmed parts with marks and single spaces between them is taken
apart again by cutting at the marks and trimming, if the marks cannot be mistaken.
-/

set_option autoImplicit false

namespace Tale.Text

/-! ## Ends -/

structure Trimmed (text : List Char) : Prop where
  first : ∀ c ∈ text.head?, isBlank c = false
  last : ∀ c ∈ text.getLast?, isBlank c = false

theorem trimmed_iff {text : List Char} : Trimmed text ↔
    text.head?.all (!isBlank ·) ∧ text.getLast?.all (!isBlank ·) := by
  have both (c? : Option Char) : c?.all (!isBlank ·) ↔ ∀ c ∈ c?, isBlank c = false := by
    cases c? <;> simp
  rw [both, both]
  exact ⟨fun ⟨first, last⟩ => ⟨first, last⟩, fun ⟨first, last⟩ => ⟨first, last⟩⟩

instance (text : List Char) : Decidable (Trimmed text) := decidable_of_iff' _ trimmed_iff

theorem dropEnd_append {drop : Char → Bool} (before : List Char) {text : List Char}
    (filled : text ≠ []) (kept : ∀ c ∈ text.getLast?, drop c = false) :
    dropEnd drop (before ++ text) = before ++ text := by
  obtain ⟨rest, c, rfl⟩ := (List.eq_nil_or_concat' text).resolve_left filled
  have stays : drop c = false := kept c (by simp)
  simp [dropEnd, stays]

theorem dropEnd_self {drop : Char → Bool} {text : List Char}
    (kept : ∀ c ∈ text.getLast?, drop c = false) : dropEnd drop text = text := by
  by_cases none : text = []
  · rw [none]
    rfl
  · exact dropEnd_append [] none kept

theorem dropWhile_self {drop : Char → Bool} {text : List Char}
    (kept : ∀ c ∈ text.head?, drop c = false) : text.dropWhile drop = text := by
  cases text with
  | nil => rfl
  | cons c rest => rw [List.dropWhile_cons_of_neg (by simp [kept c rfl])]

theorem dropEnd_append_of_forall {drop : Char → Bool} (text : List Char) {behind : List Char}
    (dropped : ∀ c ∈ behind, drop c) : dropEnd drop (text ++ behind) = dropEnd drop text := by
  rw [dropEnd, List.reverse_append, List.dropWhile_append_of_pos (by simpa using dropped), dropEnd]

theorem exists_dropEnd_append (drop : Char → Bool) (text : List Char) :
    ∃ behind, dropEnd drop text ++ behind = text ∧ ∀ c ∈ behind, drop c := by
  refine ⟨(text.reverse.takeWhile drop).reverse, ?_, fun c member => ?_⟩
  · rw [dropEnd, ← List.reverse_append, List.takeWhile_append_dropWhile, List.reverse_reverse]
  · exact List.mem_takeWhile_imp (List.mem_reverse.mp member)

theorem trimEnd_trimEnd (text : List Char) : trimEnd (trimEnd text) = trimEnd text :=
  List.rdropWhile_idempotent isBlank text

theorem trim_trimStart (text : List Char) : trim (trimStart text) = trim text := by
  rw [trim, trimStart, trimStart, List.dropWhile_idempotent, trim, trimStart]

theorem trim_trimEnd (text : List Char) : trim (trimEnd text) = trim text := by
  obtain ⟨behind, whole, blank⟩ := exists_dropEnd_append isBlank text
  conv_rhs => rw [← whole]
  unfold trim trimStart
  rw [List.dropWhile_append]
  split
  · next nothing =>
    rw [List.dropWhile_eq_nil_iff.mpr blank]
    exact congrArg trimEnd (List.isEmpty_iff.mp nothing)
  · exact (dropEnd_append_of_forall _ blank).symm

theorem trimEnd_append_cons {c : Char} (visible : isBlank c = false) (before after : List Char) :
    trimEnd (before ++ c :: after) = before ++ c :: trimEnd after := by
  unfold trimEnd dropEnd
  rw [List.reverse_append, List.reverse_cons, List.append_assoc, List.dropWhile_append]
  split
  · next nothing =>
    rw [List.isEmpty_iff.mp nothing, List.singleton_append, List.dropWhile_cons_of_neg (by simp [visible])]
    simp
  · simp

namespace Trimmed

variable {text : List Char}

theorem of_forall (shown : ∀ c ∈ text, isBlank c = false) : Trimmed text where
  first c head := shown c (List.mem_of_mem_head? head)
  last c last := shown c (List.mem_of_getLast? last)

theorem trim_eq (trimmed : Trimmed text) : trim text = text := by
  rw [trim, trimStart, dropWhile_self trimmed.first, trimEnd, dropEnd_self trimmed.last]

theorem trimStart_space (trimmed : Trimmed text) : trimStart (' ' :: text) = text := by
  rw [trimStart, List.dropWhile_cons_of_pos (by decide), dropWhile_self trimmed.first]

theorem trim_space (trimmed : Trimmed text) : trim (' ' :: text) = text := by
  rw [trim, trimmed.trimStart_space, trimEnd, dropEnd_self trimmed.last]

theorem trim_append_space (trimmed : Trimmed text) : trim (text ++ [' ']) = text := by
  cases text with
  | nil => decide
  | cons c rest =>
    have stays : isBlank c = false := trimmed.first c rfl
    rw [trim, trimStart, List.cons_append, List.dropWhile_cons_of_neg (by simp [stays]),
      ← List.cons_append, trimEnd, dropEnd, List.reverse_append, List.reverse_singleton,
      List.singleton_append, List.dropWhile_cons_of_pos (by decide)]
    exact dropEnd_self trimmed.last

theorem append {before : List Char} (first : Trimmed before) (filled : before ≠ [])
    (between : List Char) (second : Trimmed text) (someToo : text ≠ []) :
    Trimmed (before ++ between ++ text) where
  first := by
    rw [List.append_assoc, List.head?_append_of_ne_nil _ filled]
    exact first.first
  last := by
    rw [List.getLast?_append_of_ne_nil _ someToo]
    exact second.last

end Trimmed

/-! ## Cuts -/

section Cuts

variable {α : Type} [DecidableEq α]

theorem cutFrom_of_not_infix {mark text : List α} (absent : ¬ mark <:+: text)
    (passed : List α) : cutFrom mark passed text = none := by
  induction text generalizing passed with
  | nil =>
    have filled : mark ≠ [] := fun none => absent (none ▸ List.nil_infix)
    simp [cutFrom, filled]
  | cons c rest ih =>
    have elsewhere : ¬ mark <+: c :: rest := fun here => absent here.isInfix
    rw [cutFrom, if_neg (by simpa using elsewhere)]
    exact ih (fun inside => absent (List.infix_cons inside)) _

theorem cutLast_of_not_infix {mark text : List α} (absent : ¬ mark <:+: text) :
    cutLast mark text = none := by
  have absentToo : ¬ mark.reverse <:+: text.reverse := by rwa [List.reverse_infix]
  rw [cutLast, cutFirst, cutFrom_of_not_infix absentToo, Option.map_none]

theorem cutFirst_append {c : α} {before : List α} (absent : c ∉ before)
    (mark after : List α) :
    cutFirst (c :: mark) (before ++ c :: mark ++ after) = some (before, after) := by
  suffices all : ∀ passed, cutFrom (c :: mark) passed (before ++ c :: mark ++ after) =
      some (passed.reverse ++ before, after) from all []
  induction before with
  | nil =>
    intro passed
    have here : (c :: mark).isPrefixOf (c :: mark ++ after) = true := by simp
    rw [List.nil_append, List.cons_append, cutFrom, ← List.cons_append, if_pos here,
      List.drop_left, List.append_nil]
  | cons other rest ih =>
    intro passed
    obtain ⟨apart, later⟩ := List.ne_and_not_mem_of_not_mem_cons absent
    rw [List.cons_append, List.cons_append, cutFrom, if_neg (by simp [apart]), ih later]
    simp

theorem cutLast_append {c : α} {after : List α} (absent : c ∉ after)
    (mark before : List α) :
    cutLast (mark ++ [c]) (before ++ (mark ++ [c]) ++ after) = some (before, after) := by
  have absentToo : c ∉ after.reverse := by simpa using absent
  have found := cutFirst_append absentToo mark.reverse before.reverse
  have mirrored : (before ++ (mark ++ [c]) ++ after).reverse =
      after.reverse ++ c :: mark.reverse ++ before.reverse := by simp
  rw [cutLast, mirrored, List.reverse_append, List.reverse_singleton, List.singleton_append, found]
  simp

omit [DecidableEq α] in
theorem exists_last_of_mem {c : α} {text : List α} (inside : c ∈ text) :
    ∃ before after, text = before ++ c :: after ∧ c ∉ after := by
  obtain ⟨behind, front, mirrored, absent⟩ :=
    List.eq_append_cons_of_mem (List.mem_reverse.mpr inside)
  refine ⟨front.reverse, behind.reverse, ?_, by simpa using absent⟩
  rw [← List.reverse_reverse text, mirrored]
  simp

theorem cutLast_single {c : α} {before after : List α} (absent : c ∉ after) :
    cutLast [c] (before ++ c :: after) = some (before, after) := by
  simpa using cutLast_append absent [] before

theorem cutLast_eq_none_iff {c : α} {text : List α} : cutLast [c] text = none ↔ c ∉ text := by
  constructor
  · intro uncut inside
    obtain ⟨before, after, rfl, absent⟩ := exists_last_of_mem inside
    cases (cutLast_single absent).symm.trans uncut
  · exact fun absent => cutLast_of_not_infix fun there => absent (there.subset (by simp))

/-- A text is cut at the last place of a character if that character stands there and not behind. -/
theorem cutLast_eq_some_iff {c : α} {text before after : List α} :
    cutLast [c] text = some (before, after) ↔ text = before ++ c :: after ∧ c ∉ after := by
  constructor
  · intro found
    by_cases inside : c ∈ text
    · obtain ⟨front, behind, rfl, absent⟩ := exists_last_of_mem inside
      rw [cutLast_single absent] at found
      cases found
      exact ⟨rfl, absent⟩
    · rw [cutLast_eq_none_iff.mpr inside] at found
      cases found
  · rintro ⟨rfl, absent⟩
    exact cutLast_single absent

end Cuts

end Tale.Text
