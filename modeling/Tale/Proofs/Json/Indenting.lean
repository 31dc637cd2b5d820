import Tale.Proofs.Json.Reading

/-! Reading the indented form.

A line break with blanks behind it ends a value and is no lexeme. So the indented form of a value, at
whatever depth it stands, has the same lexemes as the compact one.
-/

set_option autoImplicit false

namespace Tale.Json

section Blanks

variable {blank text : List Char} {lexemes : List Lexeme}

theorem isWordPart_of_isSpace {c : Char} (space : isSpace c) : isWordPart c = false := by
  have oneOf : c = ' ' ∨ c = '\t' ∨ c = '\n' ∨ c = '\r' := by simpa [isSpace, or_assoc] using space
  rcases oneOf with rfl | rfl | rfl | rfl <;> decide

theorem scanFrom_blank (spaces : ∀ c ∈ blank, isSpace c) (before : List Lexeme) (rest : List Char) :
    scanFrom ⟨.between, before⟩ (blank ++ rest) = scanFrom ⟨.between, before⟩ rest := by
  induction blank with
  | nil => rfl
  | cons c later ih =>
    have begins : beginLexeme before c = some ⟨.between, before⟩ := by
      simp [beginLexeme, spaces c List.mem_cons_self]
    rw [List.cons_append, scanFrom_between begins]
    exact ih fun other member => spaces other (List.mem_cons_of_mem _ member)

theorem Scans.after_blank (spaces : ∀ c ∈ blank, isSpace c) (scans : Scans text lexemes) :
    Scans (blank ++ text) lexemes := by
  intro before rest ends
  rw [List.append_assoc, scanFrom_blank spaces, scans before rest ends]

theorem Scans.before_blank (scans : Scans text lexemes) (spaces : ∀ c ∈ blank, isSpace c)
    (nonempty : blank ≠ []) : Scans (text ++ blank) lexemes := by
  intro before rest ends
  have stops : EndsWord (blank ++ rest) := by
    obtain ⟨c, later, rfl⟩ := List.exists_cons_of_ne_nil nonempty
    intro other head
    cases head
    exact isWordPart_of_isSpace (spaces c List.mem_cons_self)
  rw [List.append_assoc, scans _ _ stops, scanFrom_blank spaces]

end Blanks

theorem isSpace_space : ∀ c ∈ [' '], isSpace c := by
  intro c member
  cases List.mem_singleton.mp member
  rfl

theorem isSpace_newLine (depth : Nat) : ∀ c ∈ newLine depth, isSpace c := by
  intro c member
  rcases List.mem_cons.mp member with rfl | blank
  · decide
  · rw [List.eq_of_mem_replicate blank]
    decide

theorem scans_enclosed {first last : Char} {opening closing : Lexeme} {inside : List Char}
    {lexemes : List Lexeme} (opens : IsMark first opening) (scans : Scans inside lexemes) (depth : Nat)
    (closes : IsMark last closing) :
    Scans (first :: inside ++ newLine depth ++ [last]) (opening :: lexemes ++ [closing]) := by
  have ended := scans.before_blank (isSpace_newLine depth) (List.cons_ne_nil _ _)
  have whole := (Scans.after_mark opens ended).before_mark closes
  rwa [List.cons_append] at whole ⊢

-- The depth goes on growing inside of arrays and objects, so it is not that of the whole value.
mutual

theorem scans_indentedAt : ∀ {value : Json} (depth : Nat), Written value →
    Scans (value.indentedAt depth) value.lexemes
  | null, _, _ => scans_word (List.all_eq_true.mp rfl) rfl
  | bool true, _, _ => scans_word (List.all_eq_true.mp rfl) rfl
  | bool false, _, _ => scans_word (List.all_eq_true.mp rfl) rfl
  | integer value, _, _ => scans_integer value
  | decimal written, _, spelled => by
    rw [Written] at spelled
    exact scans_word spelled.1 spelled.2
  | string text, _, _ => scans_writeString text
  | unpaired, _, _ => scans_writeText none
  | array [], _, _ => Scans.after_mark isMark_openBracket (Scans.after_mark isMark_closeBracket .nil)
  | array (item :: items), depth, inside => by
    rw [Written] at inside
    exact scans_enclosed isMark_openBracket (scans_indentedItems (depth + 1) inside) depth
      isMark_closeBracket
  | object [], _, _ => Scans.after_mark isMark_openBrace (Scans.after_mark isMark_closeBrace .nil)
  | object (member :: members), depth, inside => by
    rw [Written] at inside
    exact scans_enclosed isMark_openBrace (scans_indentedMembers (depth + 1) inside) depth
      isMark_closeBrace

theorem scans_indentedItems : ∀ {items : List Json} (depth : Nat), WrittenItems items →
    Scans (indentedItems depth items) (itemLexemes items)
  | [], _, _ => .nil
  | [item], depth, inside => by
    rw [WrittenItems] at inside
    exact (scans_indentedAt depth inside.1).after_blank (isSpace_newLine depth)
  | item :: next :: rest, depth, inside => by
    rw [WrittenItems] at inside
    exact ((scans_indentedAt depth inside.1).after_blank (isSpace_newLine depth)).mark isMark_comma
      (scans_indentedItems depth inside.2)

theorem scans_indentedMembers : ∀ {members : List (Option String × Json)} (depth : Nat),
    WrittenMembers members → Scans (indentedMembers depth members) (memberLexemes members)
  | [], _, _ => .nil
  | [(name, value)], depth, inside => by
    rw [WrittenMembers] at inside
    have named := (scans_writeText name).after_blank (isSpace_newLine depth)
    exact named.mark isMark_colon ((scans_indentedAt depth inside.1).after_blank isSpace_space)
  | (name, value) :: next :: rest, depth, inside => by
    rw [WrittenMembers] at inside
    have named := (scans_writeText name).after_blank (isSpace_newLine depth)
    have member := named.mark isMark_colon
      ((scans_indentedAt depth inside.1).after_blank isSpace_space)
    exact member.mark isMark_comma (scans_indentedMembers depth inside.2)

end

/-- A value that was written with indentation is read as itself. -/
theorem parse?_indented {value : Json} (written : Written value) :
    parse? value.indented = some value :=
  parse?_of_scans (scans_indentedAt 0 written)

end Tale.Json
