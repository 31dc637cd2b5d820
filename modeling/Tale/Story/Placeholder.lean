import Tale.Story.Value

/-! Placeholders in paragraphs. A placeholder is an opening brace, the characters up to the next
closing brace, and that brace. One that names a variable gives way to the value of the variable;
any other stays as it is, and so does an opening brace that is never closed. -/

set_option autoImplicit false

namespace Tale.Placeholder

inductive Piece where
  | literal (words : List Char)
  | slot (name : List Char)
  deriving DecidableEq, Repr

def Piece.written : Piece → List Char
  | literal words => words
  | slot name => '{' :: name ++ ['}']

def Piece.filled (value : String → Option (List Char)) : Piece → List Char
  | literal words => words
  | slot name => (value (String.ofList name)).getD ('{' :: name ++ ['}'])

/-- Where a scan stands: what is written so far, and the name of a placeholder that is open; both
with the latest character first. -/
structure Scan where
  written : List Char
  name : Option (List Char)
  deriving DecidableEq, Repr

def Scan.step (value : String → Option (List Char)) (scan : Scan) (c : Char) : Scan :=
  match scan.name with
  | none => if c = '{' then ⟨scan.written, some []⟩ else ⟨c :: scan.written, none⟩
  | some name =>
    if c = '}' then ⟨((Piece.slot name.reverse).filled value).reverse ++ scan.written, none⟩
    else ⟨scan.written, some (c :: name)⟩

def Scan.finish (scan : Scan) : List Char :=
  match scan.name with
  | none => scan.written.reverse
  | some name => scan.written.reverse ++ '{' :: name.reverse

/-- Fill in the placeholders of a text, in one pass. -/
def interpolate (value : String → Option (List Char)) (text : List Char) : List Char :=
  (text.foldl (Scan.step value) ⟨[], none⟩).finish

end Tale.Placeholder
