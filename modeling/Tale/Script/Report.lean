import Tale.Script.Diagnostic
import Tale.Text.Columns

/-! Reports for people: the place of a diagnostic, the line that it is about, and a label under the
characters that it covers. A report counts in characters, and shows one line of the source. -/

set_option autoImplicit false

namespace Tale.Script.Report

open Text

/-- The characters that end a line of a report, of which a carriage return takes a line feed with
it. -/
def isLineEnd (c : Char) : Bool :=
  c == '\n' || c == '\r' || c == '\x0b' || c == '\x0c' || c.val == 0x85 || c.val == 0x2028 ||
    c.val == 0x2029

/-- Cut a text behind each line end; what was passed of the current line is kept in reverse. -/
def cutLines (passed : List Char) : List Char → List (List Char)
  | [] => if passed.isEmpty then [] else [passed.reverse]
  | '\r' :: '\n' :: rest => ('\n' :: '\r' :: passed).reverse :: cutLines [] rest
  | c :: rest =>
    if isLineEnd c then (c :: passed).reverse :: cutLines [] rest else cutLines (c :: passed) rest

def sourceLines (source : List Char) : List (List Char) :=
  if source.isEmpty then [[]] else cutLines [] source

structure Line where
  number : Nat
  offset : Nat
  text : List Char
  deriving Repr

/-- The line in which a character stands. The place behind the last character belongs to the last
line. -/
def locate (place : Nat) (number offset : Nat) : List (List Char) → Option Line
  | [] => none
  | [text] => if place ≤ offset + text.length then some ⟨number, offset, text⟩ else none
  | text :: rest =>
    if place < offset + text.length then some ⟨number, offset, text⟩
    else locate place (number + 1) (offset + text.length) rest

def lineAt (source : List Char) (place : Nat) : Option Line := locate place 0 0 (sourceLines source)

def cell (place : Nat) (c : Char) : List Char :=
  if c = '\t' then List.replicate ((place / 4 + 1) * 4 - place) ' '
  else if isBlank c then [' ']
  else [c]

def cellColumns (place : Nat) (c : Char) : Nat :=
  if c = '\t' then (place / 4 + 1) * 4 - place
  else if isBlank c then 1
  else charColumns c

def cellWidths (text : List Char) (count : Nat) : List Nat :=
  let widths := (text.take count).zipIdx.map fun (c, place) => cellColumns place c
  widths ++ List.replicate (count - widths.length) 1

def spread (width : Nat) (first next : Char) : List Char :=
  match width with
  | 0 => []
  | more + 1 => first :: List.replicate more next

def underline (widths : List Nat) (first last stem : Nat) : List Char :=
  widths.zipIdx.flatMap fun (width, place) =>
    let covered := first ≤ place && place < last
    if place = stem then (if covered then spread width '┬' '─' else spread width '│' ' ')
    else if covered then spread width '─' '─'
    else spread width ' ' ' '

def arm (widths : List Nat) (stem : Nat) : List Char :=
  widths.zipIdx.flatMap fun (width, place) =>
    if place = stem then spread width '╰' '─'
    else if stem < place then spread width '─' '─'
    else spread width ' ' ' '

def heading : Severity → String
  | .error => "Error"
  | .warning => "Warning"
  | .info => "Advice"

/-- The span of a diagnostic, moved into a source that may have become shorter. -/
def clamp (source : List Char) (span : Span) : Span :=
  let stop := min span.stop (byteSize source)
  ⟨min span.start stop, stop⟩

def excerpt (filename : String) (line : Line) (span : Span) (label : String) : List String :=
  let number := toString (line.number + 1)
  let margin := String.ofList (List.replicate (number.length + 2) ' ')
  let first := span.start - line.offset
  let last := span.stop - line.offset
  let stem := (span.start + span.stop) / 2 - line.offset
  let text := trimEnd line.text
  -- The arm reaches two columns past the span.
  let widths := cellWidths text (last + 2)
  let shown := text.zipIdx.flatMap fun (c, place) => cell place c
  [margin ++ "╭─[ " ++ filename ++ ":" ++ number ++ ":" ++ toString (first + 1) ++ " ]",
    margin ++ "│",
    " " ++ number ++ " │ " ++ String.ofList shown,
    margin ++ "│ " ++ String.ofList (underline widths first last stem),
    margin ++ "│ " ++ String.ofList (arm widths stem) ++ " " ++ label,
    String.ofList (List.replicate (number.length + 2) '─') ++ "╯"]

/-- The rows of the report of one diagnostic. A span that does not lie in the source has no
excerpt. -/
def rows (source : List Char) (filename : String) (diagnostic : Diagnostic) : List String :=
  let span := clamp source diagnostic.span
  let head := heading diagnostic.severity ++ ": " ++ diagnostic.message
  match lineAt source span.start, lineAt source (max span.start (span.stop - 1)) with
  | some line, some _ =>
    head :: excerpt filename line span (diagnostic.label.getD diagnostic.message)
  | _, _ => [head]

def render (source : String) (filename : String) (diagnostics : List Diagnostic) : String :=
  String.join (diagnostics.flatMap fun diagnostic =>
    (rows source.toList filename diagnostic).map (· ++ "\n"))

end Tale.Script.Report
