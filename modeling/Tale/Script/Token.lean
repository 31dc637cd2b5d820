import Tale.Text.Blank
import Tale.Text.Cut
import Tale.Text.Size

/-! Lines of a script as tokens. The language is line oriented: the marker at the start of a line
says what the line is, and the rest of the line is the payload. A line yields at most one token,
and what it yields does not depend on the lines around it. -/

set_option autoImplicit false

namespace Tale.Script

open Text

inductive Token where
  | inclusion (name : String)
  | declaration (body : String)
  | heading (name : String)
  | divert (target : String)
  | assignment (body : String)
  | choice (sticky : Bool) (body : String)
  | note (words : String)
  | text (words : String)
  deriving DecidableEq, Repr

namespace Token

def shown : Token → String
  | inclusion name => "INCLUDE " ++ name
  | declaration body => "VAR " ++ body
  | heading name => "== " ++ name ++ " =="
  | divert target => "-> " ++ target
  | assignment body => "~ " ++ body
  | choice true body => "+ " ++ body
  | choice false body => "* " ++ body
  | note words => "TODO: " ++ words
  | text words => words

def isPadding (c : Char) : Bool := c == ' ' || c == '\t' || c == '\r'

/-- A word at the start of a line is a marker if a space or a tab follows it. -/
def startsWithWord (word line : List Char) : Bool :=
  match afterMark? word line with
  | some (c :: _) => c == ' ' || c == '\t'
  | _ => false

def payload (marker : String) (line : List Char) : String :=
  String.ofList (trim ((trimEnd line).drop marker.length))

/-- A comment is dropped unless it is a note to come back to. -/
def ofComment? (line : List Char) : Option Token :=
  (afterMark? "TODO:".toList (trim ((trimEnd line).drop 2))).map fun rest =>
    .note (String.ofList (trim rest))

def ofMarked? (line : List Char) : Option Token :=
  -- A comment goes first: no marker inside it means anything.
  if "//".toList.isPrefixOf line then ofComment? line
  else if startsWithWord "INCLUDE".toList line then some (.inclusion (payload "INCLUDE" line))
  else if startsWithWord "VAR".toList line then some (.declaration (payload "VAR" line))
  else if "==".toList.isPrefixOf line then
    some (.heading (String.ofList (trim (trimMark '=' (trimEnd line)))))
  else if "->".toList.isPrefixOf line then some (.divert (payload "->" line))
  else if "~".toList.isPrefixOf line then some (.assignment (payload "~" line))
  else if "*".toList.isPrefixOf line then some (.choice false (payload "*" line))
  else if "+".toList.isPrefixOf line then some (.choice true (payload "+" line))
  else some (.text (String.ofList (trimEnd line)))

/-- The token of a line, with the part of the line that it covers: from the first character that
is not padding to the end of the line. -/
def ofLine? (line : List Char) : Option (Token × Span) :=
  match line.dropWhile isPadding with
  | [] => none
  | rest =>
    (ofMarked? rest).map fun token =>
      (token, ⟨byteSize (line.takeWhile isPadding), byteSize line⟩)

def ofLines (offset : Nat) : List (List Char) → List (Token × Span)
  | [] => []
  | line :: rest =>
    ((ofLine? line).map fun (token, span) => (token, span.shift offset)).toList ++
      ofLines (offset + byteSize line + 1) rest

end Token

def tokens (source : List Char) : List (Token × Span) :=
  Token.ofLines 0 (source.splitOn '\n')

end Tale.Script
