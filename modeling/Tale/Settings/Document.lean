import Tale.Json.Lexeme

/-! Settings documents: lines that bind keys to values, under headers that name a table. A value is
a text, a list of texts, or a table of such lists written on one line; documents with any other
kind of value are refused. -/

set_option autoImplicit false

namespace Tale.Settings

inductive Value where
  | text (content : String)
  | texts (contents : List String)
  | table (members : List (String × List String))
  deriving DecidableEq, Repr

inductive Statement where
  | header (key : List String)
  | binding (key : List String) (value : Value)
  deriving DecidableEq, Repr

namespace Document

def skipBlanks (text : List Char) : List Char := text.dropWhile fun c => c == ' ' || c == '\t'

def isInline (c : Char) : Bool := c == '\t' || (' ' ≤ c && c != '\x7f')

def skipComment : List Char → Option (List Char)
  | [] => some []
  | '\n' :: rest => some ('\n' :: rest)
  | '\r' :: '\n' :: rest => some ('\n' :: rest)
  | c :: rest => if isInline c then skipComment rest else none

def endLine (text : List Char) : Option (List Char) :=
  match skipBlanks text with
  | '#' :: rest => (skipComment rest).map (List.drop 1)
  | '\n' :: rest => some rest
  | '\r' :: '\n' :: rest => some rest
  | [] => some []
  | _ => none

def skipLines : Bool → List Char → Option (List Char)
  | _, [] => some []
  | _, '\n' :: rest => skipLines false rest
  | _, '\r' :: '\n' :: rest => skipLines false rest
  | true, c :: rest => if isInline c then skipLines true rest else none
  | false, c :: rest =>
    if c = ' ' ∨ c = '\t' then skipLines false rest
    else if c = '#' then skipLines true rest
    else some (c :: rest)

inductive Escape where
  | none
  /-- Behind the backslash. -/
  | opened
  /-- Inside a numeric escape, with some digits to come. -/
  | code (missing value : Nat)
  /-- Behind a backslash at the end of a line, before and in the line ends that it removes. -/
  | lineEnd (ended : Bool)

def shortEscape? : Char → Option Char
  | 'b' => some '\x08'
  | 't' => some '\t'
  | 'n' => some '\n'
  | 'f' => some '\x0c'
  | 'r' => some '\r'
  | '"' => some '"'
  | '\\' => some '\\'
  | _ => none

def stepEscape (escape : Escape) (c : Char) : Option (Escape × Option Char) :=
  match escape with
  | .opened =>
    if c = 'u' then some (.code 4 0, none)
    else if c = 'U' then some (.code 8 0, none)
    else (shortEscape? c).map fun meant => (.none, some meant)
  | .code missing value => do
    let digit ← Json.hexDigit? c
    let value := 16 * value + digit
    if missing = 1 then
      if value.isValidChar then some (.none, some (Char.ofNat value)) else none
    else some (.code (missing - 1) value, none)
  | _ => none

def readQuoted : Escape → List Char → List Char → Option (String × List Char)
  | _, _, [] => none
  | .none, read, c :: rest =>
    if c = '"' then some (String.ofList read.reverse, rest)
    else if c = '\\' then readQuoted .opened read rest
    else if isInline c then readQuoted .none (c :: read) rest
    else none
  | escape, read, c :: rest =>
    match stepEscape escape c with
    | some (next, meant) => readQuoted next (meant.toList ++ read) rest
    | none => none

def readLiteral : List Char → List Char → Option (String × List Char)
  | _, [] => none
  | read, c :: rest =>
    if c = '\'' then some (String.ofList read.reverse, rest)
    else if isInline c then readLiteral (c :: read) rest
    else none

def dropFirstLineEnd : List Char → List Char
  | '\n' :: rest => rest
  | '\r' :: '\n' :: rest => rest
  | text => text

/-- The quotes of a run that belong to the text, where the last three of at most five close it. -/
def closeBlock (mark : Char) (quotes : Nat) (read rest : List Char) : String × List Char :=
  (String.ofList (List.replicate (quotes - 3) mark ++ read).reverse, rest)

def readLiteralBlock (quotes : Nat) : List Char → List Char → Option (String × List Char)
  | read, [] => if 3 ≤ quotes then some (closeBlock '\'' quotes read []) else none
  | read, c :: rest =>
    if quotes = 5 then some (closeBlock '\'' quotes read (c :: rest))
    else if c = '\'' then readLiteralBlock (quotes + 1) read rest
    else if 3 ≤ quotes then some (closeBlock '\'' quotes read (c :: rest))
    else
      let read := List.replicate quotes '\'' ++ read
      match c, rest with
      | '\r', '\n' :: rest => readLiteralBlock 0 ('\n' :: read) rest
      | c, rest => if isInline c ∨ c = '\n' then readLiteralBlock 0 (c :: read) rest else none

def readBlock (quotes : Nat) : Escape → List Char → List Char → Option (String × List Char)
  | _, read, [] => if 3 ≤ quotes then some (closeBlock '"' quotes read []) else none
  | .lineEnd ended, read, c :: rest =>
    if c = ' ' ∨ c = '\t' then readBlock 0 (.lineEnd ended) read rest
    else if c = '\n' then readBlock 0 (.lineEnd true) read rest
    else
      match c, rest with
      | '\r', '\n' :: rest => readBlock 0 (.lineEnd true) read rest
      | c, rest =>
        if ¬ended then none
        else if c = '"' then readBlock 1 .none read rest
        else if c = '\\' then readBlock 0 .opened read rest
        else if isInline c then readBlock 0 .none (c :: read) rest
        else none
  | .none, read, c :: rest =>
    -- Three quotes close the text, and up to two in front of them still belong to it.
    if quotes = 5 then some (closeBlock '"' quotes read (c :: rest))
    else if c = '"' then readBlock (quotes + 1) .none read rest
    else if 3 ≤ quotes then some (closeBlock '"' quotes read (c :: rest))
    else
      let read := List.replicate quotes '"' ++ read
      match c, rest with
      | '\r', '\n' :: rest => readBlock 0 .none ('\n' :: read) rest
      | c, rest =>
        if c = '\\' then readBlock 0 .opened read rest
        else if isInline c ∨ c = '\n' then readBlock 0 .none (c :: read) rest
        else none
  | escape, read, c :: rest =>
    match stepEscape escape c with
    | some (next, meant) => readBlock 0 next (meant.toList ++ read) rest
    | none =>
      match escape, c, rest with
      | .opened, '\r', '\n' :: rest => readBlock 0 (.lineEnd true) read rest
      | .opened, c, rest =>
        if c = '\n' then readBlock 0 (.lineEnd true) read rest
        else if c = ' ' ∨ c = '\t' then readBlock 0 (.lineEnd false) read rest
        else none
      | _, _, _ => none

def readText (text : List Char) : Option (String × List Char) :=
  match text with
  | '"' :: '"' :: '"' :: rest => readBlock 0 .none [] (dropFirstLineEnd rest)
  | '\'' :: '\'' :: '\'' :: rest => readLiteralBlock 0 [] (dropFirstLineEnd rest)
  | '"' :: rest => readQuoted .none [] rest
  | '\'' :: rest => readLiteral [] rest
  | _ => none

def isBareKeyChar (c : Char) : Bool := c.isAlphanum || c == '_' || c == '-'

def readKeyPart (text : List Char) : Option (String × List Char) :=
  match text with
  | '"' :: rest => readQuoted .none [] rest
  | '\'' :: rest => readLiteral [] rest
  | _ =>
    let name := text.takeWhile isBareKeyChar
    if name.isEmpty then none else some (String.ofList name, text.dropWhile isBareKeyChar)

def readKey : Nat → List Char → Option (List String × List Char)
  | 0, _ => none
  | bound + 1, text => do
    let (part, rest) ← readKeyPart (skipBlanks text)
    match skipBlanks rest with
    | '.' :: rest => (readKey bound rest).map fun (parts, rest) => (part :: parts, rest)
    | rest => some ([part], rest)

def readTexts : Nat → List Char → Option (List String × List Char)
  | 0, _ => none
  | bound + 1, text => do
    match ← skipLines false text with
    | ']' :: rest => some ([], rest)
    | text =>
      let (item, rest) ← readText text
      match ← skipLines false rest with
      | ',' :: rest => (readTexts bound rest).map fun (items, rest) => (item :: items, rest)
      | ']' :: rest => some ([item], rest)
      | _ => none

def readMembers : Nat → List Char → Option (List (String × List String) × List Char)
  | 0, _ => none
  | bound + 1, text => do
    let (name, rest) ← readKeyPart (skipBlanks text)
    match skipBlanks rest with
    | '=' :: rest =>
      match skipBlanks rest with
      | '[' :: rest =>
        let (items, rest) ← readTexts rest.length rest
        match skipBlanks rest with
        | ',' :: rest =>
          (readMembers bound rest).map fun (members, rest) => ((name, items) :: members, rest)
        | '}' :: rest => some ([(name, items)], rest)
        | _ => none
      | _ => none
    | _ => none

def readValue (text : List Char) : Option (Value × List Char) :=
  match text with
  | '[' :: rest => (readTexts rest.length rest).map fun (items, rest) => (.texts items, rest)
  | '{' :: rest =>
    match skipBlanks rest with
    | '}' :: rest => some (.table [], rest)
    | rest => (readMembers rest.length rest).map fun (members, rest) => (.table members, rest)
  | _ => (readText text).map fun (content, rest) => (.text content, rest)

def readStatement (text : List Char) : Option (Statement × List Char) := do
  match text with
  | '[' :: rest =>
    let (key, rest) ← readKey rest.length rest
    match rest with
    | ']' :: rest => (endLine rest).map fun rest => (.header key, rest)
    | _ => none
  | _ =>
    let (key, rest) ← readKey text.length text
    match rest with
    | '=' :: rest =>
      let (value, rest) ← readValue (skipBlanks rest)
      (endLine rest).map fun rest => (.binding key value, rest)
    | _ => none

def readStatements : Nat → List Char → Option (List Statement)
  | 0, _ => none
  | bound + 1, text => do
    match ← skipLines false text with
    | [] => some []
    | text =>
      let (statement, rest) ← readStatement text
      (readStatements bound rest).map (statement :: ·)

/-- Read a document. A byte order mark in front of it means nothing. -/
def parse? (document : String) : Option (List Statement) :=
  match document.toList with
  | '\uFEFF' :: text => readStatements (text.length + 1) text
  | text => readStatements (text.length + 1) text

end Document

end Tale.Settings
