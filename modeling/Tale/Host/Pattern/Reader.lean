import Tale.Host.Pattern.Basic
import Tale.Json.Lexeme
import Tale.Text.Cut

/-! Reading written patterns. The syntax is the usual one of regular expressions: alternatives,
repetitions, groups with flags, anchors, and sets of characters with ranges, nesting and set
operations. There are no references back and no conditions on what stands around a match. A
pattern that would grow too large is refused. -/

set_option autoImplicit false

namespace Tale.Host.Pattern

structure Flags where
  caseless : Bool
  multiline : Bool
  dotAll : Bool
  spaced : Bool
  deriving DecidableEq, Repr

inductive Atom where
  | literal (c : Char)
  | set (members : CharSet)
  | anchor (condition : Anchor)

def skipSpaced : Bool → List Char → List Char
  | _, [] => []
  | true, c :: rest => skipSpaced (c != '\n') rest
  | false, c :: rest =>
    if Text.isBlank c then skipSpaced false rest
    else if c = '#' then skipSpaced true rest
    else c :: rest

def Flags.skip (flags : Flags) (text : List Char) : List Char :=
  if flags.spaced then skipSpaced false text else text

def isMeta (c : Char) : Bool := "\\.+*?()|[]\x7b\x7d^$#&-~".toList.contains c

def isEscapable (c : Char) : Bool :=
  isMeta c || (c.val < 0x80 && !c.isAlphanum && c != '<' && c != '>')

def readHexDigits (count : Nat) (text : List Char) : Option (Nat × List Char) := do
  let digits := text.take count
  if digits.length < count then none
  else
    let values ← digits.mapM Json.hexDigit?
    some (values.foldl (fun value digit => 16 * value + digit) 0, text.drop count)

def readHex (count : Nat) (text : List Char) : Option (Char × List Char) := do
  let (code, rest) ← match text with
    | '{' :: inner => do
      let (digits, rest) ← Text.cutFirst ['}'] inner
      if digits.isEmpty then none
      else
        let (value, _) ← readHexDigits digits.length digits
        some (value, rest)
    | _ => readHexDigits count text
  if code.isValidChar then some (Char.ofNat code, rest) else none

def classNamed? (name : List Char) : Option CharSet :=
  if name = ['L'] ∨ name = "Letter".toList then some .letter
  else if name = "Nd".toList ∨ name = "Decimal_Number".toList then some .digit
  else if name = "White_Space".toList then some .space
  else if name = "Any".toList then some .any
  else if name = "ASCII".toList then some (.range '\x00' '\x7f')
  else none

def readNamedClass (text : List Char) : Option (CharSet × List Char) :=
  match text with
  | '{' :: '^' :: inner => do
    let (name, rest) ← Text.cutFirst ['}'] inner
    some (.complement (← classNamed? name), rest)
  | '{' :: inner => do
    let (name, rest) ← Text.cutFirst ['}'] inner
    some (← classNamed? name, rest)
  | c :: rest => do some (← classNamed? [c], rest)
  | [] => none

def readWordEdge (text : List Char) : Anchor × List Char :=
  let known : List (String × Anchor) := [("\x7bstart\x7d", .wordStart), ("\x7bend\x7d", .wordEnd),
    ("\x7bstart-half\x7d", .wordStartHalf), ("\x7bend-half\x7d", .wordEndHalf)]
  match known.findSome? fun (name, edge) =>
      (Text.afterMark? name.toList text).map fun rest => (edge, rest) with
  | some found => found
  | none => (.wordEdge, text)

def readEscape (text : List Char) : Option (Atom × List Char) :=
  match text with
  | [] => none
  | c :: rest =>
    let literal (code : Nat) := some (Atom.literal (Char.ofNat code), rest)
    if c = 'x' then (readHex 2 rest).map fun (c, rest) => (.literal c, rest)
    else if c = 'u' then (readHex 4 rest).map fun (c, rest) => (.literal c, rest)
    else if c = 'U' then (readHex 8 rest).map fun (c, rest) => (.literal c, rest)
    else if c = 'p' then (readNamedClass rest).map fun (set, rest) => (.set set, rest)
    else if c = 'P' then (readNamedClass rest).map fun (set, rest) => (.set (.complement set), rest)
    else if c = 'd' then some (.set .digit, rest)
    else if c = 'D' then some (.set (.complement .digit), rest)
    else if c = 's' then some (.set .space, rest)
    else if c = 'S' then some (.set (.complement .space), rest)
    else if c = 'w' then some (.set .word, rest)
    else if c = 'W' then some (.set (.complement .word), rest)
    else if c = 'a' then literal 0x07
    else if c = 'f' then literal 0x0C
    else if c = 't' then literal 0x09
    else if c = 'n' then literal 0x0A
    else if c = 'r' then literal 0x0D
    else if c = 'v' then literal 0x0B
    else if c = 'A' then some (.anchor .textStart, rest)
    else if c = 'z' then some (.anchor .textEnd, rest)
    else if c = 'B' then some (.anchor .noWordEdge, rest)
    else if c = '<' then some (.anchor .wordStart, rest)
    else if c = '>' then some (.anchor .wordEnd, rest)
    else if c = 'b' then
      let (edge, rest) := readWordEdge rest
      some (.anchor edge, rest)
    else if isEscapable c then some (.literal c, rest)
    else none

def asciiClass? (name : List Char) : Option CharSet :=
  let known : List (String × List (Char × Char)) := [
    ("alnum", [('0', '9'), ('A', 'Z'), ('a', 'z')]), ("alpha", [('A', 'Z'), ('a', 'z')]),
    ("ascii", [('\x00', '\x7f')]), ("blank", [('\t', '\t'), (' ', ' ')]),
    ("cntrl", [('\x00', '\x1f'), ('\x7f', '\x7f')]), ("digit", [('0', '9')]),
    ("graph", [('!', '~')]), ("lower", [('a', 'z')]), ("print", [(' ', '~')]),
    ("punct", [('!', '/'), (':', '@'), ('[', '\x60'), ('\x7b', '~')]),
    ("space", [('\t', '\r'), (' ', ' ')]), ("upper", [('A', 'Z')]),
    ("word", [('0', '9'), ('A', 'Z'), ('_', '_'), ('a', 'z')]),
    ("xdigit", [('0', '9'), ('A', 'F'), ('a', 'f')])]
  (known.find? fun (known, _) => known.toList == name).map fun (_, runs) => .ofRuns runs

def readAsciiClass (text : List Char) : Option (CharSet × List Char) :=
  match text with
  | ':' :: '^' :: inner => do
    let (name, rest) ← Text.cutFirst ":]".toList inner
    some (.complement (← asciiClass? name), rest)
  | ':' :: inner => do
    let (name, rest) ← Text.cutFirst ":]".toList inner
    some (← asciiClass? name, rest)
  | _ => none

inductive SetOperation where
  | intersection
  | difference
  | symmetricDifference

def Flags.close (flags : Flags) (set : CharSet) : CharSet :=
  if flags.caseless then .caseless set else set

def Flags.combine (flags : Flags) (left : Option (SetOperation × CharSet)) (right : CharSet) :
    CharSet :=
  match left with
  | none => right
  | some (operation, left) =>
    let left := flags.close left
    let right := flags.close right
    match operation with
    | .intersection => .both left right
    | .difference => .both left (.complement right)
    | .symmetricDifference =>
      .union (.both left (.complement right)) (.both right (.complement left))

def readSetAtom (text : List Char) : Option (Atom × List Char) :=
  match text with
  | '\\' :: rest => readEscape rest
  | c :: rest => some (.literal c, rest)
  | [] => none

def Atom.members? : Atom → Option CharSet
  | .literal c => some (.single c)
  | .set members => some members
  | .anchor _ => none

def readSetMember (flags : Flags) (text : List Char) : Option (CharSet × List Char) := do
  let (first, rest) ← readSetAtom text
  let alone := first.members?.map fun set => (set, flags.skip rest)
  match flags.skip rest with
  | [] => none
  | '-' :: more =>
    match flags.skip more with
    | [] => none
    | c :: _ =>
      if c = ']' ∨ c = '-' then alone
      else
        let (last, rest) ← readSetAtom (flags.skip more)
        match first, last with
        | .literal first, .literal last =>
          if first ≤ last then some (.range first last, rest) else none
        | _, _ => none
  | _ => alone

/-- Hyphens at the start of a set stand for themselves. -/
def takeHyphens (flags : Flags) : Nat → CharSet → List Char → CharSet × List Char
  | 0, set, text => (set, text)
  | bound + 1, set, text =>
    match text with
    | '-' :: rest => takeHyphens flags bound (.union set (.single '-')) (flags.skip rest)
    | _ => (set, text)

mutual

def readSet (flags : Flags) : Nat → List Char → Option (CharSet × List Char)
  | 0, _ => none
  | bound + 1, text =>
    let text := flags.skip text
    let (negated, text) := match text with
      | '^' :: rest => (true, flags.skip rest)
      | _ => (false, text)
    let (members, rest) := takeHyphens flags text.length .none text
    -- A closing bracket at the very start is a member, since no set is empty.
    let (members, rest) :=
      match text with
      | ']' :: after => (.single ']', flags.skip after)
      | _ => (members, rest)
    match readMembers flags bound members none rest with
    | none => none
    | some (set, rest) =>
      let set := flags.close set
      some (if negated then .complement set else set, rest)

def readMembers (flags : Flags) :
    Nat → CharSet → Option (SetOperation × CharSet) → List Char → Option (CharSet × List Char)
  | 0, _, _, _ => none
  | bound + 1, members, left, text =>
    let operate (operation : SetOperation) (rest : List Char) :=
      readMembers flags bound .none (some (operation, flags.combine left members)) rest
    match flags.skip text with
    | [] => none
    | ']' :: rest => some (flags.combine left members, rest)
    | '[' :: rest =>
      match (readAsciiClass rest).or (readSet flags bound rest) with
      | some (inner, rest) => readMembers flags bound (.union members inner) left rest
      | none => none
    | '&' :: '&' :: rest => operate .intersection rest
    | '-' :: '-' :: rest => operate .difference rest
    | '~' :: '~' :: rest => operate .symmetricDifference rest
    | text =>
      match readSetMember flags text with
      | some (inner, rest) => readMembers flags bound (.union members inner) left rest
      | none => none

end

def readCount (text : List Char) : Option Nat × List Char :=
  let text := Text.trimStart text
  let digits := text.takeWhile Char.isDigit
  ((Text.numeral? digits).filter (· < UInt32.size), Text.trimStart (text.dropWhile Char.isDigit))

def readBounds (text : List Char) : Option (Nat × Option Nat × List Char) :=
  match readCount text with
  | (some least, '}' :: rest) => some (least, some least, rest)
  | (some least, ',' :: rest) =>
    match Text.trimStart rest with
    | '}' :: rest => some (least, none, rest)
    | rest =>
      match readCount rest with
      | (some most, '}' :: rest) => if least ≤ most then some (least, some most, rest) else none
      | _ => none
  | _ => none

def readFlags (flags : Flags) (negated : Bool) (seen : List Char) :
    List Char → Option (Flags × List Char × List Char)
  | [] => none
  | c :: rest =>
    if c = ':' ∨ c = ')' then
      if seen.head? = some '-' then none else some (flags, seen, c :: rest)
    else if seen.contains c then none
    else if c = '-' then readFlags flags true (c :: seen) rest
    else if c = 'i' then readFlags { flags with caseless := !negated } negated (c :: seen) rest
    else if c = 'm' then readFlags { flags with multiline := !negated } negated (c :: seen) rest
    else if c = 's' then readFlags { flags with dotAll := !negated } negated (c :: seen) rest
    else if c = 'x' then readFlags { flags with spaced := !negated } negated (c :: seen) rest
    else if c = 'U' ∨ c = 'u' ∨ c = 'R' then readFlags flags negated (c :: seen) rest
    else none

def isGroupName : List Char → Bool
  | [] => false
  | c :: rest =>
    (c == '_' || CharSet.isLetter c) &&
      rest.all fun c => c == '_' || c == '.' || c == '[' || c == ']' || CharSet.isLetter c ||
        CharSet.isDigit c

/-- A level of groups: its finished alternatives, the items of the one that is open, both latest
first, and the flags to return to behind it. An item without a pattern changed the flags. -/
structure Level where
  alternatives : List Pattern
  items : List (Option Pattern)
  flags : Flags

structure Reading where
  flags : Flags
  level : Level
  outer : List Level
  names : List (List Char)

def Level.begin (flags : Flags) : Level := ⟨[], [], flags⟩

def sequenceOf (items : List (Option Pattern)) : Pattern :=
  items.reverse.foldr (fun item rest => match item with
    | none => rest
    | some pattern => .sequence pattern rest) .empty

def Level.pattern (level : Level) : Pattern :=
  level.alternatives.foldl (fun rest pattern => .choice pattern rest) (sequenceOf level.items)

namespace Reading

def add (reading : Reading) (item : Option Pattern) : Reading :=
  { reading with level := { reading.level with items := item :: reading.level.items } }

def repeatLast (reading : Reading) (least : Nat) (most : Option Nat) : Option Reading :=
  match reading.level.items with
  | some pattern :: items =>
    some { reading with
      level := { reading.level with items := some (.repeated least most pattern) :: items } }
  | _ => none

def openGroup (reading : Reading) (text : List Char) : Option (Reading × List Char) :=
  let enter (reading : Reading) (rest : List Char) : Reading × List Char :=
    ({ reading with
      level := .begin reading.flags
      outer := reading.level :: reading.outer }, rest)
  let named (inner : List Char) : Option (Reading × List Char) :=
    match Text.cutFirst ['>'] inner with
    | some (name, rest) =>
      if isGroupName name && !reading.names.contains name then
        some (enter { reading with names := name :: reading.names } rest)
      else none
    | none => none
  match text with
  -- Conditions on what stands around a match.
  | '?' :: '=' :: _ => none
  | '?' :: '!' :: _ => none
  | '?' :: '<' :: '=' :: _ => none
  | '?' :: '<' :: '!' :: _ => none
  | '?' :: 'P' :: '<' :: inner => named inner
  | '?' :: '<' :: inner => named inner
  | '?' :: inner =>
    match readFlags reading.flags false [] inner with
    | some (flags, seen, ')' :: rest) =>
      if seen.isEmpty then none else some ({ reading with flags := flags }.add none, rest)
    | some (flags, _, _ :: rest) =>
      let (entered, rest) := enter reading rest
      some ({ entered with flags := flags }, rest)
    | _ => none
  | _ => some (enter reading text)

def closeGroup (reading : Reading) : Option Reading :=
  match reading.outer with
  | [] => none
  | level :: outer =>
    some ({ reading with flags := reading.level.flags, level := level, outer := outer }.add
      (some reading.level.pattern))

def endAlternative (reading : Reading) : Reading :=
  { reading with level := { reading.level with
    alternatives := sequenceOf reading.level.items :: reading.level.alternatives
    items := [] } }

def addAtom (reading : Reading) : Atom → Reading
  | .literal c => reading.add (some (.chars (reading.flags.close (.single c))))
  | .set members => reading.add (some (.chars (reading.flags.close members)))
  | .anchor condition => reading.add (some (.anchor condition))

end Reading

/-- A question mark behind a repetition asks for short matches first, which makes no difference to
whether there is one. -/
def skipLazy (flags : Flags) (text : List Char) : List Char :=
  match flags.skip text with
  | '?' :: rest => rest
  | rest => rest

/-- Read a pattern; each round takes at least one character. -/
def readFrom : Nat → Reading → List Char → Option Pattern
  | 0, _, _ => none
  | bound + 1, reading, text =>
    let flags := reading.flags
    let repeatBy (least : Nat) (most : Option Nat) (rest : List Char) :=
      (reading.repeatLast least most).bind fun reading => readFrom bound reading (skipLazy flags rest)
    match flags.skip text with
    | [] => if reading.outer.isEmpty then some reading.level.pattern else none
    | '(' :: rest =>
      (reading.openGroup (flags.skip rest)).bind fun (reading, rest) => readFrom bound reading rest
    | ')' :: rest => reading.closeGroup.bind fun reading => readFrom bound reading rest
    | '|' :: rest => readFrom bound reading.endAlternative rest
    | '?' :: rest => repeatBy 0 (some 1) rest
    | '*' :: rest => repeatBy 0 none rest
    | '+' :: rest => repeatBy 1 none rest
    | '{' :: rest => (readBounds rest).bind fun (least, most, rest) => repeatBy least most rest
    | '[' :: rest =>
      (readSet flags (rest.length + 1) rest).bind fun (set, rest) =>
        readFrom bound (reading.add (some (.chars set))) rest
    | '.' :: rest =>
      let set := if flags.dotAll then .any else .complement (.single '\n')
      readFrom bound (reading.add (some (.chars set))) rest
    | '^' :: rest =>
      readFrom bound
        (reading.addAtom (.anchor (if flags.multiline then .lineStart else .textStart))) rest
    | '$' :: rest =>
      readFrom bound
        (reading.addAtom (.anchor (if flags.multiline then .lineEnd else .textEnd))) rest
    | '\\' :: rest =>
      (readEscape rest).bind fun (atom, rest) => readFrom bound (reading.addAtom atom) rest
    | c :: rest => readFrom bound (reading.addAtom (.literal c)) rest

def largest : Nat := 320000

def parse? (text : String) : Option Pattern :=
  let flags : Flags := ⟨false, false, false, false⟩
  let written := text.toList
  (readFrom (written.length + 1) ⟨flags, .begin flags, [], []⟩ written).filter fun pattern =>
    pattern.weight ≤ largest

end Tale.Host.Pattern
