import Tale.Disk.Change
import Tale.Host.Command.Substitution
import Tale.Host.Command.Transliteration

/-! Scripts of the shell: commands one after the other, each a row of words whose output may go
where complaints go. A word may hold what another script writes. The scripts that can be run have no
other means of putting commands together; what a script reads is the text that its filter was given. -/

set_option autoImplicit false

namespace Tale.Host.Shell

open Tale.Filter (Ending Outcome)

inductive Sign where
  | word (bytes : List UInt8)
  | separator
  | toComplaints
  deriving DecidableEq, Repr

inductive Quoting where
  | bare
  | single
  | double

/-- The word that `$$` stands for: the shell itself. -/
def selfWord : List UInt8 := Text.encode "self"

/-- How far a script has been read: its signs and the bytes of the word that is open, both latest
first. -/
structure Reading where
  signs : List Sign
  word : Option (List UInt8)

namespace Reading

def put (reading : Reading) (bytes : List UInt8) : Reading :=
  { reading with word := some (bytes.reverse ++ reading.word.getD []) }

def putChar (reading : Reading) (c : Char) : Reading := reading.put (Text.encode c.toString)

def finish (reading : Reading) : Reading :=
  match reading.word with
  | some word => ⟨.word word.reverse :: reading.signs, none⟩
  | none => reading

def sign (reading : Reading) (sign : Sign) : Reading := ⟨sign :: reading.finish.signs, none⟩

def startWord (reading : Reading) : Reading := reading.put []

def isBlankByte (byte : UInt8) : Bool := byte == 32 || byte == 9 || byte == 10

/-- Put what stands for something else; outside of quotes, blanks in it divide the word. -/
def expand (quoting : Quoting) (content : List UInt8) (reading : Reading) : Reading :=
  match quoting with
  | .bare => content.foldl (fun reading byte =>
      if isBlankByte byte then reading.finish else reading.put [byte]) reading
  | _ => reading.put content

end Reading

def isNameChar (c : Char) : Bool := c.isAlphanum || c == '_'

def isReserved (c : Char) : Bool := "|&<>()\x60*?#".toList.contains c

structure Meanings where
  value : String → List UInt8
  written : String → List UInt8

def readSigns (meanings : Meanings) :
    Nat → Quoting → Reading → List Char → Option (List Sign)
  | 0, _, _, _ => none
  | bound + 1, quoting, reading, text =>
    let read := readSigns meanings bound
    match quoting, text with
    | .bare, [] => some reading.finish.signs.reverse
    | _, [] => none
    | .single, c :: rest =>
      if c = '\'' then read .bare reading rest else read .single (reading.putChar c) rest
    | quoting, '$' :: '$' :: rest => read quoting (reading.expand quoting selfWord) rest
    | quoting, '$' :: '(' :: rest =>
      let inner := rest.takeWhile (· != ')')
      let content := meanings.written (String.ofList inner)
      read quoting (reading.expand quoting content) ((rest.dropWhile (· != ')')).drop 1)
    | quoting, '$' :: rest =>
      let name := rest.takeWhile isNameChar
      if name.isEmpty then read quoting (reading.putChar '$') rest
      else read quoting (reading.expand quoting (meanings.value (String.ofList name)))
        (rest.dropWhile isNameChar)
    | .double, '\\' :: c :: rest =>
      if "\\\"$\x60".toList.contains c then read .double (reading.putChar c) rest
      else read .double ((reading.putChar '\\').putChar c) rest
    | .double, c :: rest =>
      if c = '"' then read .bare reading rest else read .double (reading.putChar c) rest
    | .bare, '\\' :: c :: rest => read .bare (reading.putChar c) rest
    | .bare, '>' :: '&' :: '2' :: rest => read .bare (reading.sign .toComplaints) rest
    | .bare, c :: rest =>
      if c = '\'' then read .single reading.startWord rest
      else if c = '"' then read .double reading.startWord rest
      else if c = ' ' ∨ c = '\t' then read .bare reading.finish rest
      else if c = ';' ∨ c = '\n' then read .bare (reading.sign .separator) rest
      else if isReserved c then none
      else read .bare (reading.putChar c) rest

structure Line where
  words : List (List UInt8)
  toComplaints : Bool
  deriving DecidableEq, Repr

def linesOf (signs : List Sign) : List Line :=
  (signs.splitOn .separator).map fun line =>
    ⟨line.filterMap fun sign => match sign with
      | .word bytes => some bytes
      | _ => none, line.contains .toComplaints⟩

/-- Fill a format once: escapes are resolved and each `%s` takes an argument. The number says how
many characters still belong to an escape that was read. -/
def fill : Nat → List Char → List (List UInt8) → List UInt8
  | _, [], _ => []
  | passed + 1, _ :: rest, arguments => fill passed rest arguments
  | 0, '%' :: '%' :: rest, arguments => 37 :: fill 0 rest arguments
  | 0, '%' :: 's' :: rest, arguments => arguments.headD [] ++ fill 0 rest arguments.tail
  | 0, '\\' :: rest, arguments =>
    match octalEscape 3 rest with
    | some (byte, digits) => byte :: fill digits rest arguments
    | none =>
      match rest.head?.bind letterEscape? with
      | some byte => byte :: fill 1 rest arguments
      | none => 92 :: fill 0 rest arguments
  | 0, c :: rest, arguments => Text.encode c.toString ++ fill 0 rest arguments

def baseName (path : List UInt8) : List UInt8 :=
  match ((Path.mk path).pieces.filter fun piece => !piece.isEmpty).getLast? with
  | some name => name
  | none => if path.isEmpty then [] else [slash]

/-- A script while it runs: what is left to read, what was written, the last status, and the nodes
that were made, latest first. -/
structure Progress where
  input : List UInt8
  output : List UInt8
  complaint : List UInt8
  status : Nat
  made : List (Path × Node)

namespace Progress

def after (progress : Progress) (toComplaints : Bool) (outcome : Outcome) : Progress :=
  let status := match outcome.ending with
    | .exit status => status
    | .signal number _ => 128 + number
  if toComplaints then
    { progress with
      complaint := progress.complaint ++ outcome.output ++ outcome.complaint
      status := status }
  else
    { progress with
      output := progress.output ++ outcome.output
      complaint := progress.complaint ++ outcome.complaint
      status := status }

def finished (progress : Progress) (ending : Ending) : Outcome × List (Path × Node) :=
  (⟨progress.output, progress.complaint, ending⟩, progress.made.reverse)

end Progress

def runProgram? (program : String) (arguments : List (List UInt8)) (input : List UInt8) :
    Option (Outcome × Bool) :=
  let texts := arguments.map Text.decodeLossy
  match program with
  | "cat" => some (.success input, true)
  | "tr" => some (Transliteration.run texts input, true)
  | "sed" =>
    match Text.decode? input with
    | some text => some (Substitution.run texts text, true)
    | none => some (.failure 1 "sed: not a text\n", true)
  | "true" => some (.success [], false)
  | "false" => some (.failure 1 "", false)
  | "echo" => some (.success ([32].intercalate arguments ++ [10]), false)
  | "printf" => some (.success (fill 0 (texts.headD "").toList arguments.tail), false)
  | "basename" => some (.success (baseName (arguments.headD []) ++ [10]), false)
  | _ => none

def signalNumber? (flag : String) : Option Nat :=
  ((flag.toList.drop 1).foldlM (fun value c =>
    if c.isDigit then some (10 * value + (c.toNat - '0'.toNat)) else none) 0)

/-- Run the commands of a script in order, up to one that ends the shell. The document that it is run
for can be copied. -/
def runLines (source : Path) (document : List UInt8) :
    List Line → Progress → Outcome × List (Path × Node)
  | [], progress => progress.finished (.exit progress.status)
  | ⟨[], _⟩ :: rest, progress => runLines source document rest progress
  | ⟨program :: arguments, toComplaints⟩ :: rest, progress =>
    let next := runLines source document rest
    match Text.decodeLossy program, arguments with
    | "exit", [] => progress.finished (.exit progress.status)
    | "exit", status :: _ =>
      progress.finished (.exit (((Text.decodeLossy status).toNat?.getD 2) % 256))
    | "kill", [flag, target] =>
      match signalNumber? (Text.decodeLossy flag) with
      | some number =>
        if target = selfWord then progress.finished (.signal number false)
        else next (progress.after false (.failure 1 "sh: 1: kill: No such process\n"))
      -- A signal that cannot be sent leaves the shell running.
      | none => next (progress.after false (.failure 2 "sh: 1: kill: Illegal option\n"))
    | "kill", [target] =>
      if target = selfWord then progress.finished (.signal 15 false)
      else next (progress.after false (.failure 1 "sh: 1: kill: No such process\n"))
    | "mkdir", [flag, directory] =>
      if flag = Text.encode "-p" then
        next ({ progress with made := (⟨directory⟩, .directory) :: progress.made }.after
          toComplaints (.success []))
      else next (progress.after false (.failure 1 "mkdir: cannot create directory\n"))
    | "cp", [original, copy] =>
      if original = source.spelling then
        next ({ progress with made := (⟨copy⟩, .file document) :: progress.made }.after
          toComplaints (.success []))
      else next (progress.after false (.failure 1 "cp: cannot stat\n"))
    | program, arguments =>
      match runProgram? program arguments progress.input with
      | some (outcome, reads) =>
        next ({ progress with input := if reads then [] else progress.input }.after
          toComplaints outcome)
      | none =>
        next (progress.after false (.failure 127 ("sh: 1: " ++ program ++ ": not found\n")))

/-- Run a script on a text; the variable `LOOM_SOURCE` holds the path that the text came from. Scripts
within words lie at most `depth` deep. -/
def runWithin (depth : Nat) (script : String) (source : Path) (input : String) :
    Outcome × List (Path × Node) :=
  let value (name : String) := if name = "LOOM_SOURCE" then source.spelling else []
  let written (inner : String) := match depth with
    | 0 => []
    | depth + 1 =>
      -- Line ends at the end of what is written do not count.
      ((runWithin depth inner source "").1.output.reverse.dropWhile (· == 10)).reverse
  match readSigns ⟨value, written⟩ (script.length + 1) .bare ⟨[], none⟩ script.toList with
  | some signs =>
    runLines source (Text.encode input) (linesOf signs) ⟨Text.encode input, [], [], 0, []⟩
  | none => (.failure 2 "sh: 1: Syntax error\n", [])

def run (script : String) (source : Path) (input : String) : Outcome × List (Path × Node) :=
  runWithin 1 script source input

end Tale.Host.Shell
