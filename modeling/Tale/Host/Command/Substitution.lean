import Tale.Host.Command.Basic
import Tale.Host.Pattern.Reader

/-! Replacing what a pattern matches, line by line: the command `sed` with substitutions. A match is
the longest one at the first place that has any; only the first match of a line is replaced, or all
of them if the substitution is global. -/

set_option autoImplicit false

namespace Tale.Host.Substitution

open Tale.Filter (Outcome)

inductive Part where
  | char (c : Char)
  | matched
  deriving DecidableEq, Repr

structure Rule where
  pattern : Pattern
  replacement : List Part
  isGlobal : Bool
  deriving Repr

def cutAt (delimiter : Char) (read : List Char) : List Char → Option (List Char × List Char)
  | [] => none
  | '\\' :: c :: rest =>
    cutAt delimiter (if c = delimiter then c :: read else c :: '\\' :: read) rest
  | c :: rest => if c = delimiter then some (read.reverse, rest) else cutAt delimiter (c :: read) rest

def readSet (members : Pattern.CharSet) : List Char → Option (Pattern.CharSet × List Char)
  | [] => none
  | ']' :: rest => some (members, rest)
  | first :: '-' :: ']' :: rest => some (.union (.union members (.single first)) (.single '-'), rest)
  | first :: '-' :: last :: rest => readSet (.union members (.range first last)) rest
  | c :: rest => readSet (.union members (.single c)) rest

/-- A set behind its opening bracket; a closing one at the start is a member. -/
def readBracket (text : List Char) : Option (Pattern.CharSet × List Char) :=
  match text with
  | '^' :: ']' :: rest => (readSet (.single ']') rest).map fun (set, rest) => (.complement set, rest)
  | '^' :: rest => (readSet .none rest).map fun (set, rest) => (.complement set, rest)
  | ']' :: rest => readSet (.single ']') rest
  | rest => readSet .none rest

def repeatLast (least : Nat) (most : Option Nat) : List Pattern → Option (List Pattern)
  | [] => none
  | last :: items => some (.repeated least most last :: items)

/-- Read a basic pattern; the items are those read before, the latest first. -/
def readItems : Nat → List Pattern → List Char → Option (List Pattern)
  | 0, _, _ => none
  | bound + 1, items, text =>
    let literal (c : Char) (rest : List Char) := readItems bound (.chars (.single c) :: items) rest
    match text with
    | [] => some items
    | ['$'] => some (.anchor .textEnd :: items)
    | '^' :: rest =>
      if items.isEmpty then readItems bound [.anchor .textStart] rest else literal '^' rest
    | '.' :: rest => readItems bound (.chars .any :: items) rest
    | '[' :: rest => do
      let (set, rest) ← readBracket rest
      readItems bound (.chars set :: items) rest
    | '*' :: rest =>
      match items with
      | [] => literal '*' rest
      | [.anchor .textStart] => literal '*' rest
      | _ => do readItems bound (← repeatLast 0 none items) rest
    | ['\\'] => none
    | '\\' :: c :: rest =>
      if c = '+' then do readItems bound (← repeatLast 1 none items) rest
      else if c = '?' then do readItems bound (← repeatLast 0 (some 1) items) rest
      else if c = 'n' then literal '\n' rest
      else if c = 't' then literal '\t' rest
      else if c.isAlphanum || "(){}|".toList.contains c then none
      else literal c rest
    | c :: rest => literal c rest

def readPattern (text : List Char) : Option Pattern :=
  (readItems (text.length + 1) [] text).map fun items =>
    items.reverse.foldr .sequence .empty

def readReplacement : List Char → List Part
  | [] => []
  | '\\' :: 'n' :: rest => .char '\n' :: readReplacement rest
  | '\\' :: 't' :: rest => .char '\t' :: readReplacement rest
  | '\\' :: c :: rest => .char c :: readReplacement rest
  | '&' :: rest => .matched :: readReplacement rest
  | c :: rest => .char c :: readReplacement rest

def readRule (script : List Char) : Option (Rule × List Char) := do
  match script with
  | 's' :: delimiter :: rest =>
    let (pattern, rest) ← cutAt delimiter [] rest
    let (replacement, rest) ← cutAt delimiter [] rest
    let pattern ← readPattern pattern
    match rest with
    | 'g' :: rest => some (⟨pattern, readReplacement replacement, true⟩, rest)
    | rest => some (⟨pattern, readReplacement replacement, false⟩, rest)
  | _ => none

def readScript : Nat → List Char → Option (List Rule)
  | 0, _ => none
  | bound + 1, script => do
    let (rule, rest) ← readRule (script.dropWhile (· == ' '))
    match rest.dropWhile (· == ' ') with
    | [] => some [rule]
    | ';' :: rest => (readScript bound rest).map (rule :: ·)
    | _ => none

def Part.written (matched : List Char) : Part → List Char
  | .char c => [c]
  | .matched => matched

/-- Replace matches from a place on; `bound` places are left, and behind a match an empty one does
not count. -/
def Rule.applyFrom (rule : Rule) (text : Array Char) :
    (bound place : Nat) → (afterMatch : Bool) → List Char
  | 0, _, _ => []
  | bound + 1, place, afterMatch =>
    let ends := (rule.pattern.ends text [place]).filter fun stop =>
      !(afterMatch && stop == place)
    let here := (text[place]?).toList
    match ends.max? with
    | none => here ++ rule.applyFrom text bound (place + 1) false
    | some stop =>
      let matched := (text.extract place stop).toList
      let written := rule.replacement.flatMap (Part.written matched)
      if !rule.isGlobal then written ++ (text.extract stop text.size).toList
      else if stop = place then
        written ++ here ++ rule.applyFrom text bound (place + 1) false
      else written ++ rule.applyFrom text bound stop true

def Rule.apply (rule : Rule) (line : List Char) : List Char :=
  rule.applyFrom line.toArray (line.length + 1) 0 false

def run (arguments : List String) (input : String) : Outcome :=
  let script := match arguments with
    | ["-e", script] => some script
    | [script] => some script
    | _ => none
  match script with
  | none => .failure 1 "sed: no usable script\n"
  | some script =>
    match readScript (script.length + 1) script.toList with
    | none => .failure 1 "sed: -e expression #1, char 0: unknown command\n"
    | some rules =>
      let line (line : List Char) :=
        rules.foldl (fun line rule => rule.apply line) line
      let lines := input.toList.splitOn '\n'
      let edited := match lines.reverse with
        | [] :: whole => (whole.reverse.map line) ++ [[]]
        | _ => lines.map line
      .success (Text.encode (String.ofList (['\n'].intercalate edited)))

end Tale.Host.Substitution
