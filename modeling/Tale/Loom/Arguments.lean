import Tale.Path

/-! The command line: which command is to be run, with which options. An option that takes a value
has it in the next argument, behind an equals sign, or, in its short form, right behind its letter.
Behind a double hyphen nothing is an option. -/

set_option autoImplicit false

namespace Tale.Loom

inductive Verb where
  | build
  | check
  | deps
  | play
  deriving DecidableEq, Repr

def Verb.shown : Verb → String
  | build => "build"
  | check => "check"
  | deps => "deps"
  | play => "play"

def Verb.read? (text : String) : Option Verb :=
  [build, check, deps, play].find? fun verb => verb.shown == text

inductive Action where
  | build (directory : Path) (out : Option Path)
  | check (directory : Path)
  | deps (directory : Path) (changed : Option Path)
  | play (root : Path)
  deriving DecidableEq, Repr

inductive Invocation where
  | run (config : Option Path) (action : Action)
  | version (verb : Option Verb)
  deriving DecidableEq, Repr

inductive Refusal where
  | noCommand
  | unknownCommand (text : String)
  | unexpected (argument : String)
  | repeated (option : String)
  | noValue (option : String)
  | noRoot
  deriving DecidableEq, Repr

def Refusal.message : Refusal → String
  | noCommand => "a command is required: build, check, deps or play"
  | unknownCommand text => "unrecognized subcommand '" ++ text ++ "'"
  | unexpected argument => "unexpected argument '" ++ argument ++ "' found"
  | repeated option => "the argument '" ++ option ++ "' cannot be used multiple times"
  | noValue option => "a value is required for '" ++ option ++ "' but none was supplied"
  | noRoot => "a root script is required"

inductive PathOption where
  | config
  | directory
  | out
  | changed
  deriving DecidableEq, Repr

namespace PathOption

def long : PathOption → String
  | config => "--config"
  | directory => "--dir"
  | out => "--out"
  | changed => "--changed"

def short? : PathOption → Option Char
  | config => some 'c'
  | directory => some 'd'
  | out => some 'o'
  | changed => none

def isAllowed (verb : Option Verb) : PathOption → Bool
  | config => true
  | directory => verb = some .build || verb = some .check || verb = some .deps
  | out => verb = some .build
  | changed => verb = some .deps

def read? (verb : Option Verb) (argument : String) : Option (PathOption × Option String) :=
  let dropEquals (text : List Char) := match text with
    | '=' :: rest => rest
    | rest => rest
  ([config, directory, out, changed].filter (isAllowed verb)).findSome? fun option =>
    let name := option.long.toList
    let text := argument.toList
    if text = name then some (option, none)
    else if (name ++ ['=']).isPrefixOf text then
      some (option, some (String.ofList (text.drop (name.length + 1))))
    else
      match option.short?, text with
      | some letter, ['-', c] => if c = letter then some (option, none) else none
      | some letter, '-' :: c :: rest =>
        if c = letter then some (option, some (String.ofList (dropEquals rest))) else none
      | _, _ => none

end PathOption

structure Reading where
  verb : Option Verb
  values : List (PathOption × Path)
  root : Option Path

namespace Reading

def empty : Reading := ⟨none, [], none⟩

def value? (reading : Reading) (option : PathOption) : Option Path := reading.values.lookup option

/-- Give an option its value. An empty one counts as none. -/
def bind (reading : Reading) (option : PathOption) (value : String) : Except Refusal Reading :=
  if value.isEmpty then .error (.noValue option.long)
  else if (reading.value? option).isSome then .error (.repeated option.long)
  else .ok { reading with values := (option, value) :: reading.values }

def takePlain (reading : Reading) (argument : String) : Except Refusal Reading :=
  match reading.verb with
  | none =>
    match Verb.read? argument with
    | some verb => .ok { reading with verb := some verb }
    | none => .error (.unknownCommand argument)
  | some .play =>
    if argument.isEmpty then .error .noRoot
    else if reading.root.isNone then .ok { reading with root := some argument }
    else .error (.unexpected argument)
  | some _ => .error (.unexpected argument)

def finish (reading : Reading) : Except Refusal Invocation :=
  let directory := (reading.value? .directory).getD "."
  let run (action : Action) := .ok (.run (reading.value? .config) action)
  match reading.verb with
  | none => .error .noCommand
  | some .build => run (.build directory (reading.value? .out))
  | some .check => run (.check directory)
  | some .deps => run (.deps directory (reading.value? .changed))
  | some .play =>
    match reading.root with
    | some root => run (.play root)
    | none => .error .noRoot

end Reading

def readFrom (reading : Reading) : List String → Except Refusal Invocation
  | [] => reading.finish
  | "--" :: rest => do
    let reading ← rest.foldlM Reading.takePlain reading
    reading.finish
  | argument :: rest =>
    if argument = "--version" ∨ argument = "-V" then .ok (.version reading.verb)
    else
      match PathOption.read? reading.verb argument, rest with
      | some (option, some value), rest => do readFrom (← reading.bind option value) rest
      | some (option, none), value :: rest =>
        if value.startsWith "-" && value != "-" then .error (.noValue option.long)
        else do readFrom (← reading.bind option value) rest
      | some (option, none), [] => .error (.noValue option.long)
      | none, rest =>
        if argument.startsWith "-" && argument != "-" then .error (.unexpected argument)
        else do readFrom (← reading.takePlain argument) rest

def Invocation.read (arguments : List String) : Except Refusal Invocation :=
  readFrom .empty arguments

end Tale.Loom
