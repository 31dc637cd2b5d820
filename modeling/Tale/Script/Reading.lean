import Tale.Script.Diagnostic

/-! The reading order of a root document and what it includes. An include line stands for the
document that it names, once: a name that was resolved before and a document that was opened
before are passed over. Reading keeps what it asked for, and leaves a single row of entries in
which the place of every included document is marked. -/

set_option autoImplicit false

namespace Tale.Script

/-- How include lines are followed. `load` gives the text of a document or the reason why there is
none, and `capacity` bounds how many documents it can load. -/
structure Includes where
  resolve : String → Path
  load : Path → Except String String
  capacity : Nat

inductive Consultation where
  | resolve (name : String) (path : Path)
  | load (path : Path)
  deriving DecidableEq, Repr

inductive Entry where
  | report (diagnostic : Diagnostic)
  | statement (file : Path) (span : Span) (item : Item)
  | opened
  | closed
  deriving DecidableEq, Repr

/-- How far reading has come; the lists hold the latest first. -/
structure Progress where
  names : List String
  paths : List Path
  consulted : List Consultation
  entries : List Entry

namespace Progress

def start (root : Path) : Progress := ⟨[], [root], [], []⟩

def meet (progress : Progress) (entry : Entry) : Progress :=
  { progress with entries := entry :: progress.entries }

def report (progress : Progress) (finding : Finding) (file : Path) (span : Span) : Progress :=
  progress.meet (.report (finding.inFile file span))

end Progress

def readInclude (includes : Includes) (enter : Path → String → Progress → Progress)
    (file : Path) (name : String) (span : Span) (progress : Progress) : Progress :=
  if progress.names.contains name then progress
  else
    -- Two names may lead to one document, which is opened once nevertheless.
    let path := includes.resolve name
    let progress := { progress with
      names := name :: progress.names
      consulted := .resolve name path :: progress.consulted }
    if progress.paths.any (Path.same path) then progress
    else
      let progress := { progress with
        paths := path :: progress.paths
        consulted := .load path :: progress.consulted }
      match includes.load path with
      | .ok text => (enter path text (progress.meet .opened)).meet .closed
      | .error reason => progress.report (.unreadableInclude path reason) file span

def readItem (includes : Includes) (enter : Path → String → Progress → Progress) (file : Path)
    (progress : Progress) (item : Item × Span) : Progress :=
  match item with
  | (.inclusion name, span) => readInclude includes enter file name span progress
  | (item, span) => progress.meet (.statement file span item)

def readDocument (includes : Includes) (enter : Path → String → Progress → Progress)
    (file : Path) (text : String) (progress : Progress) : Progress :=
  let tokens := tokens text.toList
  let progress := (readFaults tokens).foldl
    (fun progress (fault, span) => progress.report (.malformed fault) file span) progress
  (readItems tokens).foldl (readItem includes enter file) progress

/-- A document nested deeper than there are documents; with an honest capacity there is none. -/
def refuse (path : Path) (_ : String) (progress : Progress) : Progress :=
  progress.report (.unreadableInclude path "includes are nested too deeply") path ⟨0, 0⟩

def readNested (includes : Includes) : Nat → Path → String → Progress → Progress
  | 0 => readDocument includes refuse
  | depth + 1 => readDocument includes (readNested includes depth)

structure ReadingOrder where
  entries : List Entry
  consulted : List Consultation

def readRoot (includes : Includes) (root : Path) (text : String) : ReadingOrder :=
  let progress := readNested includes includes.capacity root text (.start root)
  ⟨progress.entries.reverse, progress.consulted.reverse⟩

end Tale.Script
