import Tale.Disk.Change
import Tale.Loom.Arguments
import Tale.Loom.Table
import Tale.Loom.Terminal
import Tale.Project.Build
import Tale.Project.Discovery
import Tale.Project.FileReport
import Tale.Settings.Lookup

/-! The program `loom`: building all roots of a directory, checking them, showing what includes
what, and playing a story. -/

set_option autoImplicit false

namespace Tale.Loom

inductive Failure where
  | settings (error : Settings.LookupError)
  | scan (error : Project.ScanError)
  | noRoots (directory : Path)
  | noFile (root : Path)
  | notCompiled
  | notCreated (directory : Path) (error : DiskError)
  | notEncoded
  | notWritten (file : Path) (error : DiskError)
  | session (error : Live.SessionError)
  deriving DecidableEq, Repr

def Failure.message : Failure → String
  | settings error => error.message
  | scan error => error.message
  | noRoots directory => "no story roots found in '" ++ directory.shown ++ "'"
  | noFile root => "'" ++ root.shown ++ "' not found"
  | notCompiled => "compilation failed with errors"
  | notCreated directory error =>
    "cannot create '" ++ directory.shown ++ "': " ++ error.message
  | notEncoded => "invalid module: path contains invalid UTF-8 characters"
  | notWritten file error => "cannot write '" ++ file.shown ++ "': " ++ error.message
  | session error => error.message

/-- What a command leaves behind: what it printed, what it reported besides, why it failed if it
did, and the disk. The documents it asked for are those by which its result was decided. -/
structure Outcome where
  output : String
  reports : String
  failure : Option Failure
  disk : Disk
  documents : List Path

namespace Outcome

def failed (disk : Disk) (failure : Failure) : Outcome := ⟨"", "", some failure, disk, []⟩

def status (outcome : Outcome) : Nat := if outcome.failure.isSome then 1 else 0

def complaints (outcome : Outcome) : String :=
  outcome.reports ++ (outcome.failure.map fun failure => "error: " ++ failure.message ++ "\n").getD ""

end Outcome

def plural (count : Nat) (noun : String) : String :=
  toString count ++ " " ++ noun ++ (if count = 1 then "" else "s")

def countLine (diagnostics : List Script.Diagnostic) : String :=
  let count (severity : Script.Severity) :=
    (diagnostics.filter fun diagnostic => diagnostic.severity == severity).length
  let errors := count .error
  let warnings := count .warning
  if 0 < errors then "  " ++ plural errors "error" ++ ", " ++ plural warnings "warning" ++ "\n"
  else if 0 < warnings then "  " ++ plural warnings "warning" ++ "\n"
  else ""

def reports (disk : Disk) (diagnostics : List Script.Diagnostic) : String :=
  Script.reportAll disk diagnostics ++ countLine diagnostics

/-- What the program relies on and does not provide. -/
structure Tools where
  run : Filter.Runner
  readPattern : String → Option Pattern

def rulesFor (tools : Tools) (disk : Disk) (config : Option Path) (directory : Path) :
    Except Failure Rules := do
  let settings ← (match config with
    | some path => Settings.load disk path
    | none => Settings.discover disk (disk.identify directory)).mapError Failure.settings
  (settings.resolve tools.readPattern).mapError fun problem => .settings (.invalid problem)

structure Gathering where
  project : Project
  sources : Project.Sources
  builds : List Project.Build
  /-- The directory that paths are shown from. -/
  base : Path

namespace Gathering

def units (gathering : Gathering) : List StoryUnit :=
  gathering.builds.filterMap fun build => build.result.toOption

def isComplete (gathering : Gathering) : Bool :=
  gathering.builds.all fun build => build.result.toOption.isSome

def reported (gathering : Gathering) : List Script.Diagnostic :=
  gathering.builds.flatMap Project.Build.reported

def shown (gathering : Gathering) (path : Path) : String :=
  ((path.below? gathering.base).getD path).shown

def documents (gathering : Gathering) : List Path :=
  gathering.builds.map Project.Build.root ++ gathering.project.edges.includers.keys

def outcome (gathering : Gathering) (disk : Disk) (output : String) (failure : Option Failure) :
    Outcome :=
  ⟨output, reports disk gathering.reported, failure, disk, gathering.documents⟩

end Gathering

def gather (tools : Tools) (disk : Disk) (serial : Nat) (config : Option Path) (directory : Path) :
    Except Failure Gathering := do
  let rules ← rulesFor tools disk config directory
  let roots ← (Project.discover disk rules directory).mapError Failure.scan
  if roots.isEmpty then throw (.noRoots directory)
  let sources := disk.sources (rules.loader tools.run)
  let (builds, project) := (Project.ofRules rules serial).buildAll sources roots
  return ⟨project, sources, builds, disk.identify directory⟩

def unitFile (base out : Path) (unit : StoryUnit) : Path :=
  (out.join ((unit.root.below? base).getD unit.root)).withExtension "json"

def writeUnit (base out : Path) (disk : Disk) (unit : StoryUnit) : Except Failure Disk := do
  let file := unitFile base out unit
  let disk ← match file.parent? with
    | some parent => (disk.ensureDirectories parent).mapError (Failure.notCreated parent)
    | none => pure disk
  match unit.encode? with
  | some envelope => (disk.write file (Text.encode envelope)).mapError (Failure.notWritten file)
  | none => throw .notEncoded

/-- Write the envelopes of some units, up to the first that cannot be written. -/
def writeUnits (base out : Path) : Disk → List StoryUnit → Option Failure × Disk
  | disk, [] => (none, disk)
  | disk, unit :: units =>
    match writeUnit base out disk unit with
    | .ok disk => writeUnits base out disk units
    | .error failure => (some failure, disk)

def padRight (width : Nat) (text : String) : String :=
  text ++ String.ofList (List.replicate (width - text.length) ' ')

def padLeft (width : Nat) (text : String) : String :=
  String.ofList (List.replicate (width - text.length) ' ') ++ text

def unitLine (gathering : Gathering) (unit : StoryUnit) : String :=
  let knots := unit.artifact.knots.size
  "  " ++ padRight 32 (gathering.shown unit.root) ++ " " ++ padLeft 3 (toString knots) ++
    (if knots = 1 then " knot\n" else " knots\n")

def buildSummary (gathering : Gathering) : String :=
  String.join (gathering.units.map (unitLine gathering)) ++ "\n  Built " ++
    toString gathering.units.length ++ " of " ++ toString gathering.builds.length ++ " roots.\n"

def build (gathering : Gathering) (disk : Disk) (out : Option Path) : Outcome :=
  let (failure, written) := match out with
    | some out => writeUnits gathering.base out disk gathering.units
    | none => (none, disk)
  let unbuilt := if gathering.isComplete then none else some Failure.notCompiled
  -- Reports are about the disk as it was read; what was written is kept either way.
  { gathering.outcome disk (if failure.isSome then "" else buildSummary gathering)
      (failure.or unbuilt) with disk := written }

def check (gathering : Gathering) (disk : Disk) : Outcome :=
  if gathering.isComplete then
    gathering.outcome disk ("  All checks passed.\n  " ++ toString gathering.units.length ++
      " roots, " ++ toString gathering.project.edges.edgeCount ++ " includes\n") none
  else gathering.outcome disk "" (some .notCompiled)

def includeTable (gathering : Gathering) : String :=
  let edges := gathering.project.edges
  Table.draw ["Include", "Included by"] (edges.includers.entries.map fun (file, roots) =>
    [gathering.shown file, ", ".intercalate (roots.keys.map gathering.shown)]) ++
    "\n\n  " ++ toString edges.edgeCount ++ " includes across " ++ toString edges.included.size ++
    " roots\n"

def deps (gathering : Gathering) (disk : Disk) (changed : Option Path) : Outcome :=
  let output := match changed with
    | some changed =>
      let changed := gathering.sources.identify changed
      let roots := (gathering.project.rootsFor gathering.sources changed).keys
      if roots.isEmpty then "  No roots depend on '" ++ gathering.shown changed ++ "'.\n"
      else String.join (roots.map fun root => "  " ++ gathering.shown root ++ "\n")
    | none =>
      if gathering.project.edges.isEmpty then "  No includes found.\n" else includeTable gathering
  gathering.outcome disk output none

structure Opening where
  result : Except Failure Play
  reports : String
  documents : List Path

def openPlay (tools : Tools) (disk : Disk) (serial : Nat) (config : Option Path) (path : Path) :
    Opening :=
  let root := disk.identify path
  if !disk.isFile root then ⟨.error (.noFile root), "", []⟩
  else
    match rulesFor tools disk config (root.parent?.getD "") with
    | .error failure => ⟨.error failure, "", []⟩
    | .ok rules =>
      let sources := disk.sources (rules.loader tools.run)
      let (build, project) := (Project.ofRules rules serial).build sources root
      let result := match build.result with
        | .error _ => .error .notCompiled
        | .ok unit =>
          match unit.story with
          | .ok story => .ok (Play.start story)
          | .error error => .error (.session (.story error))
      ⟨result, reports disk build.reported, root :: project.edges.includers.keys⟩

def play (tools : Tools) (disk : Disk) (serial : Nat) (config : Option Path) (path : Path)
    (lines : List String) : Outcome :=
  let opening := openPlay tools disk serial config path
  let (output, failure) := match opening.result with
    | .error failure => ("", some failure)
    | .ok play =>
      match play.answerAll lines with
      | .ok play => (play.printed, none)
      | .error error => (play.printed, some (.session error))
  ⟨output, opening.reports, failure, disk, opening.documents⟩

def run (tools : Tools) (disk : Disk) (serial : Nat) (config : Option Path) (action : Action)
    (lines : List String) : Outcome :=
  let gathered (directory : Path) (report : Gathering → Outcome) :=
    match gather tools disk serial config directory with
    | .ok gathering => report gathering
    | .error failure => .failed disk failure
  match action with
  | .build directory out => gathered directory fun gathering => build gathering disk out
  | .check directory => gathered directory fun gathering => check gathering disk
  | .deps directory changed => gathered directory fun gathering => deps gathering disk changed
  | .play root => play tools disk serial config root lines

def versionLine (verb : Option Verb) : String :=
  "loom" ++ (verb.map fun verb => "-" ++ verb.shown).getD "" ++ " 0.1.0\n"

end Tale.Loom
