import Tale.Script.Reading
import Tale.Story.Artifact

/-! Putting a story together from the entries of its documents in reading order. Statements go to
the knot that is open; an included document begins in the knot that was open at its include line,
and that knot is open again after it. Targets are checked once all knots are known. -/

set_option autoImplicit false

namespace Tale.Script

structure Mention where
  name : String
  file : Path
  span : Span
  deriving DecidableEq, Repr

/-- A story under way. Steps, mentions and diagnostics are kept with the latest first. -/
structure Draft where
  knots : Dictionary String (List Step)
  origins : Dictionary String (Path × Span)
  globals : Dictionary String Value
  current : String
  suspended : List String
  mentions : List Mention
  diagnostics : List Diagnostic

namespace Draft

def start : Draft where
  knots := Dictionary.empty.insert Artifact.rootKnot []
  origins := Dictionary.empty
  globals := Dictionary.empty
  current := Artifact.rootKnot
  suspended := []
  mentions := []
  diagnostics := []

def report (draft : Draft) (diagnostic : Diagnostic) : Draft :=
  { draft with diagnostics := diagnostic :: draft.diagnostics }

def steps (draft : Draft) : List Step := (draft.knots.find? draft.current).getD []

def withSteps (draft : Draft) (steps : List Step) : Draft :=
  { draft with knots := draft.knots.insert draft.current steps }

/-- Two names stand for the end of the story; any other is a knot to be found later. -/
def target (name : String) : Target :=
  if name = "END" ∨ name = "DONE" then .ending else .knot name

def mention (draft : Draft) (file : Path) (span : Span) : Target → Draft
  | .ending => draft
  | .knot name => { draft with mentions := ⟨name, file, span⟩ :: draft.mentions }

/-- Add a step to the open knot; behind a choice block it could never be reached. -/
def addStep (draft : Draft) (file : Path) (span : Span) (step : Step) : Draft :=
  match draft.steps with
  | .choices _ :: _ => draft.report (Finding.unreachable.inFile file span)
  | steps => draft.withSteps (step :: steps)

def pointCount : Step → Nat
  | .choices points => points.length
  | _ => 0

/-- Add a choice to the choice block at the end of the open knot, or begin one. -/
def addChoice (draft : Draft) (line : ChoiceLine) : Draft :=
  -- Numbers run through the whole knot, so no two of its choices share an id.
  let number := (draft.steps.map pointCount).foldr (· + ·) 0
  let point : ChoicePoint :=
    ⟨draft.current ++ "." ++ String.ofList (Text.naturalDigits number), line.text, line.sticky,
      line.condition, target line.target⟩
  match draft.steps with
  | .choices points :: rest => draft.withSteps (.choices (points ++ [point]) :: rest)
  | steps => draft.withSteps (.choices [point] :: steps)

def declare (draft : Draft) (file : Path) (span : Span) (name : String) (value : Value) : Draft :=
  if draft.globals.contains name then
    draft.report ((Finding.redeclaredVariable name).inFile file span)
  else { draft with globals := draft.globals.insert name value }

def beginKnot (draft : Draft) (file : Path) (span : Span) (name : String) : Draft :=
  if draft.knots.contains name then draft.report ((Finding.redefinedKnot name).inFile file span)
  else { draft with
    knots := draft.knots.insert name []
    origins := draft.origins.insert name (file, span)
    current := name }

def state (draft : Draft) (file : Path) (span : Span) : Item → Draft
  | .inclusion _ => draft
  | .declaration name value => draft.declare file span name value
  | .knot name => draft.beginKnot file span name
  | .text text => draft.addStep file span (.text text)
  | .divert name =>
    (draft.mention file span (target name)).addStep file span (.divert (target name))
  | .assignment name value => draft.addStep file span (.set name value)
  | .choice line => (draft.mention file span (target line.target)).addChoice line
  | .note text => draft.report ((Finding.note text).inFile file span)

def take (draft : Draft) : Entry → Draft
  | .report diagnostic => draft.report diagnostic
  | .statement file span item => draft.state file span item
  | .opened => { draft with suspended := draft.current :: draft.suspended }
  | .closed =>
    match draft.suspended with
    | [] => draft
    | knot :: outer => { draft with current := knot, suspended := outer }

def unknownMentions (draft : Draft) : List Diagnostic :=
  (draft.mentions.reverse.filter fun mention => !draft.knots.contains mention.name).map
    fun mention => (Finding.unknownKnot mention.name).inFile mention.file mention.span

/-- A knot is finished if its last step leads on. -/
def isFinished : List Step → Bool
  | .divert _ :: _ => true
  | .choices _ :: _ => true
  | _ => false

def unfinishedKnots (draft : Draft) : List Diagnostic :=
  (draft.origins.entries.filter fun (name, _) =>
      !isFinished ((draft.knots.find? name).getD [])).map
    fun (name, file, span) => (Finding.unfinishedKnot name).inFile file span

def findings (draft : Draft) : List Diagnostic :=
  draft.diagnostics.reverse ++ draft.unknownMentions ++ draft.unfinishedKnots

def artifact (draft : Draft) : Artifact where
  format := Artifact.currentFormat
  start := Artifact.rootKnot
  knots := draft.knots.mapValues fun steps => ⟨steps.reverse⟩
  globals := draft.globals

end Draft

def assemble (entries : List Entry) : Draft := entries.foldl Draft.take Draft.start

end Tale.Script
