import Tale.Project.Compilation
import Tale.Project.Issuer

/-! Projects while they are worked on. A project knows the edges of its roots, and a change to some
documents leads to a new build of each root that they affect: those that include one of them, and
those of them that are roots and still there. -/

set_option autoImplicit false

namespace Tale

structure Project where
  rules : Rules
  edges : Project.Dependencies
  issuer : Project.Issuer

namespace Project

open Script

structure Build where
  root : Path
  result : Except (List Diagnostic) StoryUnit
  reported : List Diagnostic

def ofRules (rules : Rules) (serial : Nat) : Project := ⟨rules, ∅, ⟨rules.harness, serial⟩⟩

def build (project : Project) (sources : Sources) (path : Path) : Build × Project :=
  let root := sources.identify path
  let compilation := compileRoot compile sources project.edges root
  let project := { project with edges := compilation.edges }
  match compilation.result with
  | .error errors => (⟨path, .error errors, compilation.reported⟩, project)
  | .ok artifact =>
    let (unit, issuer) := project.issuer.issue root artifact
    (⟨path, .ok unit, compilation.reported⟩, { project with issuer := issuer })

def buildAll (project : Project) (sources : Sources) : List Path → List Build × Project
  | [] => ([], project)
  | root :: roots =>
    let (build, project) := project.build sources root
    let (builds, project) := project.buildAll sources roots
    (build :: builds, project)

def isLiveRoot (project : Project) (sources : Sources) (path : Path) : Bool :=
  project.rules.isRoot path && sources.isFile path

def rootsAffectedBy (project : Project) (sources : Sources) (document : Path) : OrderedSet Path :=
  let roots := project.edges.affected document
  if project.isLiveRoot sources document then OrderedSet.insert roots document else roots

def rootsFor (project : Project) (sources : Sources) (changed : Path) : OrderedSet Path :=
  project.rootsAffectedBy sources (sources.identify changed)

/-- Forget the edges of those documents that are named like roots and are no longer files. -/
def forgetVanished (project : Project) (sources : Sources) (documents : List Path) : Project :=
  { project with edges := documents.foldl (fun edges document =>
      if project.rules.isRoot document && !sources.isFile document then (edges.clear document).2
      else edges) project.edges }

/-- Build all roots that some changes affect, each once and in ascending order. Roots that vanished
are forgotten first, so that a change to what they included does not bring them back. -/
def handleChanges (project : Project) (sources : Sources) (changed : List Path) :
    List Build × Project :=
  let documents := changed.map sources.identify
  -- All of them are forgotten before any effect is looked up.
  let project := project.forgetVanished sources documents
  let roots := documents.foldl (fun roots document =>
    (project.rootsAffectedBy sources (sources.identify document)).keys.foldl OrderedSet.insert roots) ∅
  project.buildAll sources roots.keys

end Project

end Tale
