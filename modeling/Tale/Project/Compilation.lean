import Tale.Project.Dependencies
import Tale.Project.Sources
import Tale.Script.Compile

/-! Compiling one root document and keeping its edges. The edges of a root are always those of its
latest pass, whether or not it succeeded: an include is an edge as soon as it is resolved, so that a
document that was missing wakes the root when it appears. -/

set_option autoImplicit false

namespace Tale.Project

open Script

structure Compilation where
  result : Except (List Diagnostic) Artifact
  reported : List Diagnostic
  edges : Dependencies

/-- How the include lines of a root are followed: names are read from the directory of the root. -/
def Sources.includes (sources : Sources) (root : Path) : Includes where
  resolve name := sources.identify ((root.parent?.getD "").join name)
  load path := (sources.load path).mapError LoadError.reason
  capacity := sources.capacity

def Dependencies.trackAll (edges : Dependencies) (root : Path)
    (consulted : List Consultation) : Dependencies :=
  consulted.foldl (fun edges consultation => match consultation with
    | .resolve _ path => (edges.track root path).2
    | .load _ => edges) edges

def wholeError (root : Path) (message : String) : Diagnostic :=
  ⟨.error, ⟨0, 0⟩, message, none, some root⟩

/-- The result of a pass and all of its reports. A pass succeeds if it leaves an artifact and no
error; one that leaves neither is itself an error. -/
def judge (root : Path) (pass : Pass) : Except (List Diagnostic) Artifact × List Diagnostic :=
  let errors := pass.diagnostics.filter Diagnostic.isError
  match pass.artifact, errors with
  | some artifact, [] => (.ok artifact, pass.diagnostics)
  | none, [] =>
    let error := wholeError root "compiler produced no artifact"
    (.error [error], pass.diagnostics ++ [error])
  | _, errors => (.error errors, pass.diagnostics)

def compileRoot (compiler : Compiler) (sources : Sources) (edges : Dependencies) (path : Path) :
    Compilation :=
  let root := sources.identify path
  -- A root that cannot be read has no edges.
  let edges := (edges.clear root).2
  match sources.load root with
  | .error error =>
    let diagnostic := wholeError root error.reason
    ⟨.error [diagnostic], [diagnostic], edges⟩
  | .ok text =>
    let pass := compiler root text (sources.includes root)
    let (result, reported) := judge root pass
    ⟨result, reported, edges.trackAll root pass.consulted⟩

end Tale.Project
