import Tale.Script.Assembly

/-! Compiling a root document. A compiler reads a root with the help of include rules and reports
what it finds; it hands out an artifact only if it found no error. -/

set_option autoImplicit false

namespace Tale.Script

structure Pass where
  diagnostics : List Diagnostic
  artifact : Option Artifact
  consulted : List Consultation

abbrev Compiler := Path → String → Includes → Pass

def hasErrors (diagnostics : List Diagnostic) : Bool := diagnostics.any Diagnostic.isError

def compile : Compiler := fun root text includes =>
  let reading := readRoot includes root text
  let draft := assemble reading.entries
  let findings := draft.findings
  -- Findings about the whole story count like those about its lines.
  ⟨findings, if hasErrors findings then none else some draft.artifact, reading.consulted⟩

def includesFrom (directory : Path) (documents : List (Path × String)) : Includes where
  resolve name := directory.join ⟨name⟩
  load path :=
    match documents.find? fun document => path.same document.1 with
    | some document => .ok document.2
    | none => .error "no such file"
  capacity := documents.length

def noIncludes : Includes where
  resolve name := ⟨name⟩
  load _ := .error "includes are not available for inline sources"
  capacity := 0

def sourcePath : Path := "<source>"

def compileSource (text : String) : Pass := compile sourcePath text noIncludes

end Tale.Script
