import Tale.Disk.Basic
import Tale.Script.Report

/-! Reports of diagnostics with the lines of the files that they name. -/

set_option autoImplicit false

namespace Tale.Script

/-- The report of a diagnostic; if its file cannot be read, the form that takes one line. -/
def Diagnostic.report (disk : Disk) (diagnostic : Diagnostic) : String :=
  let rendered := diagnostic.file.bind fun file =>
    (disk.readText file).toOption.map fun text => Report.render text file.shown [diagnostic]
  match rendered with
  | some rendered => if rendered.isEmpty then diagnostic.shown ++ "\n" else rendered
  | none => diagnostic.shown ++ "\n"

def reportAll (disk : Disk) (diagnostics : List Diagnostic) : String :=
  String.join (diagnostics.map (Diagnostic.report disk))

end Tale.Script
