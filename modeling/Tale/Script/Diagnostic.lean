import Tale.Path
import Tale.Script.Item

/-! Findings about scripts. A diagnostic says how serious a finding is, which bytes of which file
it is about, and what it is; a compiler may word diagnostics of its own. -/

set_option autoImplicit false

namespace Tale.Script

inductive Severity where
  | info
  | warning
  | error
  deriving DecidableEq, Repr

def Severity.shown : Severity → String
  | info => "info"
  | warning => "warning"
  | error => "error"

structure Diagnostic where
  severity : Severity
  span : Span
  message : String
  label : Option String
  file : Option Path
  deriving DecidableEq, Repr

namespace Diagnostic

def isError (diagnostic : Diagnostic) : Bool := diagnostic.severity == .error

def shown (diagnostic : Diagnostic) : String :=
  match diagnostic.file with
  | some file => diagnostic.severity.shown ++ ": " ++ file.shown ++ ": " ++ diagnostic.message
  | none => diagnostic.severity.shown ++ ": " ++ diagnostic.message

end Diagnostic

inductive Finding where
  | malformed (fault : Fault)
  | unreadableInclude (path : Path) (reason : String)
  | redeclaredVariable (name : String)
  | redefinedKnot (name : String)
  | unreachable
  | note (text : String)
  | unknownKnot (name : String)
  | unfinishedKnot (name : String)
  deriving DecidableEq, Repr

namespace Finding

def severity : Finding → Severity
  | unreachable => .warning
  | unfinishedKnot _ => .warning
  | note _ => .info
  | _ => .error

def message : Finding → String
  | malformed fault => fault.message
  | unreadableInclude path reason => "cannot include " ++ path.shown ++ ": " ++ reason
  | redeclaredVariable name => "variable \"" ++ name ++ "\" is already declared"
  | redefinedKnot name => "knot \"" ++ name ++ "\" is already defined"
  | unreachable => "content after a choice block is never reached"
  | note text => "TODO: " ++ text
  | unknownKnot name => "unknown knot \"" ++ name ++ "\""
  | unfinishedKnot name => "knot \"" ++ name ++ "\" ends without a divert; the story stops there"

def label : Finding → Option String
  | unreadableInclude _ _ => some "included here"
  | redefinedKnot _ => some "duplicate knot"
  | unknownKnot _ => some "not defined anywhere"
  | _ => none

def inFile (finding : Finding) (file : Path) (span : Span) : Diagnostic :=
  ⟨finding.severity, span, finding.message, finding.label, some file⟩

end Finding

end Tale.Script
