import Tale.Disk.Basic
import Tale.Settings.Basic

/-! Finding the settings of a directory: the document that lies nearest above it counts. -/

set_option autoImplicit false

namespace Tale.Settings

inductive LookupError where
  | unreadable (path : Path) (error : DiskError)
  | invalid (problem : Problem)
  deriving DecidableEq, Repr

def LookupError.message : LookupError → String
  | unreadable path error => "cannot read config " ++ path.shown ++ ": " ++ error.message
  | invalid problem => problem.message

def fileName : Path := "loom.toml"

def load (disk : Disk) (path : Path) : Except LookupError Settings :=
  match disk.readText path with
  | .error error => .error (.unreadable path error)
  | .ok document =>
    match parse? document with
    | some settings => .ok settings
    | none => .error (.invalid .malformed)

def find? (disk : Disk) (directory : Path) : Option Path :=
  (directory.ancestors.map fun above => above.join fileName).find? disk.isFile

def discover (disk : Disk) (directory : Path) : Except LookupError Settings :=
  match find? disk directory with
  | some path => load disk path
  | none => .ok default

end Tale.Settings
