import Tale.Disk.Identity
import Tale.Settings.Basic

/-! Finding the roots below a directory. Directories whose names begin with a dot are passed over,
and links to directories are followed. -/

set_option autoImplicit false

namespace Tale.Project

structure ScanError where
  directory : Path
  error : DiskError
  deriving DecidableEq, Repr

def ScanError.message (error : ScanError) : String :=
  "cannot scan " ++ error.directory.shown ++ ": " ++ error.error.message

/-- Whether a directory is passed over. A name that is no text hides nothing. -/
def isHidden (name : Name) : Bool :=
  (Text.decode? name).any fun text => text.toList.head? == some '.'

/-- The paths below a directory that are no directories and pass a test. A path has at most as many
names as it has bytes, so `depth` need not exceed the length that paths can have. -/
def collect (disk : Disk) (wanted : Path → Bool) :
    (depth : Nat) → Path → Except ScanError (List Path)
  | 0, _ => .ok []
  | depth + 1, directory => do
    let names ← (disk.names directory).mapError (ScanError.mk directory)
    let found ← names.mapM fun name =>
      let path := directory.join ⟨name⟩
      if disk.isDirectory path then
        -- Only directories can be hidden.
        if isHidden name then .ok [] else collect disk wanted depth path
      else .ok (if wanted path then [path] else [])
    return found.flatten

def discover (disk : Disk) (rules : Rules) (directory : Path) : Except ScanError (List Path) := do
  let roots ← collect disk rules.isRoot (longestPath + 1) (disk.identify directory)
  return roots.mergeSort fun first second => (compare first second).isLE

end Tale.Project
