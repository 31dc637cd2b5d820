import Tale.Disk.Identity
import Tale.Filter

/-! The documents of a project: what a path stands for, and the text that is behind it once the
filter for its extension has been applied. -/

set_option autoImplicit false

namespace Tale

namespace Project

inductive LoadError where
  | notFound (path : Path)
  | unreadable (path : Path) (error : DiskError)
  | unfiltered (path : Path) (reason : String)
  deriving DecidableEq, Repr

namespace LoadError

def path : LoadError → Path
  | notFound path => path
  | unreadable path _ => path
  | unfiltered path _ => path

def reason : LoadError → String
  | notFound _ => "file not found"
  | unreadable _ error => error.message
  | unfiltered _ reason => "preprocessing failed: " ++ reason

def message : LoadError → String
  | notFound path => "file not found: " ++ path.shown
  | unreadable path error => "cannot read " ++ path.shown ++ ": " ++ error.message
  | unfiltered path reason => "cannot preprocess " ++ path.shown ++ ": " ++ reason

end LoadError

/-- All that building asks of the outside. `capacity` is at least the number of documents that can
be loaded. -/
structure Sources where
  identify : Path → Path
  load : Path → Except LoadError String
  isFile : Path → Bool
  capacity : Nat

end Project

namespace Disk

open Project

def loadDocument (disk : Disk) (filters : Filters) (path : Path) : Except LoadError String :=
  match disk.readText path with
  | .error .missing => .error (.notFound path)
  | .error error => .error (.unreadable path error)
  | .ok text =>
    match filters.for? path with
    | none => .ok text
    | some filter => (filter path text).mapError (.unfiltered path)

/-- A path that can be loaded has at most `longestPath` bytes, so there are no more such paths. -/
@[irreducible] def mostDocuments : Nat := Nat.pow 257 longestPath

def sources (disk : Disk) (filters : Filters) : Sources where
  identify := disk.identify
  load := disk.loadDocument filters
  isFile := disk.isFile
  capacity := mostDocuments

end Disk

end Tale
