import Tale.Path
import Tale.Text.Bytes

/-! Files, directories and links, at places below one root. A path is followed piece by piece as it
is written: every piece but the last must lead to a directory, and a link stands for the path that
it holds. At most forty links are followed on one way. -/

set_option autoImplicit false

namespace Tale

/-- The names that lead from the root to a file, a directory or a link. -/
abbrev Place := List Name

instance : Std.TransOrd Place := inferInstanceAs (Std.TransOrd (List Name))

def Path.ofPlace (place : Place) : Path := ⟨slash :: [slash].intercalate place⟩

inductive Node where
  | file (content : List UInt8)
  | directory
  | link (target : Path)
  deriving DecidableEq

structure Disk where
  /-- All nodes but the root, which is always a directory. -/
  nodes : Dictionary Place Node
  /-- The place where paths that are not absolute begin. -/
  here : Place
  deriving DecidableEq

inductive DiskError where
  | missing
  | alreadyThere
  | notDirectory
  | isDirectory
  | nameTooLong
  | tooManyLinks
  | impossibleName
  | notText
  deriving DecidableEq, Repr

def DiskError.message : DiskError → String
  | missing => "No such file or directory (os error 2)"
  | alreadyThere => "File exists (os error 17)"
  | notDirectory => "Not a directory (os error 20)"
  | isDirectory => "Is a directory (os error 21)"
  | nameTooLong => "File name too long (os error 36)"
  | tooManyLinks => "Too many levels of symbolic links (os error 40)"
  | impossibleName => "file name contained an unexpected NUL byte"
  | notText => "stream did not contain valid UTF-8"

/-- Where a path leads: to a node, or to a directory that has none of the last name. -/
inductive Arrival where
  | present (place : Place)
  | absent (directory : Place) (name : Name)
  deriving DecidableEq, Repr

def Path.steps (path : Path) : List Name := path.pieces.filter fun piece => !piece.isEmpty

/-- The pieces of a path; a separator at its end asks for a directory, as a last `.` does. -/
def Path.stepsToNode (path : Path) : List Name :=
  if path.spelling.getLast? = some slash then path.steps ++ [[dot]] else path.steps

def longestName : Nat := 255

def longestPath : Nat := 4095

def mostLinks : Nat := 40

namespace Disk

/-- The node at a place, not following a link that is there. -/
def node? (disk : Disk) (place : Place) : Option Node :=
  if place.isEmpty then some .directory else disk.nodes.find? place

def isDirectoryAt (disk : Disk) (place : Place) : Bool := disk.node? place = some .directory

def origin (disk : Disk) (path : Path) : Place := if path.isAbsolute then [] else disk.here

/-- Follow pieces from a place as far as a link that is to be followed; `through` goes on from the
directory where the path that the link holds begins. A link at the very end is followed only if
asked for. -/
def walk (disk : Disk) (throughLast : Bool)
    (through : Place → List Name → Except DiskError Arrival) (place : Place) :
    List Name → Except DiskError Arrival
  | [] => .ok (.present place)
  | name :: rest =>
    if !disk.isDirectoryAt place then .error .notDirectory
    else if name = [dot] then walk disk throughLast through place rest
    -- The root is above itself.
    else if name = [dot, dot] then walk disk throughLast through place.dropLast rest
    else if longestName < name.length then .error .nameTooLong
    else
      match disk.node? (place ++ [name]) with
      | none => if rest.isEmpty then .ok (.absent place name) else .error .missing
      | some (.link target) =>
        if rest.isEmpty && !throughLast then .ok (.present (place ++ [name]))
        -- What the link holds takes the place of its name.
        else through (if target.isAbsolute then [] else place) (target.stepsToNode ++ rest)
      | some _ => walk disk throughLast through (place ++ [name]) rest

def follow (disk : Disk) (throughLast : Bool) :
    Nat → Place → List Name → Except DiskError Arrival
  | 0 => disk.walk throughLast fun _ _ => .error .tooManyLinks
  | links + 1 => disk.walk throughLast (disk.follow throughLast links)

def checkSpelling (path : Path) : Except DiskError Unit :=
  if path.spelling = [] then .error .missing
  else if path.spelling.contains 0 then .error .impossibleName
  else if longestPath < path.spelling.length then .error .nameTooLong
  else .ok ()

/-- Where a path leads, through a link at its end. -/
def arrive (disk : Disk) (path : Path) : Except DiskError Arrival := do
  checkSpelling path
  disk.follow true mostLinks (disk.origin path) path.stepsToNode

def resolve (disk : Disk) (path : Path) : Except DiskError Place := do
  match ← disk.arrive path with
  | .present place => return place
  | .absent _ _ => throw .missing

def find? (disk : Disk) (path : Path) : Option Node :=
  (disk.resolve path).toOption.bind disk.node?

def isFile (disk : Disk) (path : Path) : Bool :=
  match disk.find? path with
  | some (.file _) => true
  | _ => false

def isDirectory (disk : Disk) (path : Path) : Bool := disk.find? path = some .directory

def readBytes (disk : Disk) (path : Path) : Except DiskError (List UInt8) := do
  match disk.node? (← disk.resolve path) with
  | some (.file content) => return content
  | some .directory => throw .isDirectory
  | _ => throw .missing

def readText (disk : Disk) (path : Path) : Except DiskError String := do
  match Text.decode? (← disk.readBytes path) with
  | some text => return text
  | none => throw .notText

def childOf? (directory place : Place) : Option Name :=
  if place.dropLast = directory then place.getLast? else none

def names (disk : Disk) (path : Path) : Except DiskError (List Name) := do
  let place ← disk.resolve path
  if disk.isDirectoryAt place then return disk.nodes.keys.filterMap (childOf? place)
  else throw .notDirectory

end Disk

end Tale
