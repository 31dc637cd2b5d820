import Tale.Disk.Basic

/-! Changes to what is on a disk. -/

set_option autoImplicit false

namespace Tale.Disk

def put (disk : Disk) (place : Place) (node : Node) : Disk :=
  { disk with nodes := disk.nodes.insert place node }

def makeDirectory (disk : Disk) (path : Path) : Except DiskError Disk := do
  checkSpelling path
  match ← disk.follow false mostLinks (disk.origin path) path.steps with
  | .present _ => throw .alreadyThere
  | .absent directory name => return disk.put (directory ++ [name]) .directory

def ensureDirectory (disk : Disk) (path : Path) : Except DiskError Disk :=
  match disk.makeDirectory path with
  | .ok disk => .ok disk
  | .error error => if disk.isDirectory path then .ok disk else .error error

/-- Make a directory and those above it that are missing; `above` are the paths above it, the
nearest first. The empty path needs no directory. -/
def ensureDirectoriesFrom (disk : Disk) (path : Path) (above : List Path) :
    Except DiskError Disk :=
  if path.spelling = [] then .ok disk
  else
    match above, disk.makeDirectory path with
    | parent :: above, .error .missing => do
      (← disk.ensureDirectoriesFrom parent above).ensureDirectory path
    | _, _ => disk.ensureDirectory path

def ensureDirectories (disk : Disk) (path : Path) : Except DiskError Disk :=
  disk.ensureDirectoriesFrom path path.ancestors.tail

def write (disk : Disk) (path : Path) (content : List UInt8) : Except DiskError Disk := do
  match ← disk.arrive path with
  | .present place =>
    if disk.isDirectoryAt place then throw .isDirectory else return disk.put place (.file content)
  | .absent directory name => return disk.put (directory ++ [name]) (.file content)

def link (disk : Disk) (path target : Path) : Except DiskError Disk := do
  checkSpelling path
  match ← disk.follow false mostLinks (disk.origin path) path.steps with
  | .present _ => throw .alreadyThere
  | .absent directory name => return disk.put (directory ++ [name]) (.link target)

/-- The place that a path names, where a link at its end is itself meant. -/
def locate (disk : Disk) (path : Path) : Except DiskError Place := do
  checkSpelling path
  match ← disk.follow false mostLinks (disk.origin path) path.steps with
  | .present place => return place
  | .absent _ _ => throw .missing

def remove (disk : Disk) (path : Path) : Except DiskError Disk := do
  let place ← disk.locate path
  if disk.isDirectoryAt place then throw .isDirectory
  else return { disk with nodes := disk.nodes.erase place }

def removeTree (disk : Disk) (path : Path) : Except DiskError Disk := do
  let place ← disk.locate path
  if disk.isDirectoryAt place then
    return { disk with nodes := disk.nodes.filter fun other _ => !place.isPrefixOf other }
  else throw .notDirectory

def rename (disk : Disk) (source target : Path) : Except DiskError Disk := do
  let origin ← disk.locate source
  checkSpelling target
  let goal ← match ← disk.follow false mostLinks (disk.origin target) target.steps with
    | .present place => pure place
    | .absent directory name => pure (directory ++ [name])
  if origin = goal then return disk
  let moved := disk.nodes.entries.filter fun (place, _) => origin.isPrefixOf place
  let rest := disk.nodes.filter fun place _ =>
    !origin.isPrefixOf place && !goal.isPrefixOf place
  return { disk with nodes := moved.foldl (fun nodes (place, node) =>
    nodes.insert (goal ++ place.drop origin.length) node) rest }

end Tale.Disk
