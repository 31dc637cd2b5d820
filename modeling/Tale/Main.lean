import Tale.Host.Tools

/-! The command line program. It copies what a command needs from the real disk, runs the command on
the copy, and carries out what came of it: the command is run again for as long as it asks for
documents that have not been copied yet. -/

set_option autoImplicit false

namespace Tale.Loom

/-- What has been copied: the disk so far, the documents that were asked for, and the directories
that were listed. -/
structure Copy where
  disk : Disk
  documents : List Path
  directories : List String

def placeOf (path : String) : Place := (Path.ofText path).steps

def Copy.absolute (copy : Copy) (path : Path) : String :=
  ((Path.ofPlace copy.disk.here).join path).shown

def nowhere : Path := "/.nowhere"

/-- What is at a path, with the real target of a link and no file's content. -/
def probe (path : String) : IO (Option Node) := do
  let entry : IO.FS.DirEntry := ⟨path, ""⟩
  try
    match (← entry.root.symlinkMetadata).type with
    | .dir => return some .directory
    | .symlink =>
      try return some (.link (.ofText (← IO.FS.realPath path).toString))
      catch _ => return some (.link nowhere)
    | _ => return some (.file [])
  catch _ => return none

/-- Copy the nodes on the way to a path, and those on the way to the targets of links. -/
partial def copyWay (disk : Disk) (path : String) : IO Disk := do
  let mut disk := disk
  let mut place : Place := []
  for name in placeOf path do
    place := place ++ [name]
    if name != [dot] && name != [dot, dot] && (disk.node? place).isNone then
      match ← probe (Path.ofPlace place).shown with
      | some (.link target) =>
        disk := disk.put place (.link target)
        if target != nowhere then disk ← copyWay disk target.shown
      | some node => disk := disk.put place node
      | none => pure ()
  return disk

def copyFile (disk : Disk) (path : String) : IO Disk := do
  let disk ← copyWay disk path
  try
    let real ← IO.FS.realPath path
    return disk.put (placeOf real.toString) (.file (← IO.FS.readBinFile real).data.toList)
  catch _ => return disk

/-- Copy the names below a directory, but not those in hidden directories. -/
partial def copyTree (copy : Copy) (path : String) : IO Copy := do
  let copy := { copy with disk := ← copyWay copy.disk path }
  try
    let real ← IO.FS.realPath path
    if copy.directories.contains real.toString then return copy
    let mut copy := { copy with directories := real.toString :: copy.directories }
    for entry in ← real.readDir do
      let path := entry.path.toString
      copy := { copy with disk := ← copyWay copy.disk path }
      if copy.disk.isDirectory path && !Project.isHidden (Text.encode entry.fileName) then
        copy ← copyTree copy path
    return copy
  catch _ => return copy

def copySettings (disk : Disk) (path : Path) : IO Disk :=
  path.ancestors.foldlM (fun disk above => copyFile disk (above.join Settings.fileName).shown) disk

def copyNamed (copy : Copy) (config : Option Path) (action : Action) : IO Copy := do
  let named ← match config with
    | some config => pure { copy with disk := ← copyFile copy.disk (copy.absolute config) }
    | none => pure copy
  let directory ← match action with
    | .build directory out => do
      let named ← match out with
        | some out => copyTree named (copy.absolute out)
        | none => pure named
      copyTree named (copy.absolute directory) <&> fun copy => (copy, directory)
    | .check directory => copyTree named (copy.absolute directory) <&> fun copy => (copy, directory)
    | .deps directory changed => do
      let named ← match changed with
        | some changed => pure { named with disk := ← copyWay named.disk (copy.absolute changed) }
        | none => pure named
      copyTree named (copy.absolute directory) <&> fun copy => (copy, directory)
    | .play root => do
      let named := { named with disk := ← copyFile named.disk (copy.absolute root) }
      pure (named, (named.disk.identify root).parent?.getD "/")
  let (copy, directory) := directory
  return { copy with disk := ← copySettings copy.disk (copy.disk.identify directory) }

/-- Copy the documents that are asked for and have not been copied; and whether there were any. -/
def Copy.extend (copy : Copy) (documents : List Path) : IO (Bool × Copy) := do
  let fresh := documents.filter fun document => !copy.documents.contains document
  let disk ← fresh.foldlM (fun disk document => copyFile disk document.shown) copy.disk
  return (!fresh.isEmpty, { copy with disk := disk, documents := fresh ++ copy.documents })

/-- Run something on the copy until it asks for nothing more. -/
partial def Copy.settle {α : Type} (copy : Copy) (run : Disk → α) (documents : α → List Path) :
    IO (α × Copy) := do
  let result := run copy.disk
  let (extended, copy) ← copy.extend (documents result)
  if extended then copy.settle run documents else return (result, copy)

def carryOut (before after : Disk) : IO Unit := do
  for (place, node) in after.nodes.entries do
    if before.node? place != some node then
      let path := (Path.ofPlace place).shown
      match node with
      | .directory => IO.FS.createDirAll path
      | .file content => IO.FS.writeBinFile path ⟨content.toArray⟩
      | .link _ => pure ()

/-- Let the player answer until the play is finished. -/
partial def converse (input : IO.FS.Stream) (play : Play) : IO UInt32 := do
  if play.isFinished then return 0
  let line ← input.getLine
  if line.isEmpty then return 0
  match play.answer line with
  | .ok next =>
    IO.print (next.printed.drop play.printed.length)
    converse input next
  | .error error =>
    IO.eprint ("error: " ++ error.message ++ "\n")
    return 1

def randomSerial : IO Nat := do
  return (← IO.getRandomBytes 16).toList.foldl (fun serial byte => 256 * serial + byte.toNat) 0

def runReal (config : Option Path) (action : Action) : IO UInt32 := do
  let here ← IO.FS.realPath (← IO.currentDir)
  let serial ← randomSerial
  let disk ← copyWay ⟨∅, placeOf here.toString⟩ here.toString
  let copy ← copyNamed ⟨disk, [], []⟩ config action
  match action with
  | .play root =>
    let (opening, _) ← copy.settle (openPlay Host.tools · serial config root) Opening.documents
    IO.eprint opening.reports
    match opening.result with
    | .error failure =>
      IO.eprint ("error: " ++ failure.message ++ "\n")
      return 1
    | .ok play =>
      IO.print play.printed
      converse (← IO.getStdin) play
  | action =>
    let (outcome, copy) ← copy.settle (run Host.tools · serial config action []) Outcome.documents
    carryOut copy.disk outcome.disk
    IO.print outcome.output
    IO.eprint outcome.complaints
    return UInt32.ofNat outcome.status

def runArguments (arguments : List String) : IO UInt32 := do
  match Invocation.read arguments with
  | .error refusal =>
    IO.eprint ("error: " ++ refusal.message ++ "\n")
    return 2
  | .ok (.version verb) =>
    IO.print (versionLine verb)
    return 0
  | .ok (.run config action) => runReal config action

end Tale.Loom

def main (arguments : List String) : IO UInt32 := Tale.Loom.runArguments arguments
