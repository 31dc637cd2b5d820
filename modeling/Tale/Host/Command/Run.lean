import Tale.Host.Command.Shell
import Tale.Settings.Basic

/-! Running the few commands that are there without a host. -/

set_option autoImplicit false

namespace Tale.Host

def outcome? (command : Command) (source : Path) (input : String) :
    Option (Filter.Outcome × List (Path × Node)) :=
  match command.program, command.arguments with
  | "sh", ["-c", script] => some (Shell.run script source input)
  | program, arguments =>
    (Shell.runProgram? program (arguments.map Text.encode) (Text.encode input)).map
      fun (outcome, _) => (outcome, [])

def run : Filter.Runner := fun command source input =>
  match outcome? command source input with
  | some (outcome, _) => .ok outcome
  | none => .error DiskError.missing.message

/-- The disk after what is behind a path was loaded, with the nodes that its filter made. What cannot be
made is left out. -/
def afterLoading (disk : Disk) (rules : Rules) (path : Path) : Disk :=
  let made := match rules.command? path, disk.readText path with
    | some command, .ok text => ((outcome? command path text).map Prod.snd).getD []
    | _, _ => []
  made.foldl (fun disk (path, node) =>
    let next := match node with
      | .directory => disk.ensureDirectories path
      | .file content => disk.write path content
      | .link target => disk.link path target
    next.toOption.getD disk) disk

end Tale.Host
