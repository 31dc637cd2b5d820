import Tale.Path
import Tale.Text.Blank

/-! Filters, through which the texts of documents go before they are read. Most of them are
commands: the text is their input, and what they write takes its place. How a command is run is left
to the surroundings. -/

set_option autoImplicit false

namespace Tale

structure Command where
  program : String
  arguments : List String
  deriving DecidableEq, Repr

/-- What becomes of the text behind a path, or why nothing does. -/
abbrev Filter := Path → String → Except String String

namespace Filter

inductive Ending where
  | exit (status : Nat)
  | signal (number : Nat) (dumped : Bool)
  deriving DecidableEq, Repr

namespace Ending

def signalNames : List String :=
  ["SIGHUP", "SIGINT", "SIGQUIT", "SIGILL", "SIGTRAP", "SIGABRT", "SIGBUS", "SIGFPE", "SIGKILL",
    "SIGUSR1", "SIGSEGV", "SIGUSR2", "SIGPIPE", "SIGALRM", "SIGTERM", "SIGSTKFLT", "SIGCHLD",
    "SIGCONT", "SIGSTOP", "SIGTSTP", "SIGTTIN", "SIGTTOU", "SIGURG", "SIGXCPU", "SIGXFSZ",
    "SIGVTALRM", "SIGPROF", "SIGWINCH", "SIGIO", "SIGPWR", "SIGSYS"]

def signalName? : Nat → Option String
  | 0 => none
  | number + 1 => signalNames[number]?

def shown : Ending → String
  | exit status => "exit status: " ++ toString status
  | signal number dumped =>
    "signal: " ++ toString number ++
      ((signalName? number).map fun name => " (" ++ name ++ ")").getD "" ++
      if dumped then " (core dumped)" else ""

end Ending

structure Outcome where
  output : List UInt8
  complaint : List UInt8
  ending : Ending
  deriving DecidableEq, Repr

/-- A way to run commands, each on the text that was behind a path. A command that cannot be run
leaves the reason. -/
abbrev Runner := Command → Path → String → Except String Outcome

def ofCommand (run : Runner) (command : Command) : Filter := fun source text =>
  let name := "\x60" ++ command.program ++ "\x60"
  match run command source text with
  | .error reason => .error ("cannot run " ++ name ++ ": " ++ reason)
  | .ok outcome =>
    -- What a failed command wrote is not used.
    if outcome.ending ≠ .exit 0 then
      .error (name ++ " exited with " ++ outcome.ending.shown ++ ": " ++
        String.ofList (Text.trim (Text.decodeLossy outcome.complaint).toList))
    else
      match Text.decode? outcome.output with
      | some text => .ok text
      | none => .error (name ++ " produced invalid UTF-8")

end Filter

abbrev Filters := Dictionary String Filter

namespace Filters

def bareExtension (extension : String) : String :=
  String.ofList (extension.toList.dropWhile (· == '.'))

def register (filters : Filters) (extension : String) (filter : Filter) : Filters :=
  filters.insert (bareExtension extension) filter

/-- The filter for a path, if its extension is a text that has one. -/
def for? (filters : Filters) (path : Path) : Option Filter :=
  (path.extension?.bind Text.decode?).bind filters.find?

end Filters

end Tale
