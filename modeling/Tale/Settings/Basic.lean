import Tale.Dictionary
import Tale.Filter
import Tale.Settings.Document

/-! The settings of a project: which files are its roots, which of them are for tests and what is
attached to those, and which commands filter documents before they are read. Settings are read
from a document first, and checked and made usable afterwards. How a pattern is read is left to the
surroundings. -/

set_option autoImplicit false

namespace Tale

structure Settings where
  rootPattern : String
  /-- The command line of the filter for each extension. -/
  filters : Dictionary String (List String)
  /-- What is attached to units of test roots. -/
  harness : Option String
  testPattern : String
  deriving DecidableEq

namespace Settings

def default : Settings := ⟨"\\.tale$", ∅, none, "\\.test\\.tale$"⟩

instance : Inhabited Settings := ⟨default⟩

inductive PatternOption where
  | root
  | test
  deriving DecidableEq, Repr

def PatternOption.key : PatternOption → String
  | root => "file_name_pattern"
  | test => "test_file_name_pattern"

structure Draft where
  rootPattern : Option String
  filters : Dictionary String (List String)
  /-- Whether the filters stand in a table that is complete, so that no more may be bound. -/
  filtersClosed : Bool
  /-- Whether the filters' header was read; all later bindings belong to it. -/
  inFilters : Bool
  harness : Option String
  testPattern : Option String

namespace Draft

def empty : Draft := ⟨none, ∅, false, false, none, none⟩

def addFilter? (draft : Draft) (extension : String) (command : List String) : Option Draft :=
  if draft.filters.contains extension then none
  else some { draft with filters := draft.filters.insert extension command }

def addFilters? (draft : Draft) (members : List (String × List String)) : Option Draft :=
  members.foldlM (fun draft (extension, command) => draft.addFilter? extension command) draft

def bindText? (draft : Draft) (key content : String) : Option Draft :=
  if key = "file_name_pattern" ∧ draft.rootPattern.isNone then
    some { draft with rootPattern := some content }
  else if key = "test_file_name_pattern" ∧ draft.testPattern.isNone then
    some { draft with testPattern := some content }
  else if key = "test_harness" ∧ draft.harness.isNone then
    some { draft with harness := some content }
  else none

/-- Take a statement into account. Each option is bound at most once, and the filters in one way:
under their header, in one table, or by dotted keys. -/
def state? (draft : Draft) (statement : Statement) : Option Draft :=
  let filtersOpen := draft.filters.isEmpty && !draft.filtersClosed
  match draft.inFilters, statement with
  | false, .header ["template_engine"] =>
    if filtersOpen then some { draft with inFilters := true } else none
  | false, .binding [key] (.text content) => draft.bindText? key content
  | false, .binding ["template_engine"] (.table members) =>
    if filtersOpen then { draft with filtersClosed := true }.addFilters? members else none
  | false, .binding ["template_engine", extension] (.texts command) =>
    if draft.filtersClosed then none else draft.addFilter? extension command
  | true, .binding [extension] (.texts command) => draft.addFilter? extension command
  | _, _ => none

def settings (draft : Draft) : Settings where
  rootPattern := draft.rootPattern.getD default.rootPattern
  filters := draft.filters
  harness := draft.harness
  testPattern := draft.testPattern.getD default.testPattern

end Draft

/-- Read settings. Options that the document does not bind have their defaults. -/
def parse? (document : String) : Option Settings := do
  let statements ← Document.parse? document
  let draft ← statements.foldlM Draft.state? Draft.empty
  some draft.settings

inductive Problem where
  | malformed
  | badPattern (option : PatternOption)
  | emptyCommand (extension : String)
  deriving DecidableEq, Repr

def Problem.message : Problem → String
  | malformed => "invalid config: not a document of settings"
  | badPattern option => "invalid " ++ option.key ++ ": not a pattern"
  | emptyCommand extension => "template engine for ." ++ extension ++ " has an empty command"

end Settings

/-- A pattern as it is used: whether it is found in a text. -/
abbrev Pattern := String → Bool

def Pattern.ending (text : String) : Pattern := fun whole => text.toList.isSuffixOf whole.toList

structure Harness where
  attached : Option String
  testRoots : Pattern

namespace Harness

/-- No attachment; the usual names are those of test roots still. -/
def none : Harness := ⟨Option.none, Pattern.ending ".test.tale"⟩

def isTestRoot (harness : Harness) (root : Path) : Bool := harness.testRoots root.shown

def for? (harness : Harness) (root : Path) : Option String :=
  harness.attached.filter fun _ => harness.isTestRoot root

end Harness

structure Rules where
  rootPattern : Pattern
  filters : Dictionary String Command
  harness : Harness

namespace Settings

open Filters

/-- The commands of the filters in the order of their keys; a later one replaces an earlier one for
the same bare extension. -/
def commands (filters : List (String × List String)) :
    Except Problem (Dictionary String Command) :=
  filters.foldlM
    (fun commands (extension, line) =>
      match line with
      | [] => .error (.emptyCommand (bareExtension extension))
      | program :: arguments =>
        .ok (commands.insert (bareExtension extension) ⟨program, arguments⟩)) ∅

def readPattern (read : String → Option Pattern) (option : PatternOption) (written : String) :
    Except Problem Pattern :=
  match read written with
  | some pattern => .ok pattern
  | none => .error (.badPattern option)

def resolve (read : String → Option Pattern) (settings : Settings) : Except Problem Rules := do
  let rootPattern ← readPattern read .root settings.rootPattern
  -- This pattern has to be sound even where nothing is attached to test roots.
  let testPattern ← readPattern read .test settings.testPattern
  let filters ← commands settings.filters.entries
  let harness := match settings.harness with
    | some attached => ⟨some attached, testPattern⟩
    | none => Harness.none
  return ⟨rootPattern, filters, harness⟩

end Settings

namespace Rules

def isRoot (rules : Rules) (path : Path) : Bool := rules.rootPattern path.shown

def command? (rules : Rules) (path : Path) : Option Command :=
  (path.extension?.bind Text.decode?).bind rules.filters.find?

def loader (rules : Rules) (run : Filter.Runner) : Filters :=
  rules.filters.entries.foldl
    (fun filters (extension, command) => filters.register extension (.ofCommand run command)) ∅

def default : Rules := ⟨Pattern.ending ".tale", ∅, .none⟩

instance : Inhabited Rules := ⟨default⟩

end Rules

end Tale
