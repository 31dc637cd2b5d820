import Tale.Project.Sources
import Tale.Proofs.Dictionary
import Tale.Proofs.Except
import Tale.Proofs.Text
import Tale.Proofs.Text.Cutting
import Tale.Settings.Basic

/-! Which documents are filtered, and by which command.

The filters of some settings are told apart by their extensions without the dots in front of them. Of those
that are the same the last is used. It is looked up by what stands behind the last dot of a document's name, if
something stands in front of that dot. So an extension with another dot inside is never looked up, and the
documents that end in it have the filter for its last part, or none.
-/

set_option autoImplicit false

namespace Tale

namespace Path

/-- The last name of a path is a stem, a dot and an extension, and the stem is not empty. -/
def EndsIn (path : Path) (extension : String) : Prop :=
  ∃ stem : Name, stem ≠ [] ∧ path.fileName? = some (stem ++ dot :: Text.encode extension)

theorem stemAndExtension_eq_some_iff {name extension : Name} :
    (stemAndExtension name).2 = some extension ↔
      dot ∉ extension ∧ ∃ stem, stem ≠ [] ∧ name = stem ++ dot :: extension := by
  unfold stemAndExtension
  constructor
  · intro found
    split at found
    · next before after cut =>
      split at found
      · cases found
      · next filled =>
        cases found
        obtain ⟨whole, undotted⟩ := Text.cutLast_eq_some_iff.mp cut
        exact ⟨undotted, before, by simpa using filled, whole⟩
    · cases found
  · rintro ⟨undotted, stem, filled, rfl⟩
    rw [Text.cutLast_single undotted]
    simp [filled]

theorem extension?_eq_some_iff {path : Path} {extension : Name} :
    path.extension? = some extension ↔
      dot ∉ extension ∧ ∃ stem, stem ≠ [] ∧ path.fileName? = some (stem ++ dot :: extension) := by
  unfold extension?
  cases path.fileName? with
  | none => simp
  | some name => simp [stemAndExtension_eq_some_iff]

end Path

namespace Filters

theorem dot_mem_encode_iff {text : String} : dot ∈ Text.encode text ↔ '.' ∈ text.toList :=
  Text.mem_encode_iff (show '.'.toNat < 128 by decide)

def lastPart (extension : String) : String :=
  ((Text.cutLast ['.'] extension.toList).map fun (_, last) => String.ofList last).getD extension

theorem lastPart_of_undotted {extension : String} (undotted : '.' ∉ extension.toList) :
    lastPart extension = extension := by
  rw [lastPart, Text.cutLast_eq_none_iff.mpr undotted]
  rfl

theorem lastPart_split (extension : String) : '.' ∉ (lastPart extension).toList ∧
    (lastPart extension = extension ∨ ∃ front, extension = front ++ "." ++ lastPart extension) := by
  unfold lastPart
  cases cut : Text.cutLast ['.'] extension.toList with
  | none => exact ⟨Text.cutLast_eq_none_iff.mp cut, .inl rfl⟩
  | some parts =>
    obtain ⟨whole, undotted⟩ := Text.cutLast_eq_some_iff.mp cut
    refine ⟨by simpa using undotted, .inr ⟨String.ofList parts.1, String.toList_injective ?_⟩⟩
    simpa using whole

/-- A path that ends in an extension is looked up by the last part of it. -/
theorem extension?_of_endsIn {path : Path} {extension : String} (ends : path.EndsIn extension) :
    path.extension? = some (Text.encode (lastPart extension)) := by
  obtain ⟨stem, filled, named⟩ := ends
  obtain ⟨undotted, whole⟩ := lastPart_split extension
  refine Path.extension?_eq_some_iff.mpr ⟨mt dot_mem_encode_iff.mp undotted, ?_⟩
  rcases whole with same | ⟨front, split⟩
  · exact ⟨stem, filled, same.symm ▸ named⟩
  · have encoded : Text.encode extension =
        Text.encode front ++ dot :: Text.encode (lastPart extension) := by
      rw [split, Text.encode_append, Text.encode_append, List.append_assoc, ← split]
      rfl
    rw [encoded] at named
    exact ⟨stem ++ dot :: Text.encode front, by simp, by simpa using named⟩

theorem bareExtension_bareExtension (extension : String) :
    bareExtension (bareExtension extension) = bareExtension extension := by
  simp [bareExtension, List.dropWhile_idempotent]

end Filters

namespace Settings

open Filters

/-- The last of some filters for a bare extension has a command. -/
def LastFilter (filters : List (String × List String)) (bare : String) (command : Command) : Prop :=
  ∃ before extension after, filters = before ++ (extension, command.program :: command.arguments) :: after ∧
    bareExtension extension = bare ∧ ∀ entry ∈ after, bareExtension entry.1 ≠ bare

theorem lastFilter_concat {filters : List (String × List String)} {extension program bare : String}
    {arguments : List String} {command : Command} :
    LastFilter (filters ++ [(extension, program :: arguments)]) bare command ↔
      if bare = bareExtension extension then ⟨program, arguments⟩ = command
      else LastFilter filters bare command := by
  constructor
  · rintro ⟨before, other, after, split, own, others⟩
    rcases List.eq_nil_or_concat' after with rfl | ⟨after, last, rfl⟩
    · obtain ⟨-, same⟩ := List.append_inj' split rfl
      cases same
      rw [if_pos own.symm]
    · rw [← List.cons_append, ← List.append_assoc] at split
      obtain ⟨front, same⟩ := List.append_inj' split rfl
      cases same
      have apart : bare ≠ bareExtension extension :=
        (others _ (List.mem_append_right _ List.mem_cons_self)).symm
      rw [if_neg apart]
      exact ⟨before, other, after, front, own, fun entry member => others entry (List.mem_append_left _ member)⟩
  · split
    · next own =>
      rintro rfl
      exact ⟨filters, extension, [], rfl, own.symm, by simp⟩
    · next apart =>
      rintro ⟨before, other, after, rfl, own, others⟩
      refine ⟨before, other, after ++ [(extension, program :: arguments)], by simp, own, ?_⟩
      intro entry member
      rcases List.mem_append.mp member with early | late
      · exact others entry early
      · rw [List.mem_singleton.mp late]
        exact Ne.symm apart

theorem commands_concat {filters : List (String × List String)} {extension : String} {line : List String}
    {found : Dictionary String Command} :
    commands (filters ++ [(extension, line)]) = .ok found ↔ ∃ earlier program arguments,
      commands filters = .ok earlier ∧ line = program :: arguments ∧
        found = earlier.insert (bareExtension extension) ⟨program, arguments⟩ := by
  rw [commands, List.foldlM_append, ← commands]
  cases commands filters with
  | error problem => simp [bind, Except.bind]
  | ok earlier => cases line <;> simp [bind, Except.bind, pure, Except.pure, eq_comm]

/-- The filters that are used are the last ones for their extensions. -/
theorem find?_commands {filters : List (String × List String)} {found : Dictionary String Command}
    (read : commands filters = .ok found) (bare : String) (command : Command) :
    found.find? bare = some command ↔ LastFilter filters bare command := by
  induction filters using List.reverseRecOn generalizing found with
  | nil =>
    cases read
    simp [LastFilter]
  | append_singleton filters entry ih =>
    obtain ⟨earlier, program, arguments, before, line, rfl⟩ := commands_concat.mp read
    rw [← Prod.eta entry, line, lastFilter_concat, Dictionary.find?_insert_eq]
    split
    · exact Option.some_inj
    · exact ih before

theorem exists_command {filters : List (String × List String)} {found : Dictionary String Command}
    (read : commands filters = .ok found) {extension : String} {line : List String}
    (listed : (extension, line) ∈ filters) : ∃ program arguments, line = program :: arguments ∧
      ∃ command, LastFilter filters (bareExtension extension) command := by
  induction filters using List.reverseRecOn generalizing found with
  | nil => cases listed
  | append_singleton filters entry ih =>
    obtain ⟨earlier, program, arguments, before, same, -⟩ := commands_concat.mp read
    rw [← Prod.eta entry, same] at listed ⊢
    simp only [lastFilter_concat]
    rcases List.mem_append.mp listed with early | late
    · obtain ⟨first, rest, own, command, last⟩ := ih before early
      refine ⟨first, rest, own, ?_⟩
      by_cases again : bareExtension extension = bareExtension entry.1
      · simp [again]
      · exact ⟨command, by rwa [if_neg again]⟩
    · cases List.mem_singleton.mp late
      exact ⟨program, arguments, rfl, by simp⟩

theorem resolve_filters {read : String → Option Pattern} {settings : Settings} {rules : Rules}
    (resolved : settings.resolve read = .ok rules) :
    commands settings.filters.entries = .ok rules.filters := by
  unfold resolve at resolved
  obtain ⟨rootPattern, -, resolved⟩ := bind_eq_ok.mp resolved
  obtain ⟨testPattern, -, resolved⟩ := bind_eq_ok.mp resolved
  obtain ⟨found, listed, resolved⟩ := bind_eq_ok.mp resolved
  cases resolved
  exact listed

theorem bare_of_commands {filters : List (String × List String)} {found : Dictionary String Command}
    (read : commands filters = .ok found) {extension : String} {command : Command}
    (kept : found.find? extension = some command) : bareExtension extension = extension := by
  obtain ⟨-, written, -, -, rfl, -⟩ := (find?_commands read extension command).mp kept
  exact bareExtension_bareExtension written

end Settings

namespace Rules

open Filters

/-- Rules whose extensions have no dots in front, as those of settings have. -/
def IsBare (rules : Rules) : Prop :=
  ∀ extension ∈ rules.filters.keys, bareExtension extension = extension

theorem loader_eq {rules : Rules} (bare : rules.IsBare) (run : Filter.Runner) :
    rules.loader run = rules.filters.mapValues (.ofCommand run) := by
  have listed := Dictionary.ofList_entries (rules.filters.mapValues (Filter.ofCommand run))
  rw [← listed, Dictionary.ofList, Dictionary.mapValues, List.foldl_map]
  refine List.foldl_ext _ _ _ fun filters entry member => ?_
  have key : bareExtension entry.1 = entry.1 := bare entry.1 (List.mem_map_of_mem member)
  change filters.insert (bareExtension entry.1) _ = _
  rw [key]

theorem for?_loader {rules : Rules} (bare : rules.IsBare) (run : Filter.Runner) (path : Path) :
    (rules.loader run).for? path = (rules.command? path).map (.ofCommand run) := by
  unfold Filters.for? command?
  rw [loader_eq bare]
  cases path.extension?.bind Text.decode? <;> simp

/-- A document is loaded through its command, if it has one. -/
theorem loadDocument_loader {rules : Rules} (bare : rules.IsBare) (run : Filter.Runner) {disk : Disk}
    {path : Path} {text : String} (read : disk.readText path = .ok text) :
    disk.loadDocument (rules.loader run) path = match rules.command? path with
      | some command => (Filter.ofCommand run command path text).mapError (.unfiltered path)
      | none => .ok text := by
  unfold Disk.loadDocument
  rw [read, for?_loader bare]
  cases rules.command? path <;> rfl

end Rules

namespace Settings

open Filters

section Resolved

variable {read : String → Option Pattern} {settings : Settings} {rules : Rules}
  (resolved : settings.resolve read = .ok rules)

include resolved

theorem resolve_bare : rules.IsBare := by
  intro extension key
  obtain ⟨⟨held, command⟩, member, rfl⟩ := List.mem_map.mp key
  exact bare_of_commands (resolve_filters resolved) (Dictionary.find?_of_mem member)

/-- The command for a path is that of the last filter for what stands behind the last dot of its last
name. -/
theorem command?_eq_some_iff {path : Path} {command : Command} : rules.command? path = some command ↔
    ∃ extension, path.extension? = some (Text.encode extension) ∧
      LastFilter settings.filters.entries extension command := by
  simp only [Rules.command?, Option.bind_eq_some_iff, find?_commands (resolve_filters resolved),
    Text.decode?_eq_some_iff]
  constructor
  · rintro ⟨extension, ⟨_, found, rfl⟩, last⟩
    exact ⟨extension, found, last⟩
  · rintro ⟨extension, found, last⟩
    exact ⟨extension, ⟨_, found, rfl⟩, last⟩

theorem command?_of_endsIn {path : Path} {extension : String} (ends : path.EndsIn extension)
    (command : Command) : rules.command? path = some command ↔
      LastFilter settings.filters.entries (lastPart extension) command := by
  rw [command?_eq_some_iff resolved, extension?_of_endsIn ends]
  constructor
  · rintro ⟨other, same, last⟩
    rwa [Text.encode_injective (Option.some.inj same)]
  · exact fun last => ⟨_, rfl, last⟩

theorem lastFilter_of_agree {extension program : String} {arguments : List String}
    (listed : (extension, program :: arguments) ∈ settings.filters.entries)
    (agree : ∀ other later, (other, later) ∈ settings.filters.entries →
      bareExtension other = bareExtension extension → compare extension other = .lt →
        later = program :: arguments) :
    LastFilter settings.filters.entries (bareExtension extension) ⟨program, arguments⟩ := by
  obtain ⟨_, _, -, command, last⟩ := exists_command (resolve_filters resolved) listed
  obtain ⟨before, other, after, split, own, others⟩ := last
  have listedToo : (other, command.program :: command.arguments) ∈ settings.filters.entries := by
    rw [split]
    exact List.mem_append_right _ List.mem_cons_self
  -- The last filter is this one, or a later one with the same command.
  have equal : command.program :: command.arguments = program :: arguments := by
    have ascending := settings.filters.ascending
    rw [split] at listed ascending
    rcases List.mem_append.mp listed with early | here
    · exact agree other _ listedToo own
        ((List.pairwise_append.mp ascending).2.2 _ early _ List.mem_cons_self)
    · rcases List.mem_cons.mp here with same | late
      · exact (Prod.mk.inj same).2.symm
      · exact absurd rfl (others _ late)
  rw [equal] at split
  exact ⟨before, other, after, split, own, others⟩

/-- Where settings are accepted, every filter has a command. A document that ends in its extension is filtered
by that command exactly if it is the one of the last filter for the last part of the extension. For an
extension without dots inside, and no later filter for it with another command, that is so. A document with
none of the extensions has no command. Whatever a command makes of a text is what is loaded, and without a
command that is the text itself. -/
theorem filters_honoured_iff :
    (∀ extension line, (extension, line) ∈ settings.filters.entries → ∃ program arguments,
      line = program :: arguments ∧
      (∀ path : Path, path.EndsIn (bareExtension extension) →
        (rules.command? path = some ⟨program, arguments⟩ ↔
          LastFilter settings.filters.entries (lastPart (bareExtension extension)) ⟨program, arguments⟩)) ∧
      ('.' ∉ (bareExtension extension).toList →
        (∀ other later, (other, later) ∈ settings.filters.entries →
          bareExtension other = bareExtension extension → compare extension other = .lt → later = line) →
        ∀ path : Path, path.EndsIn (bareExtension extension) →
          rules.command? path = some ⟨program, arguments⟩)) ∧
    (∀ path : Path, (∀ extension ∈ settings.filters.keys, ¬ path.EndsIn (bareExtension extension)) →
      rules.command? path = none) ∧
    ∀ (run : Filter.Runner) (disk : Disk) (path : Path) (text : String), disk.readText path = .ok text →
      disk.loadDocument (rules.loader run) path = match rules.command? path with
        | some command => (Filter.ofCommand run command path text).mapError (.unfiltered path)
        | none => .ok text := by
  refine ⟨fun extension line listed => ?_, fun path apart => ?_, fun run disk path text found =>
    Rules.loadDocument_loader (resolve_bare resolved) run found⟩
  · obtain ⟨program, arguments, rfl, -⟩ := exists_command (resolve_filters resolved) listed
    refine ⟨program, arguments, rfl, fun path ends => command?_of_endsIn resolved ends _,
      fun undotted agree path ends => ?_⟩
    rw [command?_of_endsIn resolved ends, lastPart_of_undotted undotted]
    exact lastFilter_of_agree resolved listed agree
  · refine Option.eq_none_iff_forall_ne_some.mpr fun command found => ?_
    obtain ⟨extension, ends, before, other, after, split, rfl, -⟩ :=
      (command?_eq_some_iff resolved).mp found
    refine apart other ?_ (Path.extension?_eq_some_iff.mp ends).2
    rw [Dictionary.keys, split, List.map_append]
    exact List.mem_append_right _ List.mem_cons_self

end Resolved

def withFilters (filters : List (String × List String)) : Settings :=
  { default with filters := .ofList filters }

/-- Patterns that are found at the end of a text. -/
def readEnding (written : String) : Option Pattern := some (.ending written)

def loudly : Filter.Runner := fun _ _ text =>
  .ok ⟨Text.encode (String.ofList (text.toList.map Char.toUpper)), [], .exit 0⟩

def whispers : Settings := withFilters [(".up", ["tr", "a-z", "A-Z"]), ("tmpl", ["cat"])]

def quietRoom : Disk where
  nodes := .ofList [(["whisper.up"], .file (Text.encode "quiet\n"))]
  here := []

theorem whispers_filtered : ∃ rules, whispers.resolve readEnding = .ok rules ∧
    (".up", ["tr", "a-z", "A-Z"]) ∈ whispers.filters.entries ∧
    (Path.ofText "whisper.up").EndsIn (bareExtension ".up") ∧
    rules.command? "whisper.up" = some ⟨"tr", ["a-z", "A-Z"]⟩ ∧ rules.command? "up.tale" = none ∧
    quietRoom.loadDocument (rules.loader loudly) "whisper.up" = .ok "QUIET\n" := by
  obtain ⟨rules, resolved⟩ : ∃ rules, (whispers.resolve readEnding).toOption = some rules :=
    Option.isSome_iff_exists.mp (by decide +kernel)
  have resolved := ok_of_toOption resolved
  have listed : (".up", ["tr", "a-z", "A-Z"]) ∈ whispers.filters.entries := by decide +kernel
  have ends : (Path.ofText "whisper.up").EndsIn (bareExtension ".up") :=
    ⟨Text.encode "whisper", by decide, by decide +kernel⟩
  have alone : ∀ entry ∈ whispers.filters.entries, bareExtension entry.1 = bareExtension ".up" →
      compare ".up" entry.1 = .lt → entry.2 = ["tr", "a-z", "A-Z"] := by decide +kernel
  have apart : ∀ extension ∈ whispers.filters.keys,
      (Path.ofText "up.tale").extension? ≠ some (Text.encode (lastPart (bareExtension extension))) := by
    decide +kernel
  obtain ⟨honoured, others, loaded⟩ := filters_honoured_iff resolved
  obtain ⟨program, arguments, line, -, filtered⟩ := honoured _ _ listed
  cases line
  have command := filtered (by decide +kernel) (fun other _ => alone (other, _)) _ ends
  refine ⟨rules, resolved, listed, ends, command,
    others _ fun extension member endsToo => apart extension member (extension?_of_endsIn endsToo), ?_⟩
  have quiet : quietRoom.readText "whisper.up" = .ok "quiet\n" := by decide +kernel
  rw [loaded loudly quietRoom _ _ quiet, command]
  decide +kernel

def murmurs : Settings := withFilters [("part.up", ["tr", "a-z", "A-Z"])]

/-- The extension of two parts has its command in vain. -/
theorem murmurs_in_vain : ∃ rules, murmurs.resolve readEnding = .ok rules ∧
    ("part.up", ["tr", "a-z", "A-Z"]) ∈ murmurs.filters.entries ∧
    (Path.ofText "shout.part.up").EndsIn (bareExtension "part.up") ∧
    rules.command? "shout.part.up" = none := by
  have none : (murmurs.resolve readEnding).toOption.map (fun rules => rules.command? "shout.part.up") =
      some none := by decide +kernel
  obtain ⟨rules, resolved, command⟩ := Option.map_eq_some_iff.mp none
  exact ⟨rules, ok_of_toOption resolved, by decide +kernel,
    ⟨Text.encode "shout", by decide, by decide +kernel⟩, command⟩

end Settings

end Tale
