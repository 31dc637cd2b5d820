import Tale.Proofs.Disk.Growing
import Tale.Proofs.Loom.Targets
import Tale.Proofs.Project.Discovery
import Tale.Proofs.Project.Envelope
import Tale.Proofs.Script.Startable

/-! The files that units are written to.

Writing a unit leaves all that was written before, except in its own file. So each file holds the unit that was
written to it last, and it is read back from there. Whether every unit has a file of its own then depends on the
names of the roots: two roots that differ in their extensions alone share one file, and a root that does not lie
below the base is written beside its source.
-/

set_option autoImplicit false

namespace Tale

open Project Script

namespace Disk

/-! ## Places behind a directory without links -/

theorem leads_of_resolve {disk : Disk} {path : Path} {place : Place}
    (resolved : disk.resolve path = .ok place) : disk.Leads (disk.origin path) path.steps place := by
  have leads := leads_of_follow path.stepsToNode_proper (resolve_eq_ok.mp resolved).2
  unfold Path.stepsToNode at leads
  split at leads
  · -- A separator at the end asks for a directory and leads no further.
    obtain ⟨middle, before, last⟩ := leads.exists_middle
    cases (Leads.current_iff.mp last).2
    exact before
  · exact leads

theorem Leads.of_linkless {disk : Disk} {place reached : Place} {names : Place}
    (leads : disk.Leads place names reached) (proper : ProperPlace names)
    (linkless : ∀ other target, place <+: other → disk.node? other ≠ some (.link target)) :
    reached = place ++ names := by
  induction leads with
  | done => rw [List.append_nil]
  | current => exact absurd rfl (proper _ List.mem_cons_self).notCurrent
  | parent => exact absurd rfl (proper _ List.mem_cons_self).notParent
  | entered _ _ _ _ _ _ ih =>
    rw [ih (fun name member => proper name (List.mem_cons_of_mem _ member)), List.append_assoc]
    · rfl
    · exact fun other target within => linkless other target ((List.prefix_append _ _).trans within)
  | linked _ _ _ link => exact absurd link (linkless _ _ (List.prefix_append _ _))

theorem resolve_join_relative {disk : Disk} {out : Path} {goal place names : Place}
    (resolved : disk.resolve out = .ok goal)
    (linkless : ∀ other target, goal <+: other → disk.node? other ≠ some (.link target))
    (proper : ProperPlace names) (joined : disk.resolve (out.join (.relative names)) = .ok place) :
    place = goal ++ names := by
  have spelled : out.spelling ≠ [] := (checkSpelling_eq_ok.mp (resolve_eq_ok.mp resolved).1).1
  have apart := Path.isAbsolute_relative proper
  have leads := leads_of_resolve joined
  rw [Path.steps_join _ apart, Path.steps_relative proper, Disk.origin,
    Path.isAbsolute_join spelled apart] at leads
  obtain ⟨middle, before, behind⟩ := leads.exists_middle
  rw [Leads.unique before (leads_of_resolve resolved)] at behind
  exact behind.of_linkless proper linkless

end Disk

namespace Loom

/-! ## Writing units -/

section Writing

variable {base out : Path} {disk after : Disk}

theorem write_of_writeUnit {unit : StoryUnit} (written : writeUnit base out disk unit = .ok after) :
    ∃ middle envelope, (middle = disk ∨ ∃ parent, disk.ensureDirectories parent = .ok middle) ∧
      unit.encode? = some envelope ∧
      middle.write (unitFile base out unit) (Text.encode envelope) = .ok after := by
  unfold writeUnit at written
  dsimp only at written
  generalize unitFile base out unit = file at written ⊢
  cases encoded : unit.encode? with
  | none =>
    -- Directories may have been made, but nothing can be written.
    rw [encoded] at written
    split at written
    · obtain ⟨middle, -, written⟩ := bind_eq_ok.mp written
      cases written
    · cases written
  | some envelope =>
    rw [encoded] at written
    split at written
    · next parent _ =>
      obtain ⟨middle, made, written⟩ := bind_eq_ok.mp written
      exact ⟨middle, envelope, .inr ⟨parent, mapError_eq_ok.mp made⟩, rfl, mapError_eq_ok.mp written⟩
    · exact ⟨disk, envelope, .inl rfl, rfl, mapError_eq_ok.mp written⟩

/-- What is at a place after some units were written is the envelope of one that was written there. -/
def Left (base out : Path) (after : Disk) (units : List StoryUnit) (place : Place)
    (content : List UInt8) : Prop :=
  ∃ unit ∈ units, ∃ envelope, after.resolve (unitFile base out unit) = .ok place ∧
    unit.encode? = some envelope ∧ content = Text.encode envelope

variable (wellFormed : disk.WellFormed)

include wellFormed

theorem writeUnit_grows {unit : StoryUnit} (written : writeUnit base out disk unit = .ok after) :
    ∃ place envelope, after.resolve (unitFile base out unit) = .ok place ∧
      unit.encode? = some envelope ∧ after.node? place = some (.file (Text.encode envelope)) ∧
      Disk.Grows (fun other bytes => other = place ∧ bytes = Text.encode envelope) disk after ∧
      after.WellFormed := by
  obtain ⟨middle, envelope, made, encoded, wrote⟩ := write_of_writeUnit written
  have first (new : Place → List UInt8 → Prop) : Disk.Grows new disk middle ∧ middle.WellFormed := by
    rcases made with rfl | ⟨parent, made⟩
    · exact ⟨.refl new middle, wellFormed⟩
    · exact Disk.ensureDirectories_grows new wellFormed made
  obtain ⟨place, resolved, -, there, second, wellFormedToo⟩ :=
    Disk.write_grows (first fun _ _ => False).2 wrote
  exact ⟨place, envelope, resolved, encoded, there, (first _).1.trans second, wellFormedToo⟩

omit wellFormed in
theorem writeUnits_nil (disk : Disk) : writeUnits base out disk [] = (none, disk) := rfl

-- Otherwise what one unit does to the disk is computed to find out whether it fails.
attribute [local irreducible] writeUnit in
omit wellFormed in
theorem writeUnits_cons (disk : Disk) (unit : StoryUnit) (units : List StoryUnit) :
    writeUnits base out disk (unit :: units) = match writeUnit base out disk unit with
      | .ok disk => writeUnits base out disk units
      | .error failure => (some failure, disk) := rfl

/-- Writing units leaves everything but their own files, and in each of these the envelope of a unit. -/
theorem writeUnits_grows {units : List StoryUnit} (written : writeUnits base out disk units = (none, after)) :
    Disk.Grows (Left base out after units) disk after ∧ after.WellFormed ∧
      ∀ unit ∈ units, ∃ place content, after.resolve (unitFile base out unit) = .ok place ∧
        after.node? place = some (.file content) ∧ Left base out after units place content := by
  -- What the first unit adds is kept by all that is written later, but for its own file.
  induction units generalizing disk with
  | nil =>
    rw [writeUnits_nil, Prod.mk.injEq] at written
    rw [← written.2]
    exact ⟨.refl _ disk, wellFormed, List.forall_mem_nil _⟩
  | cons unit rest ih =>
    rw [writeUnits_cons] at written
    split at written
    case h_2 => simp at written
    next middle first =>
    obtain ⟨place, envelope, resolved, encoded, there, grows, wellFormedToo⟩ :=
      writeUnit_grows wellFormed first
    obtain ⟨further, wellFormedAfter, held⟩ := ih wellFormedToo written
    have stays : after.resolve (unitFile base out unit) = .ok place :=
      further.resolve wellFormedToo resolved
    have later (other : Place) (content : List UInt8) (left : Left base out after rest other content) :
        Left base out after (unit :: rest) other content := by
      obtain ⟨last, member, same⟩ := left
      exact ⟨last, List.mem_cons_of_mem _ member, same⟩
    have own : Left base out after (unit :: rest) place (Text.encode envelope) :=
      ⟨unit, List.mem_cons_self, envelope, stays, encoded, rfl⟩
    have here : Disk.Grows (Left base out after (unit :: rest)) disk middle := by
      refine grows.mono fun other content made => ?_
      rw [made.1, made.2]
      exact own
    refine ⟨here.trans (further.mono later), wellFormedAfter, List.forall_mem_cons.mpr ⟨?_, ?_⟩⟩
    · -- What was written is there still, or a later unit was written in its stead.
      rcases further.kept place _ there with same | ⟨_, content, -, found, left⟩
      · exact ⟨place, _, stays, same, own⟩
      · exact ⟨place, content, stays, found, later place content left⟩
    · intro other member
      obtain ⟨goal, content, led, found, left⟩ := held other member
      exact ⟨goal, content, led, found, later goal content left⟩

end Writing

/-! ## Reading units -/

def readUnit (disk : Disk) (path : Path) : Option StoryUnit :=
  (disk.readText path).toOption.bind fun text => (StoryUnit.decode text).toOption

theorem readUnit_congr {disk : Disk} {first second : Path} (same : disk.resolve first = disk.resolve second) :
    readUnit disk first = readUnit disk second := by
  unfold readUnit
  rw [Disk.readText_eq, Disk.readText_eq, same]

theorem readUnit_envelope {disk : Disk} {path : Path} {place : Place} {unit : StoryUnit} {envelope : String}
    (valid : unit.artifact.validate = .ok ()) (encoded : unit.encode? = some envelope)
    (resolved : disk.resolve path = .ok place)
    (there : disk.node? place = some (.file (Text.encode envelope))) : readUnit disk path = some unit := by
  have text : disk.readText path = .ok envelope := by
    rw [Disk.readText_eq, resolved]
    simp only [Except.bind, Disk.textOf, there, Text.decode?_encode]
  have read : StoryUnit.decode envelope = .ok unit := by
    rw [StoryUnit.decode_encode? encoded, valid]
    rfl
  unfold readUnit
  rw [text]
  simp only [Except.toOption, Option.bind_some, read]

/-! ## What is gathered -/

theorem validate_of_compile {root : Path} {text : String} {includes : Includes} {artifact : Artifact}
    (made : (compile root text includes).artifact = some artifact) : artifact.validate = .ok () := by
  obtain ⟨-, rfl⟩ := outcome_eq_some_iff.mp made
  exact Artifact.validate_eq_ok_iff.mpr
    ⟨rfl, Dictionary.contains_mapValues _ (((assemble_tallies _).knots _).mpr List.mem_cons_self)⟩

theorem validate_of_compileRoot {sources : Sources} {edges : Dependencies} {path : Path}
    {artifact : Artifact} (compiled : (compileRoot compile sources edges path).result = .ok artifact) :
    artifact.validate = .ok () := by
  obtain ⟨text, loads⟩ := loads_of_compileRoot compiled
  rw [compileRoot_of_text compile edges loads] at compiled
  unfold judge at compiled
  dsimp only at compiled
  split at compiled
  · next made _ =>
    cases compiled
    exact validate_of_compile made
  · cases compiled
  · cases compiled

theorem exists_build_of_mem_buildAll {project : Project} {sources : Sources} {roots : List Path}
    {build : Build} (member : build ∈ (project.buildAll sources roots).1) :
    ∃ (earlier : Project) (path : Path), build = (earlier.build sources path).1 := by
  induction roots generalizing project with
  | nil => cases member
  | cons root rest ih =>
    rw [buildAll_cons] at member
    rcases List.mem_cons.mp member with rfl | later
    · exact ⟨project, root, rfl⟩
    · exact ih later

def gatheringOf (tools : Tools) (disk : Disk) (serial : Nat) (rules : Rules) (directory : Path)
    (roots : List Path) : Gathering :=
  let sources := disk.sources (rules.loader tools.run)
  let built := (ofRules rules serial).buildAll sources roots
  ⟨built.2, sources, built.1, disk.identify directory⟩

theorem gather_eq_ok {tools : Tools} {disk : Disk} {serial : Nat} {config : Option Path}
    {directory : Path} {gathering : Gathering} : gather tools disk serial config directory = .ok gathering ↔
      ∃ rules roots, rulesFor tools disk config directory = .ok rules ∧
        discover disk rules directory = .ok roots ∧ roots ≠ [] ∧
        gathering = gatheringOf tools disk serial rules directory roots := by
  unfold gather
  cases rulesFor tools disk config directory with
  | error failure => simp [bind, Except.bind]
  | ok rules =>
    cases found : discover disk rules directory with
    | error failure => simp [bind, Except.bind, found, Except.mapError]
    | ok roots =>
      by_cases empty : roots = []
      · simp [bind, Except.bind, found, Except.mapError, empty, throw, throwThe, MonadExceptOf.throw]
      · simp [bind, Except.bind, found, Except.mapError, empty, pure, Except.pure]
        exact eq_comm

/-- What is known of a unit that was gathered: its root is the path of a place that is not that of the base, and
its artifact is valid. -/
structure Gathered (base : Path) (unit : StoryUnit) : Prop where
  root : ∃ place, ProperPlace place ∧ unit.root = .ofPlace place
  apart : unit.root ≠ base
  valid : unit.artifact.validate = .ok ()

section Gathering

variable {tools : Tools} {disk : Disk} (wellFormed : disk.WellFormed)

include wellFormed

/-- Nothing that a document could be loaded from is a directory that could be searched. -/
theorem not_loaded_of_names {filters : Filters} {path : Path} {names : List Name} {text : String}
    (listed : disk.names path = .ok names)
    (loads : disk.loadDocument filters (disk.identify path) = .ok text) : False := by
  obtain ⟨place, resolved, directory, -⟩ := Disk.names_eq_ok.mp listed
  have isDirectory := Disk.isDirectoryAt_iff.mp directory
  rw [Disk.identify_of_resolve resolved] at loads
  obtain ⟨reached, content, again, file⟩ := Disk.isFile_iff.mp (Disk.isFile_of_loadDocument loads)
  -- The path of a directory leads to that directory.
  have straight : disk.Straight place := wellFormed.rooted.straight isDirectory (by simp)
  have same := Disk.resolve_straight (Disk.resolve_proper wellFormed.proper resolved) straight again
  rw [same, isDirectory] at file
  cases file

omit wellFormed in
theorem names_of_discover {rules : Rules} {directory : Path} {roots : List Path}
    (found : discover disk rules directory = .ok roots) :
    ∃ names, disk.names (disk.identify directory) = .ok names := by
  obtain ⟨all, collected, -⟩ := bind_eq_ok.mp found
  obtain ⟨names, -, listed, -⟩ := collect_succ_eq_ok.mp collected
  exact ⟨names, listed⟩

theorem gathered_of_mem_units {serial : Nat} {config : Option Path} {directory : Path} {gathering : Gathering}
    (gathered : gather tools disk serial config directory = .ok gathering) {unit : StoryUnit}
    (member : unit ∈ gathering.units) : Gathered gathering.base unit := by
  obtain ⟨rules, roots, -, found, -, rfl⟩ := gather_eq_ok.mp gathered
  obtain ⟨build, listed, result⟩ := List.mem_filterMap.mp member
  obtain ⟨earlier, path, rfl⟩ := exists_build_of_mem_buildAll listed
  have built : (earlier.build (disk.sources (rules.loader tools.run)) path).1.result = .ok unit :=
    ok_of_toOption result
  obtain ⟨root, compiled⟩ := build_ok built
  rw [Disk.sources_identify] at root
  refine ⟨?_, ?_, validate_of_compileRoot compiled⟩
  · obtain ⟨place, proper, identity⟩ := Disk.identify_proper wellFormed.proper path
    exact ⟨place, proper, root.trans identity⟩
  · intro same
    obtain ⟨names, listed⟩ := names_of_discover found
    obtain ⟨text, loads⟩ := loads_of_compileRoot compiled
    rw [Disk.sources_identify, ← root, same] at loads
    exact not_loaded_of_names wellFormed listed loads

end Gathering

/-! ## Units with files of their own -/

/-- Every unit is read back from a file of its own below a directory. -/
structure Kept (base out : Path) (after : Disk) (units : List StoryUnit) : Prop where
  apart : ∀ first ∈ units, ∀ second ∈ units, first.root ≠ second.root →
    after.resolve (unitFile base out first) ≠ after.resolve (unitFile base out second)
  inside : ∀ unit ∈ units, ((unitFile base out unit).below? out).isSome
  held : ∀ unit ∈ units, readUnit after (unitFile base out unit) = some unit

def Alone (base out : Path) (after : Disk) (units : List StoryUnit) : Prop :=
  ∀ first ∈ units, ∀ second ∈ units,
    after.resolve (unitFile base out first) = after.resolve (unitFile base out second) → first = second

section Units

variable {base out : Path} {after : Disk} {units : List StoryUnit}

theorem kept_iff : Kept base out after units ↔
    (∀ unit ∈ units, ((unitFile base out unit).below? out).isSome) ∧
      ∀ unit ∈ units, readUnit after (unitFile base out unit) = some unit := by
  refine ⟨fun kept => ⟨kept.inside, kept.held⟩, fun ⟨inside, held⟩ => ⟨?_, inside, held⟩⟩
  intro first member second memberToo apart same
  have both := (held first member).symm.trans ((readUnit_congr same).trans (held second memberToo))
  exact apart (congrArg StoryUnit.root (Option.some.inj both))

theorem held_iff (last : ∀ unit ∈ units, ∃ last ∈ units,
      after.resolve (unitFile base out last) = after.resolve (unitFile base out unit) ∧
        readUnit after (unitFile base out unit) = some last) :
    (∀ unit ∈ units, readUnit after (unitFile base out unit) = some unit) ↔
      Alone base out after units := by
  constructor
  · intro held first member second memberToo same
    have both := (held first member).symm.trans ((readUnit_congr same).trans (held second memberToo))
    exact Option.some.inj both
  · intro alone unit member
    obtain ⟨other, memberToo, same, read⟩ := last unit member
    rw [read, alone other memberToo unit member same]

section Below

variable {above : Place} (properAbove : ProperPlace above) {unit : StoryUnit}
  (gathered : Gathered (.ofPlace above) unit)

include properAbove gathered

theorem exists_names_of_below (below : (unit.root.below? (.ofPlace above)).isSome) :
    ∃ front name, ProperPlace (above ++ (front ++ [name])) ∧
      unit.root = .ofPlace (above ++ (front ++ [name])) := by
  obtain ⟨place, proper, root⟩ := gathered.root
  rw [root] at below
  obtain ⟨names, rfl⟩ := Path.exists_of_below?_ofPlace proper properAbove below
  cases names using List.reverseRecOn with
  | nil => exact absurd (by rw [root, List.append_nil]) gathered.apart
  | append_singleton front name => exact ⟨front, name, proper, root⟩

theorem inside_iff : ((unitFile (.ofPlace above) out unit).below? out).isSome ↔
    (unit.root.below? (.ofPlace above)).isSome ∨ ((unit.root.withExtension "json").below? out).isSome := by
  by_cases below : (unit.root.below? (.ofPlace above)).isSome
  · obtain ⟨front, name, proper, root⟩ := exists_names_of_below properAbove gathered below
    have properNames : ProperPlace (front ++ [renamed name "json"]) :=
      proper.behind.front.snoc (isFileName_renamed proper.behind.last)
    rw [unitFile_below out proper root]
    exact iff_of_true (out.below?_join_relative properNames (by simp)) (.inl below)
  · obtain ⟨place, -, root⟩ := gathered.root
    rw [unitFile_apart out root (by simpa using below), or_iff_right below]

/-- Where no link is below the other directory, a unit is written to the place that the names of its root name
there, with the other extension. -/
theorem place_of_below {goal place : Place} (resolved : after.resolve out = .ok goal)
    (linkless : ∀ other target, goal <+: other → after.node? other ≠ some (.link target))
    (below : (unit.root.below? (.ofPlace above)).isSome)
    (led : after.resolve (unitFile (.ofPlace above) out unit) = .ok place) :
    ∃ names, place = goal ++ names ∧ ProperPlace (above ++ names) ∧
      unit.root.withExtension "json" = .ofPlace (above ++ names) := by
  obtain ⟨front, name, proper, root⟩ := exists_names_of_below properAbove gathered below
  have properNames : ProperPlace (front ++ [renamed name "json"]) :=
    proper.behind.front.snoc (isFileName_renamed proper.behind.last)
  rw [unitFile_below out proper root] at led
  refine ⟨_, Disk.resolve_join_relative resolved linkless properNames led,
    properAbove.append properNames, ?_⟩
  rw [← List.append_assoc] at proper
  rw [root, ← List.append_assoc, Path.withExtension_ofPlace proper, List.append_assoc]

end Below

end Units

/-- Where no link is below the other directory, units are written to one place exactly if their roots differ in
their extensions at most. -/
theorem same_place_iff {after : Disk} {above goal : Place} (properAbove : ProperPlace above) {out : Path}
    {units : List StoryUnit} (resolved : after.resolve out = .ok goal)
    (linkless : ∀ other target, goal <+: other → after.node? other ≠ some (.link target))
    (known : ∀ unit ∈ units, Gathered (.ofPlace above) unit)
    (below : ∀ unit ∈ units, (unit.root.below? (.ofPlace above)).isSome)
    (led : ∀ unit ∈ units, ∃ place, after.resolve (unitFile (.ofPlace above) out unit) = .ok place)
    {first second : StoryUnit} (member : first ∈ units) (memberToo : second ∈ units) :
    after.resolve (unitFile (.ofPlace above) out first) =
        after.resolve (unitFile (.ofPlace above) out second) ↔
      first.root.withExtension "json" = second.root.withExtension "json" := by
  have named (unit : StoryUnit) (member : unit ∈ units) : ∃ names,
      after.resolve (unitFile (.ofPlace above) out unit) = .ok (goal ++ names) ∧
        ProperPlace (above ++ names) ∧ unit.root.withExtension "json" = .ofPlace (above ++ names) := by
    obtain ⟨place, leads⟩ := led unit member
    obtain ⟨names, rfl, proper, renamed⟩ :=
      place_of_below properAbove (known unit member) resolved linkless (below unit member) leads
    exact ⟨names, leads, proper, renamed⟩
  obtain ⟨names, leads, proper, renamed⟩ := named first member
  obtain ⟨others, leadsToo, properToo, renamedToo⟩ := named second memberToo
  rw [leads, leadsToo, renamed, renamedToo, Path.ofPlace_inj proper properToo, Except.ok.injEq,
    List.append_cancel_left_eq, List.append_cancel_left_eq]

/-! ## A whole run -/

section Run

variable {tools : Tools} {disk : Disk} (wellFormed : disk.WellFormed) {serial : Nat}
  {config : Option Path} {directory : Path} {gathering : Gathering}
  (gathered : gather tools disk serial config directory = .ok gathering) {out : Path} {after : Disk}
  (written : writeUnits gathering.base out disk gathering.units = (none, after))

include gathered written in
theorem run_build (lines : List String) :
    run tools disk serial config (.build directory (some out)) lines =
      { gathering.outcome disk (buildSummary gathering)
          (if gathering.isComplete then none else some .notCompiled) with disk := after } := by
  unfold run
  simp only [gathered]
  unfold build
  simp only [written]
  rfl

include wellFormed gathered

theorem exists_place_of_base : ∃ above, ProperPlace above ∧ gathering.base = .ofPlace above := by
  obtain ⟨rules, roots, -, -, -, made⟩ := gather_eq_ok.mp gathered
  obtain ⟨place, proper, spelled⟩ := Disk.identify_proper wellFormed.proper directory
  exact ⟨place, proper, (congrArg Gathering.base made).trans spelled⟩

include written

/-- Each file holds the unit that was written there last. -/
theorem exists_last {unit : StoryUnit} (member : unit ∈ gathering.units) :
    ∃ last ∈ gathering.units,
      after.resolve (unitFile gathering.base out last) = after.resolve (unitFile gathering.base out unit) ∧
        readUnit after (unitFile gathering.base out unit) = some last := by
  obtain ⟨place, content, resolved, found, last, listed, envelope, led, encoded, rfl⟩ :=
    (writeUnits_grows wellFormed written).2.2 unit member
  have valid := (gathered_of_mem_units wellFormed gathered listed).valid
  exact ⟨last, listed, led.trans resolved.symm, readUnit_envelope valid encoded resolved found⟩

theorem kept_iff_alone : Kept gathering.base out after gathering.units ↔
    (∀ unit ∈ gathering.units, (unit.root.below? gathering.base).isSome ∨
      ((unit.root.withExtension "json").below? out).isSome) ∧
    Alone gathering.base out after gathering.units := by
  obtain ⟨above, properAbove, base⟩ := exists_place_of_base wellFormed gathered
  rw [kept_iff, held_iff fun unit => exists_last wellFormed gathered written]
  refine and_congr_left' (forall₂_congr fun unit member => ?_)
  have known := gathered_of_mem_units wellFormed gathered member
  rw [base] at known ⊢
  exact inside_iff properAbove known

/-- If there is no link in the other directory, it comes down to the names of the roots. -/
theorem kept_iff_extensions {goal : Place} (resolved : after.resolve out = .ok goal)
    (linkless : ∀ place target, goal <+: place → disk.node? place ≠ some (.link target))
    (below : ∀ unit ∈ gathering.units, (unit.root.below? gathering.base).isSome) :
    Kept gathering.base out after gathering.units ↔
      ∀ first ∈ gathering.units, ∀ second ∈ gathering.units,
        first.root.withExtension "json" = second.root.withExtension "json" → first = second := by
  obtain ⟨grows, -, led⟩ := writeUnits_grows wellFormed written
  obtain ⟨above, properAbove, base⟩ := exists_place_of_base wellFormed gathered
  have linklessAfter (place : Place) (target : Path) (within : goal <+: place) :
      after.node? place ≠ some (.link target) :=
    fun link => linkless place target within (grows.links place target link)
  have known (unit : StoryUnit) (member : unit ∈ gathering.units) :=
    gathered_of_mem_units wellFormed gathered member
  rw [kept_iff_alone wellFormed gathered written, and_iff_right fun unit member => .inl (below unit member)]
  refine forall₂_congr fun first member => forall₂_congr fun second memberToo => ?_
  rw [base] at known below led ⊢
  rw [same_place_iff properAbove resolved linklessAfter known below
    (fun unit member => (led unit member).imp fun _ ⟨_, leads, _⟩ => leads) member memberToo]

end Run

/-- Where every unit could be written, each file that one was written to holds the unit that was written there
last, and the summary counts them all. Every unit is read back from a file of its own below the other
directory exactly if no two of them were written to one place and each root lies below the base, or has its
file there anyway. If there is no link in the other directory and each root lies below the base, all units are
kept exactly if no two roots differ in their extensions alone. -/
theorem build_keeps_iff {tools : Tools} {disk : Disk} (wellFormed : disk.WellFormed) {serial : Nat}
    {config : Option Path} {directory : Path} {gathering : Gathering}
    (gathered : gather tools disk serial config directory = .ok gathering) {out : Path} {after : Disk}
    (written : writeUnits gathering.base out disk gathering.units = (none, after)) (lines : List String) :
    let base := gathering.base
    let units := gathering.units
    let outcome := run tools disk serial config (.build directory (some out)) lines
    (outcome.disk = after ∧ outcome.output = buildSummary gathering) ∧
    (∀ unit ∈ units, ∃ last ∈ units,
      after.resolve (unitFile base out last) = after.resolve (unitFile base out unit) ∧
        readUnit after (unitFile base out unit) = some last) ∧
    (Kept base out after units ↔
      (∀ unit ∈ units, (unit.root.below? base).isSome ∨
        ((unit.root.withExtension "json").below? out).isSome) ∧ Alone base out after units) ∧
    ∀ goal, after.resolve out = .ok goal →
      (∀ place target, goal <+: place → disk.node? place ≠ some (.link target)) →
      (∀ unit ∈ units, (unit.root.below? base).isSome) →
      (Kept base out after units ↔ ∀ first ∈ units, ∀ second ∈ units,
        first.root.withExtension "json" = second.root.withExtension "json" → first = second) := by
  intro base units outcome
  have ran : outcome = _ := run_build gathered written lines
  refine ⟨?_, fun unit => exists_last wellFormed gathered written, kept_iff_alone wellFormed gathered written,
    fun goal => kept_iff_extensions wellFormed gathered written⟩
  rw [ran]
  exact ⟨rfl, rfl⟩

/-- Patterns are texts that are looked for, and commands write what they read. -/
def plainTools : Tools where
  run _ _ text := .ok ⟨Text.encode text, [], .exit 0⟩
  readPattern written := some fun text => text.toList.tails.any written.toList.isPrefixOf

def sampleRules (disk : Disk) : Rules := (rulesFor plainTools disk none ".").toOption.getD default

theorem gather_sample {disk : Disk} {roots : List Path} (ruled : (rulesFor plainTools disk none ".").toOption.isSome)
    (collected : collect disk (sampleRules disk).isRoot (longestPath + 1) (disk.identify ".") = .ok roots)
    (ascending : roots.Pairwise fun first second => (compare first second).isLE) (some : roots ≠ []) :
    gather plainTools disk 0 none "." = .ok (gatheringOf plainTools disk 0 (sampleRules disk) "." roots) := by
  refine gather_eq_ok.mpr ⟨_, roots, ?_, discover_of_collect collected ascending, some, rfl⟩
  unfold sampleRules
  obtain ⟨own, rules⟩ := Option.isSome_iff_exists.mp ruled
  rw [rules]
  exact ok_of_toOption rules

def courtyard : Disk where
  nodes := .ofList [(["gate.tale"], .file (Text.encode "A gate.\n")), (["yard"], .directory),
    (["yard", "well.tale"], .file (Text.encode "A well.\n")),
    (["loom.toml"], .file (Text.encode "file_name_pattern = 'tale'\n"))]
  here := []

def courtyardGathering : Gathering :=
  gatheringOf plainTools courtyard 0 (sampleRules courtyard) "." ["/gate.tale", "/yard/well.tale"]

def courtyardAfter : Disk :=
  (writeUnits courtyardGathering.base "out" courtyard courtyardGathering.units).2

/-- The two roots of the courtyard differ in more than their extensions. -/
theorem courtyard_kept : courtyard.WellFormed ∧
    gather plainTools courtyard 0 none "." = .ok courtyardGathering ∧
    writeUnits courtyardGathering.base "out" courtyard courtyardGathering.units =
      (none, courtyardAfter) ∧
    courtyardGathering.units.length = 2 ∧
    Kept courtyardGathering.base "out" courtyardAfter courtyardGathering.units := by
  have wellFormed : courtyard.WellFormed :=
    ⟨Disk.rooted_of_places (by decide +kernel), Disk.names_of_places (by decide +kernel),
      Disk.isDirectoryAt_root courtyard⟩
  have gathered : gather plainTools courtyard 0 none "." = .ok courtyardGathering :=
    gather_sample (by decide +kernel) (by decide +kernel) (by decide +kernel) (by simp)
  have written : writeUnits courtyardGathering.base "out" courtyard courtyardGathering.units =
      (none, courtyardAfter) := Prod.ext (by decide +kernel) rfl
  have kept := (build_keeps_iff wellFormed gathered written []).2.2.2 [("out" : Name)] (by decide +kernel)
    (fun place target _ => Disk.linkFree_of_values (by decide +kernel) place target) (by decide +kernel)
  exact ⟨wellFormed, gathered, written, by decide +kernel, kept.mpr (by decide +kernel)⟩

def gates : Disk where
  nodes := .ofList [(["gate.scene"], .file (Text.encode "A painted gate.\n")),
    (["gate.tale"], .file (Text.encode "A gate.\n")),
    (["loom.toml"], .file (Text.encode "file_name_pattern = 'gate'\n"))]
  here := []

def gatesGathering : Gathering :=
  gatheringOf plainTools gates 0 (sampleRules gates) "." ["/gate.scene", "/gate.tale"]

/-- The second gate is written over the first, and both are counted. -/
theorem gates_overwritten :
    let outcome := run plainTools gates 0 none (.build "." (some "out")) []
    gather plainTools gates 0 none "." = .ok gatesGathering ∧
    (gatesGathering.units.map fun unit => (unit.root, unitFile gatesGathering.base "out" unit)) =
      [(("/gate.scene" : Path), ("out/gate.json" : Path)), ("/gate.tale", "out/gate.json")] ∧
    outcome.failure = none ∧ outcome.output = buildSummary gatesGathering ∧
    ¬ Kept gatesGathering.base "out" outcome.disk gatesGathering.units := by
  have gathered : gather plainTools gates 0 none "." = .ok gatesGathering :=
    gather_sample (by decide +kernel) (by decide +kernel) (by decide +kernel) (by simp)
  have written : writeUnits gatesGathering.base "out" gates gatesGathering.units =
      (none, (writeUnits gatesGathering.base "out" gates gatesGathering.units).2) :=
    Prod.ext (by decide +kernel) rfl
  have files : (gatesGathering.units.map fun unit => (unit.root, unitFile gatesGathering.base "out" unit)) =
      [(("/gate.scene" : Path), ("out/gate.json" : Path)), ("/gate.tale", "out/gate.json")] := by
    decide +kernel
  intro outcome
  have ran : outcome = _ := run_build gathered written []
  rw [ran]
  refine ⟨gathered, files, by decide +kernel, rfl, fun kept => ?_⟩
  obtain ⟨scene, others, listed, first, later⟩ := List.map_eq_cons_iff.mp files
  obtain ⟨tale, rest, listedToo, second, -⟩ := List.map_eq_cons_iff.mp later
  obtain ⟨sceneRoot, sceneFile⟩ := Prod.mk.inj first
  obtain ⟨taleRoot, taleFile⟩ := Prod.mk.inj second
  have apart : scene.root ≠ tale.root := by
    rw [sceneRoot, taleRoot]
    decide
  apply kept.apart scene (by simp [listed]) tale (by simp [listed, listedToo]) apart
  rw [sceneFile, taleFile]

end Loom

end Tale
