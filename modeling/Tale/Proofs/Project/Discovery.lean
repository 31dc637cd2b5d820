import Tale.Proofs.Disk.Ways
import Tale.Proofs.Except
import Tale.Proofs.Project.Selection

/-! Whether the roots that are found react to changes of themselves.

A root is found by the path that leads to it from the directory that was searched, and the pattern for roots
is asked about that path. A root is built, and its changes are handled, by its identity, and the pattern is
asked again there. The two differ where a link was passed.
-/

set_option autoImplicit false

namespace Tale

theorem Path.join_ofPlace {place : Place} {name : Name} (proper : ProperPlace place)
    (fileName : IsFileName name) : (Path.ofPlace place).join ⟨name⟩ = .ofPlace (place ++ [name]) := by
  unfold Path.join
  rw [Path.isAbsolute_of_isFileName fileName, if_neg (by simp)]
  by_cases inside : place = []
  · simp [inside, Path.ofPlace]
  · have nonempty : (Path.ofPlace place).spelling ≠ [] := List.cons_ne_nil _ _
    rw [if_neg (by simp [nonempty, Path.unclosed_ofPlace proper inside])]
    simp [Path.ofPlace, Disk.intercalate_snoc inside]

namespace Disk

theorem names_eq_ok {disk : Disk} {path : Path} {names : List Name} : disk.names path = .ok names ↔
    ∃ place, disk.resolve path = .ok place ∧ disk.isDirectoryAt place ∧
      disk.nodes.keys.filterMap (childOf? place) = names := by
  unfold Disk.names
  cases disk.resolve path with
  | error error => simp [bind, Except.bind]
  | ok place =>
    by_cases directory : disk.isDirectoryAt place <;>
      simp [bind, Except.bind, pure, Except.pure, throw, throwThe, MonadExceptOf.throw, directory]

theorem childOf?_eq_some {directory place : Place} {name : Name} :
    childOf? directory place = some name ↔ place = directory ++ [name] := by
  unfold childOf?
  constructor
  · intro child
    split at child
    case isFalse => cases child
    next above =>
      obtain ⟨front, rfl⟩ := List.getLast?_eq_some_iff.mp child
      rw [← above, List.dropLast_concat]
  · rintro rfl
    simp

theorem mem_names {disk : Disk} {path : Path} {names : List Name} {name : Name}
    (listed : disk.names path = .ok names) (member : name ∈ names) :
    ∃ place, disk.resolve path = .ok place ∧ disk.node? (place ++ [name]) ≠ none := by
  obtain ⟨place, resolved, -, rfl⟩ := names_eq_ok.mp listed
  obtain ⟨whole, key, child⟩ := List.mem_filterMap.mp member
  cases childOf?_eq_some.mp child
  obtain ⟨⟨other, node⟩, entry, same : other = place ++ [name]⟩ := List.mem_map.mp key
  have found := Dictionary.find?_eq_some_iff.mpr entry
  rw [same] at found
  exact ⟨place, resolved, by simp [node?, found]⟩

end Disk

namespace Project

open Script Dependencies

/-! ## What is found -/

def collectAt (disk : Disk) (wanted : Path → Bool) (depth : Nat) (directory : Path) (name : Name) :
    Except ScanError (List Path) :=
  let path := directory.join ⟨name⟩
  if disk.isDirectory path then
    if isHidden name then .ok [] else collect disk wanted depth path
  else .ok (if wanted path then [path] else [])

theorem collect_succ_eq_ok {disk : Disk} {wanted : Path → Bool} {depth : Nat} {directory : Path}
    {found : List Path} : collect disk wanted (depth + 1) directory = .ok found ↔
      ∃ names parts, disk.names directory = .ok names ∧
        names.mapM (collectAt disk wanted depth directory) = .ok parts ∧ parts.flatten = found := by
  simp only [collect, bind_eq_ok, mapError_eq_ok]
  constructor
  · rintro ⟨names, listed, parts, mapped, joined⟩
    exact ⟨names, parts, listed, mapped, Except.ok.inj joined⟩
  · rintro ⟨names, parts, listed, mapped, rfl⟩
    exact ⟨names, listed, parts, mapped, rfl⟩

section Found

variable {disk : Disk} (wellFormed : disk.WellFormed)

include wellFormed

theorem mem_collect {wanted : Path → Bool} {depth : Nat} {place : Place} (proper : ProperPlace place)
    {found : List Path} (collected : collect disk wanted depth (.ofPlace place) = .ok found)
    {path : Path} (member : path ∈ found) :
    wanted path ∧ disk.isDirectory path = false ∧
      ∃ below, ProperPlace (place ++ below) ∧ path = .ofPlace (place ++ below) := by
  -- On the depth, as a directory is searched with less depth than the one that it lies in.
  induction depth generalizing place found with
  | zero =>
    cases collected
    cases member
  | succ depth ih =>
    obtain ⟨names, parts, listed, mapped, rfl⟩ := collect_succ_eq_ok.mp collected
    obtain ⟨part, inside, here⟩ := List.mem_flatten.mp member
    obtain ⟨name, named, made⟩ := exists_of_mapM mapped inside
    obtain ⟨directory, -, there⟩ := Disk.mem_names listed named
    have fileName : IsFileName name := wellFormed.names _ there name (by simp)
    unfold collectAt at made
    dsimp only at made
    rw [Path.join_ofPlace proper fileName] at made
    split at made
    · split at made
      · cases made
        cases here
      · obtain ⟨fits, noDirectory, below, properBelow, spelled⟩ :=
          ih (proper.snoc fileName) made here
        rw [List.append_assoc] at properBelow spelled
        exact ⟨fits, noDirectory, name :: below, properBelow, spelled⟩
    · next noDirectory =>
      cases made
      split at here
      case isFalse => cases here
      next fits =>
        cases List.mem_singleton.mp here
        exact ⟨fits, by simpa using noDirectory, [name], proper.snoc fileName, rfl⟩

/-- What is discovered matches the pattern for roots and lies below the directory that was searched. -/
theorem mem_discover {rules : Rules} {directory : Path} {roots : List Path}
    (found : discover disk rules directory = .ok roots) {path : Path} (member : path ∈ roots) :
    rules.isRoot path ∧ disk.isDirectory path = false ∧ ∃ place below,
      disk.identify directory = .ofPlace place ∧ ProperPlace (place ++ below) ∧
        path = .ofPlace (place ++ below) := by
  obtain ⟨place, proper, identity⟩ := Disk.identify_proper wellFormed.proper directory
  unfold discover at found
  rw [identity] at found
  obtain ⟨all, collected, sorted⟩ := bind_eq_ok.mp found
  cases sorted
  obtain ⟨fits, noDirectory, below, properBelow, spelled⟩ :=
    mem_collect wellFormed proper collected (List.mem_mergeSort.mp member)
  exact ⟨fits, noDirectory, place, below, identity, properBelow, spelled⟩

end Found

theorem discover_of_collect {disk : Disk} {rules : Rules} {directory : Path} {roots : List Path}
    (collected : collect disk rules.isRoot (longestPath + 1) (disk.identify directory) = .ok roots)
    (ascending : roots.Pairwise fun first second => (compare first second).isLE) :
    discover disk rules directory = .ok roots := by
  unfold discover
  rw [collected]
  exact congrArg Except.ok (List.mergeSort_of_pairwise ascending)

/-! ## What is built -/

theorem loads_of_compileRoot {compiler : Compiler} {sources : Sources} {edges : Dependencies}
    {path : Path} {artifact : Artifact}
    (compiled : (compileRoot compiler sources edges path).result = .ok artifact) :
    ∃ text, sources.load (sources.identify path) = .ok text := by
  cases loads : sources.load (sources.identify path) with
  | error error =>
    rw [compileRoot_of_error compiler edges loads] at compiled
    cases compiled
  | ok text => exact ⟨text, rfl⟩

theorem build_ok {project : Project} {sources : Sources} {path : Path} {unit : StoryUnit}
    (built : (project.build sources path).1.result = .ok unit) :
    unit.root = sources.identify path ∧
      (compileRoot compile sources project.edges (sources.identify path)).result =
        .ok unit.artifact := by
  unfold build at built
  dsimp only at built
  split at built
  · cases built
  · next artifact compiled =>
    cases built
    exact ⟨rfl, compiled⟩

theorem build_rules (project : Project) (sources : Sources) (path : Path) :
    (project.build sources path).2.rules = project.rules := by
  unfold build
  dsimp only
  split <;> rfl

section Reacting

variable {project : Project} {sources : Sources} (steady : sources.Steady)
  (reachable : project.edges.Reachable) {path : Path}
  (normal : sources.identify (sources.identify path) = sources.identify path)
  (file : sources.isFile (sources.identify path))

include reachable file

/-- A document that is a file is among the roots that its changes affect exactly if it is itself a root. -/
theorem rootsFor_self : (project.rootsFor sources path).contains (sources.identify path) ↔
    project.rules.isRoot (sources.identify path) := by
  rw [rootsFor, contains_rootsAffectedBy reachable.coherent]
  have untracked : ¬ project.edges.tracks (sources.identify path) (sources.identify path) :=
    fun tracked => reachable.irreflexive tracked (Path.same_refl _)
  simp [untracked, isLiveRoot, file]

include steady normal

theorem handleChanges_self :
    (∃ build ∈ (project.handleChanges sources [path]).1, build.root.same (sources.identify path)) ↔
      project.rules.isRoot (sources.identify path) := by
  have roots : (project.handleChangesBy compile sources [path]).1.map Build.root =
      (project.selection sources [path]).keys := handleChangesBy_roots ..
  rw [handleChangesBy_compile] at roots
  have normalAll : ∀ other ∈ [path], sources.identify (sources.identify other) =
      sources.identify other := by simpa using normal
  have selected := exists_selection_iff steady reachable.coherent normalAll (sources.identify path)
  rw [← roots] at selected
  have untracked : ¬ project.edges.tracks (sources.identify path) (sources.identify path) :=
    fun tracked => reachable.irreflexive tracked (Path.same_refl _)
  simpa [Selected, Vanished, untracked, isLiveRoot, file] using selected

end Reacting

/-- A root that is found, is a file and is built, is built again on a change of it exactly if the pattern for
roots matches its identity as it matched the path by which it was found. That is so if there is no link on the
way to it. -/
theorem discovered_root_reacts_iff {disk : Disk} (wellFormed : disk.WellFormed) (filters : Filters)
    {project : Project} (reachable : project.edges.Reachable) {directory path : Path} {roots : List Path}
    (found : discover disk project.rules directory = .ok roots) (member : path ∈ roots)
    (file : disk.isFile path) {unit : StoryUnit} :
    let sources := disk.sources filters
    let after := (project.build sources path).2
    (project.build sources path).1.result = .ok unit →
    unit.root = disk.identify path ∧ project.rules.isRoot path ∧
    ((after.rootsFor sources path).contains unit.root ↔ project.rules.isRoot unit.root) ∧
    ((∃ build ∈ (after.handleChanges sources [path]).1, build.root.same unit.root) ↔
      project.rules.isRoot unit.root) ∧
    ∃ place, path = .ofPlace place ∧
      (disk.Straight place → unit.root = path ∧ project.rules.isRoot unit.root) := by
  intro sources after built
  obtain ⟨fits, -, above, below, -, properPlace, spelled⟩ := mem_discover wellFormed found member
  obtain ⟨identity, compiled⟩ := build_ok built
  have rootIs : unit.root = disk.identify path := identity
  have normal : disk.identify (disk.identify path) = disk.identify path :=
    Disk.identify_isFile wellFormed.proper wellFormed.rooted file
  have there : sources.isFile (sources.identify path) := by
    obtain ⟨text, loads⟩ := loads_of_compileRoot compiled
    have loadsIt : disk.loadDocument filters (disk.identify (disk.identify path)) = .ok text := loads
    rw [normal] at loadsIt
    exact Disk.isFile_of_loadDocument loadsIt
  have reachableToo : after.edges.Reachable := reachable_build reachable wellFormed.proper _ path
  have rules : after.rules = project.rules := build_rules ..
  refine ⟨rootIs, fits, ?_, ?_, above ++ below, spelled, ?_⟩
  · rw [identity, ← rules]
    exact rootsFor_self reachableToo there
  · rw [identity, ← rules]
    exact handleChanges_self (disk.sources_steady wellFormed.proper wellFormed.rooted _) reachableToo
      normal there
  · intro straight
    have itself : disk.identify path = path := by
      rw [spelled, Disk.identify_straight wellFormed.proper properPlace straight]
    rw [rootIs, itself]
    exact ⟨rfl, fits⟩

def gallery : Disk where
  nodes := .ofList [(["drafts"], .directory), (["drafts", "intro.txt"], .file (Text.encode "Hello.\n")),
    (["intro.tale"], .link "drafts/intro.txt"), (["main.tale"], .file (Text.encode "-> END\n"))]
  here := []

theorem gallery_wellFormed : gallery.WellFormed where
  rooted := Disk.rooted_of_places (by decide +kernel)
  names := Disk.names_of_places (by decide +kernel)
  home := Disk.isDirectoryAt_root gallery

theorem gallery_discovers :
    discover gallery taleRules "." = .ok ["/intro.tale", "/main.tale"] :=
  discover_of_collect (by decide +kernel) (by decide +kernel)

/-- There is no link on the way to the main story. -/
theorem gallery_main_reacts :
    let sources := gallery.sources loudParts
    let project := ofRules taleRules 0
    gallery.WellFormed ∧ project.edges.Reachable ∧ gallery.isFile "/main.tale" ∧
    ∃ unit, (project.build sources "/main.tale").1.result = .ok unit ∧ unit.root = "/main.tale" ∧
      ∃ build ∈ ((project.build sources "/main.tale").2.handleChanges sources ["/main.tale"]).1,
        build.root.same unit.root := by
  intro sources project
  have reachable : project.edges.Reachable := .empty
  have file : gallery.isFile "/main.tale" := by decide +kernel
  obtain ⟨unit, built⟩ : ∃ unit, (project.build sources "/main.tale").1.result = .ok unit := by
    have succeeds : (project.build sources "/main.tale").1.result.isOk := by decide +kernel
    cases result : (project.build sources "/main.tale").1.result with
    | error errors =>
      rw [result] at succeeds
      cases succeeds
    | ok unit => exact ⟨unit, rfl⟩
  obtain ⟨root, -, -, reacts, -⟩ :=
    discovered_root_reacts_iff gallery_wellFormed loudParts reachable gallery_discovers (by simp) file built
  have itself : unit.root = "/main.tale" := root.trans (by decide +kernel)
  have matching : project.rules.isRoot unit.root := by
    rw [itself]
    decide +kernel
  exact ⟨gallery_wellFormed, reachable, file, unit, built, itself, reacts.mpr matching⟩

/-- The link is found and builds, and a change of it affects nothing. -/
theorem gallery_intro_ignored :
    let sources := gallery.sources loudParts
    let built := (ofRules taleRules 0).build sources "/intro.tale"
    discover gallery taleRules "." = .ok ["/intro.tale", "/main.tale"] ∧
    gallery.isFile "/intro.tale" ∧
    built.1.result.toOption.map StoryUnit.root = some "/drafts/intro.txt" ∧
    (built.2.rootsFor sources "/intro.tale").contains "/drafts/intro.txt" = false ∧
    (built.2.handleChanges sources ["/intro.tale"]).1.map Build.root = [] := by
  intro sources built
  refine ⟨gallery_discovers, ?_, ?_, ?_, ?_⟩ <;> decide +kernel

end Project

end Tale
