import Tale.Loom.Run
import Tale.Proofs.Project.Reordering

/-! Which roots some changes build again.

They are those that include a changed document and those of the changed documents that are roots and
files, whatever compiler builds them. A root that vanished is left out wherever it stands among the
changes, and ends without edges; any other root that is not built keeps its own.
-/

set_option autoImplicit false

namespace Tale

namespace Project

open Script Dependencies

/-! ## Building with any compiler -/

def buildBy (compiler : Compiler) (project : Project) (sources : Sources) (path : Path) :
    Build × Project :=
  let root := sources.identify path
  let compilation := compileRoot compiler sources project.edges root
  let project := { project with edges := compilation.edges }
  match compilation.result with
  | .error errors => (⟨path, .error errors, compilation.reported⟩, project)
  | .ok artifact =>
    let (unit, issuer) := project.issuer.issue root artifact
    (⟨path, .ok unit, compilation.reported⟩, { project with issuer := issuer })

def buildAllBy (compiler : Compiler) (project : Project) (sources : Sources) :
    List Path → List Build × Project
  | [] => ([], project)
  | root :: roots =>
    let (build, project) := project.buildBy compiler sources root
    let (builds, project) := project.buildAllBy compiler sources roots
    (build :: builds, project)

def selection (project : Project) (sources : Sources) (changed : List Path) : OrderedSet Path :=
  let documents := changed.map sources.identify
  (project.forgetVanished sources documents).rebuilt sources documents

def handleChangesBy (compiler : Compiler) (project : Project) (sources : Sources)
    (changed : List Path) : List Build × Project :=
  (project.forgetVanished sources (changed.map sources.identify)).buildAllBy compiler sources
    (project.selection sources changed).keys

theorem buildAllBy_compile (project : Project) (sources : Sources) (roots : List Path) :
    project.buildAllBy compile sources roots = project.buildAll sources roots := by
  induction roots generalizing project with
  | nil => rfl
  | cons root rest ih =>
    simp only [buildAllBy, ih]
    rfl

theorem handleChangesBy_compile (project : Project) (sources : Sources) (changed : List Path) :
    project.handleChangesBy compile sources changed = project.handleChanges sources changed :=
  buildAllBy_compile ..

section AnyCompiler

variable (compiler : Compiler) (project : Project) (sources : Sources)

theorem buildBy_root (path : Path) : (project.buildBy compiler sources path).1.root = path := by
  unfold buildBy
  dsimp only
  split <;> rfl

theorem buildBy_edges (path : Path) : (project.buildBy compiler sources path).2.edges =
    (compileRoot compiler sources project.edges (sources.identify path)).edges := by
  unfold buildBy
  dsimp only
  split <;> rfl

theorem buildAllBy_roots (roots : List Path) :
    (project.buildAllBy compiler sources roots).1.map Build.root = roots := by
  induction roots generalizing project with
  | nil => rfl
  | cons root rest ih => simp only [buildAllBy, List.map_cons, buildBy_root, ih]

theorem buildAllBy_coherent {project : Project} (coherent : project.edges.Coherent)
    (roots : List Path) : (project.buildAllBy compiler sources roots).2.edges.Coherent := by
  induction roots generalizing project with
  | nil => exact coherent
  | cons root rest ih =>
    have built : (project.buildBy compiler sources root).2.edges.Coherent := by
      rw [buildBy_edges]
      exact coherent_compileRoot coherent compiler sources _
    exact ih built

theorem tracks_pass_other (edges : Dependencies) {path root : Path}
    (apart : ¬ root.same (sources.identify path)) (file : Path) :
    (compileRoot compiler sources edges path).edges.tracks root file = edges.tracks root file := by
  rw [Bool.eq_iff_iff]
  cases loads : sources.load (sources.identify path) with
  | error error => simp [compileRoot_of_error compiler edges loads, tracks_clear, apart]
  | ok text =>
    simp [compileRoot_of_text compiler edges loads, tracks_trackAll, tracks_clear, apart]

theorem tracks_buildAllBy_other {roots : List Path}
    (itself : ∀ path ∈ roots, sources.identify path = path) {root : Path}
    (apart : ¬ ∃ path ∈ roots, path.same root) (file : Path) :
    (project.buildAllBy compiler sources roots).2.edges.tracks root file =
      project.edges.tracks root file := by
  induction roots generalizing project with
  | nil => rfl
  | cons path rest ih =>
    obtain ⟨here, later⟩ := List.forall_mem_cons.mp itself
    simp only [List.mem_cons, exists_eq_or_imp, not_or] at apart
    rw [buildAllBy, ih _ later apart.2, buildBy_edges]
    apply tracks_pass_other
    rw [here, here, Path.same_comm]
    exact apart.1

end AnyCompiler

/-! ## The choice of roots -/

theorem Dependencies.Reachable.irreflexive {edges : Dependencies} (reachable : edges.Reachable)
    {root file : Path} (tracked : edges.tracks root file) : ¬ root.same file := by
  induction reachable with
  | empty => cases tracked
  | clear reachable other ih => exact ih ((tracks_clear ..).mp tracked).2
  | @pass edges reachable compiler disk proper filters path ih =>
    by_cases here : root.same ((disk.sources filters).identify path)
    · cases loads : (disk.sources filters).load ((disk.sources filters).identify path) with
      | error error =>
        rw [compileRoot_of_error compiler edges loads, tracks_clear] at tracked
        exact absurd here tracked.1
      | ok text =>
        rw [compileRoot_of_text compiler edges loads, tracks_trackAll, tracks_clear] at tracked
        obtain ⟨-, apart, -⟩ | ⟨other, -⟩ := tracked
        · rwa [Path.same_congr_left here]
        · exact absurd here other
    · rw [tracks_pass_other compiler _ edges here] at tracked
      exact ih tracked

section Choice

variable (project : Project) (sources : Sources) (changed : List Path) (root : Path)

/-- A root includes a changed document, or it is one that is a file. -/
def Selected : Prop := ∃ path ∈ changed,
  project.edges.tracks root (sources.identify path) ∨
    (project.isLiveRoot sources (sources.identify path) ∧ root.same (sources.identify path))

/-- A root is a changed document that is no longer a file. -/
def Vanished : Prop := ∃ path ∈ changed,
  project.rules.isRoot (sources.identify path) ∧ ¬ sources.isFile (sources.identify path) ∧
    root.same (sources.identify path)

end Choice

/-- Forgetting takes the edges of the roots that vanished, and no others. -/
theorem tracks_unvanished_iff (project : Project) (sources : Sources) (changed : List Path)
    (root file : Path) :
    (project.forgetVanished sources (changed.map sources.identify)).edges.tracks root file ↔
      project.edges.tracks root file ∧ ¬ Vanished project sources changed root := by
  rw [tracks_forgetVanished]
  simp only [List.mem_map, exists_exists_and_eq_and, Vanished]

section Choosing

variable {project : Project} {sources : Sources} (steady : sources.Steady)
  (coherent : project.edges.Coherent) (owned : project.edges.Own sources) {changed : List Path}
  (normal : ∀ path ∈ changed, sources.identify (sources.identify path) = sources.identify path)

include normal

include owned in
theorem identify_selection {key : Path} (member : key ∈ (project.selection sources changed).keys) :
    sources.identify key = key := by
  obtain ⟨document, listed, inside | ⟨-, rfl⟩⟩ := mem_keys_rebuilt member
  · exact own_forgetVanished owned _ key (.inr ⟨_, inside⟩)
  · obtain ⟨path, there, rfl⟩ := List.mem_map.mp listed
    rw [normal path there, normal path there]

include steady coherent

theorem exists_selection_iff (root : Path) :
    (∃ key ∈ (project.selection sources changed).keys, key.same root) ↔
      Selected project sources changed root ∧ ¬ Vanished project sources changed root := by
  have listed : (∃ key ∈ (project.selection sources changed).keys, key.same root) ↔
      (project.selection sources changed).contains root := by
    simp only [Dictionary.contains_iff, Path.compare_eq_iff, Path.same_comm root]
  rw [listed, selection, contains_rebuilt (forgetVanished_coherent coherent sources _)]
  constructor
  · rintro ⟨document, member, chosen⟩
    obtain ⟨path, inside, rfl⟩ := List.mem_map.mp member
    rw [normal path inside] at chosen
    rcases chosen with tracked | ⟨live, same⟩
    · rw [tracks_unvanished_iff] at tracked
      exact ⟨⟨path, inside, .inl tracked.1⟩, tracked.2⟩
    · refine ⟨⟨path, inside, .inr ⟨live, same⟩⟩, ?_⟩
      -- One document cannot be a file and no file.
      rintro ⟨other, -, -, gone, sameToo⟩
      rw [← steady.unique path other (Path.same_trans (Path.same_symm same) sameToo)] at gone
      exact gone (Bool.and_eq_true_iff.mp live).2
  · rintro ⟨⟨path, inside, chosen⟩, kept⟩
    refine ⟨sources.identify path, List.mem_map_of_mem inside, ?_⟩
    rw [normal path inside]
    exact chosen.imp_left fun tracked => (tracks_unvanished_iff ..).mpr ⟨tracked, kept⟩

end Choosing

section Handling

variable {project : Project} {sources : Sources} {changed : List Path} {root : Path}

variable (compiler : Compiler)

theorem handleChangesBy_roots (project : Project) (sources : Sources) (changed : List Path) :
    (project.handleChangesBy compiler sources changed).1.map Build.root =
      (project.selection sources changed).keys :=
  buildAllBy_roots ..

theorem handleChangesBy_coherent (coherent : project.edges.Coherent) :
    (project.handleChangesBy compiler sources changed).2.edges.Coherent :=
  buildAllBy_coherent compiler sources (forgetVanished_coherent coherent sources _) _

/-- A root that is not built is only touched if it vanished. -/
theorem tracks_handleChangesBy_unbuilt (owned : project.edges.Own sources)
    (normal : ∀ path ∈ changed, sources.identify (sources.identify path) = sources.identify path)
    (unbuilt : ¬ ∃ build ∈ (project.handleChangesBy compiler sources changed).1,
      build.root.same root) (file : Path) :
    (project.handleChangesBy compiler sources changed).2.edges.tracks root file =
      (project.forgetVanished sources (changed.map sources.identify)).edges.tracks root file := by
  apply tracks_buildAllBy_other compiler _ sources fun key => identify_selection owned normal
  rw [← handleChangesBy_roots compiler]
  simpa using unbuilt

end Handling

theorem ascending_keys (paths : OrderedSet Path) :
    paths.keys.Pairwise fun first second => compare first second = .lt :=
  List.pairwise_map.mpr paths.ascending

theorem keys_eq_of_contains {sources : Sources} (steady : sources.Steady)
    {first second : OrderedSet Path} (itself : ∀ key ∈ first.keys, sources.identify key = key)
    (itselfToo : ∀ key ∈ second.keys, sources.identify key = key)
    (alike : ∀ root, first.contains root ↔ second.contains root) : first.keys = second.keys := by
  have within {first second : OrderedSet Path}
      (itself : ∀ key ∈ first.keys, sources.identify key = key)
      (itselfToo : ∀ key ∈ second.keys, sources.identify key = key)
      (inside : ∀ root, first.contains root → second.contains root) {key : Path}
      (member : key ∈ first.keys) : key ∈ second.keys := by
    obtain ⟨held, there, same⟩ := Dictionary.contains_iff.mp
      (inside key (Dictionary.contains_iff.mpr ⟨key, member, Std.ReflCmp.compare_self⟩))
    rw [Path.compare_eq_iff, ← itself key member, ← itselfToo held there] at same
    have spelled := steady.unique key held same
    rw [itself key member, itselfToo held there] at spelled
    exact spelled ▸ there
  apply Dictionary.eq_of_ascending id (ascending_keys first) (ascending_keys second)
  exact fun key => ⟨within itself itselfToo fun root => (alike root).mp,
    within itselfToo itself fun root => (alike root).mpr⟩

section Single

variable {project : Project} {sources : Sources} (steady : sources.Steady)
  (coherent : project.edges.Coherent) (owned : project.edges.Own sources) {path : Path}
  (normal : sources.identify (sources.identify path) = sources.identify path)

include owned normal in
theorem identify_rootsFor {key : Path} (member : key ∈ (project.rootsFor sources path).keys) :
    sources.identify key = key := by
  unfold rootsFor rootsAffectedBy at member
  dsimp only at member
  split at member
  · rcases Dictionary.mem_keys_insert member with rfl | inside
    · exact normal
    · exact owned key (.inr ⟨_, inside⟩)
  · exact owned key (.inr ⟨_, member⟩)

include steady coherent owned normal in
/-- A single change builds the roots again that are said to depend on it. -/
theorem selection_single
    (irreflexive : ∀ root file, project.edges.tracks root file → ¬ root.same file) :
    (project.selection sources [path]).keys = (project.rootsFor sources path).keys := by
  have normalAll : ∀ other ∈ [path], sources.identify (sources.identify other) =
      sources.identify other := by simpa using normal
  apply keys_eq_of_contains steady (fun key => identify_selection owned normalAll)
    fun key => identify_rootsFor owned normal
  intro root
  have chosen := exists_selection_iff steady coherent normalAll root
  simp only [Path.same_comm _ root, ← Path.compare_eq_iff, ← Dictionary.contains_iff] at chosen
  rw [chosen, rootsFor, contains_rootsAffectedBy coherent]
  simp only [Selected, Vanished, List.mem_singleton, exists_eq_left]
  refine and_iff_left_of_imp ?_
  rintro (tracked | ⟨live, -⟩) ⟨-, gone, same⟩
  · exact irreflexive root _ tracked same
  · exact gone (Bool.and_eq_true_iff.mp live).2

end Single

theorem deps_output (gathering : Loom.Gathering) (disk : Disk) {path : Path}
    (normal : gathering.sources.identify (gathering.sources.identify path) =
      gathering.sources.identify path) :
    let roots := (gathering.project.rootsFor gathering.sources path).keys
    (Loom.deps gathering disk (some path)).output =
      if roots.isEmpty then
        "  No roots depend on '" ++ gathering.shown (gathering.sources.identify path) ++ "'.\n"
      else String.join (roots.map fun root => "  " ++ gathering.shown root ++ "\n") := by
  have again := congrArg (gathering.project.rootsAffectedBy gathering.sources) normal
  unfold Loom.deps rootsFor
  rw [← again]
  rfl

/-- Some changes, to documents whose identities are identified by themselves, build roots again, each
once and in ascending order. These are the roots that include a changed document and those of the
changed documents that are roots and files, but none that vanished. For a single change they are the
roots that are listed as depending on it. A root that vanished has no edges afterwards, on neither
side of the table, and any other root that was not built has those that it had. The compiler has no
part in this. -/
theorem handleChanges_selects {disk : Disk} (proper : disk.Proper) (rooted : disk.Rooted)
    (filters : Filters) {project : Project} (reachable : project.edges.Reachable)
    (own : ∀ root ∈ project.edges.included.keys, root.same (disk.identify root))
    {changed : List Path}
    (normal : ∀ path ∈ changed, disk.identify (disk.identify path) = disk.identify path)
    (compiler : Compiler) :
    let sources := disk.sources filters
    let builds := (project.handleChangesBy compiler sources changed).1
    let after := (project.handleChangesBy compiler sources changed).2.edges
    (compiler = compile → project.handleChanges sources changed =
      project.handleChangesBy compiler sources changed) ∧
    (builds.map Build.root).Pairwise (fun first second => compare first second = .lt) ∧
    (∀ root, (∃ build ∈ builds, build.root.same root) ↔
      Selected project sources changed root ∧ ¬ Vanished project sources changed root) ∧
    (∀ path, changed = [path] →
      builds.map Build.root = (project.rootsFor sources path).keys ∧
      ∀ all base elsewhere, let gathering : Loom.Gathering := ⟨project, sources, all, base⟩
        (Loom.deps gathering elsewhere (some path)).output =
          if builds.isEmpty then
            "  No roots depend on '" ++ gathering.shown (sources.identify path) ++ "'.\n"
          else String.join (builds.map fun build => "  " ++ gathering.shown build.root ++ "\n")) ∧
    (∀ root file, (after.affected file).contains root = after.tracks root file) ∧
    (∀ root, Vanished project sources changed root → ∀ file, after.tracks root file = false) ∧
    ∀ root, (¬ ∃ build ∈ builds, build.root.same root) → ¬ Vanished project sources changed root →
      ∀ file, after.tracks root file = project.edges.tracks root file := by
  intro sources builds after
  have steady : sources.Steady := Disk.sources_steady proper rooted filters
  have coherent := reachable.coherent
  have owned : project.edges.Own sources := reachable.owned proper filters own
  have roots : builds.map Build.root = (project.selection sources changed).keys :=
    handleChangesBy_roots compiler project sources changed
  have chosen (root : Path) : (∃ build ∈ builds, build.root.same root) ↔
      Selected project sources changed root ∧ ¬ Vanished project sources changed root := by
    rw [← exists_selection_iff steady coherent normal, ← roots]
    simp
  refine ⟨?_, roots ▸ ascending_keys _, chosen, ?_, fun root file => ?_, ?_, ?_⟩
  · rintro rfl
    exact (handleChangesBy_compile ..).symm
  · rintro path rfl
    have identity := normal path List.mem_cons_self
    have single : builds.map Build.root = (project.rootsFor sources path).keys :=
      roots.trans (selection_single steady coherent owned identity fun _ _ => reachable.irreflexive)
    refine ⟨single, ?_⟩
    intro all base elsewhere gathering
    rw [deps_output gathering elsewhere identity, ← single, List.isEmpty_map, List.map_map]
    rfl
  · exact Bool.eq_iff_iff.mpr
      (affected_contains (handleChangesBy_coherent compiler coherent) root file)
  · intro root vanished file
    have unbuilt : ¬ ∃ build ∈ builds, build.root.same root :=
      fun built => ((chosen root).mp built).2 vanished
    rw [tracks_handleChangesBy_unbuilt compiler owned normal unbuilt, Bool.eq_false_iff, ne_eq,
      tracks_unvanished_iff]
    exact fun tracked => tracked.2 vanished
  · intro root unbuilt kept file
    rw [tracks_handleChangesBy_unbuilt compiler owned normal unbuilt, Bool.eq_iff_iff,
      tracks_unvanished_iff]
    exact and_iff_left kept

/-- Two roots behind the same door, one of which includes the other, and a third root. -/
def village : Disk where
  nodes := .ofList [(["inn.tale"], .file (Text.encode "INCLUDE door.part\n-> END\n")),
    (["mill.tale"], .file (Text.encode "INCLUDE door.part\nINCLUDE inn.tale\n-> END\n")),
    (["well.tale"], .file (Text.encode "INCLUDE rope.part\n-> END\n")),
    (["door.part"], .file (Text.encode "A door.\n")),
    (["rope.part"], .file (Text.encode "A rope.\n"))]
  here := []

def villageLater : Disk where
  nodes := .ofList [(["inn.tale"], .file (Text.encode "INCLUDE door.part\n-> END\n")),
    (["well.tale"], .file (Text.encode "INCLUDE rope.part\n-> END\n")),
    (["door.part"], .file (Text.encode "A new door.\n")),
    (["rope.part"], .file (Text.encode "A rope.\n"))]
  here := []

def villageProject : Project :=
  ((ofRules taleRules 0).buildAll (village.sources loudParts)
    ["inn.tale", "mill.tale", "well.tale"]).2

def villageChanges : List Path := ["door.part", "inn.tale", "mill.tale"]

/-- The inn is built once, and the mill is not, though the door that changed leads to both. -/
theorem village_selects :
    let sources := villageLater.sources loudParts
    let outcome := villageProject.handleChanges sources villageChanges
    villageLater.Proper ∧ villageLater.Rooted ∧ villageProject.edges.Reachable ∧
    (∀ root ∈ villageProject.edges.included.keys, root.same (villageLater.identify root)) ∧
    (∀ path ∈ villageChanges,
      villageLater.identify (villageLater.identify path) = villageLater.identify path) ∧
    outcome.1.map Build.root = [("/inn.tale" : Path)] ∧
    (∀ file, outcome.2.edges.tracks "/mill.tale" file = false) ∧
    ∀ file, outcome.2.edges.tracks "/well.tale" file =
      villageProject.edges.tracks "/well.tale" file := by
  have proper : villageLater.Proper := properPlace_nil
  have rooted : villageLater.Rooted := Disk.rooted_of_places (by decide +kernel)
  have reachable : villageProject.edges.Reachable := by
    unfold villageProject
    apply reachable_buildAll
    · exact .empty
    · exact properPlace_nil
  have own : ∀ root ∈ villageProject.edges.included.keys,
      root.same (villageLater.identify root) := by decide +kernel
  have normal : ∀ path ∈ villageChanges,
      villageLater.identify (villageLater.identify path) = villageLater.identify path := by
    decide +kernel
  have rules : villageProject.rules = taleRules := by
    unfold villageProject
    rw [buildAll_rules]
    rfl
  obtain ⟨same, -, -, -, -, gone, kept⟩ :=
    handleChanges_selects proper rooted loudParts reachable own normal compile
  rw [← same rfl] at gone kept
  have built : (villageProject.handleChanges (villageLater.sources loudParts)
      villageChanges).1.map Build.root = [("/inn.tale" : Path)] := by decide +kernel
  refine ⟨proper, rooted, reachable, own, normal, built, gone _ ?_, kept _ ?_ ?_⟩
  · refine ⟨"mill.tale", by decide, ?_⟩
    rw [rules]
    decide +kernel
  · rintro ⟨build, member, same⟩
    have there := List.mem_map_of_mem (f := Build.root) member
    rw [built, List.mem_singleton] at there
    rw [there] at same
    revert same
    decide
  · unfold Vanished
    rw [rules]
    decide +kernel

end Project

end Tale
