import Tale.Proofs.Disk.Canonical
import Tale.Proofs.Project.Spelling

/-! Changes in batches.

A root is built again by the first change that leads to it, and then it has the edges that its
documents call for, so later changes find nothing new in it. A root that vanished ends without edges
whether it is forgotten or fails to be built. So it does not matter in which batches changes come.
-/

set_option autoImplicit false

namespace Tale

namespace Project

open Script Dependencies

/-- Documents that stay what they are: a file has an identity of its own, and only files can be
loaded. -/
structure Sources.Steady (sources : Sources) : Prop extends sources.Distinct where
  stable : ∀ path, sources.isFile path →
    sources.identify (sources.identify path) = sources.identify path
  file : ∀ path text, sources.load path = .ok text → sources.isFile path

/-- Every root in a table of edges is identified by itself. -/
def Dependencies.Own (edges : Dependencies) (sources : Sources) : Prop :=
  ∀ root, edges.Spells root → sources.identify root = root

def Sources.Compiles (sources : Sources) (root : Path) (artifact : Artifact) : Prop :=
  (compileRoot compile sources ∅ root).result = .ok artifact

def Rebuilt (builds : List Build) (root : Path) (artifact : Artifact) : Prop :=
  ∃ build ∈ builds, ∃ unit, build.result = .ok unit ∧ unit.root = root ∧ unit.artifact = artifact

def handleBatches (project : Project) (sources : Sources) : List (List Path) → List Build × Project
  | [] => ([], project)
  | changed :: rest =>
    let (builds, project) := project.handleChanges sources changed
    let (more, project) := project.handleBatches sources rest
    (builds ++ more, project)

/-! ## Building -/

theorem compileRoot_result (sources : Sources) (edges other : Dependencies) (path : Path) :
    (compileRoot compile sources edges path).result =
      (compileRoot compile sources other path).result := by
  cases loads : sources.load (sources.identify path) with
  | error error => rw [compileRoot_of_error compile edges loads, compileRoot_of_error compile other loads]
  | ok text => rw [compileRoot_of_text compile edges loads, compileRoot_of_text compile other loads]

theorem rebuilt_build (project : Project) (sources : Sources) (path root : Path)
    (artifact : Artifact) :
    Rebuilt [(project.build sources path).1] root artifact ↔
      sources.identify path = root ∧ sources.Compiles root artifact := by
  have result := compileRoot_result sources project.edges ∅ (sources.identify path)
  unfold Rebuilt Sources.Compiles build
  simp only [List.mem_singleton, exists_eq_left]
  cases made : (compileRoot compile sources project.edges (sources.identify path)).result with
  | error errors =>
    rw [made] at result
    constructor
    · rintro ⟨unit, same, -⟩
      cases same
    · rintro ⟨rfl, compiled⟩
      cases result.trans compiled
  | ok story =>
    rw [made] at result
    constructor
    · rintro ⟨unit, same, rfl, rfl⟩
      cases same
      exact ⟨rfl, result.symm⟩
    · rintro ⟨rfl, compiled⟩
      cases result.trans compiled
      exact ⟨_, rfl, rfl, rfl⟩

theorem rebuilt_append (first second : List Build) (root : Path) (artifact : Artifact) :
    Rebuilt (first ++ second) root artifact ↔
      Rebuilt first root artifact ∨ Rebuilt second root artifact := by
  simp only [Rebuilt, List.mem_append, or_and_right, exists_or]

theorem rebuilt_buildAll (project : Project) (sources : Sources) (roots : List Path) (root : Path)
    (artifact : Artifact) :
    Rebuilt (project.buildAll sources roots).1 root artifact ↔
      (∃ path ∈ roots, sources.identify path = root) ∧ sources.Compiles root artifact := by
  induction roots generalizing project with
  | nil => simp [buildAll, Rebuilt]
  | cons path rest ih =>
    rw [buildAll_cons, ← List.singleton_append, rebuilt_append, rebuilt_build, ih, ← or_and_right]
    simp only [List.mem_cons, exists_eq_or_imp]

theorem Sources.Steady.isFile_of_edge {sources : Sources} (steady : sources.Steady)
    {root file : Path} (edge : sources.Edge root file) : sources.isFile root := by
  obtain ⟨text, loads, -⟩ := edge
  exact steady.file root text loads

theorem Sources.Steady.isFile_of_compiles {sources : Sources} (steady : sources.Steady)
    {root : Path} (own : sources.identify root = root) {artifact : Artifact}
    (compiles : sources.Compiles root artifact) : sources.isFile root := by
  unfold Sources.Compiles at compiles
  cases loads : sources.load (sources.identify root) with
  | error error =>
    rw [compileRoot_of_error compile ∅ loads] at compiles
    cases compiles
  | ok text =>
    rw [own] at loads
    exact steady.file root text loads

/-! ## What a change leads to -/

section Leading

variable (project : Project) (sources : Sources) (root : Path) (changed : List Path)

/-- A root includes a changed document, whose identity is looked up once more for that. -/
def Includes : Prop := ∃ path ∈ changed,
  project.edges.tracks root (sources.identify (sources.identify path))

def Lives : Prop := ∃ path ∈ changed,
  project.isLiveRoot sources (sources.identify (sources.identify path)) ∧
    sources.identify (sources.identify (sources.identify path)) = root

/-- A root is a changed document, and no longer a file. -/
def Vanishes : Prop := project.rules.isRoot root ∧ ¬ sources.isFile root ∧
  ∃ path ∈ changed, sources.identify path = root

def Affected : Prop := Includes project sources root changed ∨ Lives project sources root changed ∨
  Vanishes project sources root changed

end Leading

section Handling

variable {project : Project} {sources : Sources} {changed : List Path} {root : Path}

theorem mem_keys_insertAll {keys : List Path} {roots : OrderedSet Path}
    (member : root ∈ (keys.foldl OrderedSet.insert roots).keys) :
    root ∈ roots.keys ∨ root ∈ keys := by
  induction keys generalizing roots with
  | nil => exact .inl member
  | cons key rest ih =>
    rcases ih member with earlier | later
    · rcases Dictionary.mem_keys_insert earlier with rfl | before
      · exact .inr List.mem_cons_self
      · exact .inl before
    · exact .inr (List.mem_cons_of_mem _ later)

theorem mem_keys_rebuilt {documents : List Path}
    (member : root ∈ (project.rebuilt sources documents).keys) :
    ∃ document ∈ documents, root ∈ (project.edges.affected (sources.identify document)).keys ∨
      (project.isLiveRoot sources (sources.identify document) ∧ root = sources.identify document) := by
  have grown (documents : List Path) (roots : OrderedSet Path)
      (member : root ∈ (documents.foldl (fun roots document =>
        (project.rootsAffectedBy sources (sources.identify document)).keys.foldl OrderedSet.insert
          roots) roots).keys) : root ∈ roots.keys ∨ ∃ document ∈ documents,
        root ∈ (project.rootsAffectedBy sources (sources.identify document)).keys := by
    induction documents generalizing roots with
    | nil => exact .inl member
    | cons document rest ih =>
      rcases ih _ member with earlier | ⟨other, listed, inside⟩
      · rcases mem_keys_insertAll earlier with before | here
        · exact .inl before
        · exact .inr ⟨document, List.mem_cons_self, here⟩
      · exact .inr ⟨other, List.mem_cons_of_mem _ listed, inside⟩
  rcases grown documents ∅ member with none | ⟨document, listed, inside⟩
  · cases none
  · refine ⟨document, listed, ?_⟩
    unfold rootsAffectedBy at inside
    dsimp only at inside
    split at inside
    · next live => exact (Dictionary.mem_keys_insert inside).symm.imp_right fun same => ⟨live, same⟩
    · exact .inl inside

variable (steady : sources.Steady) (coherent : project.edges.Coherent)
  (owned : project.edges.Own sources)

include owned

theorem own_forgetVanished (documents : List Path) :
    (project.forgetVanished sources documents).edges.Own sources :=
  fun root spells => owned root (spells_of_forgetVanished spells)

theorem key_identified {documents : List Path}
    (member : root ∈ (project.rebuilt sources documents).keys) :
    ∃ path, root = sources.identify path := by
  obtain ⟨document, -, inside | ⟨-, same⟩⟩ := mem_keys_rebuilt member
  · exact ⟨root, (owned root (.inr ⟨_, inside⟩)).symm⟩
  · exact ⟨document, same⟩

include steady

theorem key_stable {documents : List Path}
    (member : root ∈ (project.rebuilt sources documents).keys) :
    sources.identify (sources.identify root) = sources.identify root := by
  obtain ⟨document, -, inside | ⟨live, same⟩⟩ := mem_keys_rebuilt member
  · rw [owned root (.inr ⟨_, inside⟩), owned root (.inr ⟨_, inside⟩)]
  · rw [same]
    exact steady.stable _ (Bool.and_eq_true_iff.mp live).2

include coherent

/-- The roots that are built are those that include a changed document and those that are changed
files. -/
theorem exists_key_iff {documents : List Path} (own : sources.identify root = root) :
    (∃ key ∈ (project.rebuilt sources documents).keys, sources.identify key = root) ↔
      ∃ document ∈ documents, project.edges.tracks root (sources.identify document) ∨
        (project.isLiveRoot sources (sources.identify document) ∧
          sources.identify (sources.identify document) = root) := by
  -- Keys and identities that are the same are spelled alike.
  have alike {key path : Path} (member : key ∈ (project.rebuilt sources documents).keys)
      (same : (sources.identify path).same key) : sources.identify path = key := by
    obtain ⟨other, rfl⟩ := key_identified owned member
    exact steady.unique _ _ same
  constructor
  · rintro ⟨key, member, rfl⟩
    obtain ⟨document, listed, inside | ⟨live, same⟩⟩ := mem_keys_rebuilt member
    · refine ⟨document, listed, .inl ?_⟩
      rw [owned key (.inr ⟨_, inside⟩), ← affected_contains coherent]
      exact Dictionary.contains_iff.mpr ⟨key, inside, Std.ReflCmp.compare_self⟩
    · exact ⟨document, listed, .inr ⟨live, congrArg _ same.symm⟩⟩
  · rintro ⟨document, listed, tracked | ⟨live, rfl⟩⟩
    · have contained : (project.rebuilt sources documents).contains root :=
        (contains_rebuilt coherent documents root).mpr ⟨document, listed, .inl tracked⟩
      obtain ⟨key, member, same⟩ := Dictionary.contains_iff.mp contained
      rw [← own] at same ⊢
      refine ⟨key, member, ?_⟩
      rw [← alike member (Path.compare_eq_iff.mp same)]
      exact congrArg _ own
    · have contained : (project.rebuilt sources documents).contains (sources.identify document) :=
        (contains_rebuilt coherent documents _).mpr
          ⟨document, listed, .inr ⟨live, Path.same_refl _⟩⟩
      obtain ⟨key, member, same⟩ := Dictionary.contains_iff.mp contained
      exact ⟨key, member, congrArg _ (alike member (Path.compare_eq_iff.mp same)).symm⟩

omit owned coherent in
theorem tracks_forgotten_iff (own : sources.identify root = root) (file : Path) :
    (project.forgetVanished sources (changed.map sources.identify)).edges.tracks root file ↔
      project.edges.tracks root file ∧ ¬ Vanishes project sources root changed := by
  rw [tracks_forgetVanished]
  apply and_congr_right
  intro _
  apply not_congr
  constructor
  · rintro ⟨document, member, isRoot, gone, same⟩
    obtain ⟨path, listed, rfl⟩ := List.mem_map.mp member
    rw [← own] at same
    have itself := steady.unique _ _ same
    rw [own] at itself
    rw [← itself] at isRoot gone
    exact ⟨isRoot, gone, path, listed, itself.symm⟩
  · rintro ⟨isRoot, gone, path, listed, itself⟩
    refine ⟨root, List.mem_map.mpr ⟨path, listed, itself⟩, isRoot, gone, Path.same_refl root⟩

/-- The roots that are built are the ones to which changes lead, but for those that vanished and were
forgotten. -/
theorem exists_built_iff (own : sources.identify root = root) :
    (∃ key ∈ ((project.forgetVanished sources (changed.map sources.identify)).rebuilt sources
        (changed.map sources.identify)).keys, sources.identify key = root) ↔
      (Includes project sources root changed ∧ ¬ Vanishes project sources root changed) ∨
        Lives project sources root changed := by
  have forgotten := forgetVanished_coherent coherent sources (changed.map sources.identify)
  have ownedToo := own_forgetVanished owned (changed.map sources.identify)
  rw [exists_key_iff steady forgotten ownedToo own]
  simp only [List.mem_map, exists_exists_and_eq_and, tracks_forgotten_iff steady own]
  constructor
  · rintro ⟨path, listed, ⟨tracked, kept⟩ | ⟨live, itself⟩⟩
    · exact .inl ⟨⟨path, listed, tracked⟩, kept⟩
    · exact .inr ⟨path, listed, live, itself⟩
  · rintro (⟨⟨path, listed, tracked⟩, kept⟩ | ⟨path, listed, live, itself⟩)
    · exact ⟨path, listed, .inl ⟨tracked, kept⟩⟩
    · exact ⟨path, listed, .inr ⟨live, itself⟩⟩

/-- Roots to which changes lead have the edges that their documents call for, and others keep theirs. -/
theorem tracks_handleChanges (own : sources.identify root = root) (file : Path) :
    (project.handleChanges sources changed).2.edges.tracks root file ↔
      (Affected project sources root changed ∧ sources.Edge root file) ∨
      (¬ Affected project sources root changed ∧ project.edges.tracks root file) := by
  have ownedToo := own_forgetVanished owned (changed.map sources.identify)
  have covers (keys : List Path) :
      sources.Covers keys root ↔ ∃ key ∈ keys, sources.identify key = root := by
    constructor
    · rintro ⟨key, member, same⟩
      rw [← own] at same
      exact ⟨key, member, (steady.unique _ _ same).symm.trans own⟩
    · rintro ⟨key, member, rfl⟩
      exact ⟨key, member, Path.same_refl _⟩
  have edges (keys : List Path) : (∃ key ∈ keys, root.same (sources.identify key) ∧
      sources.Edge (sources.identify key) file) ↔
        (∃ key ∈ keys, sources.identify key = root) ∧ sources.Edge root file := by
    constructor
    · rintro ⟨key, member, same, edge⟩
      rw [← own] at same
      have itself := (steady.unique _ _ same).symm.trans own
      rw [itself] at edge
      exact ⟨⟨key, member, itself⟩, edge⟩
    · rintro ⟨⟨key, member, rfl⟩, edge⟩
      exact ⟨key, member, Path.same_refl _, edge⟩
  rw [handleChanges_eq, tracks_builds steady.toDistinct _ fun key => key_stable steady ownedToo,
    edges, covers, exists_built_iff steady coherent owned own, tracks_forgotten_iff steady own]
  -- A root that vanished cannot be loaded, so its documents call for no edges.
  have gone (vanishes : Vanishes project sources root changed) : ¬ sources.Edge root file :=
    fun edge => vanishes.2.1 (steady.isFile_of_edge edge)
  unfold Affected
  by_cases vanishes : Vanishes project sources root changed
  · simp [vanishes, gone vanishes]
  · simp [vanishes]

theorem rebuilt_handleChanges (own : sources.identify root = root) (artifact : Artifact) :
    Rebuilt (project.handleChanges sources changed).1 root artifact ↔
      Affected project sources root changed ∧ sources.Compiles root artifact := by
  rw [handleChanges_eq, rebuilt_buildAll, exists_built_iff steady coherent owned own]
  have gone (vanishes : Vanishes project sources root changed) : ¬ sources.Compiles root artifact :=
    fun compiles => vanishes.2.1 (steady.isFile_of_compiles own compiles)
  unfold Affected
  by_cases vanishes : Vanishes project sources root changed
  · simp [vanishes, gone vanishes]
  · simp [vanishes]

omit coherent in
theorem own_of_rebuilt {artifact : Artifact}
    (rebuilt : Rebuilt (project.handleChanges sources changed).1 root artifact) :
    sources.identify root = root := by
  have ownedToo := own_forgetVanished owned (changed.map sources.identify)
  rw [handleChanges_eq, rebuilt_buildAll] at rebuilt
  obtain ⟨⟨key, member, rfl⟩, -⟩ := rebuilt
  exact key_stable steady ownedToo member

omit coherent in
theorem own_handleChanges : (project.handleChanges sources changed).2.edges.Own sources := by
  have ownedToo := own_forgetVanished owned (changed.map sources.identify)
  intro root spells
  rw [handleChanges_eq] at spells
  rcases spells_of_buildAll spells with ⟨key, member, rfl⟩ | earlier
  · rw [key_stable steady ownedToo member]
    exact key_stable steady ownedToo member
  · exact ownedToo root earlier

end Handling

/-! ## One batch after the other -/

theorem handleChanges_rules (project : Project) (sources : Sources) (changed : List Path) :
    (project.handleChanges sources changed).2.rules = project.rules := by
  rw [handleChanges_eq, buildAll_rules]
  rfl

section Batches

variable {project : Project} {sources : Sources} {root : Path}

theorem affected_append (first second : List Path) :
    Affected project sources root (first ++ second) ↔
      Affected project sources root first ∨ Affected project sources root second := by
  have includes : Includes project sources root (first ++ second) ↔
      Includes project sources root first ∨ Includes project sources root second := by
    simp only [Includes, List.mem_append, or_and_right, exists_or]
  have lives : Lives project sources root (first ++ second) ↔
      Lives project sources root first ∨ Lives project sources root second := by
    simp only [Lives, List.mem_append, or_and_right, exists_or]
  have vanishes : Vanishes project sources root (first ++ second) ↔
      Vanishes project sources root first ∨ Vanishes project sources root second := by
    simp only [Vanishes, List.mem_append, or_and_right, and_or_left, exists_or]
  unfold Affected
  rw [includes, lives, vanishes, or_or_or_comm (a := Lives project sources root first),
    or_or_or_comm]

theorem rebuilt_handleBatches_cons (changed : List Path) (rest : List (List Path))
    (artifact : Artifact) :
    Rebuilt (project.handleBatches sources (changed :: rest)).1 root artifact ↔
      Rebuilt (project.handleChanges sources changed).1 root artifact ∨
        Rebuilt ((project.handleChanges sources changed).2.handleBatches sources rest).1 root
          artifact :=
  rebuilt_append ..

/-- What changes lead to a root depends on the edges of that root alone. -/
theorem affected_congr {other : Project} (rules : other.rules = project.rules)
    (edges : ∀ file, other.edges.tracks root file ↔ project.edges.tracks root file)
    (changed : List Path) :
    Affected other sources root changed ↔ Affected project sources root changed := by
  unfold Affected Includes Lives Vanishes isLiveRoot
  simp only [edges, rules]

theorem affected_perm {first second : List Path} (reordered : first.Perm second) :
    Affected project sources root first ↔ Affected project sources root second := by
  unfold Affected Includes Lives Vanishes
  simp only [reordered.mem_iff]

variable (steady : sources.Steady) (coherent : project.edges.Coherent)
  (owned : project.edges.Own sources)

include steady coherent owned

theorem handleBatches_coherent (batches : List (List Path)) :
    (project.handleBatches sources batches).2.edges.Coherent := by
  induction batches generalizing project with
  | nil => exact coherent
  | cons changed rest ih =>
    exact ih (coherent_handleChanges coherent sources changed)
      (own_handleChanges steady owned)

theorem handleBatches_own (batches : List (List Path)) :
    (project.handleBatches sources batches).2.edges.Own sources := by
  induction batches generalizing project with
  | nil => exact owned
  | cons changed rest ih =>
    exact ih (coherent_handleChanges coherent sources changed)
      (own_handleChanges steady owned)

/-- The edges and the builds after some batches are those that all their changes lead to at once. -/
theorem handleBatches_flatten (own : sources.identify root = root) (batches : List (List Path)) :
    (∀ file, (project.handleBatches sources batches).2.edges.tracks root file ↔
      (Affected project sources root batches.flatten ∧ sources.Edge root file) ∨
      (¬ Affected project sources root batches.flatten ∧ project.edges.tracks root file)) ∧
    ∀ artifact, Rebuilt (project.handleBatches sources batches).1 root artifact ↔
      Affected project sources root batches.flatten ∧ sources.Compiles root artifact := by
  induction batches generalizing project with
  | nil => simp [handleBatches, Rebuilt, Affected, Includes, Lives, Vanishes]
  | cons changed rest ih =>
    obtain ⟨edges, builds⟩ := ih (coherent_handleChanges coherent sources changed)
      (own_handleChanges steady owned)
    have edgesNow (file : Path) : (project.handleChanges sources changed).2.edges.tracks root file ↔
        (Affected project sources root changed ∧ sources.Edge root file) ∨
        (¬ Affected project sources root changed ∧ project.edges.tracks root file) :=
      tracks_handleChanges steady coherent owned own file
    have buildsNow (artifact : Artifact) :
        Rebuilt (project.handleChanges sources changed).1 root artifact ↔
          Affected project sources root changed ∧ sources.Compiles root artifact :=
      rebuilt_handleChanges steady coherent owned own artifact
    -- A root to which the first batch does not lead is left to the others as it was.
    have left (unaffected : ¬ Affected project sources root changed) :
        Affected (project.handleChanges sources changed).2 sources root rest.flatten ↔
          Affected project sources root rest.flatten := by
      apply affected_congr (handleChanges_rules project sources changed)
      intro file
      rw [edgesNow]
      simp only [unaffected, false_and, false_or, not_false_eq_true, true_and]
    rw [List.flatten_cons, affected_append]
    by_cases affected : Affected project sources root changed
    · constructor
      · intro file
        apply (edges file).trans
        rw [edgesNow]
        simp only [affected]
        tauto
      · intro artifact
        rw [rebuilt_handleBatches_cons, builds, buildsNow]
        simp only [affected]
        tauto
    · constructor
      · intro file
        apply (edges file).trans
        rw [edgesNow, left affected]
        simp [affected]
      · intro artifact
        rw [rebuilt_handleBatches_cons, builds, buildsNow, left affected]
        simp [affected]

end Batches

end Project

end Tale
