import Tale.Project.Build
import Tale.Proofs.Project.Compilation

/-! The edges of a project after its roots were built and after changes were handled.

Building replaces the edges of a root and leaves those of others, so in the end a root that was built
has the edges that its documents call for, however often and in which order the roots were built.
-/

set_option autoImplicit false

namespace Tale

namespace Project

open Script

/-- Documents with one identity each, of which only so many can be loaded. -/
structure Sources.Settled (sources : Sources) : Prop where
  idempotent : ∀ path, sources.identify (sources.identify path) = sources.identify path
  congr : ∀ first second : Path, first.same second →
    sources.identify first = sources.identify second
  honest : ∀ root, (sources.includes root).Honest

/-- Identities that are spelled in one way, and documents of which only so many can be loaded. -/
structure Sources.Distinct (sources : Sources) : Prop where
  unique : ∀ first second, (sources.identify first).same (sources.identify second) →
    sources.identify first = sources.identify second
  honest : ∀ root, (sources.includes root).Honest

theorem Sources.Distinct.canonical {sources : Sources} (distinct : sources.Distinct) (path : Path) :
    (sources.includes (sources.identify path)).Canonical (sources.identify path) :=
  ⟨fun _ _ => distinct.unique _ _, fun _ => distinct.unique _ _⟩

namespace Sources.Settled

variable {sources : Sources}

theorem identify_eq (settled : sources.Settled) {path other : Path}
    (same : path.same (sources.identify other)) : sources.identify path = sources.identify other := by
  rw [settled.congr path _ same, settled.idempotent]

theorem distinct (settled : sources.Settled) : sources.Distinct where
  unique first second same := by rw [← settled.idempotent first, settled.identify_eq same]
  honest := settled.honest

end Sources.Settled

def Sources.Covers (sources : Sources) (paths : List Path) (root : Path) : Prop :=
  ∃ path ∈ paths, root.same (sources.identify path)

theorem Sources.covers_cons (sources : Sources) (path : Path) (rest : List Path) (root : Path) :
    sources.Covers (path :: rest) root ↔
      root.same (sources.identify path) ∨ sources.Covers rest root := by
  simp [Sources.Covers]

theorem Sources.Covers.same {sources : Sources} {paths : List Path} {root : Path}
    (settled : sources.Settled) (covered : sources.Covers paths root) :
    root.same (sources.identify root) := by
  obtain ⟨path, -, same⟩ := covered
  rwa [settled.identify_eq same]

variable {project : Project} {sources : Sources}

theorem build_edges (project : Project) (sources : Sources) (path : Path) :
    (project.build sources path).2.edges =
      (compileRoot compile sources project.edges (sources.identify path)).edges := by
  unfold build
  dsimp only
  split <;> rfl

theorem build_root (project : Project) (sources : Sources) (path : Path) :
    (project.build sources path).1.root = path := by
  unfold build
  dsimp only
  split <;> rfl

theorem buildAll_roots (project : Project) (sources : Sources) (roots : List Path) :
    (project.buildAll sources roots).1.map Build.root = roots := by
  induction roots generalizing project with
  | nil => rfl
  | cons root rest ih =>
    simp only [buildAll, List.map_cons, build_root, ih]

theorem buildAll_cons (project : Project) (sources : Sources) (path : Path) (rest : List Path) :
    project.buildAll sources (path :: rest) =
      ((project.build sources path).1 :: ((project.build sources path).2.buildAll sources rest).1,
        ((project.build sources path).2.buildAll sources rest).2) := rfl

theorem buildAll_coherent (coherent : project.edges.Coherent) (sources : Sources)
    (roots : List Path) : (project.buildAll sources roots).2.edges.Coherent := by
  induction roots generalizing project with
  | nil => exact coherent
  | cons root rest ih =>
    have built : (project.build sources root).2.edges.Coherent := by
      rw [build_edges]
      exact coherent_compileRoot coherent compile sources _
    rw [buildAll_cons]
    exact ih built

/-- Building gives a root the edges that its documents call for, and leaves those of any other; that
each root is identified by its identity makes sure that it is the one that is built. -/
theorem tracks_builds (distinct : sources.Distinct) (project : Project) {roots : List Path}
    (stable : ∀ path ∈ roots, sources.identify (sources.identify path) = sources.identify path)
    (root file : Path) :
    (project.buildAll sources roots).2.edges.tracks root file ↔
      (∃ path ∈ roots, root.same (sources.identify path) ∧
        sources.Edge (sources.identify path) file) ∨
      (¬ sources.Covers roots root ∧ project.edges.tracks root file) := by
  induction roots generalizing project with
  | nil => simp [buildAll, Sources.Covers]
  | cons path rest ih =>
    have own := stable path List.mem_cons_self
    have here := tracks_compileRoot (distinct.honest (sources.identify (sources.identify path)))
      (distinct.canonical (sources.identify path)) project.edges root file
    rw [own, ← build_edges] at here
    rw [buildAll_cons, ih _ fun other member => stable other (List.mem_cons_of_mem _ member), here,
      Sources.covers_cons]
    simp only [List.mem_cons, exists_eq_or_imp]
    by_cases built : root.same (sources.identify path)
    · by_cases again : sources.Covers rest root
      · -- A later build of the same root calls for the same edges.
        have later : sources.Edge (sources.identify path) file →
            ∃ other ∈ rest, root.same (sources.identify other) ∧
              sources.Edge (sources.identify other) file := by
          intro edge
          obtain ⟨other, member, same⟩ := again
          refine ⟨other, member, same, ?_⟩
          rwa [← distinct.unique path other (Path.same_trans (Path.same_symm built) same)]
        simp only [built, again, true_and, true_or, not_true_eq_false, false_and, or_false]
        exact (or_iff_right_of_imp later).symm
      · simp only [built, again, true_and, not_true_eq_false, not_false_eq_true, false_and, or_false]
        exact or_comm
    · simp only [built, false_or, false_and, not_false_eq_true, true_and, Bool.false_eq_true]

theorem tracks_buildAll (settled : sources.Settled) (project : Project) (roots : List Path)
    (root file : Path) :
    (project.buildAll sources roots).2.edges.tracks root file ↔
      (sources.Covers roots root ∧ sources.Edge (sources.identify root) file) ∨
      (¬ sources.Covers roots root ∧ project.edges.tracks root file) := by
  rw [tracks_builds settled.distinct project fun path _ => settled.idempotent path]
  apply or_congr_left
  constructor
  · rintro ⟨path, member, same, edge⟩
    rw [settled.identify_eq same]
    exact ⟨⟨path, member, same⟩, edge⟩
  · rintro ⟨⟨path, member, same⟩, edge⟩
    rw [settled.identify_eq same] at edge
    exact ⟨path, member, same, edge⟩

theorem buildAll_rules (project : Project) (sources : Sources) (roots : List Path) :
    (project.buildAll sources roots).2.rules = project.rules := by
  induction roots generalizing project with
  | nil => rfl
  | cons path rest ih =>
    rw [buildAll_cons, ih]
    unfold build
    dsimp only
    split <;> rfl

theorem tracks_forgetVanished (project : Project) (sources : Sources) (documents : List Path)
    (root file : Path) :
    (project.forgetVanished sources documents).edges.tracks root file ↔
      project.edges.tracks root file ∧ ¬ ∃ document ∈ documents,
        project.rules.isRoot document ∧ ¬ sources.isFile document ∧ root.same document := by
  unfold forgetVanished
  dsimp only
  generalize project.edges = edges
  induction documents generalizing edges with
  | nil => simp
  | cons document rest ih =>
    rw [List.foldl_cons, ih]
    simp only [List.mem_cons, exists_eq_or_imp, not_or]
    split
    · next vanished =>
      rw [Bool.and_eq_true, Bool.not_eq_true'] at vanished
      rw [Dependencies.tracks_clear]
      simp only [vanished, true_and, Bool.false_eq_true, not_false_eq_true]
      rw [and_comm (a := ¬ root.same document = true), and_assoc]
    · next kept =>
      have other : ¬ (project.rules.isRoot document ∧ ¬ sources.isFile document ∧
          root.same document) := by
        rintro ⟨isRoot, gone, -⟩
        exact kept (by simp [isRoot, gone])
      simp only [other, not_false_eq_true, true_and]

theorem forgetVanished_coherent (coherent : project.edges.Coherent) (sources : Sources)
    (documents : List Path) : (project.forgetVanished sources documents).edges.Coherent := by
  refine List.foldlRecOn documents _ coherent fun edges coherent document _ => ?_
  split
  · exact coherent.clear document
  · exact coherent

def rebuilt (project : Project) (sources : Sources) (documents : List Path) : OrderedSet Path :=
  documents.foldl (fun roots document =>
    (project.rootsAffectedBy sources (sources.identify document)).keys.foldl OrderedSet.insert roots) ∅

theorem handleChanges_eq (project : Project) (sources : Sources) (changed : List Path) :
    project.handleChanges sources changed =
      (project.forgetVanished sources (changed.map sources.identify)).buildAll sources
        ((project.forgetVanished sources (changed.map sources.identify)).rebuilt sources
          (changed.map sources.identify)).keys := rfl

theorem coherent_handleChanges (coherent : project.edges.Coherent) (sources : Sources)
    (changed : List Path) : (project.handleChanges sources changed).2.edges.Coherent := by
  rw [handleChanges_eq]
  exact buildAll_coherent (forgetVanished_coherent coherent sources _) sources _

theorem contains_insertAll (keys : List Path) (roots : OrderedSet Path) (root : Path) :
    (keys.foldl OrderedSet.insert roots).contains root ↔
      roots.contains root ∨ ∃ key ∈ keys, root.same key := by
  induction keys generalizing roots with
  | nil => simp
  | cons key rest ih =>
    rw [List.foldl_cons, ih, OrderedSet.insert, Dictionary.contains_insert, Path.compare_eq_iff]
    simp only [List.mem_cons, exists_eq_or_imp, or_assoc, or_left_comm]

theorem contains_rootsAffectedBy (coherent : project.edges.Coherent) (document root : Path) :
    (project.rootsAffectedBy sources document).contains root ↔
      project.edges.tracks root document ∨
        (project.isLiveRoot sources document ∧ root.same document) := by
  unfold rootsAffectedBy
  dsimp only
  split
  · next live =>
    rw [OrderedSet.insert, Dictionary.contains_insert, Path.compare_eq_iff,
      Dependencies.affected_contains coherent]
    simp [live, or_comm]
  · next other =>
    rw [Dependencies.affected_contains coherent]
    simp [other]

/-- A change leads to the roots that include one of the documents, and to those of them that are roots
and still there. -/
theorem contains_rebuilt (coherent : project.edges.Coherent) (documents : List Path) (root : Path) :
    (project.rebuilt sources documents).contains root ↔ ∃ document ∈ documents,
      project.edges.tracks root (sources.identify document) ∨
        (project.isLiveRoot sources (sources.identify document) ∧
          root.same (sources.identify document)) := by
  have grown (roots : OrderedSet Path) :
      (documents.foldl (fun roots document =>
        (project.rootsAffectedBy sources (sources.identify document)).keys.foldl OrderedSet.insert
          roots) roots).contains root ↔ roots.contains root ∨ ∃ document ∈ documents,
        (project.rootsAffectedBy sources (sources.identify document)).contains root := by
    induction documents generalizing roots with
    | nil => simp
    | cons document rest ih =>
      rw [List.foldl_cons, ih, contains_insertAll]
      simp only [← Path.compare_eq_iff, ← Dictionary.contains_iff, List.mem_cons, exists_eq_or_imp,
        or_assoc]
  unfold rebuilt
  rw [grown]
  simp only [contains_rootsAffectedBy coherent, Dictionary.contains_empty, Bool.false_eq_true,
    false_or]

theorem Sources.covers_own (settled : sources.Settled) {root : Path}
    (own : sources.identify root = root) (paths : List Path) :
    sources.Covers paths root ↔ ∃ path ∈ paths, sources.identify path = root := by
  constructor
  · rintro ⟨path, member, same⟩
    exact ⟨path, member, (settled.identify_eq same).symm.trans own⟩
  · rintro ⟨path, member, rfl⟩
    exact ⟨path, member, Path.same_refl _⟩

end Project

end Tale
