import Tale.Proofs.Disk.Canonical
import Tale.Proofs.Project.Batching
import Tale.Proofs.Project.Incremental

/-! The order of changes.

On a disk that stays as it is, the roots that are built and the edges afterwards are the same however
the changes are divided into batches. Roots must still be identified by themselves: one that became a
link is built as another root.
-/

set_option autoImplicit false

namespace Tale

open Script

namespace Disk

theorem sources_steady {disk : Disk} (proper : disk.Proper) (rooted : disk.Rooted) (filters : Filters) :
    (disk.sources filters).Steady where
  unique first second same := by
    obtain ⟨place, properPlace, identity⟩ := identify_proper proper first
    obtain ⟨other, properOther, otherIdentity⟩ := identify_proper proper second
    rw [sources_identify, identity, otherIdentity] at same ⊢
    rw [Path.ofPlace_same properPlace properOther same]
  honest := disk.includes_honest filters
  stable _ file := identify_isFile proper rooted file
  file _ _ loads := isFile_of_loadDocument loads

end Disk

namespace Project

namespace Dependencies

/-- A table of edges that passes over roots on some disks, by any compilers, and the forgetting of
roots lead to. -/
inductive Reachable : Dependencies → Prop where
  | empty : Reachable ∅
  | pass {edges : Dependencies} (reachable : Reachable edges) (compiler : Compiler) {disk : Disk}
      (proper : disk.Proper) (filters : Filters) (path : Path) :
      Reachable (compileRoot compiler (disk.sources filters) edges path).edges
  | clear {edges : Dependencies} (reachable : Reachable edges) (root : Path) :
      Reachable (edges.clear root).2

namespace Reachable

variable {edges : Dependencies}

theorem coherent (reachable : edges.Reachable) : edges.Coherent := by
  induction reachable with
  | empty => exact coherent_empty
  | pass reachable compiler proper filters path ih => exact coherent_compileRoot ih compiler _ path
  | clear reachable root ih => exact ih.clear root

theorem spelled (reachable : edges.Reachable) {root : Path} (spells : edges.Spells root) :
    ∃ place, ProperPlace place ∧ root = .ofPlace place := by
  induction reachable with
  | empty => exact absurd spells (not_spells_empty root)
  | @pass edges reachable compiler disk proper filters path ih =>
    rcases spells.of_pass with rfl | earlier
    · exact Disk.identify_proper proper path
    · exact ih earlier
  | clear reachable root ih => exact ih spells.of_clear

/-- Roots that are still identified by themselves are so to the letter. -/
theorem owned (reachable : edges.Reachable) {disk : Disk} (proper : disk.Proper) (filters : Filters)
    (own : ∀ root ∈ edges.included.keys, root.same (disk.identify root)) :
    edges.Own (disk.sources filters) := by
  intro root spells
  obtain ⟨held, listed, same⟩ := spells.listed reachable.coherent
  obtain ⟨place, properPlace, rfl⟩ := reachable.spelled spells
  obtain ⟨other, properOther, rfl⟩ := reachable.spelled (.inl listed)
  obtain rfl := Path.ofPlace_same properPlace properOther same
  obtain ⟨last, properLast, identity⟩ := Disk.identify_proper proper (.ofPlace place)
  have itself := own _ listed
  rw [identity] at itself
  rw [Disk.sources_identify, identity, Path.ofPlace_same properPlace properLast itself]

end Reachable

end Dependencies

open Dependencies

section Reaching

variable {project : Project} (reachable : project.edges.Reachable) {disk : Disk}
  (proper : disk.Proper) (filters : Filters)

include reachable proper

theorem reachable_build (path : Path) :
    (project.build (disk.sources filters) path).2.edges.Reachable := by
  rw [build_edges]
  exact reachable.pass compile proper filters _

theorem reachable_buildAll (roots : List Path) :
    (project.buildAll (disk.sources filters) roots).2.edges.Reachable := by
  induction roots generalizing project with
  | nil => exact reachable
  | cons path rest ih =>
    rw [buildAll_cons]
    exact ih (reachable_build reachable proper filters path)

omit proper in
theorem reachable_forgetVanished (documents : List Path) :
    (project.forgetVanished (disk.sources filters) documents).edges.Reachable := by
  apply List.foldlRecOn documents _ reachable
  intro edges reachable document _
  split
  · exact reachable.clear document
  · exact reachable

theorem reachable_handleChanges (changed : List Path) :
    (project.handleChanges (disk.sources filters) changed).2.edges.Reachable := by
  rw [handleChanges_eq]
  exact reachable_buildAll (reachable_forgetVanished reachable filters _) proper filters _

end Reaching

/-- The tables of edges are equal, and the same roots became units with the same stories. -/
structure SameOutcome (first second : List Build × Project) : Prop where
  edges : first.2.edges.agrees second.2.edges
  rebuilt : ∀ root artifact, Rebuilt first.1 root artifact ↔ Rebuilt second.1 root artifact

section Reordered

variable {sources : Sources} {project : Project} (steady : sources.Steady)
  (coherent : project.edges.Coherent) (owned : project.edges.Own sources)

include steady coherent owned

theorem own_of_handleBatches {batches : List (List Path)} {root : Path} {artifact : Artifact}
    (rebuilt : Rebuilt (project.handleBatches sources batches).1 root artifact) :
    sources.identify root = root := by
  induction batches generalizing project with
  | nil =>
    obtain ⟨build, member, -⟩ := rebuilt
    cases member
  | cons changed rest ih =>
    rcases (rebuilt_handleBatches_cons changed rest artifact).mp rebuilt with here | later
    · exact own_of_rebuilt steady owned here
    · exact ih (coherent_handleChanges coherent sources changed) (own_handleChanges steady owned)
        later

theorem handleBatches_sameOutcome {batches others : List (List Path)}
    (reordered : batches.flatten.Perm others.flatten) :
    SameOutcome (project.handleBatches sources batches) (project.handleBatches sources others) where
  edges := by
    have tracked {batches others : List (List Path)}
        (reordered : batches.flatten.Perm others.flatten) {root file : Path}
        (tracks : (project.handleBatches sources batches).2.edges.tracks root file) :
        (project.handleBatches sources others).2.edges.tracks root file := by
      -- The root has an own spelling in the table.
      obtain ⟨held, spells, same⟩ :=
        spells_of_tracks (handleBatches_coherent steady coherent owned batches) tracks
      have own := handleBatches_own steady coherent owned batches held spells
      rw [tracks_congr same (Path.same_refl file)] at tracks ⊢
      rw [(handleBatches_flatten steady coherent owned own batches).1] at tracks
      rw [(handleBatches_flatten steady coherent owned own others).1]
      rwa [affected_perm reordered] at tracks
    apply agrees_of_tracks (handleBatches_coherent steady coherent owned batches)
      (handleBatches_coherent steady coherent owned others)
    exact fun root file => ⟨tracked reordered, tracked reordered.symm⟩
  rebuilt root artifact := by
    have kept {batches others : List (List Path)}
        (reordered : batches.flatten.Perm others.flatten)
        (rebuilt : Rebuilt (project.handleBatches sources batches).1 root artifact) :
        Rebuilt (project.handleBatches sources others).1 root artifact := by
      have own := own_of_handleBatches steady coherent owned rebuilt
      rw [(handleBatches_flatten steady coherent owned own batches).2] at rebuilt
      rw [(handleBatches_flatten steady coherent owned own others).2]
      rwa [affected_perm reordered] at rebuilt
    exact ⟨kept reordered, kept reordered.symm⟩

end Reordered

theorem handleBatches_single (project : Project) (sources : Sources) (changed : List Path) :
    project.handleBatches sources [changed] = project.handleChanges sources changed := by
  simp [handleBatches]

/-- Handling some changes at once, in another order, or one by one in any order has the same
outcome. -/
theorem handleChanges_any_order {disk : Disk} (proper : disk.Proper) (rooted : disk.Rooted)
    (filters : Filters) {project : Project} (reachable : project.edges.Reachable)
    (own : ∀ root ∈ project.edges.included.keys, root.same (disk.identify root))
    {changed others : List Path} (reordered : others.Perm changed) :
    let sources := disk.sources filters
    SameOutcome (project.handleChanges sources others) (project.handleChanges sources changed) ∧
    SameOutcome (project.handleBatches sources (others.map ([·])))
      (project.handleChanges sources changed) := by
  intro sources
  have steady : sources.Steady := Disk.sources_steady proper rooted filters
  have owned : project.edges.Own sources := reachable.owned proper filters own
  have alike {batches : List (List Path)} (same : batches.flatten.Perm changed) :
      SameOutcome (project.handleBatches sources batches) (project.handleChanges sources changed) := by
    rw [← handleBatches_single]
    apply handleBatches_sameOutcome steady reachable.coherent owned
    rwa [List.flatten_singleton]
  constructor
  · rw [← handleBatches_single project sources others]
    apply alike
    rwa [List.flatten_singleton]
  · apply alike
    rwa [← List.flatMap_def, List.flatMap_singleton']

def annex : Disk where
  nodes := .ofList [(["main.tale"], .file (Text.encode "INCLUDE old.part\n-> END\n")),
    (["side.tale"], .file (Text.encode "INCLUDE old.part\n-> END\n")),
    (["old.part"], .file (Text.encode "A page.\n"))]
  here := []

/-- One of them is gone, and the other one includes what a link leads to. -/
def annexMoved : Disk where
  nodes := .ofList [(["main.tale"], .file (Text.encode "INCLUDE alias.part\n-> END\n")),
    (["old.part"], .file (Text.encode "An old page.\n")), (["pages"], .directory),
    (["pages", "new.part"], .file (Text.encode "A new page.\n")),
    (["alias.part"], .link "pages/new.part")]
  here := []

def annexProject : Project :=
  ((ofRules taleRules 0).buildAll (annex.sources loudParts) ["main.tale", "side.tale"]).2

def annexChanges : List Path := ["side.tale", "main.tale", "old.part", "alias.part"]

/-- One by one, the root that is gone fails to be built before it is forgotten. -/
theorem annex_any_order :
    annexMoved.Proper ∧ annexMoved.Rooted ∧ annexProject.edges.Reachable ∧
    (∀ root ∈ annexProject.edges.included.keys, root.same (annexMoved.identify root)) ∧
    annexChanges.reverse.Perm annexChanges ∧
    SameOutcome (annexProject.handleChanges (annexMoved.sources loudParts) annexChanges.reverse)
      (annexProject.handleChanges (annexMoved.sources loudParts) annexChanges) ∧
    SameOutcome
      (annexProject.handleBatches (annexMoved.sources loudParts) (annexChanges.reverse.map ([·])))
      (annexProject.handleChanges (annexMoved.sources loudParts) annexChanges) := by
  have proper : annexMoved.Proper := properPlace_nil
  have rooted : annexMoved.Rooted := Disk.rooted_of_places (by decide +kernel)
  have reachable : annexProject.edges.Reachable := by
    unfold annexProject
    apply reachable_buildAll
    · exact .empty
    · exact properPlace_nil
  have own : ∀ root ∈ annexProject.edges.included.keys,
      root.same (annexMoved.identify root) := by decide +kernel
  have reordered : annexChanges.reverse.Perm annexChanges := List.reverse_perm _
  obtain ⟨once, single⟩ := handleChanges_any_order proper rooted loudParts reachable own reordered
  exact ⟨proper, rooted, reachable, own, reordered, once, single⟩

end Project

end Tale
