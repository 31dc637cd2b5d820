import Tale.Proofs.Project.Build

/-! How roots are spelled in a table of edges.

A table keeps a root as it was spelled when it was first tracked, and that is the identity that it had
in the pass that tracked it. Taking edges away spells nothing anew.
-/

set_option autoImplicit false

namespace Tale

namespace Project

open Script

namespace PathRelation

variable {relation : PathRelation} {first second path key : Path}

theorem mem_keys_image_add (member : key ∈ ((relation.add first second).image path).keys) :
    key = second ∨ key ∈ (relation.image path).keys := by
  unfold add image at member
  rw [Dictionary.find?_insert] at member
  split at member
  · next same =>
    rw [image, Dictionary.find?_congr same]
    exact Dictionary.mem_keys_insert member
  · exact .inr member

theorem mem_keys_image_remove (member : key ∈ ((relation.remove first second).image path).keys) :
    key ∈ (relation.image path).keys := by
  unfold remove at member
  split at member
  · exact member
  · next held found =>
    unfold image at member ⊢
    by_cases same : compare path first = .eq
    · rw [Dictionary.find?_congr same, found]
      have rest : key ∈ (held.erase second).keys := by
        dsimp only at member
        split at member
        · simp [same, Dictionary.keys, EmptyCollection.emptyCollection, Dictionary.empty] at member
        · simpa [same] using member
      exact Dictionary.mem_keys_erase rest
    · dsimp only at member
      split at member <;> simpa [same] using member

theorem mem_keys_image_foldl_remove {files : List Path}
    (member : key ∈ ((files.foldl (fun relation file => relation.remove file second)
      relation).image path).keys) : key ∈ (relation.image path).keys := by
  induction files generalizing relation with
  | nil => exact member
  | cons file rest ih => exact mem_keys_image_remove (ih member)

end PathRelation

namespace Dependencies

def Spells (edges : Dependencies) (root : Path) : Prop :=
  root ∈ edges.included.keys ∨ ∃ file, root ∈ (edges.affected file).keys

variable {edges : Dependencies} {root other : Path}

theorem not_spells_empty (root : Path) : ¬ Spells ∅ root := by
  rintro (listed | ⟨file, listed⟩) <;> cases listed

theorem Spells.of_track {file : Path} (spells : (edges.track root file).2.Spells other) :
    other = root ∨ edges.Spells other := by
  unfold Dependencies.track at spells
  split at spells
  · exact .inr spells
  · rcases spells with listed | ⟨included, listed⟩
    · exact (Dictionary.mem_keys_insert listed).imp_right .inl
    · exact (PathRelation.mem_keys_image_add listed).imp_right fun inside => .inr ⟨included, inside⟩

theorem Spells.of_clear (spells : (edges.clear root).2.Spells other) : edges.Spells other := by
  rcases spells with listed | ⟨included, listed⟩
  · exact .inl (Dictionary.mem_keys_erase listed)
  · exact .inr ⟨included, PathRelation.mem_keys_image_foldl_remove listed⟩

theorem Spells.of_trackAll {consulted : List Consultation}
    (spells : (edges.trackAll root consulted).Spells other) : other = root ∨ edges.Spells other := by
  induction consulted generalizing edges with
  | nil => exact .inr spells
  | cons consultation rest ih =>
    cases consultation with
    | load path => exact ih spells
    | resolve name path =>
      rcases ih spells with same | earlier
      · exact .inl same
      · exact earlier.of_track

theorem Spells.of_pass {compiler : Compiler} {sources : Sources} {path : Path}
    (spells : (compileRoot compiler sources edges path).edges.Spells other) :
    other = sources.identify path ∨ edges.Spells other := by
  cases loads : sources.load (sources.identify path) with
  | error error =>
    rw [compileRoot_of_error compiler edges loads] at spells
    exact .inr spells.of_clear
  | ok text =>
    rw [compileRoot_of_text compiler edges loads] at spells
    exact spells.of_trackAll.imp_right Spells.of_clear

theorem spells_of_tracks (coherent : edges.Coherent) {file : Path} (tracked : edges.tracks root file) :
    ∃ held, edges.Spells held ∧ root.same held := by
  obtain ⟨held, listed, same⟩ :=
    Dictionary.contains_iff.mp ((affected_contains coherent root file).mpr tracked)
  exact ⟨held, .inr ⟨file, listed⟩, Path.compare_eq_iff.mp same⟩

theorem Spells.listed (coherent : edges.Coherent) (spells : edges.Spells root) :
    ∃ held ∈ edges.included.keys, root.same held := by
  rcases spells with listed | ⟨file, listed⟩
  · exact ⟨root, listed, Path.same_refl root⟩
  · have tracked : edges.tracks root file := (affected_contains coherent root file).mp
      (Dictionary.contains_iff.mpr ⟨root, listed, Std.ReflCmp.compare_self⟩)
    obtain ⟨image, found, -⟩ := PathRelation.holds_iff.mp tracked
    have there : edges.included.contains root := by simp [Dictionary.contains, found]
    obtain ⟨held, listed, same⟩ := Dictionary.contains_iff.mp there
    exact ⟨held, listed, Path.compare_eq_iff.mp same⟩

end Dependencies

open Dependencies

section Spelling

variable {project : Project} {sources : Sources} {root : Path}

theorem spells_of_build {path : Path}
    (spells : (project.build sources path).2.edges.Spells root) :
    root = sources.identify (sources.identify path) ∨ project.edges.Spells root := by
  rw [build_edges] at spells
  exact spells.of_pass

theorem spells_of_buildAll {roots : List Path}
    (spells : (project.buildAll sources roots).2.edges.Spells root) :
    (∃ path ∈ roots, root = sources.identify (sources.identify path)) ∨
      project.edges.Spells root := by
  induction roots generalizing project with
  | nil => exact .inr spells
  | cons path rest ih =>
    rw [buildAll_cons] at spells
    rcases ih spells with ⟨other, member, same⟩ | earlier
    · exact .inl ⟨other, List.mem_cons_of_mem _ member, same⟩
    · rcases spells_of_build earlier with same | before
      · exact .inl ⟨path, List.mem_cons_self, same⟩
      · exact .inr before

theorem spells_of_forgetVanished {documents : List Path}
    (spells : (project.forgetVanished sources documents).edges.Spells root) :
    project.edges.Spells root := by
  unfold forgetVanished at spells
  dsimp only at spells
  generalize project.edges = edges at spells ⊢
  induction documents generalizing edges with
  | nil => exact spells
  | cons document rest ih =>
    have earlier := ih _ spells
    dsimp only at earlier
    split at earlier
    · exact earlier.of_clear
    · exact earlier

end Spelling

end Project

end Tale
