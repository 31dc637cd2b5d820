import Tale.Project.Compilation
import Tale.Proofs.Dictionary
import Tale.Proofs.Path

/-! The edges between roots and files as a relation.

An edge is there or not; what else a table of edges holds follows from that. Both sides of the table
always list the same edges, and two tables with the same edges agree.
-/

set_option autoImplicit false

namespace Tale

namespace Project

namespace PathRelation

def holds (relation : PathRelation) (first second : Path) : Bool :=
  (relation.image first).contains second

def Full (relation : PathRelation) : Prop :=
  ∀ path image, relation.find? path = some image → ∃ other, image.contains other

theorem full_empty : Full ∅ := by
  intro path image found
  cases found

theorem holds_congr {relation : PathRelation} {first second third fourth : Path}
    (left : first.same second) (right : third.same fourth) :
    relation.holds first third = relation.holds second fourth := by
  unfold holds image
  rw [Dictionary.find?_congr (Path.compare_eq_iff.mpr left),
    Dictionary.contains_congr (Path.compare_eq_iff.mpr right)]

theorem holds_iff {relation : PathRelation} {first second : Path} :
    relation.holds first second ↔ ∃ image, relation.find? first = some image ∧
      image.contains second := by
  unfold holds image
  cases relation.find? first <;> simp

theorem holds_add (relation : PathRelation) (first second third fourth : Path) :
    (relation.add first second).holds third fourth ↔
      third.same first ∧ fourth.same second ∨ relation.holds third fourth := by
  unfold holds add OrderedSet.insert
  simp only [image, Dictionary.find?_insert, Path.compare_eq_iff]
  split
  · next same =>
    have sameImage := Dictionary.find?_congr (Path.compare_eq_iff.mpr same) relation
    simp [same, sameImage, Path.compare_eq_iff]
  · next apart => simp [apart]

theorem full_add {relation : PathRelation} (full : relation.Full) (first second : Path) :
    (relation.add first second).Full := by
  intro path image found
  simp only [add, Dictionary.find?_insert] at found
  split at found
  · cases found
    exact ⟨second, (Dictionary.contains_insert _ _ _ _).mpr (.inl Std.ReflCmp.compare_self)⟩
  · exact full path image found

theorem holds_erase (relation : PathRelation) (first third fourth : Path) :
    PathRelation.holds (Dictionary.erase relation first) third fourth ↔
      ¬ third.same first ∧ relation.holds third fourth := by
  unfold holds image
  simp only [Dictionary.find?_erase, Path.compare_eq_iff]
  split <;> simp [*]

theorem full_erase {relation : PathRelation} (full : relation.Full) (first : Path) :
    PathRelation.Full (Dictionary.erase relation first) := by
  intro path image found
  rw [Dictionary.find?_erase] at found
  split at found
  · cases found
  · exact full path image found

theorem holds_remove (relation : PathRelation) (first second third fourth : Path) :
    (relation.remove first second).holds third fourth ↔
      relation.holds third fourth ∧ ¬ (third.same first ∧ fourth.same second) := by
  unfold remove
  split
  · next absent =>
    have none : third.same first → relation.holds third fourth = false := by
      intro same
      unfold holds image
      rw [Dictionary.find?_congr (Path.compare_eq_iff.mpr same), absent]
      rfl
    refine ⟨fun held => ⟨held, fun ⟨same, _⟩ => ?_⟩, And.left⟩
    rw [none same] at held
    cases held
  · next held found =>
    have moved : third.same first → relation.holds third fourth = held.contains fourth := by
      intro same
      unfold holds image
      rw [Dictionary.find?_congr (Path.compare_eq_iff.mpr same), found]
      rfl
    have rest : (held.erase second).contains fourth ↔
        ¬ fourth.same second ∧ held.contains fourth := by
      rw [Dictionary.contains_erase, ne_eq, Path.compare_eq_iff]
    dsimp only
    split
    · next alone =>
      -- The path was related to nothing else.
      have gone := Dictionary.isEmpty_iff.mp alone fourth
      rw [holds_erase]
      by_cases same : third.same first
      · rw [moved same]
        simp only [same, not_true_eq_false, false_and, true_and, false_iff, not_and]
        intro there apart
        exact gone (rest.mpr ⟨apart, there⟩)
      · simp [same]
    · unfold holds image
      rw [Dictionary.find?_insert]
      by_cases same : third.same first
      · have inside := moved same
        unfold holds image at inside
        rw [if_pos (Path.compare_eq_iff.mpr same), Option.getD_some, rest, inside]
        simp only [same, true_and]
        exact and_comm
      · rw [if_neg (fun alike => same (Path.compare_eq_iff.mp alike))]
        simp [same]

theorem full_remove {relation : PathRelation} (full : relation.Full) (first second : Path) :
    (relation.remove first second).Full := by
  unfold remove
  split
  · exact full
  · dsimp only
    split
    · exact full_erase full first
    · next image _ left =>
      intro path other found
      rw [Dictionary.find?_insert] at found
      split at found
      · cases found
        by_contra none
        exact left (Dictionary.isEmpty_iff.mpr fun key there => none ⟨key, there⟩)
      · exact full path other found

theorem mem_listing {relation : PathRelation} {listed : List Component × List (List Component)} :
    listed ∈ relation.listing ↔ ∃ path image, relation.find? path = some image ∧
      listed = (path.components, image.keys.map Path.components) := by
  constructor
  · intro member
    obtain ⟨⟨path, image⟩, inside, rfl⟩ := List.mem_map.mp member
    exact ⟨path, image, Dictionary.find?_of_mem inside, rfl⟩
  · rintro ⟨path, image, found, rfl⟩
    obtain ⟨held, inside, same⟩ := Dictionary.exists_of_find? found
    refine List.mem_map.mpr ⟨(held, image), inside, ?_⟩
    have alike := Path.compare_eq_iff.mp same
    rw [Path.same, beq_iff_eq] at alike
    rw [alike]

theorem ascending_components (set : OrderedSet Path) :
    (set.keys.map Path.components).Pairwise fun a b => compare a b = .lt := by
  rw [Dictionary.keys, List.map_map, List.pairwise_map]
  exact set.ascending

theorem ascending_listing (relation : PathRelation) :
    relation.listing.Pairwise fun a b => compare a.1 b.1 = .lt := by
  rw [listing, List.pairwise_map]
  exact relation.ascending

theorem components_eq {first second : OrderedSet Path}
    (members : ∀ file, first.contains file ↔ second.contains file) :
    first.keys.map Path.components = second.keys.map Path.components := by
  have inside {set : OrderedSet Path} {components : List Component} :
      components ∈ set.keys.map Path.components ↔
        ∃ file, set.contains file ∧ file.components = components := by
    constructor
    · intro member
      obtain ⟨file, held, rfl⟩ := List.mem_map.mp member
      exact ⟨file, Dictionary.contains_iff.mpr ⟨file, held, Std.ReflCmp.compare_self⟩, rfl⟩
    · rintro ⟨file, there, rfl⟩
      obtain ⟨held, member, same⟩ := Dictionary.contains_iff.mp there
      have alike := Path.compare_eq_iff.mp same
      rw [Path.same, beq_iff_eq] at alike
      exact List.mem_map.mpr ⟨held, member, alike.symm⟩
  refine Dictionary.eq_of_ascending id (ascending_components first) (ascending_components second)
    fun components => ?_
  rw [inside, inside]
  simp only [members]

theorem listing_eq {first second : PathRelation} (full : first.Full) (fullToo : second.Full)
    (pairs : ∀ path file, first.holds path file ↔ second.holds path file) :
    first.listing = second.listing := by
  have within {first second : PathRelation} (full : first.Full)
      (pairs : ∀ path file, first.holds path file ↔ second.holds path file)
      {listed : List Component × List (List Component)} (member : listed ∈ first.listing) :
      listed ∈ second.listing := by
    obtain ⟨path, image, found, rfl⟩ := mem_listing.mp member
    obtain ⟨file, there⟩ := full path image found
    obtain ⟨other, foundToo, -⟩ :=
      holds_iff.mp ((pairs path file).mp (holds_iff.mpr ⟨image, found, there⟩))
    refine mem_listing.mpr ⟨path, other, foundToo, ?_⟩
    rw [components_eq fun file => ?_]
    have same := pairs path file
    simpa [holds_iff, found, foundToo] using same
  refine Dictionary.eq_of_ascending Prod.fst (ascending_listing first) (ascending_listing second)
    fun listed => ?_
  exact ⟨within full pairs, within fullToo fun path file => (pairs path file).symm⟩

end PathRelation

namespace Dependencies

open PathRelation

/-- Both sides of a table list the same edges, and neither lists a path without any. -/
structure Coherent (edges : Dependencies) : Prop where
  fullIncluded : edges.included.Full
  fullIncluders : edges.includers.Full
  mirrored : ∀ root file, edges.includers.holds file root ↔ edges.tracks root file

theorem coherent_empty : Coherent ∅ where
  fullIncluded := full_empty
  fullIncluders := full_empty
  mirrored _ _ := Iff.rfl

theorem tracks_congr {edges : Dependencies} {root other file included : Path}
    (roots : root.same other) (files : file.same included) :
    edges.tracks root file = edges.tracks other included :=
  holds_congr roots files

theorem tracks_track (edges : Dependencies) (root file other included : Path) :
    (edges.track root file).2.tracks other included ↔
      (other.same root ∧ included.same file ∧ ¬ root.same file) ∨ edges.tracks other included := by
  unfold track
  split
  · next known =>
    refine ⟨.inr, fun either => ?_⟩
    rcases either with ⟨sameRoot, sameFile, apart⟩ | there
    · rw [tracks_congr sameRoot sameFile]
      simpa [apart] using known
    · exact there
  · next new =>
    change (edges.included.add root file).holds other included ↔ _
    rw [holds_add]
    have apart : ¬ root.same file := by
      intro same
      simp [same] at new
    exact or_congr_left (by simp [apart])

theorem Coherent.track {edges : Dependencies} (coherent : edges.Coherent) (root file : Path) :
    (edges.track root file).2.Coherent := by
  unfold Dependencies.track
  split
  · exact coherent
  · refine ⟨full_add coherent.fullIncluded root file, full_add coherent.fullIncluders file root, ?_⟩
    intro other included
    change (edges.includers.add file root).holds included other ↔
      (edges.included.add root file).holds other included
    rw [holds_add, holds_add, coherent.mirrored other included,
      and_comm (a := included.same file = true)]
    exact Iff.rfl

theorem tracks_clear (edges : Dependencies) (root other file : Path) :
    (edges.clear root).2.tracks other file ↔ ¬ other.same root ∧ edges.tracks other file :=
  holds_erase edges.included root other file

theorem foldl_remove_holds (relation : PathRelation) (files : List Path) (root other file : Path) :
    (files.foldl (fun includers included => PathRelation.remove includers included root)
      relation).holds file other ↔
        relation.holds file other ∧ ¬ (other.same root ∧ ∃ included ∈ files, file.same included) := by
  induction files generalizing relation with
  | nil => simp
  | cons first rest ih =>
    rw [List.foldl_cons, ih, holds_remove]
    simp only [List.mem_cons, exists_eq_or_imp]
    grind

theorem foldl_remove_full {relation : PathRelation} (full : relation.Full) (files : List Path)
    (root : Path) :
    (files.foldl (fun includers included => PathRelation.remove includers included root)
      relation).Full := by
  induction files generalizing relation with
  | nil => exact full
  | cons first rest ih => exact ih (full_remove full first root)

theorem Coherent.clear {edges : Dependencies} (coherent : edges.Coherent) (root : Path) :
    (edges.clear root).2.Coherent := by
  refine ⟨full_erase coherent.fullIncluded root, foldl_remove_full coherent.fullIncluders _ root, ?_⟩
  intro other file
  rw [tracks_clear]
  refine (foldl_remove_holds edges.includers _ root other file).trans ?_
  rw [coherent.mirrored]
  -- The files that are visited are those of the root, by the other side of the table.
  have listed : (∃ included ∈ (edges.included.image root).keys, file.same included) ↔
      edges.tracks root file := by
    simp only [← Path.compare_eq_iff, ← Dictionary.contains_iff]
    exact Iff.rfl
  rw [listed]
  constructor
  · rintro ⟨there, forgotten⟩
    refine ⟨fun same => forgotten ⟨same, ?_⟩, there⟩
    rwa [← tracks_congr same (Path.same_refl file)]
  · rintro ⟨apart, there⟩
    exact ⟨there, fun both => apart both.1⟩

theorem affected_contains {edges : Dependencies} (coherent : edges.Coherent) (root file : Path) :
    (edges.affected file).contains root ↔ edges.tracks root file :=
  coherent.mirrored root file

theorem agrees_of_tracks {first second : Dependencies} (left : first.Coherent)
    (right : second.Coherent)
    (edges : ∀ root file, first.tracks root file ↔ second.tracks root file) :
    first.agrees second := by
  have included := listing_eq left.fullIncluded right.fullIncluded edges
  have includers := listing_eq left.fullIncluders right.fullIncluders fun file root =>
    (left.mirrored root file).trans ((edges root file).trans (right.mirrored root file).symm)
  simp [agrees, included, includers]

end Dependencies

end Project

end Tale
