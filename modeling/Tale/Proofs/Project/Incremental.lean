import Tale.Proofs.Project.Unaffected

/-! Handling changes instead of building everything anew.

Changes lead to the roots that include one of the changed documents, and any other root would be
compiled to the same story again. So the edges after handling changes are those of a project that is
built anew.
-/

set_option autoImplicit false

namespace Tale

open Script

namespace Project

section Handling

variable {before after : Disk} {changed roots : List Path} {rules : Rules} {filters : Filters}
  {serial : Nat} {root : Path}

def afterBuilding (disk : Disk) (rules : Rules) (filters : Filters) (serial : Nat)
    (roots : List Path) : Project :=
  ((ofRules rules serial).buildAll (disk.sources filters) roots).2

def Listed (disk : Disk) (paths : List Path) (document : Path) : Prop :=
  ∃ path ∈ paths, disk.identify path = document

theorem afterBuilding_coherent (disk : Disk) (rules : Rules) (filters : Filters) (serial : Nat)
    (roots : List Path) : (afterBuilding disk rules filters serial roots).edges.Coherent :=
  buildAll_coherent Dependencies.coherent_empty _ roots

theorem tracks_ofRules (rules : Rules) (serial : Nat) (root file : Path) :
    (ofRules rules serial).edges.tracks root file = false := rfl

theorem tracks_afterBuilding {disk : Disk} (linkFree : disk.LinkFree) (proper : disk.Proper)
    (own : disk.identify root = root) (file : Path) :
    (afterBuilding disk rules filters serial roots).edges.tracks root file ↔
      Listed disk roots root ∧ (disk.sources filters).Edge root file := by
  have settled := Disk.sources_settled linkFree proper filters
  unfold afterBuilding Listed
  rw [tracks_buildAll settled, tracks_ofRules, Sources.covers_own settled own, Disk.sources_identify,
    own]
  simp only [Bool.false_eq_true, and_false, or_false]

theorem tracks_forgotten {disk : Disk} (linkFree : disk.LinkFree) (proper : disk.Proper)
    (own : disk.identify root = root) (project : Project) (file : Path) :
    (project.forgetVanished (disk.sources filters) (changed.map disk.identify)).edges.tracks root file ↔
      project.edges.tracks root file ∧
        ¬ (Listed disk changed root ∧ project.rules.isRoot root ∧ ¬ disk.isFile root) := by
  have settled := Disk.sources_settled linkFree proper filters
  rw [tracks_forgetVanished]
  refine and_congr_right fun _ => not_congr ?_
  constructor
  · rintro ⟨document, member, isRoot, gone, same⟩
    obtain ⟨path, listed, rfl⟩ := List.mem_map.mp member
    have itself : disk.identify path = root := (settled.identify_eq same).symm.trans own
    rw [itself] at isRoot gone
    exact ⟨⟨path, listed, itself⟩, isRoot, gone⟩
  · rintro ⟨⟨path, listed, itself⟩, isRoot, gone⟩
    exact ⟨root, List.mem_map.mpr ⟨path, listed, itself⟩, isRoot, gone, Path.same_refl root⟩

theorem contains_rebuilt_own {disk : Disk} (linkFree : disk.LinkFree) (proper : disk.Proper)
    (own : disk.identify root = root) {project : Project} (coherent : project.edges.Coherent) :
    (project.rebuilt (disk.sources filters) (changed.map disk.identify)).contains root ↔
      (∃ path ∈ changed, project.edges.tracks root (disk.identify path)) ∨
        (Listed disk changed root ∧ project.isLiveRoot (disk.sources filters) root) := by
  have settled := Disk.sources_settled linkFree proper filters
  have idempotent (path : Path) : (disk.sources filters).identify (disk.identify path) =
      disk.identify path := settled.idempotent path
  rw [contains_rebuilt coherent]
  simp only [List.mem_map, exists_exists_and_eq_and, idempotent]
  constructor
  · rintro ⟨path, listed, tracked | ⟨live, same⟩⟩
    · exact .inl ⟨path, listed, tracked⟩
    · have itself : disk.identify path = root := (settled.identify_eq same).symm.trans own
      rw [itself] at live
      exact .inr ⟨⟨path, listed, itself⟩, live⟩
  · rintro (⟨path, listed, tracked⟩ | ⟨⟨path, listed, itself⟩, live⟩)
    · exact ⟨path, listed, .inl tracked⟩
    · rw [← itself] at live ⊢
      exact ⟨path, listed, .inr ⟨live, Path.same_refl _⟩⟩

def forgotten (before after : Disk) (rules : Rules) (filters : Filters) (serial : Nat)
    (roots changed : List Path) : Project :=
  (afterBuilding before rules filters serial roots).forgetVanished (after.sources filters)
    (changed.map after.identify)

def handled (before after : Disk) (rules : Rules) (filters : Filters) (serial : Nat)
    (roots changed : List Path) : OrderedSet Path :=
  (forgotten before after rules filters serial roots changed).rebuilt (after.sources filters)
    (changed.map after.identify)

theorem forgotten_coherent (before after : Disk) (rules : Rules) (filters : Filters) (serial : Nat)
    (roots changed : List Path) :
    (forgotten before after rules filters serial roots changed).edges.Coherent :=
  forgetVanished_coherent (afterBuilding_coherent before rules filters serial roots) _ _

theorem forgotten_rules (before after : Disk) (rules : Rules) (filters : Filters) (serial : Nat)
    (roots changed : List Path) :
    (forgotten before after rules filters serial roots changed).rules = rules :=
  buildAll_rules _ _ _

theorem identified_of_tracks {disk : Disk} (linkFree : disk.LinkFree) (proper : disk.Proper)
    {file : Path} (tracked : (afterBuilding disk rules filters serial roots).edges.tracks root file) :
    root.same (disk.identify root) := by
  have settled := Disk.sources_settled linkFree proper filters
  unfold afterBuilding at tracked
  rw [tracks_buildAll settled, tracks_ofRules] at tracked
  simp only [Bool.false_eq_true, and_false, or_false] at tracked
  have same := Sources.Covers.same settled tracked.1
  rwa [Disk.sources_identify] at same

theorem identified_of_forgotten (edited : before.Edited after changed) (proper : before.Proper)
    {file : Path}
    (tracked : (forgotten before after rules filters serial roots changed).edges.tracks root file) :
    root.same (after.identify root) := by
  rw [Disk.identify_edited edited proper]
  unfold forgotten at tracked
  rw [tracks_forgetVanished] at tracked
  exact identified_of_tracks edited.linkFree proper tracked.1

theorem identified_of_handled (edited : before.Edited after changed) (proper : before.Proper)
    (contained : (handled before after rules filters serial roots changed).contains root) :
    root.same (after.identify root) := by
  have settled := Disk.sources_settled edited.linkFreeAfter (edited.properAfter proper) filters
  unfold handled at contained
  obtain ⟨document, -, tracked | ⟨-, same⟩⟩ :=
    (contains_rebuilt (forgotten_coherent ..) _ root).mp contained
  · exact identified_of_forgotten edited proper tracked
  · have identity : after.identify root = after.identify document := settled.identify_eq same
    rw [identity]
    exact same

section Own

variable (edited : before.Edited after changed) (proper : before.Proper)
  (own : before.identify root = root)

include edited proper own

theorem tracks_forgotten_own (file : Path) :
    (forgotten before after rules filters serial roots changed).edges.tracks root file ↔
      (Listed before roots root ∧ (before.sources filters).Edge root file) ∧
        ¬ (Listed before changed root ∧ rules.isRoot root ∧ ¬ after.isFile root) := by
  have ownAfter : after.identify root = root := by
    rw [Disk.identify_edited edited proper, own]
  unfold forgotten
  rw [tracks_forgotten edited.linkFreeAfter (edited.properAfter proper) ownAfter,
    tracks_afterBuilding edited.linkFree proper own]
  unfold afterBuilding Listed
  rw [buildAll_rules, Disk.identify_edited edited proper]
  rfl

theorem contains_handled :
    (handled before after rules filters serial roots changed).contains root ↔
      (∃ path ∈ changed, (forgotten before after rules filters serial roots changed).edges.tracks root
        (before.identify path)) ∨
      (Listed before changed root ∧ rules.isRoot root ∧ after.isFile root) := by
  have ownAfter : after.identify root = root := by
    rw [Disk.identify_edited edited proper, own]
  unfold handled
  rw [contains_rebuilt_own edited.linkFreeAfter (edited.properAfter proper) ownAfter
    (forgotten_coherent ..)]
  unfold isLiveRoot Listed
  rw [forgotten_rules, Disk.identify_edited edited proper, Bool.and_eq_true]
  rfl

theorem covers_handled :
    (after.sources filters).Covers (handled before after rules filters serial roots changed).keys root ↔
      (handled before after rules filters serial roots changed).contains root := by
  have settled := Disk.sources_settled edited.linkFreeAfter (edited.properAfter proper) filters
  have ownAfter : (after.sources filters).identify root = root := by
    rw [Disk.sources_identify, Disk.identify_edited edited proper, own]
  constructor
  · rintro ⟨path, member, same⟩
    have contained : (handled before after rules filters serial roots changed).contains path :=
      Dictionary.contains_iff.mpr ⟨path, member, Std.ReflCmp.compare_self⟩
    have identified := identified_of_handled edited proper contained
    rwa [Dictionary.contains_congr
      (Path.compare_eq_iff.mpr (Path.same_trans same (Path.same_symm identified)))]
  · intro contained
    obtain ⟨path, member, same⟩ := Dictionary.contains_iff.mp contained
    refine ⟨path, member, ?_⟩
    rw [← settled.congr root path (Path.compare_eq_iff.mp same), ownAfter]
    exact Path.same_refl root

theorem remains_of_handled (matching : ∀ path ∈ roots, rules.isRoot (before.identify path))
    (again : (handled before after rules filters serial roots changed).contains root) :
    after.isFile root ∧
      (Listed before roots root ∨ Listed before changed root ∧ rules.isRoot root) := by
  rcases (contains_handled edited proper own).mp again with ⟨path, member, tracked⟩ | live
  · obtain ⟨⟨built, edge⟩, kept⟩ := (tracks_forgotten_own edited proper own _).mp tracked
    refine ⟨?_, .inl built⟩
    obtain ⟨origin, inRoots, same⟩ := built
    have isRoot : rules.isRoot root := same ▸ matching origin inRoots
    -- A root with edges could be loaded before, so only a change to itself can have removed it.
    by_cases listed : Listed before changed root
    · by_contra gone
      exact kept ⟨listed, isRoot, gone⟩
    · exact Disk.isFile_of_edge edited proper own (fun other member same =>
        listed ⟨other, member, same⟩) edge
  · obtain ⟨listed, isRoot, file⟩ := live
    exact ⟨file, .inr ⟨listed, isRoot⟩⟩

/-- A root that changes do not lead to is not affected by them, unless it vanished. -/
theorem unaffected_of_not_handled (matching : ∀ path ∈ roots, rules.isRoot (before.identify path))
    (built : Listed before roots root)
    (kept : ¬ (Listed before changed root ∧ rules.isRoot root ∧ ¬ after.isFile root))
    (left : ¬ (handled before after rules filters serial roots changed).contains root) :
    before.Unaffected filters changed root := by
  rw [contains_handled edited proper own, not_or] at left
  obtain ⟨origin, inRoots, same⟩ := built
  have isRoot : rules.isRoot root := same ▸ matching origin inRoots
  refine ⟨own, fun path member listed => ?_, fun path member edge => ?_⟩
  · refine left.2 ⟨⟨path, member, listed⟩, isRoot, ?_⟩
    by_contra gone
    exact kept ⟨⟨path, member, listed⟩, isRoot, gone⟩
  · exact left.1 ⟨path, member, (tracks_forgotten_own edited proper own _).mpr
      ⟨⟨⟨origin, inRoots, same⟩, edge⟩, kept⟩⟩

/-- Once changes are handled, a root that remains has the edges that the documents call for now, and
any other has none. -/
theorem tracks_handleChanges_own (matching : ∀ path ∈ roots, rules.isRoot (before.identify path))
    (file : Path) :
    ((afterBuilding before rules filters serial roots).handleChanges (after.sources filters)
        changed).2.edges.tracks root file ↔
      (after.isFile root ∧ (Listed before roots root ∨
        Listed before changed root ∧ rules.isRoot root)) ∧ (after.sources filters).Edge root file := by
  have settled := Disk.sources_settled edited.linkFreeAfter (edited.properAfter proper) filters
  have ownAfter : (after.sources filters).identify root = root := by
    rw [Disk.sources_identify, Disk.identify_edited edited proper, own]
  rw [handleChanges_eq, tracks_buildAll settled, ownAfter]
  change ((after.sources filters).Covers
      (handled before after rules filters serial roots changed).keys root ∧ _) ∨
    (¬ (after.sources filters).Covers
      (handled before after rules filters serial roots changed).keys root ∧
      (forgotten before after rules filters serial roots changed).edges.tracks root file) ↔ _
  rw [covers_handled edited proper own]
  -- A root that is built again gets its edges from the new documents; for any other the new
  -- documents call for the edges that it has.
  by_cases again : (handled before after rules filters serial roots changed).contains root
  · have remains := remains_of_handled edited proper own matching again
    simp only [again, remains, not_true_eq_false, false_and, true_and, or_false]
  · simp only [again, Bool.false_eq_true, not_false_eq_true, false_and, true_and, false_or]
    rw [tracks_forgotten_own edited proper own]
    constructor
    · rintro ⟨⟨built, edge⟩, kept⟩
      have unaffected := unaffected_of_not_handled edited proper own matching built kept again
      have file := Disk.isFile_of_edge edited proper own unaffected.unlisted edge
      exact ⟨⟨file, .inl built⟩, (unaffected.edge_iff edited proper _).mp edge⟩
    · rintro ⟨⟨file, built | live⟩, edge⟩
      · have kept : ¬ (Listed before changed root ∧ rules.isRoot root ∧ ¬ after.isFile root) :=
          fun vanished => vanished.2.2 file
        have unaffected := unaffected_of_not_handled edited proper own matching built kept again
        exact ⟨⟨built, (unaffected.edge_iff edited proper _).mpr edge⟩, kept⟩
      · exact absurd ((contains_handled edited proper own).mpr (.inr ⟨live.1, live.2, file⟩)) again

end Own

/-- A path that is built when a project is built anew: a file that was built before, or that is a root
and was changed. -/
def Remains (after : Disk) (rules : Rules) (roots changed : List Path) (path : Path) : Prop :=
  after.isFile (after.identify path) ∧
    (path ∈ roots ∨ path ∈ changed ∧ rules.isRoot (after.identify path))

theorem remains_iff {anew : List Path} (edited : before.Edited after changed) (proper : before.Proper)
    (all : ∀ path, path ∈ anew ↔ Remains after rules roots changed path) (root : Path) :
    Listed after anew root ↔
      after.isFile root ∧ (Listed before roots root ∨
        Listed before changed root ∧ rules.isRoot root) := by
  simp only [all, Remains, Listed, Disk.identify_edited edited proper]
  constructor
  · rintro ⟨path, ⟨file, built | ⟨listed, isRoot⟩⟩, rfl⟩
    · exact ⟨file, .inl ⟨path, built, rfl⟩⟩
    · exact ⟨file, .inr ⟨⟨path, listed, rfl⟩, isRoot⟩⟩
  · rintro ⟨file, ⟨path, built, rfl⟩ | ⟨⟨path, listed, rfl⟩, isRoot⟩⟩
    · exact ⟨path, ⟨file, .inl built⟩, rfl⟩
    · exact ⟨path, ⟨file, .inr ⟨listed, isRoot⟩⟩, rfl⟩

theorem identified_of_handleChanges (edited : before.Edited after changed) (proper : before.Proper)
    {file : Path} (tracked : ((afterBuilding before rules filters serial roots).handleChanges
      (after.sources filters) changed).2.edges.tracks root file) : root.same (after.identify root) := by
  have settled := Disk.sources_settled edited.linkFreeAfter (edited.properAfter proper) filters
  rw [handleChanges_eq, tracks_buildAll settled] at tracked
  rcases tracked with ⟨covered, -⟩ | ⟨-, before⟩
  · have same := Sources.Covers.same settled covered
    rwa [Disk.sources_identify] at same
  · exact identified_of_forgotten edited proper before

theorem handleChanges_coherent (before after : Disk) (rules : Rules) (filters : Filters) (serial : Nat)
    (roots changed : List Path) : ((afterBuilding before rules filters serial roots).handleChanges
      (after.sources filters) changed).2.edges.Coherent :=
  coherent_handleChanges (afterBuilding_coherent before rules filters serial roots) _ changed

theorem handleChanges_tracks (edited : before.Edited after changed) (proper : before.Proper)
    (matching : ∀ path ∈ roots, rules.isRoot (before.identify path)) {anew : List Path}
    (all : ∀ path, path ∈ anew ↔ Remains after rules roots changed path) (serialAnew : Nat)
    (root file : Path) :
    ((afterBuilding before rules filters serial roots).handleChanges (after.sources filters)
        changed).2.edges.tracks root file ↔
      (afterBuilding after rules filters serialAnew anew).edges.tracks root file := by
  have linkFree := edited.linkFreeAfter
  have properAfter := edited.properAfter proper
  have own : after.identify (after.identify root) = after.identify root :=
    (Disk.sources_settled linkFree properAfter filters).idempotent root
  -- Only identities have edges, on either side.
  by_cases identified : root.same (after.identify root)
  · rw [Dependencies.tracks_congr identified (Path.same_refl file),
      Dependencies.tracks_congr identified (Path.same_refl file),
      tracks_afterBuilding linkFree properAfter own, remains_iff edited proper all]
    refine tracks_handleChanges_own edited proper ?_ matching file
    rwa [Disk.identify_edited edited proper] at own ⊢
  · constructor
    · exact fun tracked => absurd (identified_of_handleChanges edited proper tracked) identified
    · exact fun tracked => absurd (identified_of_tracks linkFree properAfter tracked) identified

theorem exists_build_iff (before after : Disk) (rules : Rules) (filters : Filters) (serial : Nat)
    (roots changed : List Path) (root : Path) :
    (∃ build ∈ ((afterBuilding before rules filters serial roots).handleChanges
        (after.sources filters) changed).1, build.root.same root) ↔
      (handled before after rules filters serial roots changed).contains root := by
  have listed : ((afterBuilding before rules filters serial roots).handleChanges (after.sources filters)
      changed).1.map Build.root = (handled before after rules filters serial roots changed).keys := by
    rw [handleChanges_eq, buildAll_roots]
    rfl
  rw [Dictionary.contains_iff, ← listed]
  simp only [List.mem_map, exists_exists_and_eq_and, Path.compare_eq_iff, Path.same_comm root]

/-- Handling changes leads to the edges of a project that is built anew, from the roots that are still
there and those that were changed. A root that was not built again would be compiled to the same
story, or fail with the same errors but for the reason why a document cannot be read. -/
theorem handleChanges_as_anew (edited : before.Edited after changed) (proper : before.Proper)
    (matching : ∀ path ∈ roots, rules.isRoot (before.identify path)) {anew : List Path}
    (all : ∀ path, path ∈ anew ↔ Remains after rules roots changed path) (serial serialAnew : Nat) :
    let handling :=
      (afterBuilding before rules filters serial roots).handleChanges (after.sources filters) changed
    handling.2.edges.agrees (afterBuilding after rules filters serialAnew anew).edges ∧
    ∀ path ∈ roots, after.isFile (after.identify path) →
      (∀ build ∈ handling.1, ¬ build.root.same (after.identify path)) → ∀ edges edgesAfter,
        (compileRoot compile (before.sources filters) edges path).Alike (Disk.Reworded before after)
          (compileRoot compile (after.sources filters) edgesAfter path) := by
  intro handling
  constructor
  · exact Dependencies.agrees_of_tracks (handleChanges_coherent ..) (afterBuilding_coherent ..)
      (handleChanges_tracks edited proper matching all serialAnew)
  · intro path built file left edges edgesAfter
    have own : before.identify (before.identify path) = before.identify path :=
      (Disk.sources_settled edited.linkFree proper filters).idempotent path
    rw [Disk.identify_edited edited proper] at file left
    have alone : ¬ (handled before after rules filters serial roots changed).contains
        (before.identify path) := by
      rw [← exists_build_iff]
      rintro ⟨build, member, same⟩
      exact left build member same
    have unaffected := unaffected_of_not_handled edited proper own matching ⟨path, built, rfl⟩
      (fun vanished => vanished.2.2 file) alone
    exact unaffected.compileRoot_alike edited proper file edges edgesAfter

end Handling

/-- Two roots, of which one includes a document below a file and the other one that is missing. -/
def attic : Disk where
  nodes := .ofList [(["main.tale"], .file (Text.encode "INCLUDE loose.part/page.part\n-> END\n")),
    (["side.tale"], .file (Text.encode "INCLUDE note.part\n-> END\n")),
    (["loose.part"], .file (Text.encode "A page.\n"))]
  here := []

def cleared : Disk := { attic with nodes := attic.nodes.erase ["loose.part"] }

def tidied : Disk := cleared.put ["note.part"] (.file (Text.encode "A note.\n"))

def taleRules : Rules := ⟨.ending ".tale", ∅, .none⟩

def loudParts : Filters :=
  .ofList [("part", fun _ text => .ok (String.ofList (text.toList.map Char.toUpper)))]

def atticRoots : List Path := ["main.tale", "side.tale"]

def atticChanges : List Path := ["note.part", "loose.part"]

theorem attic_proper : attic.Proper := properPlace_nil

theorem attic_tidied : attic.Edited tidied atticChanges := by
  have linkFree : attic.LinkFree := Disk.linkFree_of_values (by decide +kernel)
  have removed : attic.remove "loose.part" = .ok cleared := by decide +kernel
  have written : cleared.write "note.part" (Text.encode "A note.\n") = .ok tidied := by
    decide +kernel
  exact ((Disk.Edited.refl linkFree).remove attic_proper removed).write attic_proper written

theorem attic_matching : ∀ path ∈ atticRoots, taleRules.isRoot (attic.identify path) := by
  decide +kernel

theorem tidied_remains (path : Path) :
    path ∈ atticRoots ↔ Remains tidied taleRules atticRoots atticChanges path := by
  have files : ∀ path ∈ atticRoots, tidied.isFile (tidied.identify path) := by
    decide +kernel
  have others : ∀ path ∈ atticChanges, taleRules.isRoot (tidied.identify path) = false := by
    decide +kernel
  constructor
  · exact fun built => ⟨files path built, .inl built⟩
  · rintro ⟨-, built | ⟨listed, isRoot⟩⟩
    · exact built
    · cases (others path listed).symm.trans isRoot

theorem attic_handled : ((afterBuilding attic taleRules loudParts 0 atticRoots).handleChanges
    (tidied.sources loudParts) atticChanges).1.map Build.root = [("/side.tale" : Path)] := by
  decide +kernel

theorem attic_left : ∀ build ∈ ((afterBuilding attic taleRules loudParts 0 atticRoots).handleChanges
    (tidied.sources loudParts) atticChanges).1, ¬ build.root.same (tidied.identify "main.tale") := by
  intro build member
  have listed := List.mem_map_of_mem (f := Build.root) member
  rw [attic_handled, List.mem_singleton] at listed
  rw [listed]
  decide +kernel

/-- The root that is not built again has the edges and, but for its wording, the report of a new
build. -/
theorem attic_as_anew :
    attic.Edited tidied atticChanges ∧ attic.Proper ∧
    (∀ path ∈ atticRoots, taleRules.isRoot (attic.identify path)) ∧
    (∀ path, path ∈ atticRoots ↔ Remains tidied taleRules atticRoots atticChanges path) ∧
    ((afterBuilding attic taleRules loudParts 0 atticRoots).handleChanges (tidied.sources loudParts)
      atticChanges).2.edges.agrees (afterBuilding tidied taleRules loudParts 1 atticRoots).edges ∧
    (compileRoot compile (attic.sources loudParts) ∅ "main.tale").Alike (Disk.Reworded attic tidied)
      (compileRoot compile (tidied.sources loudParts) ∅ "main.tale") := by
  obtain ⟨agree, alike⟩ :=
    handleChanges_as_anew attic_tidied attic_proper attic_matching tidied_remains 0 1
  exact ⟨attic_tidied, attic_proper, attic_matching, tidied_remains, agree,
    alike "main.tale" (by decide +kernel) (by decide +kernel) attic_left ∅ ∅⟩

/-- The root that is not built again would give another reason. -/
theorem attic_reason_differs :
    attic.Edited tidied atticChanges ∧ attic.Proper ∧
    (∀ path ∈ atticRoots, taleRules.isRoot (attic.identify path)) ∧ ↑"main.tale" ∈ atticRoots ∧
    tidied.isFile (tidied.identify "main.tale") ∧
    (∀ build ∈ ((afterBuilding attic taleRules loudParts 0 atticRoots).handleChanges
      (tidied.sources loudParts) atticChanges).1, ¬ build.root.same (tidied.identify "main.tale")) ∧
    (compileRoot compile (attic.sources loudParts) ∅ "main.tale").reported ≠
      (compileRoot compile (tidied.sources loudParts) ∅ "main.tale").reported := by
  have first : (compileRoot compile (attic.sources loudParts) ∅ "main.tale").reported.map
      Diagnostic.message =
        ["cannot include /loose.part/page.part: Not a directory (os error 20)"] := by
    decide +kernel
  have second : (compileRoot compile (tidied.sources loudParts) ∅ "main.tale").reported.map
      Diagnostic.message = ["cannot include /loose.part/page.part: file not found"] := by
    decide +kernel
  refine ⟨attic_tidied, attic_proper, attic_matching, by decide +kernel, by decide +kernel,
    attic_left, fun same => ?_⟩
  rw [same, second] at first
  exact absurd first (by decide)

end Project

end Tale
