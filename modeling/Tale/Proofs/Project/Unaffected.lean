import Tale.Proofs.Disk.Editing
import Tale.Proofs.Project.Build
import Tale.Proofs.Script.Agreement

/-! Roots that changes to a disk are not about.

Such a root asks for documents that were not changed, so each of them answers as before. At most the
reason why one of them cannot be read is another, when something changed in its path. So it has the
same edges, and compiling it gives the same story or fails for the same reasons.
-/

set_option autoImplicit false

namespace Tale

open Script Project

namespace Disk

theorem sources_identify (disk : Disk) (filters : Filters) :
    (disk.sources filters).identify = disk.identify := rfl

theorem sources_settled {disk : Disk} (linkFree : disk.LinkFree) (proper : disk.Proper)
    (filters : Filters) : (disk.sources filters).Settled where
  idempotent path := by
    change disk.identify (disk.identify path) = disk.identify path
    rw [identify_eq linkFree proper path, identify_ofPlace linkFree proper (named_proper proper path)]
  congr first second same := identify_congr linkFree proper same
  honest root := disk.includes_honest filters root

/-- Diagnostics that are equal but for the reason why a document cannot be read, given because of
what changed above it. -/
inductive Reworded (before after : Disk) : Diagnostic → Diagnostic → Prop where
  | same (diagnostic : Diagnostic) : Reworded before after diagnostic diagnostic
  | reason {place : Place} {first second : DiskError} {file : Path} {span : Span}
      (reblocked : Reblocked before after place first second) :
      Reworded before after
        ((Finding.unreadableInclude (.ofPlace place)
          (LoadError.ofDisk (.ofPlace place) first).reason).inFile file span)
        ((Finding.unreadableInclude (.ofPlace place)
          (LoadError.ofDisk (.ofPlace place) second).reason).inFile file span)

instance (before after : Disk) : Rewording (Reworded before after) where
  refl := .same
  severity reworded := by
    cases reworded <;> rfl

end Disk

namespace Project

variable {alike : Diagnostic → Diagnostic → Prop}

inductive ResultAlike (alike : Diagnostic → Diagnostic → Prop) :
    Except (List Diagnostic) Artifact → Except (List Diagnostic) Artifact → Prop where
  | ok (artifact : Artifact) : ResultAlike alike (.ok artifact) (.ok artifact)
  | error {first second : List Diagnostic} (errors : List.Forall₂ alike first second) :
      ResultAlike alike (.error first) (.error second)

structure Compilation.Alike (alike : Diagnostic → Diagnostic → Prop) (first second : Compilation) :
    Prop where
  result : ResultAlike alike first.result second.result
  reported : List.Forall₂ alike first.reported second.reported

theorem judge_alike [Rewording alike] {first second : Pass} (root : Path)
    (passes : first.Alike alike second) :
    ResultAlike alike (judge root first).1 (judge root second).1 ∧
      List.Forall₂ alike (judge root first).2 (judge root second).2 := by
  have errors : List.Forall₂ alike (first.diagnostics.filter Diagnostic.isError)
      (second.diagnostics.filter Diagnostic.isError) :=
    List.rel_filter (fun _ _ reworded => Bool.coe_iff_coe.mpr (Rewording.severity reworded))
      passes.diagnostics
  unfold judge
  rw [passes.artifact]
  revert errors
  cases first.diagnostics.filter Diagnostic.isError with
  | nil =>
    intro errors
    rw [List.forall₂_nil_left_iff.mp errors]
    cases second.artifact with
    | some artifact => exact ⟨.ok artifact, passes.diagnostics⟩
    | none =>
      exact ⟨.error (List.forall₂_refl _),
        List.rel_append passes.diagnostics (List.forall₂_refl _)⟩
  | cons error rest =>
    intro errors
    obtain ⟨other, others, reworded, more, same⟩ := List.forall₂_cons_left_iff.mp errors
    rw [same]
    cases second.artifact with
    | some artifact => exact ⟨.error (.cons reworded more), passes.diagnostics⟩
    | none => exact ⟨.error (.cons reworded more), passes.diagnostics⟩

end Project

namespace Disk

section Unaffected

variable {before after : Disk} {changed : List Path} {filters : Filters} {root : Path}

theorem isFile_of_loadDocument {disk : Disk} {path : Path} {text : String}
    (loaded : disk.loadDocument filters path = .ok text) : disk.isFile path := by
  obtain ⟨place, resolved⟩ := resolve_of_loadDocument loaded
  unfold loadDocument at loaded
  rw [readText_eq, resolved] at loaded
  simp only [Except.bind] at loaded
  cases node : disk.node? place with
  | none =>
    rw [node] at loaded
    cases loaded
  | some found =>
    cases found with
    | file content => exact isFile_iff.mpr ⟨place, content, resolved, node⟩
    | directory | link target =>
      rw [node] at loaded
      cases loaded

theorem resolve_of_isFile {disk : Disk} {path : Path} (file : disk.isFile path) :
    ∃ place, disk.resolve path = .ok place := by
  obtain ⟨place, _, resolved, -⟩ := isFile_iff.mp file
  exact ⟨place, resolved⟩

theorem Edited.properAfter (edited : before.Edited after changed) (proper : before.Proper) :
    after.Proper := by
  unfold Proper
  rwa [← edited.here]

theorem identify_edited (edited : before.Edited after changed) (proper : before.Proper) :
    after.identify = before.identify := by
  funext path
  rw [identify_eq edited.linkFree proper,
    identify_eq edited.linkFreeAfter (edited.properAfter proper), named, named, edited.here]

def Unlisted (disk : Disk) (changed : List Path) (document : Path) : Prop :=
  ∀ path ∈ changed, disk.identify path ≠ document

theorem kept_of_unlisted (edited : before.Edited after changed) (proper : before.Proper)
    {document : Path} (own : before.identify document = document)
    (unlisted : before.Unlisted changed document) :
    ∃ place, ProperPlace place ∧ document = .ofPlace place ∧
      before.node? place = after.node? place := by
  obtain ⟨place, properPlace, identity⟩ := identify_proper proper document
  rw [own] at identity
  refine ⟨place, properPlace, identity, ?_⟩
  by_contra apart
  obtain ⟨path, member, same⟩ := edited.listed place apart
  rw [identify_edited edited proper] at same
  exact unlisted path member (same.trans identity.symm)

theorem isFile_unlisted (edited : before.Edited after changed) (proper : before.Proper)
    {document : Path} (own : before.identify document = document)
    (unlisted : before.Unlisted changed document) :
    before.isFile document = after.isFile document := by
  obtain ⟨place, properPlace, rfl, kept⟩ := kept_of_unlisted edited proper own unlisted
  exact isFile_edited edited properPlace kept

theorem loadDocument_unlisted (filters : Filters) (edited : before.Edited after changed)
    (proper : before.Proper) {document : Path} (own : before.identify document = document)
    (unlisted : before.Unlisted changed document) (file : after.isFile document) :
    before.loadDocument filters document = after.loadDocument filters document := by
  obtain ⟨place, properPlace, rfl, kept⟩ := kept_of_unlisted edited proper own unlisted
  rcases loadDocument_edited filters edited properPlace kept with same | ⟨_, _, -, -, nowhere⟩
  · exact same
  · obtain ⟨reached, resolved⟩ := resolve_of_isFile file
    cases nowhere.symm.trans resolved

theorem answersAlike (edited : before.Edited after changed) (proper : before.Proper)
    {document : Path} (own : before.identify document = document)
    (unlisted : before.Unlisted changed document) (root : Path) :
    ((before.sources filters).includes root).AnswersAlike (Reworded before after)
      ((after.sources filters).includes root) document := by
  obtain ⟨place, properPlace, rfl, kept⟩ := kept_of_unlisted edited proper own unlisted
  have load (disk : Disk) : ((disk.sources filters).includes root).load (.ofPlace place) =
      (disk.loadDocument filters (.ofPlace place)).mapError LoadError.reason := rfl
  rcases loadDocument_edited filters edited properPlace kept with
    same | ⟨first, second, reblocked, here, now⟩
  · have here := load before
    have now := load after
    rw [← same] at now
    cases outcome : before.loadDocument filters (.ofPlace place) with
    | ok text =>
      rw [outcome] at here now
      exact .loaded here now
    | error error =>
      rw [outcome] at here now
      exact .refused here now fun _ _ => .same _
  · have here := (load before).trans (by rw [loadDocument_of_error here])
    have now := (load after).trans (by rw [loadDocument_of_error now])
    exact .refused here now fun file span => .reason reblocked

/-- No change is about a root or a document that it includes. -/
structure Unaffected (before : Disk) (filters : Filters) (changed : List Path) (root : Path) : Prop where
  own : before.identify root = root
  unlisted : before.Unlisted changed root
  apart : ∀ path ∈ changed, ¬ (before.sources filters).Edge root (before.identify path)

theorem canonical_own {disk : Disk} (linkFree : disk.LinkFree) (proper : disk.Proper) (filters : Filters)
    (own : disk.identify root = root) :
    ((disk.sources filters).includes root).Canonical root := by
  have canonical := (sources_settled linkFree proper filters).distinct.canonical root
  rwa [show (disk.sources filters).identify root = root from own] at canonical

theorem Unaffected.pass_alike (unaffected : before.Unaffected filters changed root)
    (edited : before.Edited after changed) (proper : before.Proper) {text : String}
    (loads : (before.sources filters).load root = .ok text) :
    (compile root text ((before.sources filters).includes root)).Alike (Reworded before after)
      (compile root text ((after.sources filters).includes root)) := by
  have settled := sources_settled edited.linkFree proper filters
  have honest := settled.honest root
  have canonical := canonical_own edited.linkFree proper filters unaffected.own
  refine compile_alike honest (after.includes_honest filters root) ?_ fun path asked => ?_
  · funext name
    exact (congrFun (identify_edited edited proper) _).symm
  · obtain ⟨name, line, rfl⟩ :=
      requested_of_load honest canonical (Sources.includes_load root loads) asked
    refine answersAlike edited proper (settled.idempotent _) (fun path member same => ?_) root
    -- A changed document that the pass asks for would be an edge, unless it is the root.
    by_cases itself : root.same (before.identify path)
    · exact unaffected.unlisted path member
        ((settled.identify_eq itself).symm.trans unaffected.own)
    · refine unaffected.apart path member ⟨text, loads, _, ⟨name, line, rfl⟩, ?_, itself⟩
      rw [same]
      exact Path.same_refl _

theorem isFile_of_edge (edited : before.Edited after changed) (proper : before.Proper)
    (own : before.identify root = root) (unlisted : before.Unlisted changed root) {file : Path}
    (edge : (before.sources filters).Edge root file) : after.isFile root := by
  obtain ⟨text, loads, -⟩ := edge
  rw [← isFile_unlisted edited proper own unlisted]
  exact isFile_of_loadDocument loads

theorem Unaffected.edge_iff (unaffected : before.Unaffected filters changed root)
    (edited : before.Edited after changed) (proper : before.Proper) (file : Path) :
    (before.sources filters).Edge root file ↔ (after.sources filters).Edge root file := by
  have load (still : after.isFile root) :
      (before.sources filters).load root = (after.sources filters).load root :=
    loadDocument_unlisted filters edited proper unaffected.own unaffected.unlisted still
  have ownAfter : after.identify root = root := by
    rw [identify_edited edited proper, unaffected.own]
  have requested {text : String} (loads : (before.sources filters).load root = .ok text)
      (loadsAfter : (after.sources filters).load root = .ok text) (path : Path) :
      Requested ((before.sources filters).includes root) root text path ↔
        Requested ((after.sources filters).includes root) root text path := by
    rw [requested_iff (before.includes_honest filters root)
        (canonical_own edited.linkFree proper filters unaffected.own) (Sources.includes_load root loads),
      requested_iff (after.includes_honest filters root)
        (canonical_own edited.linkFreeAfter (edited.properAfter proper) filters ownAfter)
        (Sources.includes_load root loadsAfter),
      (unaffected.pass_alike edited proper loads).consulted]
  constructor
  · intro edge
    have still := isFile_of_edge edited proper unaffected.own unaffected.unlisted edge
    obtain ⟨text, loads, path, asked, same, apart⟩ := edge
    have loadsAfter := (load still).symm.trans loads
    exact ⟨text, loadsAfter, path, (requested loads loadsAfter path).mp asked, same, apart⟩
  · rintro ⟨text, loadsAfter, path, asked, same, apart⟩
    have loads := (load (isFile_of_loadDocument loadsAfter)).trans loadsAfter
    exact ⟨text, loads, path, (requested loads loadsAfter path).mpr asked, same, apart⟩

/-- A root that is not affected and still a file is compiled to the same story as before, or fails for
the same reasons. -/
theorem Unaffected.compileRoot_alike {path : Path}
    (unaffected : before.Unaffected filters changed (before.identify path))
    (edited : before.Edited after changed) (proper : before.Proper)
    (file : after.isFile (before.identify path)) (edges edgesAfter : Dependencies) :
    (compileRoot compile (before.sources filters) edges path).Alike (Reworded before after)
      (compileRoot compile (after.sources filters) edgesAfter path) := by
  have identity : (after.sources filters).identify path = before.identify path :=
    congrFun (identify_edited edited proper) path
  have same := loadDocument_unlisted filters edited proper unaffected.own unaffected.unlisted file
  cases loads : (before.sources filters).load (before.identify path) with
  | error error =>
    have loadsAfter : (after.sources filters).load ((after.sources filters).identify path) =
        .error error := by
      rw [identity]
      exact same.symm.trans loads
    rw [compileRoot_of_error compile edges loads, compileRoot_of_error compile edgesAfter loadsAfter,
      identity]
    exact ⟨.error (List.forall₂_refl _), List.forall₂_refl _⟩
  | ok text =>
    have loadsAfter : (after.sources filters).load ((after.sources filters).identify path) =
        .ok text := by
      rw [identity]
      exact same.symm.trans loads
    rw [compileRoot_of_text compile edges loads, compileRoot_of_text compile edgesAfter loadsAfter,
      identity, sources_identify]
    obtain ⟨result, reported⟩ := judge_alike (before.identify path)
      (unaffected.pass_alike edited proper loads)
    constructor
    · dsimp only
      exact result
    · dsimp only
      exact reported

end Unaffected

end Disk

end Tale
