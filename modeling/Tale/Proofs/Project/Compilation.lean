import Tale.Proofs.Project.Dependencies
import Tale.Proofs.Project.Sources

/-! The edges of a root after a pass.

A pass forgets the edges of its root and adds one for every document that it resolves, so it leaves
the edges which the include lines call for, and those of other roots as they were.
-/

set_option autoImplicit false

namespace Tale.Project

open Script

/-- A table of edges that passes over roots, by any compilers and on any documents, lead to. -/
inductive Reached : Dependencies → Prop where
  | empty : Reached ∅
  | pass {edges : Dependencies} (reached : Reached edges) (compiler : Compiler)
      (sources : Sources) (path : Path) :
      Reached (compileRoot compiler sources edges path).edges

/-- The edge that the documents call for: the root can be loaded, and the file is another document
that is requested when the root is read. -/
def Sources.Edge (sources : Sources) (root file : Path) : Prop :=
  ∃ text, sources.load root = .ok text ∧ ∃ path,
    Requested (sources.includes root) root text path ∧ path.same file ∧ ¬ root.same file

namespace Dependencies

theorem trackAll_cons_resolve (edges : Dependencies) (root path : Path) (name : String)
    (consulted : List Consultation) :
    edges.trackAll root (.resolve name path :: consulted) =
      ((edges.track root path).2).trackAll root consulted := rfl

theorem tracks_trackAll (edges : Dependencies) (root other file : Path)
    (consulted : List Consultation) :
    (edges.trackAll root consulted).tracks other file ↔
      (other.same root ∧ ¬ root.same file ∧
        ∃ asked ∈ consulted.filterMap Consultation.resolution?, asked.2.same file) ∨
      edges.tracks other file := by
  induction consulted generalizing edges with
  | nil => simp [trackAll]
  | cons consultation rest ih =>
    cases consultation with
    | load path => exact ih edges
    | resolve name path =>
      have here : file.same path ∧ ¬ root.same path ↔ ¬ root.same file ∧ path.same file := by
        rw [Path.same_comm path file, and_comm, and_congr_left_iff]
        intro alike
        rw [Path.same_comm root, Path.same_comm root, Path.same_congr_left alike]
      rw [trackAll_cons_resolve, ih, tracks_track, here, List.filterMap_cons]
      simp only [Consultation.resolution?, List.mem_cons, exists_eq_or_imp]
      rw [← or_assoc, ← and_or_left, ← and_or_left, or_comm (a := path.same file = true)]

theorem Coherent.trackAll {edges : Dependencies} (coherent : edges.Coherent) (root : Path)
    (consulted : List Consultation) : (edges.trackAll root consulted).Coherent := by
  induction consulted generalizing edges with
  | nil => exact coherent
  | cons consultation rest ih =>
    cases consultation with
    | load path => exact ih coherent
    | resolve name path => exact ih (coherent.track root path)

end Dependencies

section Outcome

variable {sources : Sources} {path : Path} (compiler : Compiler) (edges : Dependencies)

theorem compileRoot_of_error {error : LoadError}
    (failed : sources.load (sources.identify path) = .error error) :
    compileRoot compiler sources edges path =
      ⟨.error [wholeError (sources.identify path) error.reason],
        [wholeError (sources.identify path) error.reason],
        (edges.clear (sources.identify path)).2⟩ := by
  unfold compileRoot
  simp only [failed]

theorem compileRoot_of_text {text : String}
    (loads : sources.load (sources.identify path) = .ok text) :
    let root := sources.identify path
    let pass := compiler root text (sources.includes root)
    compileRoot compiler sources edges path =
      ⟨(judge root pass).1, (judge root pass).2,
        (edges.clear root).2.trackAll root pass.consulted⟩ := by
  unfold compileRoot
  simp only [loads]

end Outcome

theorem Sources.includes_load {sources : Sources} (root : Path) {path : Path} {text : String}
    (loads : sources.load path = .ok text) : (sources.includes root).load path = .ok text := by
  simp [Sources.includes, loads, Except.mapError]

/-- A pass replaces the edges of its root by those that the documents call for. -/
theorem tracks_compileRoot {sources : Sources} {path : Path}
    (honest : (sources.includes (sources.identify path)).Honest)
    (canonical : (sources.includes (sources.identify path)).Canonical (sources.identify path))
    (edges : Dependencies) (other file : Path) :
    (compileRoot compile sources edges path).edges.tracks other file ↔
      (other.same (sources.identify path) ∧ sources.Edge (sources.identify path) file) ∨
      (¬ other.same (sources.identify path) ∧ edges.tracks other file) := by
  unfold Sources.Edge
  cases loads : sources.load (sources.identify path) with
  | error error => simp [compileRoot_of_error compile edges loads, Dependencies.tracks_clear]
  | ok text =>
    have loaded := Sources.includes_load (sources.identify path) loads
    rw [compileRoot_of_text compile edges loads, Dependencies.tracks_trackAll,
      Dependencies.tracks_clear]
    refine or_congr_left (and_congr_right fun _ => ?_)
    -- Every resolved path but the root itself becomes an edge.
    constructor
    · rintro ⟨apart, asked, member, alike⟩
      exact ⟨text, rfl, asked.2, (requested_iff honest canonical loaded).mpr ⟨asked, member, rfl⟩,
        alike, apart⟩
    · rintro ⟨_, same, path, requested, alike, apart⟩
      cases same
      obtain ⟨asked, member, rfl⟩ := (requested_iff honest canonical loaded).mp requested
      exact ⟨apart, asked, member, alike⟩

theorem coherent_compileRoot {edges : Dependencies} (coherent : edges.Coherent)
    (compiler : Compiler) (sources : Sources) (path : Path) :
    (compileRoot compiler sources edges path).edges.Coherent := by
  have cleared := coherent.clear (sources.identify path)
  cases loads : sources.load (sources.identify path) with
  | error error =>
    rw [compileRoot_of_error compiler edges loads]
    exact cleared
  | ok text =>
    rw [compileRoot_of_text compiler edges loads]
    exact cleared.trackAll _ _

theorem Reached.coherent {edges : Dependencies} (reached : Reached edges) : edges.Coherent := by
  induction reached with
  | empty => exact Dependencies.coherent_empty
  | pass reached compiler sources path ih => exact coherent_compileRoot ih compiler sources path

/-- After a pass over a root its edges are exactly those that the include lines call for, of the root
and of every document that they lead to, whether or not what they name can be loaded and filtered;
each name is resolved once. A root that cannot be loaded has no edges, and other roots keep theirs. -/
theorem compileRoot_edges_exact {disk : Disk} (proper : disk.Proper) (filters : Filters)
    {edges : Dependencies} (reached : Reached edges) (path : Path) :
    let sources := disk.sources filters
    let root := disk.identify path
    let after := (compileRoot compile sources edges path).edges
    (∀ file, after.tracks root file ↔ sources.Edge root file) ∧
    (∀ other file, ¬ other.same root → after.tracks other file = edges.tracks other file) ∧
    (∀ other file, (after.affected file).contains other = after.tracks other file) ∧
    ∀ text, sources.load root = .ok text → ∃ names : List String, names.Nodup ∧
      (compile root text (sources.includes root)).consulted.filterMap Consultation.resolution? =
        names.map (fun name => (name, disk.identify ((root.parent?.getD "").join (name : String)))) ∧
      ∀ name, name ∈ names ↔ Named (sources.includes root) root text name := by
  intro sources root after
  have honest := disk.includes_honest filters root
  have canonical := Disk.includes_canonical proper filters path
  have tracks (other file : Path) := tracks_compileRoot honest canonical edges other file
  have coherent := (reached.pass compile sources path).coherent
  refine ⟨fun file => ?_, fun other file apart => ?_, fun other file => ?_, fun text loads => ?_⟩
  · rw [tracks root file]
    have itself : root.same (sources.identify path) := Path.same_refl root
    exact (or_iff_left fun both => both.1 itself).trans (and_iff_right itself)
  · rw [Bool.eq_iff_iff, tracks other file]
    exact (or_iff_right fun both => apart both.1).trans (and_iff_right apart)
  · exact Bool.eq_iff_iff.mpr (Dependencies.affected_contains coherent other file)
  · exact compile_resolutions honest canonical (Sources.includes_load root loads)

def shelf : Disk where
  nodes := .ofList [(["main.tale"], .file (Text.encode "INCLUDE chapter.tale\n")),
    (["chapter.tale"],
      .file (Text.encode "INCLUDE main.tale\nINCLUDE gone.tale\nINCLUDE torn.part\n")),
    (["torn.part"], .file (Text.encode "INCLUDE main.tale\n"))]
  here := []

def tornParts : Filters := .ofList [("part", fun _ _ => .error "torn")]

theorem shelf_proper : shelf.Proper := properPlace_nil

/-- The missing document and the torn one are edges of the root. -/
theorem shelf_edges_exact : shelf.Proper ∧ Reached ∅ ∧
    (shelf.sources tornParts).Edge "/main.tale" "/gone.tale" ∧
    (shelf.sources tornParts).Edge "/main.tale" "/torn.part" ∧
    ¬ (shelf.sources tornParts).Edge "/main.tale" "/main.tale" := by
  obtain ⟨edges, -⟩ := compileRoot_edges_exact shelf_proper tornParts .empty "main.tale"
  have root : shelf.identify "main.tale" = "/main.tale" := by decide +kernel
  rw [root] at edges
  refine ⟨shelf_proper, .empty, (edges "/gone.tale").mp ?_, (edges "/torn.part").mp ?_, fun edge => ?_⟩
  · decide +kernel
  · decide +kernel
  · exact absurd ((edges "/main.tale").mpr edge) (by decide +kernel)

end Tale.Project
