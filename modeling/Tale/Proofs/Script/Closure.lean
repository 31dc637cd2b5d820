import Mathlib.Data.List.Nodup
import Tale.Proofs.Script.Reading

/-! What a root document asks for.

The documents that are opened are the root and, again and again, what their include lines load.
Reading resolves the names on the include lines of these documents, each once, and no others: a name
or a document that it passes over was dealt with where it was met first.
-/

set_option autoImplicit false

namespace Tale.Script

open Progress

def inclusionsOf (items : List (Item × Span)) : List String :=
  items.filterMap fun entry => entry.1.inclusion?

def includeNames (text : String) : List String := inclusionsOf (itemsOf text)

/-- A document with its text is opened when a root with some text is read. -/
inductive Opened (includes : Includes) (root : Path) (text : String) : Path → String → Prop where
  | root : Opened includes root text root text
  | included {file : Path} {content name inner : String}
      (opened : Opened includes root text file content) (line : name ∈ includeNames content)
      (loaded : includes.load (includes.resolve name) = .ok inner) :
      Opened includes root text (includes.resolve name) inner

def Named (includes : Includes) (root : Path) (text name : String) : Prop :=
  ∃ file content, Opened includes root text file content ∧ name ∈ includeNames content

def Requested (includes : Includes) (root : Path) (text : String) (path : Path) : Prop :=
  ∃ name, Named includes root text name ∧ includes.resolve name = path

/-- Documents are identified by their paths, so that two paths which are the same are equal. -/
structure Includes.Canonical (includes : Includes) (root : Path) : Prop where
  names : ∀ first second, (includes.resolve first).same (includes.resolve second) →
    includes.resolve first = includes.resolve second
  root : ∀ name, (includes.resolve name).same root → includes.resolve name = root

def Consultation.resolution? : Consultation → Option (String × Path)
  | .resolve name path => some (name, path)
  | .load _ => none

/-- What a progress holds fits together. -/
structure Progress.Sound (includes : Includes) (root : Path) (progress : Progress) : Prop where
  distinct : progress.names.Nodup
  known : ∀ name ∈ progress.names, progress.knows (includes.resolve name)
  paths : ∀ path ∈ progress.paths, path = root ∨
    ∃ name ∈ progress.names, includes.resolve name = path
  resolutions : progress.consulted.filterMap Consultation.resolution? =
    progress.names.map fun name => (name, includes.resolve name)
  loads : ∀ path, .load path ∈ progress.consulted →
    ∃ name ∈ progress.names, includes.resolve name = path

namespace Progress

variable {includes : Includes} {root : Path} {progress : Progress}

theorem sound_start : (start root).Sound includes root where
  distinct := .nil
  known := by simp [start]
  paths := by simp [start]
  resolutions := rfl
  loads := by simp [start]

theorem knows_mono {first second : Progress} {path : Path} (paths : first.paths <:+ second.paths)
    (known : first.knows path) : second.knows path := by
  obtain ⟨held, member, same⟩ := List.any_eq_true.mp known
  exact List.any_eq_true.mpr ⟨held, paths.subset member, same⟩

theorem Sound.begun (sound : progress.Sound includes root) (file : Path) (text : String) :
    (progress.begun file text).Sound includes root := by
  obtain ⟨entries, same⟩ := begun_eq file text progress
  rw [same]
  exact ⟨sound.distinct, sound.known, sound.paths, sound.resolutions, sound.loads⟩

theorem Sound.meet (sound : progress.Sound includes root) (entry : Entry) :
    (progress.meet entry).Sound includes root :=
  ⟨sound.distinct, sound.known, sound.paths, sound.resolutions, sound.loads⟩

theorem Sound.asked {name : String} (sound : progress.Sound includes root)
    (new : name ∉ progress.names) (known : progress.knows (includes.resolve name)) :
    (progress.asked includes name).Sound includes root where
  distinct := List.nodup_cons.mpr ⟨new, sound.distinct⟩
  known other member := by
    rcases List.mem_cons.mp member with rfl | earlier
    · exact known
    · exact sound.known other earlier
  paths path member := by
    rcases sound.paths path member with here | ⟨other, earlier, resolved⟩
    · exact .inl here
    · exact .inr ⟨other, List.mem_cons_of_mem _ earlier, resolved⟩
  resolutions := congrArg ((name, includes.resolve name) :: ·) sound.resolutions
  loads path member := by
    obtain ⟨other, earlier, resolved⟩ := sound.loads path (by simpa [Progress.asked] using member)
    exact ⟨other, List.mem_cons_of_mem _ earlier, resolved⟩

theorem Sound.visited {name : String} (sound : progress.Sound includes root)
    (new : name ∉ progress.names) :
    ((progress.asked includes name).visited (includes.resolve name)).Sound includes root where
  distinct := List.nodup_cons.mpr ⟨new, sound.distinct⟩
  known other member := by
    rcases List.mem_cons.mp member with rfl | earlier
    · simp [knows, Progress.visited]
    · exact knows_mono (List.suffix_cons _ _) (sound.known other earlier)
  paths path member := by
    rcases List.mem_cons.mp member with rfl | earlier
    · exact .inr ⟨name, List.mem_cons_self, rfl⟩
    · rcases sound.paths path earlier with here | ⟨other, earlier, resolved⟩
      · exact .inl here
      · exact .inr ⟨other, List.mem_cons_of_mem _ earlier, resolved⟩
  resolutions := congrArg ((name, includes.resolve name) :: ·) sound.resolutions
  loads path member := by
    simp only [Progress.visited, Progress.asked, List.mem_cons, Consultation.load.injEq,
      reduceCtorEq, false_or] at member ⊢
    rcases member with rfl | earlier
    · exact ⟨name, .inl rfl, rfl⟩
    · obtain ⟨other, earlier, resolved⟩ := sound.loads path earlier
      exact ⟨other, .inr earlier, resolved⟩

end Progress

namespace Reads

variable {includes : Includes} {file : Path} {items : List (Item × Span)}
  {progress last : Progress}

theorem sound {root : Path} (reads : Reads includes file items progress last)
    (before : progress.Sound includes root) : last.Sound includes root := by
  induction reads with
  | done => exact before
  | statement plain onward ih => exact ih (before.meet _)
  | repeated old onward ih => exact ih before
  | passed new old onward ih => exact ih (before.asked new old)
  | refused new unopened refusal onward ih => exact ih ((before.visited new).meet _)
  | entered new unopened loaded inner onward within ih =>
    exact ih ((within (((before.visited new).meet .opened).begun _ _)).meet .closed)

theorem named {root : Path} {text : String} (reads : Reads includes file items progress last)
    (lines : ∀ name ∈ inclusionsOf items, Named includes root text name)
    (before : ∀ name ∈ progress.names, Named includes root text name) :
    ∀ name ∈ last.names, Named includes root text name := by
  induction reads with
  | done => exact before
  | statement plain onward ih =>
    exact ih (fun name member => lines name (by simpa [inclusionsOf, plain] using member)) before
  | repeated old onward ih =>
    exact ih (fun name member => lines name (List.mem_cons_of_mem _ member)) before
  | passed new old onward ih | refused new old refusal onward ih =>
    refine ih (fun name member => lines name (List.mem_cons_of_mem _ member)) fun name member => ?_
    rcases List.mem_cons.mp member with rfl | earlier
    · exact lines _ List.mem_cons_self
    · exact before name earlier
  | entered new unopened loaded inner onward within ih =>
    have here := lines _ List.mem_cons_self
    refine ih (fun name member => lines name (List.mem_cons_of_mem _ member)) (within ?_ ?_)
    · obtain ⟨file, content, opened, line⟩ := here
      exact fun name member => ⟨_, _, opened.included line loaded, member⟩
    · rw [begun_names]
      intro name member
      rcases List.mem_cons.mp member with rfl | earlier
      · exact here
      · exact before name earlier

theorem covers (reads : Reads includes file items progress last) :
    (∀ name ∈ inclusionsOf items, name ∈ last.names) ∧
      ∀ path ∈ last.paths, path ∉ progress.paths → ∀ text, includes.load path = .ok text →
        ∀ name ∈ includeNames text, name ∈ last.names := by
  induction reads with
  | done => exact ⟨by simp [inclusionsOf], fun path member new => absurd member new⟩
  | statement plain onward ih =>
    refine ⟨fun name member => ih.1 name ?_, ih.2⟩
    simpa [inclusionsOf, plain] using member
  | repeated old onward ih =>
    refine ⟨fun name member => ?_, ih.2⟩
    rcases List.mem_cons.mp member with rfl | later
    -- A name that was resolved before stays resolved.
    · exact onward.grows.1.subset old
    · exact ih.1 name later
  | passed new old onward ih =>
    refine ⟨fun name member => ?_, ih.2⟩
    rcases List.mem_cons.mp member with rfl | later
    · exact onward.grows.1.subset List.mem_cons_self
    · exact ih.1 name later
  | @refused file unread reason span rest progress last new unopened refusal onward ih =>
    refine ⟨fun name member => ?_, fun path member new text loaded => ?_⟩
    · rcases List.mem_cons.mp member with rfl | later
      · exact onward.grows.1.subset List.mem_cons_self
      · exact ih.1 name later
    · by_cases here : path = includes.resolve unread
      · cases refusal.symm.trans (here ▸ loaded)
      · refine ih.2 path member (fun earlier => ?_) text loaded
        rcases List.mem_cons.mp earlier with same | before
        · exact here same
        · exact new before
  | @entered file entry content span rest progress middle last new unopened loaded inner onward within
      ih =>
    -- What the inner document covers stays covered.
    have grown : middle.names ⊆ last.names := onward.grows.1.subset
    rw [begun_paths] at within
    have started := inner.grows.1
    rw [begun_names] at started
    refine ⟨fun name member => ?_, fun path member new text loads => ?_⟩
    · rcases List.mem_cons.mp member with rfl | later
      · exact grown (started.subset List.mem_cons_self)
      · exact ih.1 name later
    · intro name line
      by_cases old : path ∈ middle.paths
      · by_cases here : path = includes.resolve entry
        · cases loaded.symm.trans (here ▸ loads)
          exact grown (within.1 name line)
        · refine grown (within.2 path old (fun earlier => ?_) text loads name line)
          rcases List.mem_cons.mp earlier with same | before
          · exact here same
          · exact new before
      · exact ih.2 path member old text loads name line

end Reads

/-- The names that reading a root resolves are those on the include lines of the documents that are
opened. -/
theorem mem_names_iff {includes : Includes} {root : Path} {text : String} {last : Progress}
    (canonical : includes.Canonical root) (loads : includes.load root = .ok text)
    (reads : Reads includes root (itemsOf text) ((start root).begun root text) last)
    (name : String) : name ∈ last.names ↔ Named includes root text name := by
  obtain ⟨lines, opened⟩ := reads.covers
  have sound := reads.sound (sound_start.begun root text)
  constructor
  · refine reads.named (fun name member => ⟨root, text, .root, member⟩) ?_ name
    simp [start]
  · rintro ⟨file, content, document, line⟩
    induction document generalizing name with
    | root => exact lines name line
    | @included file content asked inner document asks loaded ih =>
      -- The path was asked for in some spelling, and canonical rules have one spelling only.
      obtain ⟨held, member, same⟩ := List.any_eq_true.mp (sound.known asked (ih asked asks))
      have here : includes.resolve asked = held := by
        rcases sound.paths held member with rfl | ⟨other, -, rfl⟩
        · exact canonical.root asked same
        · exact canonical.names asked other same
      by_cases first : held = root
      · -- The root was read with the text that it loads.
        cases (here.trans first ▸ loaded).symm.trans loads
        exact lines name line
      · refine opened held member (fun earlier => ?_) inner (here ▸ loaded) name line
        rw [begun_paths] at earlier
        exact first (List.mem_singleton.mp earlier)

/-- What a pass over a root asks for: each name on the include lines of the documents that are
opened, once, for its path. -/
theorem compile_resolutions {includes : Includes} {root : Path} {text : String}
    (honest : includes.Honest) (canonical : includes.Canonical root)
    (loads : includes.load root = .ok text) :
    ∃ names : List String, names.Nodup ∧
      (compile root text includes).consulted.filterMap Consultation.resolution? =
        names.map (fun name => (name, includes.resolve name)) ∧
      ∀ name, name ∈ names ↔ Named includes root text name := by
  obtain ⟨last, reads, result⟩ := readRoot_reads honest root text
  have sound := reads.sound (sound_start.begun root text)
  refine ⟨last.names.reverse, List.nodup_reverse.mpr sound.distinct, ?_, fun name => ?_⟩
  · simp only [compile, result, List.filterMap_reverse, sound.resolutions, List.map_reverse]
  · rw [List.mem_reverse, mem_names_iff canonical loads reads]

theorem requested_iff {includes : Includes} {root path : Path} {text : String}
    (honest : includes.Honest) (canonical : includes.Canonical root)
    (loads : includes.load root = .ok text) :
    Requested includes root text path ↔ ∃ asked ∈
      (compile root text includes).consulted.filterMap Consultation.resolution?, asked.2 = path := by
  obtain ⟨names, -, resolutions, named⟩ := compile_resolutions honest canonical loads
  rw [resolutions]
  constructor
  · rintro ⟨name, line, resolved⟩
    exact ⟨_, List.mem_map_of_mem ((named name).mpr line), resolved⟩
  · rintro ⟨asked, member, resolved⟩
    obtain ⟨name, listed, rfl⟩ := List.mem_map.mp member
    exact ⟨name, (named name).mp listed, resolved⟩

theorem requested_of_load {includes : Includes} {root path : Path} {text : String}
    (honest : includes.Honest) (canonical : includes.Canonical root)
    (loads : includes.load root = .ok text)
    (asked : .load path ∈ (compile root text includes).consulted) :
    Requested includes root text path := by
  obtain ⟨last, reads, result⟩ := readRoot_reads honest root text
  have sound := reads.sound (sound_start.begun root text)
  have member : .load path ∈ last.consulted := by
    simpa [compile, result] using asked
  obtain ⟨name, listed, resolved⟩ := sound.loads path member
  exact ⟨name, (mem_names_iff canonical loads reads name).mp listed, resolved⟩

end Tale.Script
