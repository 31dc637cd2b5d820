import Mathlib.Data.List.Infix
import Tale.Proofs.Except
import Tale.Proofs.Path
import Tale.Script.Compile

/-! Reading documents in order, without a bound.

`Reads` says what reading some items comes to, however deep includes are nested. There is one such
outcome at most, and the bounded reading finds it, since on the way down every document that is
loaded is a new one.
-/

set_option autoImplicit false

namespace Tale.Script

def itemsOf (text : String) : List (Item × Span) := readItems (tokens text.toList)

def Item.inclusion? : Item → Option String
  | .inclusion name => some name
  | _ => none

namespace Progress

def asked (includes : Includes) (name : String) (progress : Progress) : Progress :=
  { progress with
    names := name :: progress.names
    consulted := .resolve name (includes.resolve name) :: progress.consulted }

def visited (path : Path) (progress : Progress) : Progress :=
  { progress with
    paths := path :: progress.paths
    consulted := .load path :: progress.consulted }

def begun (file : Path) (text : String) (progress : Progress) : Progress :=
  (readFaults (tokens text.toList)).foldl
    (fun progress (fault, span) => progress.report (.malformed fault) file span) progress

def knows (progress : Progress) (path : Path) : Bool := progress.paths.any path.same

/-- No document was asked for twice. -/
def Spaced (progress : Progress) : Prop :=
  progress.paths.Pairwise fun first second => ¬ first.same second

theorem begun_eq (file : Path) (text : String) (progress : Progress) :
    ∃ entries, progress.begun file text = { progress with entries := entries } := by
  unfold begun
  induction readFaults (tokens text.toList) generalizing progress with
  | nil => exact ⟨progress.entries, rfl⟩
  | cons fault rest ih => exact ih (progress.report (.malformed fault.1) file fault.2)

@[simp] theorem begun_names (file : Path) (text : String) (progress : Progress) :
    (progress.begun file text).names = progress.names := by
  obtain ⟨entries, same⟩ := begun_eq file text progress
  rw [same]

@[simp] theorem begun_paths (file : Path) (text : String) (progress : Progress) :
    (progress.begun file text).paths = progress.paths := by
  obtain ⟨entries, same⟩ := begun_eq file text progress
  rw [same]

@[simp] theorem begun_consulted (file : Path) (text : String) (progress : Progress) :
    (progress.begun file text).consulted = progress.consulted := by
  obtain ⟨entries, same⟩ := begun_eq file text progress
  rw [same]

theorem spaced_begun {progress : Progress} {file : Path} {text : String} :
    (progress.begun file text).Spaced ↔ progress.Spaced := by
  unfold Spaced
  rw [begun_paths]

theorem spaced_visited {progress : Progress} {path : Path} (spaced : progress.Spaced)
    (new : progress.knows path = false) : (progress.visited path).Spaced := by
  refine List.pairwise_cons.mpr ⟨fun other member same => ?_, spaced⟩
  rw [knows, List.any_eq_false] at new
  exact new other member same

end Progress

open Progress

/-- Reading items of a document in order leads from one progress to another. -/
inductive Reads (includes : Includes) :
    Path → List (Item × Span) → Progress → Progress → Prop where
  | done {file : Path} {progress : Progress} : Reads includes file [] progress progress
  | statement {file : Path} {item : Item} {span : Span} {rest : List (Item × Span)}
      {progress last : Progress} (plain : item.inclusion? = none)
      (onward : Reads includes file rest (progress.meet (.statement file span item)) last) :
      Reads includes file ((item, span) :: rest) progress last
  | repeated {file : Path} {name : String} {span : Span} {rest : List (Item × Span)}
      {progress last : Progress} (old : name ∈ progress.names)
      (onward : Reads includes file rest progress last) :
      Reads includes file ((.inclusion name, span) :: rest) progress last
  | passed {file : Path} {name : String} {span : Span} {rest : List (Item × Span)}
      {progress last : Progress} (new : name ∉ progress.names)
      (old : progress.knows (includes.resolve name) = true)
      (onward : Reads includes file rest (progress.asked includes name) last) :
      Reads includes file ((.inclusion name, span) :: rest) progress last
  | refused {file : Path} {name reason : String} {span : Span} {rest : List (Item × Span)}
      {progress last : Progress} (new : name ∉ progress.names)
      (unopened : progress.knows (includes.resolve name) = false)
      (refusal : includes.load (includes.resolve name) = .error reason)
      (onward : Reads includes file rest
        (((progress.asked includes name).visited (includes.resolve name)).report
          (.unreadableInclude (includes.resolve name) reason) file span) last) :
      Reads includes file ((.inclusion name, span) :: rest) progress last
  | entered {file : Path} {name text : String} {span : Span} {rest : List (Item × Span)}
      {progress middle last : Progress} (new : name ∉ progress.names)
      (unopened : progress.knows (includes.resolve name) = false)
      (loaded : includes.load (includes.resolve name) = .ok text)
      (inner : Reads includes (includes.resolve name) (itemsOf text)
        ((((progress.asked includes name).visited (includes.resolve name)).meet .opened).begun
          (includes.resolve name) text) middle)
      (onward : Reads includes file rest (middle.meet .closed) last) :
      Reads includes file ((.inclusion name, span) :: rest) progress last

namespace Reads

variable {includes : Includes} {file : Path} {items : List (Item × Span)}
  {progress last : Progress}

theorem grows (reads : Reads includes file items progress last) :
    progress.names <:+ last.names ∧ progress.paths <:+ last.paths ∧
      progress.consulted <:+ last.consulted := by
  induction reads with
  | done => exact ⟨List.suffix_rfl, List.suffix_rfl, List.suffix_rfl⟩
  | statement plain onward ih => exact ih
  | repeated old onward ih => exact ih
  | passed new old onward ih =>
    obtain ⟨names, paths, consulted⟩ := ih
    exact ⟨(List.suffix_cons _ _).trans names, paths, (List.suffix_cons _ _).trans consulted⟩
  | refused new unopened refusal onward ih =>
    obtain ⟨names, paths, consulted⟩ := ih
    exact ⟨(List.suffix_cons _ _).trans names, (List.suffix_cons _ _).trans paths,
      ((List.suffix_cons _ _).trans (List.suffix_cons _ _)).trans consulted⟩
  | entered new unopened loaded inner onward within ih =>
    obtain ⟨names, paths, consulted⟩ := within
    rw [begun_names] at names
    rw [begun_paths] at paths
    rw [begun_consulted] at consulted
    obtain ⟨laterNames, laterPaths, laterConsulted⟩ := ih
    exact ⟨((List.suffix_cons _ _).trans names).trans laterNames,
      ((List.suffix_cons _ _).trans paths).trans laterPaths,
      (((List.suffix_cons _ _).trans (List.suffix_cons _ _)).trans consulted).trans laterConsulted⟩

theorem spaced (reads : Reads includes file items progress last) (before : progress.Spaced) :
    last.Spaced := by
  induction reads with
  | done => exact before
  | statement plain onward ih => exact ih before
  | repeated old onward ih => exact ih before
  | passed new old onward ih => exact ih before
  | refused new unopened refusal onward ih => exact ih (spaced_visited before unopened)
  | entered new unopened loaded inner onward within ih =>
    exact ih (within (spaced_begun.mpr (spaced_visited before unopened)))

theorem unique {other : Progress} (reads : Reads includes file items progress last)
    (again : Reads includes file items progress other) : last = other := by
  -- The names so far, the documents so far and the answer of the rules allow one case only.
  induction reads generalizing other with
  | done =>
    cases again
    rfl
  | statement plain onward ih =>
    cases again with
    | statement plain onward => exact ih onward
    | repeated | passed | refused | entered => cases plain
  | repeated old onward ih =>
    cases again with
    | repeated old onward => exact ih onward
    | statement plain => cases plain
    | passed new | refused new | entered new => exact absurd old new
  | passed new old onward ih =>
    cases again with
    | passed new old onward => exact ih onward
    | statement plain => cases plain
    | repeated known => exact absurd known new
    | refused _ unopened | entered _ unopened => cases old.symm.trans unopened
  | refused new unopened refusal onward ih =>
    cases again with
    | refused _ _ refusalToo onward =>
      cases refusal.symm.trans refusalToo
      exact ih onward
    | statement plain => cases plain
    | repeated known => exact absurd known new
    | passed _ old => cases old.symm.trans unopened
    | entered _ _ loaded => cases refusal.symm.trans loaded
  | entered new unopened loaded inner onward within ih =>
    cases again with
    | entered _ _ loadedToo inner onward =>
      cases loaded.symm.trans loadedToo
      cases within inner
      exact ih onward
    | statement plain => cases plain
    | repeated known => exact absurd known new
    | passed _ old => cases old.symm.trans unopened
    | refused _ _ refusal => cases refusal.symm.trans loaded

end Reads

/-- The documents that can be loaded are no more than the capacity says. -/
def Includes.Honest (includes : Includes) : Prop :=
  ∀ paths : List Path, paths.Pairwise (fun first second => ¬ first.same second) →
    (∀ path ∈ paths, ∃ text, includes.load path = .ok text) → paths.length ≤ includes.capacity

/-- No more documents can be loaded than a bound says. -/
def Includes.LoadsAtMost (includes : Includes) (bound : Nat) : Prop :=
  { includes with capacity := bound }.Honest

def loadedCount (includes : Includes) (progress : Progress) : Nat :=
  (progress.paths.filter fun path => (includes.load path).toOption.isSome).length

def enterNested (includes : Includes) : Nat → Path → String → Progress → Progress
  | 0 => refuse
  | depth + 1 => readNested includes depth

theorem readNested_eq (includes : Includes) (depth : Nat) (file : Path) (text : String)
    (progress : Progress) :
    readNested includes depth file text progress =
      (itemsOf text).foldl (readItem includes (enterNested includes depth) file)
        (progress.begun file text) := by
  cases depth <;> rfl

theorem loadedCount_begun {includes : Includes} (file : Path) (text : String)
    (progress : Progress) :
    loadedCount includes (progress.begun file text) = loadedCount includes progress := by
  unfold loadedCount
  rw [begun_paths]

theorem loadedCount_mono {includes : Includes} {first second : Progress}
    (paths : first.paths <:+ second.paths) :
    loadedCount includes first ≤ loadedCount includes second :=
  (paths.sublist.filter _).length_le

theorem loadedCount_le {includes : Includes} {bound : Nat} {progress : Progress}
    (atMost : includes.LoadsAtMost bound) (spaced : progress.Spaced) :
    loadedCount includes progress ≤ bound := by
  refine atMost _ (spaced.filter _) fun path member => ?_
  have loads := (List.mem_filter.mp member).2
  obtain ⟨text, loaded⟩ := Option.isSome_iff_exists.mp loads
  exact ⟨text, ok_of_toOption loaded⟩

theorem loadedCount_opened {includes : Includes} (progress : Progress) {name text : String}
    (loaded : includes.load (includes.resolve name) = .ok text) :
    loadedCount includes (((progress.asked includes name).visited (includes.resolve name)).meet
      .opened) = loadedCount includes progress + 1 := by
  unfold loadedCount
  change List.length (List.filter _ (_ :: progress.paths)) = _
  rw [List.filter_cons_of_pos (by simp [loaded, Except.toOption]), List.length_cons]

/-- Where an include line leads: nowhere, to a document that was met, or to a new one. -/
theorem readInclude_cases (includes : Includes) (enter : Path → String → Progress → Progress)
    (file : Path) (name : String) (span : Span) (progress : Progress) :
    let path := includes.resolve name
    let next := readInclude includes enter file name span progress
    (name ∈ progress.names ∧ next = progress) ∨
      (name ∉ progress.names ∧ progress.knows path = true ∧ next = progress.asked includes name) ∨
      (name ∉ progress.names ∧ progress.knows path = false ∧
        ((∃ reason, includes.load path = .error reason ∧
            next = ((progress.asked includes name).visited path).report
              (.unreadableInclude path reason) file span) ∨
          ∃ text, includes.load path = .ok text ∧
            next = (enter path text
              (((progress.asked includes name).visited path).meet .opened)).meet .closed)) := by
  simp only [readInclude]
  split
  · next old => exact .inl ⟨List.contains_iff_mem.mp old, rfl⟩
  · next new =>
    have new : name ∉ progress.names := fun old => new (List.contains_iff_mem.mpr old)
    split
    · next old => exact .inr (.inl ⟨new, old, rfl⟩)
    · next unopened =>
      refine .inr (.inr ⟨new, Bool.eq_false_iff.mpr unopened, ?_⟩)
      cases includes.load (includes.resolve name) with
      | error reason => exact .inl ⟨reason, rfl, rfl⟩
      | ok text => exact .inr ⟨text, rfl, rfl⟩

/-- Reading items, if reading the documents that they enter comes to the right outcome. -/
theorem foldl_reads {includes : Includes} {bound depth : Nat}
    (enters : ∀ (path : Path) (text : String) (progress : Progress), progress.Spaced →
      bound < loadedCount includes progress + depth →
      Reads includes path (itemsOf text) (progress.begun path text)
        (enterNested includes depth path text progress))
    {file : Path} (items : List (Item × Span)) {progress : Progress} (spaced : progress.Spaced)
    (room : bound ≤ loadedCount includes progress + depth) :
    Reads includes file items progress
      (items.foldl (readItem includes (enterNested includes depth) file) progress) := by
  induction items generalizing progress with
  | nil => exact .done
  | cons head rest ih =>
    obtain ⟨item, span⟩ := head
    rw [List.foldl_cons]
    cases item with
    | inclusion name =>
      rw [readItem]
      rcases readInclude_cases includes (enterNested includes depth) file name span progress with
        ⟨old, same⟩ | ⟨new, old, same⟩ | ⟨new, unopened, outcome⟩
      · rw [same]
        exact .repeated old (ih spaced room)
      · rw [same]
        exact .passed new old (ih spaced room)
      · have apart : ((progress.asked includes name).visited (includes.resolve name)).Spaced :=
          spaced_visited spaced unopened
        rcases outcome with ⟨reason, refusal, same⟩ | ⟨text, loaded, same⟩
        · rw [same]
          refine .refused new unopened refusal (ih apart (room.trans ?_))
          exact Nat.add_le_add_right (loadedCount_mono (List.suffix_cons _ _)) depth
        · -- The opened document is counted from now on, so what it encloses needs less room.
          have deeper := loadedCount_opened progress loaded
          have inner := enters (includes.resolve name) text
            (((progress.asked includes name).visited (includes.resolve name)).meet .opened)
            apart (by omega)
          rw [same]
          refine .entered new unopened loaded inner (ih (inner.spaced ?_) (room.trans ?_))
          · exact spaced_begun.mpr apart
          · have paths := inner.grows.2.1
            rw [begun_paths] at paths
            exact Nat.add_le_add_right
              (loadedCount_mono ((List.suffix_cons _ _).trans paths)) depth
    | declaration | knot | text | divert | assignment | choice | note =>
      exact .statement rfl (ih spaced room)

/-- Each nested document takes one of the documents that can still be loaded, so a bound that leaves
room for those is never met. -/
theorem readNested_reads {includes : Includes} {bound : Nat} (atMost : includes.LoadsAtMost bound)
    (depth : Nat) (file : Path) (text : String) (progress : Progress) (spaced : progress.Spaced)
    (room : bound ≤ loadedCount includes progress + depth) :
    Reads includes file (itemsOf text) (progress.begun file text)
      (readNested includes depth file text progress) := by
  induction depth generalizing file text progress with
  | zero =>
    rw [readNested_eq]
    rw [← loadedCount_begun file text] at room
    -- All that can be loaded was loaded, so no include line enters another document.
    refine foldl_reads (fun path text inner spaced tooFew => ?_) _ (spaced_begun.mpr spaced) room
    exact absurd (loadedCount_le atMost spaced) (Nat.not_le.mpr tooFew)
  | succ depth ih =>
    rw [readNested_eq]
    rw [← loadedCount_begun file text] at room
    refine foldl_reads (fun path text inner spaced fewer => ?_) _ (spaced_begun.mpr spaced) room
    exact ih path text inner spaced (Nat.le_of_lt_succ fewer)

/-- Reading a root with honest include rules finds the outcome of unbounded reading. -/
theorem readRoot_reads {includes : Includes} (honest : includes.Honest) (root : Path)
    (text : String) :
    ∃ last, Reads includes root (itemsOf text) ((Progress.start root).begun root text) last ∧
      readRoot includes root text = ⟨last.entries.reverse, last.consulted.reverse⟩ := by
  refine ⟨_, readNested_reads honest includes.capacity root text (.start root) ?_ ?_, rfl⟩
  · exact List.pairwise_singleton _ _
  · exact Nat.le_add_left _ _

end Tale.Script
