import Mathlib.Data.List.Basic
import Tale.Disk.Identity
import Tale.Proofs.Except
import Tale.Proofs.Path
import Tale.Proofs.Text

/-! The identity of documents is spelled in one way only.

Whatever path a document is called by, its identity names a place by proper file names, and two
places that are spelled by proper names are the same only if they are equal.
-/

set_option autoImplicit false

namespace Tale

structure IsFileName (name : Name) : Prop where
  nonempty : name ≠ []
  undivided : slash ∉ name
  notCurrent : name ≠ [dot]
  notParent : name ≠ [dot, dot]

instance (name : Name) : Decidable (IsFileName name) :=
  decidable_of_iff (name ≠ [] ∧ slash ∉ name ∧ name ≠ [dot] ∧ name ≠ [dot, dot])
    ⟨fun ⟨nonempty, undivided, notCurrent, notParent⟩ => ⟨nonempty, undivided, notCurrent, notParent⟩,
      fun fits => ⟨fits.nonempty, fits.undivided, fits.notCurrent, fits.notParent⟩⟩

def ProperPlace (place : Place) : Prop := ∀ name ∈ place, IsFileName name

instance (place : Place) : Decidable (ProperPlace place) :=
  inferInstanceAs (Decidable (∀ name ∈ place, IsFileName name))

def ProperSteps (steps : List Name) : Prop :=
  ∀ step ∈ steps, step ≠ [dot] → step ≠ [dot, dot] → IsFileName step

theorem ProperSteps.tail {step : Name} {steps : List Name} (proper : ProperSteps (step :: steps)) :
    ProperSteps steps :=
  fun other member => proper other (List.mem_cons_of_mem _ member)

theorem properPlace_nil : ProperPlace [] := by
  intro name member
  cases member

theorem ProperPlace.dropLast {place : Place} (proper : ProperPlace place) :
    ProperPlace place.dropLast :=
  fun name member => proper name ((List.dropLast_sublist place).subset member)

theorem ProperPlace.front {front behind : Place} (proper : ProperPlace (front ++ behind)) :
    ProperPlace front :=
  fun name member => proper name (List.mem_append_left _ member)

theorem ProperPlace.behind {front behind : Place} (proper : ProperPlace (front ++ behind)) :
    ProperPlace behind :=
  fun name member => proper name (List.mem_append_right _ member)

theorem ProperPlace.last {front : Place} {name : Name} (proper : ProperPlace (front ++ [name])) :
    IsFileName name :=
  proper.behind name List.mem_cons_self

theorem ProperPlace.append {place more : Place} (proper : ProperPlace place)
    (properMore : ProperPlace more) : ProperPlace (place ++ more) := by
  intro name member
  rcases List.mem_append.mp member with early | late
  · exact proper name early
  · exact properMore name late

theorem ProperPlace.snoc {place : Place} {name : Name} (proper : ProperPlace place)
    (fileName : IsFileName name) : ProperPlace (place ++ [name]) :=
  proper.append fun _ member => List.mem_singleton.mp member ▸ fileName

namespace Path

theorem innerComponent_isFileName {piece name : Name} (undivided : slash ∉ piece)
    (named : innerComponent? piece = some (.name name)) : IsFileName name := by
  unfold innerComponent? at named
  split at named
  · cases named
  · next spelled =>
    split at named
    · cases named
    · next notParent =>
      cases named
      obtain ⟨filled, notCurrent⟩ := not_or.mp spelled
      exact ⟨filled, undivided, notCurrent, notParent⟩

theorem pieces_undivided {path : Path} {piece : Name} (member : piece ∈ path.pieces) :
    slash ∉ piece :=
  Text.not_mem_of_mem_splitOn path.spelling piece member

theorem components_isFileName {path : Path} {name : Name}
    (member : .name name ∈ path.components) : IsFileName name := by
  unfold components at member
  split at member
  · cases member
  · next first rest pieces =>
    have undivided {piece : Name} (listed : piece ∈ first :: rest) : slash ∉ piece :=
      pieces_undivided (pieces ▸ listed)
    rcases List.mem_append.mp member with front | inner
    · split at front
      · cases List.mem_singleton.mp front
      · rw [Option.mem_toList, firstComponent?] at front
        split at front
        · cases front
        · exact innerComponent_isFileName (undivided List.mem_cons_self) front
    · obtain ⟨piece, listed, named⟩ := List.mem_filterMap.mp inner
      exact innerComponent_isFileName (undivided (List.mem_cons_of_mem _ listed)) named

theorem steps_proper (path : Path) : ProperSteps path.steps := by
  intro step member notCurrent notParent
  obtain ⟨listed, filled⟩ := List.mem_filter.mp member
  exact ⟨by simpa using filled, pieces_undivided listed, notCurrent, notParent⟩

theorem stepsToNode_proper (path : Path) : ProperSteps path.stepsToNode := by
  unfold stepsToNode
  split
  · intro step member notCurrent
    rcases List.mem_append.mp member with early | last
    · exact path.steps_proper step early notCurrent
    · exact absurd (List.mem_singleton.mp last) notCurrent
  · exact path.steps_proper

end Path

theorem cleanPlace_proper (components : List Component)
    (names : ∀ name, .name name ∈ components → IsFileName name) :
    ProperPlace (cleanPlace components) := by
  unfold cleanPlace
  refine List.foldlRecOn components _ properPlace_nil fun place proper component member => ?_
  cases component with
  | root => exact properPlace_nil
  | current => exact proper
  | parent => exact proper.dropLast
  | name name => exact proper.snoc (names name member)

namespace Disk

/-- The directory in which relative paths begin has a proper place. -/
def Proper (disk : Disk) : Prop := ProperPlace disk.here

theorem walk_proper {disk : Disk} {throughLast : Bool}
    {through : Place → List Name → Except DiskError Arrival} {place reached : Place}
    {steps : List Name}
    (onward : ∀ place steps, ProperPlace place → ProperSteps steps →
      through place steps = .ok (.present reached) → ProperPlace reached)
    (proper : ProperPlace place) (names : ProperSteps steps)
    (arrived : disk.walk throughLast through place steps = .ok (.present reached)) :
    ProperPlace reached := by
  fun_induction walk disk throughLast through place steps with
  | case1 =>
    cases arrived
    exact proper
  | case3 place rest _ ih => exact ih proper names.tail arrived
  | case4 place rest _ _ ih => exact ih proper.dropLast names.tail arrived
  | case8 place name rest _ notCurrent notParent =>
    cases arrived
    exact proper.snoc (names name List.mem_cons_self notCurrent notParent)
  | case9 place name rest _ _ _ _ target =>
    -- A link stands for its steps, from the root or from where it is.
    refine onward _ _ ?_ (fun step member => ?_) arrived
    · split
      · exact properPlace_nil
      · exact proper
    · rcases List.mem_append.mp member with inTarget | later
      · exact target.stepsToNode_proper step inTarget
      · exact names.tail step later
  | case10 place name rest _ notCurrent notParent _ _ _ _ ih =>
    exact ih (proper.snoc (names name List.mem_cons_self notCurrent notParent)) names.tail arrived
  | case2 | case5 | case6 | case7 => cases arrived

theorem follow_proper (disk : Disk) {throughLast : Bool} {links : Nat} {place reached : Place}
    {steps : List Name} (proper : ProperPlace place) (names : ProperSteps steps)
    (arrived : disk.follow throughLast links place steps = .ok (.present reached)) :
    ProperPlace reached := by
  induction links generalizing place steps with
  | zero => exact walk_proper (fun _ _ _ _ refused => by cases refused) proper names arrived
  | succ links ih => exact walk_proper (fun _ _ => ih) proper names arrived

theorem arrive_eq (disk : Disk) (path : Path) :
    disk.arrive path = (checkSpelling path).bind fun _ =>
      disk.follow true mostLinks (disk.origin path) path.stepsToNode := rfl

theorem arrive_eq_ok {disk : Disk} {path : Path} {arrival : Arrival} :
    disk.arrive path = .ok arrival ↔ checkSpelling path = .ok () ∧
      disk.follow true mostLinks (disk.origin path) path.stepsToNode = .ok arrival := by
  rw [arrive_eq]
  cases checkSpelling path <;> simp [Except.bind]

theorem resolve_eq_ok {disk : Disk} {path : Path} {place : Place} :
    disk.resolve path = .ok place ↔ checkSpelling path = .ok () ∧
      disk.follow true mostLinks (disk.origin path) path.stepsToNode = .ok (.present place) := by
  rw [← arrive_eq_ok]
  unfold resolve
  cases disk.arrive path with
  | error error => simp [Except.bind, bind]
  | ok arrival =>
    cases arrival <;> simp [Except.bind, bind, pure, Except.pure, throw, throwThe, MonadExceptOf.throw]

theorem arrive_of_resolve {disk : Disk} {path : Path} {place : Place}
    (resolved : disk.resolve path = .ok place) : disk.arrive path = .ok (.present place) :=
  arrive_eq_ok.mpr (resolve_eq_ok.mp resolved)

def textOf : Option Node → Except DiskError String
  | some (.file content) =>
    match Text.decode? content with
    | some text => .ok text
    | none => .error .notText
  | some .directory => .error .isDirectory
  | _ => .error .missing

theorem readText_eq (disk : Disk) (path : Path) :
    disk.readText path = (disk.resolve path).bind fun place => textOf (disk.node? place) := by
  unfold readText readBytes
  cases disk.resolve path with
  | error error => rfl
  | ok place =>
    simp only [Except.bind, bind, textOf]
    cases disk.node? place with
    | none => rfl
    | some node =>
      cases node with
      | file content => cases Text.decode? content <;> rfl
      | directory => rfl
      | link target => rfl

theorem isFile_iff {disk : Disk} {path : Path} : disk.isFile path ↔
    ∃ place content, disk.resolve path = .ok place ∧ disk.node? place = some (.file content) := by
  unfold isFile find?
  cases disk.resolve path with
  | error error => simp [Except.toOption]
  | ok place =>
    simp only [Except.toOption, Option.bind_some]
    cases found : disk.node? place with
    | none => simp [found]
    | some node => cases node <;> simp [found]

theorem resolve?_eq_some {disk : Disk} {path : Path} {place : Place} :
    disk.resolve? path = some place ↔ disk.resolve path = .ok place := by
  unfold resolve?
  cases disk.resolve path <;> simp [Except.toOption]

theorem identify_of_resolve {disk : Disk} {path : Path} {place : Place}
    (resolved : disk.resolve path = .ok place) : disk.identify path = .ofPlace place := by
  rw [identify, identityBy, resolve?_eq_some.mpr resolved]

theorem resolve_proper {disk : Disk} (proper : disk.Proper) {path : Path} {place : Place}
    (resolved : disk.resolve path = .ok place) : ProperPlace place := by
  refine follow_proper disk ?_ path.stepsToNode_proper (resolve_eq_ok.mp resolved).2
  unfold origin
  split
  · exact properPlace_nil
  · exact proper

theorem settlePlace_proper {resolve? : Path → Option Place}
    (resolutions : ∀ path place, resolve? path = some place → ProperPlace place)
    {names : List Name} (proper : ∀ name ∈ names, IsFileName name) :
    ProperPlace (settlePlace resolve? names) := by
  induction names with
  | nil => exact properPlace_nil
  | cons name above ih =>
    unfold settlePlace
    split
    · next place resolved => exact resolutions _ place resolved
    · exact (ih fun other member => proper other (List.mem_cons_of_mem _ member)).snoc
        (proper name List.mem_cons_self)

theorem identify_proper {disk : Disk} (proper : disk.Proper) (path : Path) :
    ∃ place, ProperPlace place ∧ disk.identify path = .ofPlace place := by
  refine ⟨_, ?_, rfl⟩
  have resolutions (path : Path) (place : Place) (resolved : disk.resolve? path = some place) :
      ProperPlace place := resolve_proper proper (resolve?_eq_some.mp resolved)
  unfold identityBy
  split
  · next place resolved => exact resolutions path place resolved
  · refine settlePlace_proper resolutions fun name member => ?_
    exact cleanPlace_proper _ (fun _ => Path.components_isFileName) name (List.mem_reverse.mp member)

end Disk

theorem Path.pieces_ofPlace {place : Place} (proper : ProperPlace place) :
    (Path.ofPlace place).pieces = [] :: (if place = [] then [[]] else place) := by
  unfold Path.pieces Path.ofPlace
  rw [List.splitOn_cons_eq_if_modifyHead]
  simp only [beq_self_eq_true, if_true]
  split
  · next empty => simp [empty, List.splitOn_nil]
  · next filled =>
    rw [List.splitOn_intercalate _ (fun name inside => (proper name inside).undivided) filled]

theorem Path.innerComponent_of_isFileName {name : Name} (fileName : IsFileName name) :
    Path.innerComponent? name = some (.name name) := by
  unfold Path.innerComponent?
  rw [if_neg (not_or.mpr ⟨fileName.nonempty, fileName.notCurrent⟩), if_neg fileName.notParent]

theorem Path.isAbsolute_ofPlace (place : Place) : (Path.ofPlace place).isAbsolute = true := by
  simp [Path.isAbsolute, Path.ofPlace]

theorem Path.components_ofPlace {place : Place} (proper : ProperPlace place) :
    (Path.ofPlace place).components = .root :: place.map .name := by
  unfold Path.components
  rw [Path.pieces_ofPlace proper]
  simp only [Path.isAbsolute_ofPlace, if_true]
  split
  · next empty => simp [empty, Path.innerComponent?]
  · have names : place.filterMap Path.innerComponent? = place.map .name := by
      rw [List.filterMap_eq_map_iff_forall_eq_some]
      exact fun name inside => Path.innerComponent_of_isFileName (proper name inside)
    rw [names]
    rfl

theorem Path.ofPlace_same {first second : Place} (proper : ProperPlace first)
    (properToo : ProperPlace second) (same : (Path.ofPlace first).same (.ofPlace second)) :
    first = second := by
  rw [Path.same, beq_iff_eq, components_ofPlace proper, components_ofPlace properToo] at same
  exact (List.map_inj_right fun _ _ => Component.name.inj).mp (List.cons.inj same).2

theorem Path.ofPlace_inj {first second : Place} (proper : ProperPlace first)
    (properToo : ProperPlace second) : Path.ofPlace first = .ofPlace second ↔ first = second := by
  constructor
  · intro same
    exact Path.ofPlace_same proper properToo (same ▸ Path.same_refl _)
  · intro same
    rw [same]

end Tale
