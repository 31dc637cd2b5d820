import Tale.Proofs.Dictionary
import Tale.Proofs.Disk.Identity

/-! The identity of documents where there are no links.

Without links a path leads where its components say, so the identity of a document can be read off
its path. It does not change when files come and go.
-/

set_option autoImplicit false

namespace Tale

def goTo (place : Place) : Component → Place
  | .root => []
  | .current => place
  | .parent => place.dropLast
  | .name text => place ++ [text]

def trail (place : Place) (steps : List Name) : Place :=
  steps.foldl (fun place step =>
    if step = [dot] then place else if step = [dot, dot] then place.dropLast else place ++ [step]) place

theorem trail_cons_name {name : Name} (fileName : IsFileName name) (place : Place)
    (rest : List Name) : trail place (name :: rest) = trail (place ++ [name]) rest := by
  simp [trail, fileName.notCurrent, fileName.notParent]

theorem trail_proper {place : Place} (names : ProperPlace place) (start : Place) :
    trail start place = start ++ place := by
  induction place generalizing start with
  | nil => simp [trail]
  | cons name rest ih =>
    have later : ProperPlace rest := fun other member => names other (List.mem_cons_of_mem _ member)
    rw [trail_cons_name (names name List.mem_cons_self), ih later, List.append_assoc,
      List.singleton_append]

theorem cleanPlace_eq (components : List Component) :
    cleanPlace components = components.foldl goTo [] := by
  unfold cleanPlace
  congr 1

theorem foldl_inner (pieces : List Name) (place : Place) :
    (pieces.filterMap Path.innerComponent?).foldl goTo place =
      trail place (pieces.filter fun piece => !piece.isEmpty) := by
  induction pieces generalizing place with
  | nil => rfl
  | cons piece rest ih =>
    unfold trail at ih ⊢
    by_cases empty : piece = []
    · subst empty
      exact ih place
    by_cases current : piece = [dot]
    · subst current
      exact ih place
    by_cases parent : piece = [dot, dot]
    · subst parent
      exact ih place.dropLast
    have named : Path.innerComponent? piece = some (.name piece) := by
      simp [Path.innerComponent?, empty, current, parent]
    have filled : (!piece.isEmpty) = true := by simpa using empty
    rw [List.filterMap_cons, named, List.filter_cons, if_pos filled, List.foldl_cons, List.foldl_cons,
      if_neg current, if_neg parent]
    exact ih (place ++ [piece])

namespace Path

theorem pieces_ne_nil (path : Path) : path.pieces ≠ [] :=
  List.splitOn_ne_nil _ _

theorem pieces_of_isAbsolute {path : Path} (absolute : path.isAbsolute) :
    ∃ rest, path.pieces = [] :: rest := by
  unfold isAbsolute at absolute
  unfold pieces
  cases spelled : path.spelling with
  | nil =>
    rw [spelled] at absolute
    cases absolute
  | cons first rest =>
    rw [spelled] at absolute
    have divides : first = slash := by simpa using absolute
    rw [divides, List.splitOn_cons_eq_if_modifyHead]
    exact ⟨_, rfl⟩

theorem foldl_components (path : Path) (here : Place) :
    path.components.foldl goTo here = trail (if path.isAbsolute then [] else here) path.steps := by
  unfold steps
  rw [← foldl_inner]
  unfold components
  split
  · next empty => exact absurd empty path.pieces_ne_nil
  · next first rest pieces =>
    by_cases absolute : path.isAbsolute
    · obtain ⟨others, same⟩ := pieces_of_isAbsolute absolute
      rw [pieces] at same
      cases same
      rw [if_pos absolute, if_pos absolute, pieces]
      rfl
    · rw [if_neg absolute, if_neg absolute, pieces, List.foldl_append, List.filterMap_cons]
      unfold firstComponent?
      split
      · next current => simp [current, innerComponent?, goTo]
      · cases innerComponent? first <;> rfl

theorem trail_stepsToNode (path : Path) (place : Place) :
    trail place path.stepsToNode = trail place path.steps := by
  unfold stepsToNode
  split
  · simp [trail]
  · rfl

theorem steps_ofPlace {place : Place} (proper : ProperPlace place) :
    (ofPlace place).steps = place := by
  unfold steps
  rw [pieces_ofPlace proper]
  split
  · next empty => simp [empty]
  · have filled : place.filter (fun name => !name.isEmpty) = place :=
      List.filter_eq_self.mpr fun name inside => by simpa using (proper name inside).nonempty
    rw [List.filter_cons, filled]
    simp

theorem unclosed_ofPlace {place : Place} (proper : ProperPlace place) (inside : place ≠ []) :
    (ofPlace place).spelling.getLast? ≠ some slash := by
  intro closed
  obtain ⟨front, spelled⟩ := List.getLast?_eq_some_iff.mp closed
  have pieces := pieces_ofPlace proper
  unfold Path.pieces at pieces
  rw [spelled, List.splitOn_append_cons_self, List.splitOn_nil, if_neg inside] at pieces
  -- The last piece would be empty, but it is the last name of the place.
  have last := congrArg List.getLast? pieces.symm
  rw [List.getLast?_cons_of_ne_nil (by simpa using inside), List.getLast?_append] at last
  simp only [List.getLast?_singleton, Option.some_or] at last
  exact (proper [] (List.mem_of_getLast? last)).nonempty rfl

theorem stepsToNode_ofPlace {place : Place} (proper : ProperPlace place) (inside : place ≠ []) :
    (ofPlace place).stepsToNode = place := by
  unfold stepsToNode
  rw [if_neg (unclosed_ofPlace proper inside), steps_ofPlace proper]

theorem isAbsolute_of_isFileName {name : Name} (fileName : IsFileName name) :
    (mk name).isAbsolute = false := by
  unfold isAbsolute
  rw [beq_eq_false_iff_ne, ne_eq]
  exact fun first => fileName.undivided (List.mem_of_mem_head? first)

theorem steps_join (base : Path) {next : Path} (relative : next.isAbsolute = false) :
    (base.join next).steps = base.steps ++ next.steps := by
  unfold join steps pieces
  rw [if_neg (by simp [relative])]
  split
  · next closed =>
    rcases closed with empty | closed
    · rw [empty]
      rfl
    · obtain ⟨front, spelled⟩ := List.getLast?_eq_some_iff.mp closed
      rw [spelled, List.append_assoc, List.singleton_append, List.splitOn_append_cons_self,
        List.splitOn_append_cons_self]
      simp [List.splitOn_nil]
  · rw [List.splitOn_append_cons_self, List.filter_append]

/-- A path that is read from a proper place leads where its components lead from there. -/
theorem components_join {here : Place} (proper : ProperPlace here) (path : Path) :
    cleanPlace ((ofPlace here).join path).components = path.components.foldl goTo here := by
  rw [cleanPlace_eq, foldl_components, foldl_components, ite_self]
  by_cases absolute : path.isAbsolute
  · simp only [join, absolute, if_true]
  · rw [steps_join _ (Bool.eq_false_iff.mpr absolute), steps_ofPlace proper, if_neg absolute]
    unfold trail
    rw [List.foldl_append]
    exact congrArg (fun place => trail place path.steps) (trail_proper proper [])

end Path

def Arrival.place : Arrival → Place
  | .present place => place
  | .absent directory name => directory ++ [name]

namespace Disk

/-- There are files and directories alone. -/
def LinkFree (disk : Disk) : Prop := ∀ place target, disk.node? place ≠ some (.link target)

theorem linkFree_of_values {disk : Disk}
    (plain : disk.nodes.values.all fun node => node matches .file _ | .directory) :
    disk.LinkFree := by
  intro place target link
  unfold node? at link
  split at link
  · cases link
  · obtain ⟨held, member, -⟩ := Dictionary.exists_of_find? link
    cases List.all_eq_true.mp plain _ (List.mem_map_of_mem member)

def named (disk : Disk) (path : Path) : Place := path.components.foldl goTo disk.here

section LinkFree

variable {disk : Disk} {throughLast : Bool} {through : Place → List Name → Except DiskError Arrival}
  {place : Place} {steps : List Name}

theorem walk_named (linkFree : disk.LinkFree) {arrival : Arrival}
    (arrived : disk.walk throughLast through place steps = .ok arrival) :
    arrival.place = trail place steps := by
  fun_induction walk disk throughLast through place steps with
  | case1 =>
    cases arrived
    rfl
  | case3 place rest _ ih => exact ih arrived
  | case4 place rest _ _ ih => exact ih arrived
  | case6 place name rest _ notCurrent notParent _ _ last =>
    cases arrived
    cases List.isEmpty_iff.mp last
    simp [trail, Arrival.place, notCurrent, notParent]
  | case8 place name rest _ _ _ _ target link | case9 place name rest _ _ _ _ target link =>
    exact absurd link (linkFree _ target)
  | case10 place name rest _ notCurrent notParent _ _ _ _ ih =>
    rw [ih arrived]
    simp [trail, notCurrent, notParent]
  | case2 | case5 | case7 => cases arrived

theorem follow_named (linkFree : disk.LinkFree) {links : Nat} {arrival : Arrival}
    (arrived : disk.follow throughLast links place steps = .ok arrival) :
    arrival.place = trail place steps := by
  cases links with
  | zero => exact walk_named linkFree arrived
  | succ links => exact walk_named linkFree arrived

theorem named_eq (disk : Disk) (path : Path) :
    disk.named path = trail (disk.origin path) path.steps :=
  path.foldl_components disk.here

theorem resolve_named (linkFree : disk.LinkFree) {path : Path} {reached : Place}
    (resolved : disk.resolve path = .ok reached) : reached = disk.named path := by
  rw [named_eq, ← path.trail_stepsToNode]
  exact follow_named linkFree (resolve_eq_ok.mp resolved).2

theorem named_proper (proper : disk.Proper) (path : Path) : ProperPlace (disk.named path) := by
  unfold named
  rw [← Path.components_join proper path]
  exact cleanPlace_proper _ fun _ => Path.components_isFileName

theorem named_ofPlace (disk : Disk) {place : Place} (proper : ProperPlace place) :
    disk.named (.ofPlace place) = place := by
  rw [named_eq, Path.steps_ofPlace proper, trail_proper proper]
  simp [origin, Path.isAbsolute_ofPlace]

/-- A place is kept if no part in front of it leads elsewhere. -/
theorem settlePlace_eq {resolve? : Path → Option Place} {names : List Name}
    (resolutions : ∀ place reached, place <+: names.reverse →
      resolve? (.ofPlace place) = some reached → reached = place) :
    settlePlace resolve? names = names.reverse := by
  induction names with
  | nil => rfl
  | cons name above ih =>
    rw [List.reverse_cons] at resolutions ⊢
    unfold settlePlace
    split
    · next reached resolved => exact resolutions _ reached (List.prefix_refl _) resolved
    · rw [ih fun place reached within => resolutions place reached (within.trans (List.prefix_append _ _))]

/-- The identity of a document is the place that its path names. -/
theorem identify_eq (linkFree : disk.LinkFree) (proper : disk.Proper) (path : Path) :
    disk.identify path = .ofPlace (disk.named path) := by
  unfold identify identityBy
  split
  · next reached resolved =>
    rw [resolve_named linkFree (resolve?_eq_some.mp resolved)]
  -- Nothing is found, so the nearest place above that is found stays where its path names it.
  · have names := named_proper proper path
    rw [Path.components_join proper path]
    refine congrArg Path.ofPlace (Eq.trans (settlePlace_eq fun place reached within resolved => ?_)
      (List.reverse_reverse _))
    rw [List.reverse_reverse] at within
    have properPlace : ProperPlace place := fun name member => names name (within.subset member)
    rw [resolve_named linkFree (resolve?_eq_some.mp resolved), named_ofPlace disk properPlace]

theorem identify_ofPlace (linkFree : disk.LinkFree) (properDisk : disk.Proper) {place : Place}
    (proper : ProperPlace place) : disk.identify (.ofPlace place) = .ofPlace place := by
  rw [identify_eq linkFree properDisk, named_ofPlace disk proper]

theorem identify_congr (linkFree : disk.LinkFree) (proper : disk.Proper) {first second : Path}
    (same : first.same second) : disk.identify first = disk.identify second := by
  rw [Path.same, beq_iff_eq] at same
  rw [identify_eq linkFree proper, identify_eq linkFree proper, named, named, same]

end LinkFree

end Disk

end Tale
