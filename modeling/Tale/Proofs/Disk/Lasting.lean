import Tale.Proofs.Disk.Growing
import Tale.Proofs.Disk.Settling

/-! The identity of a file before it is removed, while it is gone, and once it is there again.

While a file is gone, every path to it leads nowhere, and nothing else has changed: what was reached
elsewhere is reached still. So a path that led to the file is then identified by the names that are written
in it, from its longest part on that leads somewhere. This comes to the place of the file exactly if the file
has the last of these names, in the directory that the names in front identify; it does not where a link was
followed at the end of the path, or where `..` stood behind a link.
-/

set_option autoImplicit false

namespace Tale

namespace Disk

def without (disk : Disk) (place : Place) : Disk := { disk with nodes := disk.nodes.erase place }

section Without

variable {disk : Disk} {place : Place} {content : List UInt8}
  (file : disk.node? place = some (.file content))

include file

theorem node?_without (other : Place) :
    (disk.without place).node? other = if other = place then none else disk.node? other :=
  node?_erase disk place other (inside_of_file file)

theorem isDirectoryAt_without (other : Place) :
    (disk.without place).isDirectoryAt other = disk.isDirectoryAt other := by
  unfold isDirectoryAt
  rw [node?_without file]
  split
  · next same => simp [same, file]
  · rfl

theorem WellFormed.without (wellFormed : disk.WellFormed) : (disk.without place).WellFormed where
  rooted := by
    intro above name there
    rw [isDirectoryAt_without file]
    apply wellFormed.rooted above name
    intro absent
    rw [node?_without file, absent, ite_self] at there
    exact there rfl
  names := by
    intro other there
    apply wellFormed.names
    intro absent
    rw [node?_without file, absent, ite_self] at there
    exact there rfl
  home := (isDirectoryAt_without file _).trans wellFormed.home

theorem keeps_without {reached : Place} (stands : disk.Stands reached) (apart : reached ≠ place) :
    disk.Keeps (disk.without place) reached where
  here := rfl
  ways := by
    intro other node found solid
    rw [node?_without file, if_neg, found]
    rintro rfl
    exact solid content (Option.some.inj (found.symm.trans file))
  goal := by
    refine stands.imp_right fun ⟨other, found⟩ => ⟨other, ?_⟩
    rw [node?_without file, if_neg apart, found]

theorem without_keeps {reached : Place} (stands : (disk.without place).Stands reached) :
    (disk.without place).Keeps disk reached where
  here := rfl
  ways := by
    intro other node found solid
    rw [node?_without file] at found
    split at found
    · cases found
    · exact found
  goal := by
    refine stands.imp_right fun ⟨other, found⟩ => ⟨other, ?_⟩
    rw [node?_without file] at found
    split at found
    · cases found
    · exact found

theorem Stands.apart {reached : Place} (stands : (disk.without place).Stands reached) :
    reached ≠ place := by
  rintro rfl
  rcases stands with directory | ⟨other, found⟩
  · rw [isDirectoryAt_without file, isDirectoryAt_iff, file] at directory
    cases directory
  · rw [node?_without file, if_pos rfl] at found
    cases found

/-- What was reached elsewhere is reached still, and nothing else is. -/
theorem resolve_without (wellFormed : disk.WellFormed) {path : Path} {reached : Place} :
    (disk.without place).resolve path = .ok reached ↔
      disk.resolve path = .ok reached ∧ reached ≠ place := by
  constructor
  · intro resolved
    have stands := (wellFormed.without file).stands resolved
    exact ⟨(without_keeps file stands).resolve resolved, stands.apart file⟩
  · rintro ⟨resolved, apart⟩
    exact (keeps_without file (wellFormed.stands resolved) apart).resolve resolved

theorem resolve?_without (wellFormed : disk.WellFormed) (path : Path) :
    (disk.without place).resolve? path = (disk.resolve? path).filter (· ≠ place) := by
  apply Option.ext
  intro reached
  rw [resolve?_eq_some, resolve_without file wellFormed, Option.filter_eq_some_iff, resolve?_eq_some,
    decide_eq_true_iff]

end Without

/-! ## By which names a path is identified -/

theorem concat_eq_iff {front whole : Place} {last : Name} :
    front ++ [last] = whole ↔ front = whole.dropLast ∧ whole.getLast? = some last := by
  cases whole using List.reverseRecOn with
  | nil => simp
  | append_singleton other name =>
    rw [List.dropLast_concat, List.getLast?_concat, Option.some.injEq, eq_comm (a := name)]
    simp

section Settling

variable {disk : Disk}

theorem settlePlace_of_resolve {names : List Name} {reached : Place}
    (resolved : disk.resolve (.ofPlace names.reverse) = .ok reached) :
    settlePlace disk.resolve? names = reached := by
  cases names with
  | nil =>
    rw [List.reverse_nil, resolve_eq, arrive_root] at resolved
    cases resolved
    rfl
  | cons name above =>
    rw [List.reverse_cons] at resolved
    rw [settlePlace, resolve?_eq_some.mpr resolved]

theorem identify_of_unresolved (proper : disk.Proper) {path : Path}
    (nowhere : disk.resolve? path = none) :
    disk.identify path = .ofPlace (settlePlace disk.resolve? (disk.named path).reverse) := by
  rw [identify, identityBy, nowhere, Path.components_join proper]
  rfl

theorem identify_settles {names : Place} (proper : ProperPlace names) :
    disk.identify (.ofPlace names) = .ofPlace (settlePlace disk.resolve? names.reverse) := by
  rw [identify, identityBy]
  split
  · next reached resolved =>
    refine congrArg Path.ofPlace (settlePlace_of_resolve ?_).symm
    rw [List.reverse_reverse]
    exact resolve?_eq_some.mp resolved
  · rw [Path.cleanPlace_join disk.here proper]

/-- Names that settle at a node lead to it if they lead anywhere, unless it is a link. -/
theorem reached_of_settled {above : List Name} {name : Name} {reached whole : Place}
    (proper : ProperPlace (above.reverse ++ [name]))
    (resolved : disk.resolve (.ofPlace (above.reverse ++ [name])) = .ok reached)
    (settled : settlePlace disk.resolve? above ++ [name] = whole) {node : Node}
    (found : disk.node? whole = some node) (solid : ∀ target, node ≠ .link target) : reached = whole := by
  obtain ⟨middle, here, leads⟩ := resolve_snoc proper resolved
  rw [settlePlace_of_resolve here] at settled
  cases leads with
  | current => exact absurd rfl proper.last.notCurrent
  | parent => exact absurd rfl proper.last.notParent
  | entered _ _ _ _ _ onward =>
    cases onward
    exact settled
  | linked _ _ _ link =>
    rw [settled] at link
    cases found.symm.trans link
    exact absurd rfl (solid _)

/-- Names identify a directory while a file is gone exactly if they do while it is there. -/
theorem settlePlace_without {place : Place} {content : List UInt8}
    (file : disk.node? place = some (.file content)) (wellFormed : disk.WellFormed) {names : List Name}
    (proper : ProperPlace names) {directory : Place} (isDirectory : disk.isDirectoryAt directory) :
    settlePlace (disk.without place).resolve? names = directory ↔
      settlePlace disk.resolve? names = directory := by
  -- A file lies in a directory, so for the names above it is again about a directory.
  induction names generalizing directory with
  | nil => rw [settlePlace, settlePlace]
  | cons name above ih =>
    have further : settlePlace (disk.without place).resolve? above ++ [name] = directory ↔
        settlePlace disk.resolve? above ++ [name] = directory := by
      have aboveIt := wellFormed.rooted.above (node?_of_isDirectoryAt isDirectory)
      rw [concat_eq_iff, concat_eq_iff, ih proper.tail aboveIt]
    rw [settlePlace, settlePlace, resolve?_without file wellFormed]
    cases found : disk.resolve? (.ofPlace (above.reverse ++ [name])) with
    | none => exact further
    | some reached =>
      by_cases same : reached = place
      case neg => rw [Option.filter_some_pos (by simp [same])]
      subst same
      rw [Option.filter_some_neg (by simp)]
      -- These names lead to the file, and so to no directory, be it there or gone.
      refine iff_of_false (fun settled => ?_) (fun isFile => ?_)
      · have properSnoc : ProperPlace (above.reverse ++ [name]) := by
          rw [← List.reverse_cons]
          exact proper.reverse
        have same := reached_of_settled properSnoc (resolve?_eq_some.mp found) (further.mp settled)
          (isDirectoryAt_iff.mp isDirectory) (by simp)
        rw [← same, isDirectoryAt_iff, file] at isDirectory
        cases isDirectory
      · rw [← isFile, isDirectoryAt_iff, file] at isDirectory
        cases isDirectory

end Settling

/-- A file has the last name that is written in a path, and the names in front of it identify the directory of
the file. -/
def NamesDirectly (disk : Disk) (path : Path) (place : Place) : Prop :=
  ∃ above directory name, disk.named path = above ++ [name] ∧
    disk.identify (.ofPlace above) = .ofPlace directory ∧ place = directory ++ [name]

section Lasting

variable {disk : Disk} {path : Path} {place : Place} (wellFormed : disk.WellFormed)

include wellFormed

theorem namesDirectly_iff {above : Place} {name : Name} (named : disk.named path = above ++ [name])
    (proper : ProperPlace place) : disk.NamesDirectly path place ↔
      settlePlace disk.resolve? above.reverse ++ [name] = place := by
  have properNamed := named_proper wellFormed.proper path
  rw [named] at properNamed
  have properSettled : ProperPlace (settlePlace disk.resolve? above.reverse) :=
    settlePlace_proper (fun path reached resolved =>
      resolve_proper wellFormed.proper (resolve?_eq_some.mp resolved)) properNamed.front.reverse
  constructor
  · rintro ⟨other, directory, last, again, identity, rfl⟩
    obtain ⟨rfl, rfl⟩ : above = other ∧ name = last := by simpa using named.symm.trans again
    rw [identify_settles properNamed.front, Path.ofPlace_inj properSettled proper.front] at identity
    rw [identity]
  · rintro rfl
    exact ⟨above, _, name, named, identify_settles properNamed.front, rfl⟩

/-- While a file is gone, the path that led to it is identified by the place of the file exactly if it names
that place directly. -/
theorem identify_without {content : List UInt8} (file : disk.node? place = some (.file content))
    (resolved : disk.resolve path = .ok place) :
    (disk.without place).identify path = .ofPlace place ↔ disk.NamesDirectly path place := by
  have proper := resolve_proper wellFormed.proper resolved
  have wellFormedToo := wellFormed.without file
  have nowhere : (disk.without place).resolve? path = none := by
    rw [resolve?_without file wellFormed, resolve?_eq_some.mpr resolved,
      Option.filter_some_neg (by simp)]
  have properNamed := named_proper wellFormed.proper path
  have properSettled : ProperPlace (settlePlace (disk.without place).resolve? (disk.named path).reverse) :=
    settlePlace_proper (fun path reached resolved =>
      resolve_proper wellFormedToo.proper (resolve?_eq_some.mp resolved)) properNamed.reverse
  rw [identify_of_unresolved wellFormedToo.proper nowhere, show (disk.without place).named path =
    disk.named path from rfl, Path.ofPlace_inj properSettled proper]
  generalize named : disk.named path = names at properNamed
  cases names using List.reverseRecOn with
  | nil =>
    have elsewhere : [] ≠ place := (inside_of_file file).symm
    simp [settlePlace, NamesDirectly, named, elsewhere]
  | append_singleton above name =>
    rw [namesDirectly_iff wellFormed named proper, List.reverse_concat, settlePlace,
      List.reverse_reverse]
    split
    · next reached found =>
      obtain ⟨led, apart⟩ := (resolve_without file wellFormed).mp (resolve?_eq_some.mp found)
      -- The cleaned path leads to something else, so the file is not what it names.
      refine iff_of_false apart fun settled => apart ?_
      rw [← above.reverse_reverse] at led properNamed
      exact reached_of_settled properNamed led settled file (by simp)
    · have isDirectory : disk.isDirectoryAt place.dropLast := wellFormed.rooted.above (by simp [file])
      rw [concat_eq_iff, concat_eq_iff,
        settlePlace_without file wellFormed properNamed.front.reverse isDirectory]

end Lasting

/-! ## Once there is a file again -/

/-- Two disks differ in the content of one file at most. -/
structure Rewritten (first second : Disk) (place : Place) : Prop where
  here : second.here = first.here
  file : ∃ content, first.node? place = some (.file content)
  fileToo : ∃ content, second.node? place = some (.file content)
  others : ∀ other, other ≠ place → second.node? other = first.node? other

namespace Rewritten

variable {first second : Disk} {place : Place}

theorem symm (rewritten : first.Rewritten second place) : second.Rewritten first place where
  here := rewritten.here.symm
  file := rewritten.fileToo
  fileToo := rewritten.file
  others := fun other apart => (rewritten.others other apart).symm

theorem isDirectoryAt (rewritten : first.Rewritten second place) (other : Place) :
    second.isDirectoryAt other = first.isDirectoryAt other := by
  unfold Disk.isDirectoryAt
  by_cases same : other = place
  · obtain ⟨content, file⟩ := rewritten.file
    obtain ⟨contentToo, fileToo⟩ := rewritten.fileToo
    simp [same, file, fileToo]
  · rw [rewritten.others other same]

theorem wellFormed (rewritten : first.Rewritten second place) (wellFormed : first.WellFormed) :
    second.WellFormed where
  rooted := by
    intro above name there
    rw [rewritten.isDirectoryAt]
    apply wellFormed.rooted above name
    by_cases same : above ++ [name] = place
    · obtain ⟨content, file⟩ := rewritten.file
      simp [same, file]
    · rwa [← rewritten.others _ same]
  names := by
    intro other there
    apply wellFormed.names
    by_cases same : other = place
    · obtain ⟨content, file⟩ := rewritten.file
      simp [same, file]
    · rwa [← rewritten.others _ same]
  home := by
    rw [rewritten.isDirectoryAt, rewritten.here]
    exact wellFormed.home

theorem keeps (rewritten : first.Rewritten second place) {reached : Place}
    (stands : first.Stands reached) : first.Keeps second reached where
  here := rewritten.here
  ways := by
    intro other node found solid
    rw [rewritten.others other, found]
    rintro rfl
    obtain ⟨content, file⟩ := rewritten.file
    exact solid content (Option.some.inj (found.symm.trans file))
  goal := by
    refine stands.imp_right fun ⟨content, found⟩ => ?_
    by_cases same : reached = place
    · rw [same]
      exact rewritten.fileToo
    · exact ⟨content, (rewritten.others reached same).trans found⟩

theorem resolve (rewritten : first.Rewritten second place) (wellFormed : first.WellFormed) {path : Path}
    {reached : Place} (resolved : first.resolve path = .ok reached) : second.resolve path = .ok reached :=
  (rewritten.keeps (wellFormed.stands resolved)).resolve resolved

theorem identify (rewritten : first.Rewritten second place) (wellFormed : first.WellFormed)
    (path : Path) : second.identify path = first.identify path := by
  have alike : second.resolve? = first.resolve? := by
    funext other
    apply Option.ext
    intro reached
    rw [resolve?_eq_some, resolve?_eq_some]
    exact ⟨rewritten.symm.resolve (rewritten.wellFormed wellFormed), rewritten.resolve wellFormed⟩
  rw [Disk.identify, Disk.identify, alike, rewritten.here]

end Rewritten

theorem rewritten_anew {disk : Disk} {place : Place} {content : List UInt8}
    (file : disk.node? place = some (.file content)) (anew : List UInt8) :
    disk.Rewritten ((disk.without place).put place (.file anew)) place where
  here := rfl
  file := ⟨content, file⟩
  fileToo := ⟨anew, by rw [node?_put _ _ _ _ (inside_of_file file), if_pos rfl]⟩
  others := by
    intro other apart
    rw [node?_put _ _ _ _ (inside_of_file file), if_neg apart, node?_without file, if_neg apart]

theorem remove_eq {disk gone : Disk} {path : Path} {place : Place} (located : disk.locate path = .ok place)
    (removed : disk.remove path = .ok gone) : gone = disk.without place := by
  unfold Disk.remove at removed
  obtain ⟨reached, locatedToo, removed⟩ := bind_eq_ok.mp removed
  cases located.symm.trans locatedToo
  split at removed
  · cases removed
  · cases removed
    rfl

/-- When a file is removed, a path that led to it keeps its identity exactly if it names the place of the file
directly. Once a file is written at that place again, by whatever path, every path has the identity that it
had. -/
theorem identify_lasts_iff {disk gone : Disk} (wellFormed : disk.WellFormed) {path itself : Path}
    {place : Place} (file : disk.isFile path) (resolved : disk.resolve path = .ok place)
    (located : disk.locate itself = .ok place) (removed : disk.remove itself = .ok gone) :
    (gone.identify path = disk.identify path ↔ disk.NamesDirectly path place) ∧
      ∀ again content anew, gone.write again content = .ok anew → anew.resolve again = .ok place →
        ∀ other, anew.identify other = disk.identify other := by
  cases remove_eq located removed
  obtain ⟨_, content, again, found⟩ := isFile_iff.mp file
  cases resolved.symm.trans again
  constructor
  · rw [identify_of_resolve resolved]
    exact identify_without wellFormed found resolved
  · intro again bytes anew written there
    obtain ⟨reached, resolvedToo, rfl, -⟩ := write_grows (wellFormed.without found) written
    cases there.symm.trans resolvedToo
    exact (rewritten_anew found bytes).identify wellFormed

/-- A ferry at a quay, with links to the quay, to its stairs and to the ferry. -/
def harbour : Disk where
  nodes := .ofList [(["ferry"], .link "quay/ferry.part"), (["landing"], .link "/quay"),
    (["quay"], .directory), (["quay", "ferry.part"], .file []), (["quay", "stairs"], .directory),
    (["steps"], .link "quay/stairs")]
  here := []

theorem harbour_wellFormed : harbour.WellFormed where
  rooted := rooted_of_places (by decide +kernel)
  names := names_of_places (by decide +kernel)
  home := isDirectoryAt_root harbour

theorem harbour_removed : harbour.locate "landing/ferry.part" = .ok ["quay", "ferry.part"] ∧
    harbour.remove "landing/ferry.part" = .ok (harbour.without ["quay", "ferry.part"]) := by
  constructor <;> decide +kernel

def boathouse : Disk :=
  (harbour.without ["quay", "ferry.part"]).put ["quay", "ferry.part"] (.file (Text.encode "A boat."))

/-- The ferry has its name in the directory that the landing leads to. -/
theorem landing_identity_lasts : harbour.WellFormed ∧ harbour.isFile "landing/ferry.part" ∧
    harbour.resolve "landing/ferry.part" = .ok ["quay", "ferry.part"] ∧
    harbour.locate "landing/ferry.part" = .ok ["quay", "ferry.part"] ∧
    harbour.remove "landing/ferry.part" = .ok (harbour.without ["quay", "ferry.part"]) ∧
    (harbour.without ["quay", "ferry.part"]).write "ferry" (Text.encode "A boat.") = .ok boathouse ∧
    boathouse.resolve "ferry" = .ok ["quay", "ferry.part"] ∧
    (harbour.without ["quay", "ferry.part"]).identify "landing/ferry.part" = "/quay/ferry.part" ∧
    boathouse.identify "landing/ferry.part" = "/quay/ferry.part" := by
  have file : harbour.isFile "landing/ferry.part" := by decide +kernel
  have resolved : harbour.resolve "landing/ferry.part" = .ok ["quay", "ferry.part"] := by decide +kernel
  have written : (harbour.without ["quay", "ferry.part"]).write "ferry" (Text.encode "A boat.") =
      .ok boathouse := by decide +kernel
  have there : boathouse.resolve "ferry" = .ok ["quay", "ferry.part"] := by decide +kernel
  have direct : harbour.NamesDirectly "landing/ferry.part" ["quay", "ferry.part"] :=
    ⟨["landing"], ["quay"], "ferry.part", by decide +kernel, by decide +kernel, rfl⟩
  have identity : harbour.identify "landing/ferry.part" = "/quay/ferry.part" := by decide +kernel
  obtain ⟨lasts, anew⟩ :=
    identify_lasts_iff harbour_wellFormed file resolved harbour_removed.1 harbour_removed.2
  refine ⟨harbour_wellFormed, file, resolved, harbour_removed.1, harbour_removed.2, written, there, ?_, ?_⟩
  · rw [lasts.mpr direct, identity]
  · rw [anew _ _ _ written there, identity]

/-- A link to the ferry itself has another identity while the ferry is gone, and so has its path through the
directory above the stairs. -/
theorem ferry_identity_lost :
    let gone := harbour.without ["quay", "ferry.part"]
    harbour.remove "landing/ferry.part" = .ok gone ∧
    (harbour.isFile "ferry" ∧ harbour.identify "ferry" = "/quay/ferry.part" ∧
      gone.identify "ferry" = "/ferry") ∧
    (harbour.isFile "steps/../ferry.part" ∧
      harbour.identify "steps/../ferry.part" = "/quay/ferry.part" ∧
      gone.identify "steps/../ferry.part" = "/ferry.part") ∧
    gone.identify "ferry" ≠ harbour.identify "ferry" := by
  intro gone
  refine ⟨harbour_removed.2, ⟨?_, ?_, ?_⟩, ⟨?_, ?_, ?_⟩, ?_⟩ <;> decide +kernel

end Disk

end Tale
