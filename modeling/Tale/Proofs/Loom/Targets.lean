import Tale.Loom.Run
import Tale.Proofs.Disk.Ways
import Tale.Proofs.Text.Cutting

/-! Paths to the files of units.

A path of names that is read from a directory is spelled behind the spelling of that directory. Another
extension replaces what stands behind the last dot of the last name, and nothing else. So the file of a
unit whose root lies below the base has the same names below the other directory, but for the extension.
-/

set_option autoImplicit false

namespace Tale

/-! ## Names with another extension -/

def renamed (name extension : Name) : Name := (Path.stemAndExtension name).1 ++ dot :: extension

theorem stem_begins (name : Name) : (Path.stemAndExtension name).1 <+: name := by
  unfold Path.stemAndExtension
  split
  · next before after cut =>
    split
    · exact List.prefix_refl _
    · rw [(Text.cutLast_eq_some_iff.mp cut).1]
      exact List.prefix_append _ _
  · exact List.prefix_refl _

theorem isFileName_renamed {name : Name} (fileName : IsFileName name) :
    IsFileName (renamed name "json") := by
  have extension : dot :: Text.encode "json" = [46, 106, 115, 111, 110] := by decide
  have last : (renamed name "json").getLast? = some 110 := by
    rw [renamed, extension]
    simp
  have apart (word : Name) (ends : word.getLast? ≠ some 110) : renamed name "json" ≠ word := by
    rintro rfl
    exact ends last
  refine ⟨apart _ (by decide), fun slash => ?_, apart _ (by decide), apart _ (by decide)⟩
  rcases List.mem_append.mp slash with inStem | inExtension
  · exact fileName.undivided ((stem_begins name).subset inStem)
  · exact absurd inExtension (by decide)

namespace Path

/-! ## The last name of a path -/

def IsOpening (bytes : Name) : Prop := bytes = [] ∨ ∃ front, bytes = front ++ [slash]

theorem splitOn_undivided {name : Name} (undivided : slash ∉ name) : name.splitOn slash = [name] := by
  have whole := Text.splitOn_append_of_not_mem undivided []
  rwa [List.append_nil, List.splitOn_nil, List.modifyHead_cons, List.append_nil] at whole

theorem pieces_behind (front rest : Name) :
    (Path.mk (front ++ slash :: rest)).pieces = front.splitOn slash ++ rest.splitOn slash :=
  List.splitOn_append_cons_self ..

theorem exists_pieces (front : Name) : ∃ first more, front.splitOn slash = first :: more :=
  List.exists_cons_of_ne_nil (List.splitOn_ne_nil _ _)

theorem firstComponent_of_isFileName {name : Name} (fileName : IsFileName name) :
    firstComponent? name = some (.name name) := by
  rw [firstComponent?, if_neg fileName.notCurrent, innerComponent_of_isFileName fileName]

theorem not_isIdle {name : Name} (fileName : IsFileName name) : isIdle name = false := by
  simp [isIdle, fileName.nonempty, fileName.notCurrent]

section LastName

variable {opening name : Name} (opens : IsOpening opening) (fileName : IsFileName name)

include opens fileName

theorem fileName?_opening : (Path.mk (opening ++ name)).fileName? = some name := by
  have last : (Path.mk (opening ++ name)).components.getLast? = some (.name name) := by
    unfold components
    rcases opens with rfl | ⟨front, rfl⟩
    · rw [List.nil_append, isAbsolute_of_isFileName fileName, pieces,
        splitOn_undivided fileName.undivided]
      simp [firstComponent_of_isFileName fileName]
    · obtain ⟨first, more, before⟩ := exists_pieces front
      rw [← List.append_cons, pieces_behind, before, splitOn_undivided fileName.undivided]
      simp [innerComponent_of_isFileName fileName, List.filterMap_append]
  unfold fileName?
  rw [last]

-- Pieces without a name in them are skipped from the end, but here the last piece is a name.
theorem withLastPiece_opening {other : Name} (undivided : slash ∉ other) :
    (Path.mk (opening ++ name)).withLastPiece other = ⟨opening ++ other⟩ := by
  unfold withLastPiece
  rcases opens with rfl | ⟨front, rfl⟩
  · rw [pieces, List.nil_append, splitOn_undivided fileName.undivided]
    simp
  · obtain ⟨first, more, before⟩ := exists_pieces front
    have idle := not_isIdle fileName
    have spelled : [slash].intercalate (first :: more ++ [other]) = front ++ slash :: other := by
      rw [← before, ← splitOn_undivided undivided, ← pieces_behind]
      exact List.intercalate_splitOn slash
    rw [← List.append_cons, ← List.append_cons, pieces_behind, before,
      splitOn_undivided fileName.undivided]
    simp only [List.cons_append, List.reverse_append, List.reverse_singleton, List.nil_append]
    rw [List.dropWhile_cons_of_neg (by simp [idle])]
    simp only [List.reverse_reverse]
    rw [← List.cons_append, spelled]

theorem withExtension_opening :
    (Path.mk (opening ++ name)).withExtension "json" = ⟨opening ++ renamed name "json"⟩ := by
  unfold withExtension
  rw [fileName?_opening opens fileName]
  exact withLastPiece_opening opens fileName (isFileName_renamed fileName).undivided

end LastName

/-! ## Names that are read from a directory -/

def relative (names : Place) : Path := ⟨[slash].intercalate names⟩

theorem isAbsolute_relative {names : Place} (proper : ProperPlace names) :
    (relative names).isAbsolute = false := by
  cases names with
  | nil => rfl
  | cons first rest =>
    have properFirst := proper first List.mem_cons_self
    obtain ⟨more, begins⟩ : ∃ more, [slash].intercalate (first :: rest) = first ++ more := by
      cases rest with
      | nil => exact ⟨[], by simp⟩
      | cons second later => exact ⟨_, by rw [List.intercalate_cons_cons, List.append_assoc]⟩
    have own := isAbsolute_of_isFileName properFirst
    unfold isAbsolute relative at *
    rwa [begins, List.head?_append_of_ne_nil _ properFirst.nonempty]

theorem ofPlace_eq_join {names : Place} (proper : ProperPlace names) :
    ofPlace names = (Path.mk [slash]).join (relative names) := by
  unfold join
  rw [isAbsolute_relative proper, if_neg (by simp), if_pos (by decide)]
  rfl

theorem steps_relative {names : Place} (proper : ProperPlace names) : (relative names).steps = names := by
  have whole := steps_ofPlace proper
  rw [ofPlace_eq_join proper, steps_join _ (isAbsolute_relative proper)] at whole
  exact whole

/-- What is read from a directory is spelled behind the spelling of that directory, with one separator between
them where there is something to separate. -/
theorem join_cases (out : Path) :
    (out.spelling = [] ∧ ∀ next : Path, next.isAbsolute = false → out.join next = next) ∨
    ∃ front, (out.spelling = front ++ [slash] ∨ out.spelling = front ∧ front ≠ []) ∧
      ∀ next : Path, next.isAbsolute = false → out.join next = ⟨front ++ slash :: next.spelling⟩ := by
  by_cases empty : out.spelling = []
  · refine .inl ⟨empty, fun next relative => ?_⟩
    rw [join, relative, if_neg (by simp), if_pos (.inl empty), empty, List.nil_append]
  by_cases closed : out.spelling.getLast? = some slash
  · obtain ⟨front, spelled⟩ := List.getLast?_eq_some_iff.mp closed
    refine .inr ⟨front, .inl spelled, fun next relative => ?_⟩
    rw [join, relative, if_neg (by simp), if_pos (.inr closed), spelled, List.append_assoc,
      List.singleton_append]
  · refine .inr ⟨_, .inr ⟨rfl, empty⟩, fun next relative => ?_⟩
    rw [join, relative, if_neg (by simp), if_neg (not_or.mpr ⟨empty, closed⟩)]

theorem isAbsolute_behind {out : Path} {front : Name}
    (ends : out.spelling = front ++ [slash] ∨ out.spelling = front ∧ front ≠ []) (rest : Name) :
    (Path.mk (front ++ slash :: rest)).isAbsolute = out.isAbsolute := by
  unfold isAbsolute
  rcases ends with closed | ⟨own, nonempty⟩
  · rw [closed, List.append_cons, List.head?_append_of_ne_nil _ (by simp)]
  · rw [own, List.head?_append_of_ne_nil _ nonempty]

theorem isAbsolute_join {out next : Path} (spelled : out.spelling ≠ []) (relative : next.isAbsolute = false) :
    (out.join next).isAbsolute = out.isAbsolute := by
  rcases out.join_cases with ⟨empty, -⟩ | ⟨front, ends, joined⟩
  · exact absurd empty spelled
  · rw [joined next relative, isAbsolute_behind ends]

/-- The last name that is read from a directory stands behind bytes that depend on the others alone. -/
theorem exists_opening (out : Path) {front : Place} (proper : ProperPlace front) :
    ∃ opening, IsOpening opening ∧ ∀ name, IsFileName name →
      out.join (relative (front ++ [name])) = ⟨opening ++ name⟩ := by
  obtain ⟨base, opens, joined⟩ : ∃ base, IsOpening base ∧
      ∀ next : Path, next.isAbsolute = false → out.join next = ⟨base ++ next.spelling⟩ := by
    rcases out.join_cases with ⟨-, joined⟩ | ⟨front, -, joined⟩
    · exact ⟨[], .inl rfl, fun next relative => by rw [joined next relative, List.nil_append]⟩
    · refine ⟨front ++ [slash], .inr ⟨front, rfl⟩, fun next relative => ?_⟩
      rw [joined next relative, List.append_cons]
  by_cases inside : front = []
  · refine ⟨base, opens, fun name fileName => ?_⟩
    rw [joined _ (isAbsolute_relative (proper.snoc fileName)), inside]
    simp [relative]
  · refine ⟨base ++ [slash].intercalate front ++ [slash], .inr ⟨_, rfl⟩, fun name fileName => ?_⟩
    rw [joined _ (isAbsolute_relative (proper.snoc fileName))]
    simp only [relative, Disk.intercalate_snoc inside, List.append_assoc]

theorem withExtension_join (out : Path) {front : Place} {name : Name}
    (proper : ProperPlace (front ++ [name])) :
    (out.join (relative (front ++ [name]))).withExtension "json" =
      out.join (relative (front ++ [renamed name "json"])) := by
  obtain ⟨opening, opens, joined⟩ := out.exists_opening proper.front
  rw [joined name proper.last, joined _ (isFileName_renamed proper.last),
    withExtension_opening opens proper.last]

theorem withExtension_ofPlace {front : Place} {name : Name} (proper : ProperPlace (front ++ [name])) :
    (ofPlace (front ++ [name])).withExtension "json" = ofPlace (front ++ [renamed name "json"]) := by
  rw [ofPlace_eq_join proper, withExtension_join _ proper,
    ofPlace_eq_join (proper.front.snoc (isFileName_renamed proper.last))]

theorem filterMap_names {names : Place} (proper : ProperPlace names) :
    names.filterMap innerComponent? = names.map .name := by
  rw [List.filterMap_eq_map_iff_forall_eq_some]
  exact fun name inside => innerComponent_of_isFileName (proper name inside)

theorem splitOn_relative {names : Place} (proper : ProperPlace names) (some : names ≠ []) :
    (relative names).spelling.splitOn slash = names :=
  List.splitOn_intercalate slash (fun name inside => (proper name inside).undivided) some

theorem components_join_relative (out : Path) {names : Place} (proper : ProperPlace names)
    (inside : names ≠ []) : (out.join (relative names)).components = out.components ++ names.map .name := by
  have apart := isAbsolute_relative proper
  rcases out.join_cases with ⟨empty, joined⟩ | ⟨front, ends, joined⟩
  · obtain ⟨first, rest, rfl⟩ := List.exists_cons_of_ne_nil inside
    have nothing : out.components = [] := by
      obtain ⟨spelling⟩ := out
      cases empty
      rfl
    rw [joined _ apart, nothing]
    have properRest : ProperPlace rest := fun name member => proper name (List.mem_cons_of_mem _ member)
    unfold components
    rw [pieces, splitOn_relative proper inside, apart]
    dsimp only
    rw [filterMap_names properRest, firstComponent_of_isFileName (proper first List.mem_cons_self)]
    rfl
  · obtain ⟨first, more, before⟩ := exists_pieces front
    rw [joined _ apart]
    have absolute := isAbsolute_behind ends (relative names).spelling
    obtain ⟨last, pieces, idle⟩ : ∃ last, out.pieces = first :: more ++ last ∧
        last.filterMap innerComponent? = [] := by
      rcases ends with closed | ⟨own, -⟩
      · refine ⟨[[]], ?_, rfl⟩
        have split := pieces_behind front []
        rw [← closed, before] at split
        exact split
      · refine ⟨[], ?_, rfl⟩
        rw [List.append_nil, ← before, ← own]
        rfl
    unfold components
    rw [pieces_behind, before, splitOn_relative proper inside, absolute, pieces]
    simp only [List.cons_append, List.filterMap_append, filterMap_names proper, idle, List.append_nil,
      List.append_assoc]

theorem below?_join_relative (out : Path) {names : Place} (proper : ProperPlace names)
    (inside : names ≠ []) : ((out.join (relative names)).below? out).isSome := by
  unfold below?
  rw [components_join_relative out proper inside,
    if_pos (List.isPrefixOf_iff_prefix.mpr (List.prefix_append _ _))]
  rfl

theorem below?_ofPlace {above names : Place} (proper : ProperPlace (above ++ names)) :
    (ofPlace (above ++ names)).below? (ofPlace above) = some (relative names) := by
  have ofNames : ofComponents (names.map .name) = relative names := by
    cases names with
    | nil => rfl
    | cons first rest => simp [ofComponents, relative, Component.bytes, Function.comp_def]
  unfold below?
  rw [components_ofPlace proper, components_ofPlace proper.front, List.map_append, ← List.cons_append,
    if_pos (List.isPrefixOf_iff_prefix.mpr (List.prefix_append _ _)), List.drop_left, ofNames]

theorem exists_of_below?_ofPlace {place above : Place} (proper : ProperPlace place)
    (properAbove : ProperPlace above) (below : ((ofPlace place).below? (ofPlace above)).isSome) :
    ∃ names, place = above ++ names := by
  unfold below? at below
  split at below
  · next within =>
    rw [components_ofPlace proper, components_ofPlace properAbove] at within
    have inside := (List.cons_prefix_cons.mp (List.isPrefixOf_iff_prefix.mp within)).2
    obtain ⟨names, split⟩ := (List.prefix_map_iff_of_injective fun _ _ => Component.name.inj).mp inside
    exact ⟨names, split.symm⟩
  · cases below

end Path

namespace Loom

/-- The file of a unit whose root lies below the base has the names of the root below the other directory. -/
theorem unitFile_below {unit : StoryUnit} {above front : Place} {name : Name} (out : Path)
    (proper : ProperPlace (above ++ (front ++ [name])))
    (root : unit.root = .ofPlace (above ++ (front ++ [name]))) :
    unitFile (.ofPlace above) out unit = out.join (.relative (front ++ [renamed name "json"])) := by
  unfold unitFile
  rw [root, Path.below?_ofPlace proper]
  exact out.withExtension_join proper.behind

/-- The file of any other unit stands beside its root. -/
theorem unitFile_apart {unit : StoryUnit} {base : Path} {place : Place} (out : Path)
    (root : unit.root = .ofPlace place) (apart : (unit.root.below? base).isSome = false) :
    unitFile base out unit = unit.root.withExtension "json" := by
  unfold unitFile
  rw [Option.isSome_eq_false_iff, Option.isNone_iff_eq_none] at apart
  rw [apart, Option.getD_none, Path.join, if_pos]
  rw [root]
  exact Path.isAbsolute_ofPlace place

end Loom

end Tale
