import Mathlib.Data.Finset.Card
import Tale.Proofs.Project.Dependencies

/-! A table of edges as a set of edges.

Calls to track and to clear act on a set of pairs in a plain way. Whatever calls a table went
through, both of its sides list that set and nothing else; so the table depends on the set alone and
on nothing else of its history.
-/

set_option autoImplicit false

namespace Tale.Project

inductive EdgeCall where
  | track (root file : Path)
  | clear (root : Path)
  deriving DecidableEq, Repr

def EdgeCall.root : EdgeCall → Path
  | .track root _ => root
  | .clear root => root

abbrev PathPair := List Component × List Component

def pathPair (root file : Path) : PathPair := (root.components, file.components)

/-- What a call does to a set of pairs. No path is paired with itself. -/
def EdgeCall.effect (pairs : Finset PathPair) : EdgeCall → Finset PathPair
  | .track root file => if root.same file then pairs else insert (pathPair root file) pairs
  | .clear root => pairs.filter fun pair => pair.1 ≠ root.components

def pairsAfter (calls : List EdgeCall) : Finset PathPair := calls.foldl EdgeCall.effect ∅

theorem pairsAfter_append (calls later : List EdgeCall) :
    pairsAfter (calls ++ later) = later.foldl EdgeCall.effect (pairsAfter calls) :=
  List.foldl_append

theorem pathPair_eq_iff {root file other included : Path} :
    pathPair root file = pathPair other included ↔ root.same other ∧ file.same included := by
  simp only [pathPair, Prod.mk.injEq, Path.same, beq_iff_eq]

theorem mem_effect_track (pairs : Finset PathPair) (root file other included : Path) :
    pathPair other included ∈ EdgeCall.effect pairs (.track root file) ↔
      (other.same root ∧ included.same file ∧ ¬ root.same file) ∨
        pathPair other included ∈ pairs := by
  by_cases same : root.same file
  · simp [EdgeCall.effect, same]
  · simp [EdgeCall.effect, same, pathPair_eq_iff]

theorem mem_effect_clear (pairs : Finset PathPair) (root other included : Path) :
    pathPair other included ∈ EdgeCall.effect pairs (.clear root) ↔
      ¬ other.same root ∧ pathPair other included ∈ pairs := by
  simp only [EdgeCall.effect, Finset.mem_filter, pathPair, Path.same, beq_iff_eq]
  exact and_comm

theorem effect_clear_of_same (pairs : Finset PathPair) {call : EdgeCall} {root : Path}
    (own : call.root.same root) :
    EdgeCall.effect (call.effect pairs) (.clear root) = EdgeCall.effect pairs (.clear root) := by
  have alike : call.root.components = root.components := beq_iff_eq.mp own
  cases call with
  | track other file =>
    simp only [EdgeCall.root] at alike
    simp only [EdgeCall.effect]
    split
    · rfl
    · simp [Finset.filter_insert, pathPair, alike]
  | clear other =>
    simp only [EdgeCall.root] at alike
    simp only [EdgeCall.effect, alike, Finset.filter_filter, and_self]

theorem effect_clear_comm (pairs : Finset PathPair) {call : EdgeCall} {root : Path}
    (other : ¬ call.root.same root) :
    EdgeCall.effect (call.effect pairs) (.clear root) =
      call.effect (EdgeCall.effect pairs (.clear root)) := by
  have apart : call.root.components ≠ root.components := fun same => other (beq_iff_eq.mpr same)
  cases call with
  | track first file =>
    simp only [EdgeCall.root] at apart
    simp only [EdgeCall.effect]
    split
    · rfl
    · simp [Finset.filter_insert, pathPair, apart]
  | clear first => simp only [EdgeCall.effect, Finset.filter_comm]

/-- Once a root is cleared, the calls on it are as if they had never happened. -/
theorem effect_clear_pairsAfter (calls : List EdgeCall) (root : Path) :
    EdgeCall.effect (pairsAfter calls) (.clear root) =
      pairsAfter (calls.filter fun call => !call.root.same root) := by
  induction calls using List.reverseRecOn with
  | nil => rfl
  | append_singleton calls call ih =>
    rw [List.filter_append, pairsAfter_append, pairsAfter_append, ← ih, List.foldl_cons,
      List.foldl_nil]
    by_cases own : call.root.same root
    · simp [own, effect_clear_of_same]
    · simp [own, effect_clear_comm]

namespace PathRelation

def pairs (relation : PathRelation) : List PathPair :=
  relation.entries.flatMap fun entry => entry.2.keys.map (pathPair entry.1)

theorem mem_keys {set : OrderedSet Path} {file : Path} :
    set.contains file ↔ ∃ held ∈ set.keys, held.same file := by
  simp only [Dictionary.contains_iff, Path.compare_eq_iff, Path.same_comm file]

theorem mem_pairs {relation : PathRelation} {pair : PathPair} :
    pair ∈ relation.pairs ↔
      ∃ first second, relation.holds first second ∧ pathPair first second = pair := by
  simp only [pairs, List.mem_flatMap, List.mem_map]
  constructor
  · rintro ⟨⟨path, image⟩, member, held, inside, rfl⟩
    refine ⟨path, held, holds_iff.mpr ⟨image, Dictionary.find?_of_mem member, ?_⟩, rfl⟩
    exact mem_keys.mpr ⟨held, inside, Path.same_refl held⟩
  · rintro ⟨first, second, related, rfl⟩
    obtain ⟨image, found, there⟩ := holds_iff.mp related
    obtain ⟨path, member, alike⟩ := Dictionary.exists_of_find? found
    obtain ⟨held, inside, alikeToo⟩ := mem_keys.mp there
    refine ⟨(path, image), member, held, inside, pathPair_eq_iff.mpr ⟨?_, alikeToo⟩⟩
    exact Path.same_symm (Path.compare_eq_iff.mp alike)

theorem length_pairs (relation : PathRelation) :
    relation.pairs.length = (relation.values.map Dictionary.size).foldr (· + ·) 0 := by
  rw [pairs, Dictionary.values]
  induction relation.entries with
  | nil => rfl
  | cons entry rest ih =>
    rw [List.flatMap_cons, List.length_append, ih, List.length_map, Dictionary.keys,
      List.length_map]
    rfl

theorem nodup_keys_pairs (set : OrderedSet Path) (path : Path) :
    (set.keys.map (pathPair path)).Nodup := by
  rw [show pathPair path = Prod.mk path.components ∘ Path.components from rfl, ← List.map_map]
  exact (Dictionary.nodup_of_ascending id (ascending_components set)).map
    (Prod.mk_right_injective _)

theorem nodup_pairs (relation : PathRelation) : relation.pairs.Nodup := by
  refine List.nodup_flatMap.mpr ⟨fun entry _ => nodup_keys_pairs entry.2 entry.1, ?_⟩
  refine relation.ascending.imp fun {first second} below => ?_
  refine List.disjoint_left.mpr ?_
  intro pair inFirst inSecond
  obtain ⟨held, -, rfl⟩ := List.mem_map.mp inFirst
  obtain ⟨other, -, same⟩ := List.mem_map.mp inSecond
  -- No two entries have paths that are the same.
  rw [Path.compare_eq_iff.mpr (Path.same_symm (pathPair_eq_iff.mp same).1)] at below
  cases below

theorem card_filter_pairs (relation : PathRelation) (path : Path) :
    (relation.pairs.toFinset.filter fun pair => pair.1 = path.components).card =
      (relation.image path).size := by
  have listed : relation.pairs.toFinset.filter (fun pair => pair.1 = path.components) =
      ((relation.image path).keys.map (pathPair path)).toFinset := by
    ext pair
    simp only [Finset.mem_filter, List.mem_toFinset, mem_pairs]
    constructor
    · rintro ⟨⟨first, second, related, rfl⟩, same⟩
      have alike : first.same path := beq_iff_eq.mpr same
      rw [holds_congr alike (Path.same_refl second)] at related
      obtain ⟨held, inside, alikeToo⟩ := mem_keys.mp related
      refine List.mem_map.mpr ⟨held, inside, pathPair_eq_iff.mpr ⟨Path.same_symm alike, alikeToo⟩⟩
    · intro member
      obtain ⟨held, inside, rfl⟩ := List.mem_map.mp member
      exact ⟨⟨path, held, mem_keys.mpr ⟨held, inside, Path.same_refl held⟩, rfl⟩, rfl⟩
  rw [listed, List.toFinset_card_of_nodup (nodup_keys_pairs _ path), List.length_map,
    Dictionary.keys, List.length_map, Dictionary.size]

theorem Full.not_isEmpty {relation : PathRelation} (full : relation.Full)
    {entry : Path × OrderedSet Path} (member : entry ∈ relation.entries) : ¬ entry.2.isEmpty := by
  obtain ⟨other, there⟩ := full entry.1 entry.2 (Dictionary.find?_of_mem member)
  exact fun empty => Dictionary.isEmpty_iff.mp empty other there

theorem Full.find?_isSome_iff {relation : PathRelation} (full : relation.Full) (path : Path) :
    (relation.find? path).isSome ↔ ∃ other, relation.holds path other := by
  simp only [Option.isSome_iff_exists, holds_iff]
  constructor
  · rintro ⟨image, found⟩
    obtain ⟨other, there⟩ := full path image found
    exact ⟨other, image, found, there⟩
  · rintro ⟨other, image, found, -⟩
    exact ⟨image, found⟩

end PathRelation

namespace Dependencies

def perform (edges : Dependencies) : EdgeCall → Dependencies
  | .track root file => (edges.track root file).2
  | .clear root => (edges.clear root).2

def after (calls : List EdgeCall) : Dependencies := calls.foldl perform ∅

/-- A table lists a set of pairs. -/
structure Lists (edges : Dependencies) (pairs : Finset PathPair) : Prop where
  coherent : edges.Coherent
  tracks : ∀ root file, edges.tracks root file ↔ pathPair root file ∈ pairs
  spelled : ∀ pair ∈ pairs, ∃ root file, ¬ root.same file ∧ pathPair root file = pair

theorem lists_empty : Lists ∅ ∅ where
  coherent := coherent_empty
  tracks root file := by
    have none : tracks ∅ root file = false := rfl
    simp [none]
  spelled pair member := by cases member

namespace Lists

variable {edges : Dependencies} {pairs : Finset PathPair}

theorem perform (lists : edges.Lists pairs) (call : EdgeCall) :
    (edges.perform call).Lists (call.effect pairs) := by
  cases call with
  | track root file =>
    refine ⟨lists.coherent.track root file, fun other included => ?_, fun pair member => ?_⟩
    · rw [mem_effect_track, ← lists.tracks other included]
      exact tracks_track edges root file other included
    · simp only [EdgeCall.effect] at member
      split at member
      · exact lists.spelled pair member
      · next apart =>
        rcases Finset.mem_insert.mp member with rfl | earlier
        · exact ⟨root, file, apart, rfl⟩
        · exact lists.spelled pair earlier
  | clear root =>
    refine ⟨lists.coherent.clear root, fun other included => ?_, fun pair member => ?_⟩
    · rw [mem_effect_clear, ← lists.tracks other included]
      exact tracks_clear edges root other included
    · exact lists.spelled pair (Finset.mem_filter.mp member).1

theorem toFinset_pairs (lists : edges.Lists pairs) : edges.included.pairs.toFinset = pairs := by
  ext pair
  rw [List.mem_toFinset, PathRelation.mem_pairs]
  constructor
  · rintro ⟨root, file, related, rfl⟩
    exact (lists.tracks root file).mp related
  · intro member
    obtain ⟨root, file, -, rfl⟩ := lists.spelled pair member
    exact ⟨root, file, (lists.tracks root file).mpr member, rfl⟩

theorem edgeCount (lists : edges.Lists pairs) : edges.edgeCount = pairs.card := by
  rw [← lists.toFinset_pairs, List.toFinset_card_of_nodup (PathRelation.nodup_pairs _),
    PathRelation.length_pairs]
  rfl

theorem track_grows (lists : edges.Lists pairs) (root file : Path) :
    (edges.track root file).1 ↔ pairs ⊂ EdgeCall.effect pairs (.track root file) := by
  simp only [Dependencies.track, EdgeCall.effect]
  by_cases same : root.same file
  · simp [same]
  · by_cases known : edges.tracks root file
    · have old := (lists.tracks root file).mp known
      simp [same, known, Finset.insert_eq_of_mem old]
    · have new : pathPair root file ∉ pairs := fun old => known ((lists.tracks root file).mpr old)
      simp [same, known, Finset.ssubset_insert new]

theorem clear_count (lists : edges.Lists pairs) (root : Path) :
    (edges.clear root).1 = (pairs \ EdgeCall.effect pairs (.clear root)).card := by
  have removed : pairs \ EdgeCall.effect pairs (.clear root) =
      pairs.filter fun pair => pair.1 = root.components := by
    ext pair
    simp only [EdgeCall.effect, Finset.mem_sdiff, Finset.mem_filter, not_and, not_not, ne_eq]
    exact and_congr_right fun member => imp_iff_right member
  rw [removed, ← lists.toFinset_pairs, PathRelation.card_filter_pairs]
  rfl

theorem not_mem_of_same (lists : edges.Lists pairs) {root file : Path} (same : root.same file) :
    pathPair root file ∉ pairs := by
  intro member
  obtain ⟨other, included, apart, alike⟩ := lists.spelled _ member
  obtain ⟨left, right⟩ := pathPair_eq_iff.mp alike
  exact apart (Path.same_trans (Path.same_trans left same) (Path.same_symm right))

theorem agrees {other : Dependencies} (lists : edges.Lists pairs) (listsToo : other.Lists pairs) :
    edges.agrees other :=
  agrees_of_tracks lists.coherent listsToo.coherent fun root file =>
    (lists.tracks root file).trans (listsToo.tracks root file).symm

end Lists

theorem after_lists (calls : List EdgeCall) : (after calls).Lists (pairsAfter calls) := by
  induction calls using List.reverseRecOn with
  | nil => exact lists_empty
  | append_singleton calls call ih =>
    simpa only [after, pairsAfter, List.foldl_append, List.foldl_cons, List.foldl_nil]
      using ih.perform call

/-- The laws of a table: whatever calls it went through, it is the set of edges that they leave. -/
theorem after_edge_set (calls : List EdgeCall) :
    let table := after calls
    let pairs := pairsAfter calls
    (∀ root file, (table.included.holds root file ↔ pathPair root file ∈ pairs) ∧
      (table.includers.holds file root ↔ pathPair root file ∈ pairs)) ∧
    (∀ entry ∈ table.included.entries ++ table.includers.entries, ¬ entry.2.isEmpty) ∧
    (∀ root file, root.same file →
      ¬ table.included.holds root file ∧ ¬ table.includers.holds file root) ∧
    (∀ root file, (table.affected file).contains root ↔ pathPair root file ∈ pairs) ∧
    (∀ root, (table.includedBy? root).isSome ↔ ∃ file, pathPair root file ∈ pairs) ∧
    table.edgeCount = pairs.card ∧
    (∀ root file, (table.track root file).1 ↔ pairs ⊂ pairsAfter (calls ++ [.track root file])) ∧
    (∀ root, (table.clear root).1 = (pairs \ pairsAfter (calls ++ [.clear root])).card) ∧
    (∀ others, pairsAfter others = pairs → (after others).agrees table) ∧
    ∀ root later, (after (calls ++ .clear root :: later)).agrees
      (after (calls.filter (fun call => !call.root.same root) ++ later)) := by
  intro table pairs
  have lists : table.Lists pairs := after_lists calls
  have includers (root file : Path) :
      table.includers.holds file root ↔ pathPair root file ∈ pairs :=
    (lists.coherent.mirrored root file).trans (lists.tracks root file)
  have apart (root file : Path) (same : root.same file) : pathPair root file ∉ pairs :=
    lists.not_mem_of_same same
  refine ⟨fun root file => ⟨lists.tracks root file, includers root file⟩, ?_, ?_, includers, ?_,
    lists.edgeCount, ?_, ?_, ?_, ?_⟩
  · intro entry member
    rcases List.mem_append.mp member with inside | inside
    · exact lists.coherent.fullIncluded.not_isEmpty inside
    · exact lists.coherent.fullIncluders.not_isEmpty inside
  · intro root file same
    exact ⟨fun there => apart root file same ((lists.tracks root file).mp there),
      fun there => apart root file same ((includers root file).mp there)⟩
  · intro root
    simp only [← lists.tracks]
    exact lists.coherent.fullIncluded.find?_isSome_iff root
  · intro root file
    rw [pairsAfter_append]
    exact lists.track_grows root file
  · intro root
    rw [pairsAfter_append]
    exact lists.clear_count root
  · exact fun others same => (after_lists others).agrees (same ▸ lists)
  · intro root later
    have same : pairsAfter (calls ++ .clear root :: later) =
        pairsAfter (calls.filter (fun call => !call.root.same root) ++ later) := by
      rw [pairsAfter_append, pairsAfter_append, ← effect_clear_pairsAfter, List.foldl_cons]
    exact (after_lists _).agrees (same ▸ after_lists _)

def twoWay : List EdgeCall := [.track "a" "b", .track "b" "a", .track "a" "a"]

def detour : List EdgeCall :=
  [.track "b" "c", .track "a" "c", .clear "b/", .track "b/" "a/", .clear "a", .track "a/." "b"]

theorem detour_edge_set : pairsAfter detour = pairsAfter twoWay ∧ Path.same "b" "b/" ∧
    (after detour).agrees (after twoWay) ∧ ¬ (after twoWay).included.holds "b" "b/" := by
  obtain ⟨-, -, apart, -, -, -, -, -, agree, -⟩ := after_edge_set twoWay
  have same : pairsAfter detour = pairsAfter twoWay := by decide +kernel
  have alike : Path.same "b" "b/" := by decide +kernel
  exact ⟨same, alike, agree detour same, (apart "b" "b/" alike).1⟩

end Dependencies

end Tale.Project
