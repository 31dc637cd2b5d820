import Mathlib.Data.List.Perm.Basic
import Tale.Dictionary

/-! Laws of finite maps: what a look-up finds after an entry was put in or taken out, and when two
maps are listed alike. Keys count as equal when they compare equal, however they are spelled.
-/

set_option autoImplicit false

namespace Tale.Dictionary

open Std

universe u v

variable {κ : Type u} {α : Type v} [Ord κ]

theorem lookup_eq_some {key : κ} {entry : κ × α} {entries : List (κ × α)}
    (found : lookup key entries = some entry) :
    entry ∈ entries ∧ compare key entry.1 = .eq := by
  induction entries with
  | nil => cases found
  | cons head rest ih =>
    simp only [lookup] at found
    split at found
    · next same =>
      cases found
      exact ⟨List.mem_cons_self, same⟩
    · obtain ⟨member, same⟩ := ih found
      exact ⟨List.mem_cons_of_mem _ member, same⟩

theorem exists_of_find? {map : Dictionary κ α} {key : κ} {value : α}
    (found : map.find? key = some value) :
    ∃ held, (held, value) ∈ map.entries ∧ compare key held = .eq := by
  obtain ⟨entry, looked, rfl⟩ := Option.map_eq_some_iff.mp found
  obtain ⟨member, same⟩ := lookup_eq_some looked
  exact ⟨entry.1, member, same⟩

theorem lookup_map {β : Type v} (image : α → β) (key : κ) (entries : List (κ × α)) :
    lookup key (entries.map fun entry => (entry.1, image entry.2)) =
      (lookup key entries).map fun entry => (entry.1, image entry.2) := by
  induction entries with
  | nil => rfl
  | cons entry rest ih =>
    simp only [List.map_cons, lookup, ih]
    split <;> rfl

@[simp] theorem find?_mapValues {β : Type v} (image : α → β) (map : Dictionary κ α) (key : κ) :
    (map.mapValues image).find? key = (map.find? key).map image := by
  simp only [find?, mapValues, lookup_map, Option.map_map]
  rfl

theorem contains_mapValues {β : Type v} (image : α → β) {map : Dictionary κ α} {key : κ}
    (there : map.contains key) : (map.mapValues image).contains key := by
  rwa [contains, find?_mapValues, Option.isSome_map]

@[simp] theorem find?_empty (key : κ) : (∅ : Dictionary κ α).find? key = none := rfl

@[simp] theorem contains_empty (key : κ) : (∅ : Dictionary κ α).contains key = false := rfl

theorem mem_keys_erase {map : Dictionary κ α} {key other : κ}
    (member : other ∈ (map.erase key).keys) : other ∈ map.keys := by
  obtain ⟨entry, inside, rfl⟩ := List.mem_map.mp member
  exact List.mem_map_of_mem (List.mem_filter.mp inside).1

section Laws

variable [TransOrd κ]

theorem mem_keys_insert {map : Dictionary κ α} {key other : κ} {value : α}
    (member : other ∈ (map.insert key value).keys) : other = key ∨ other ∈ map.keys := by
  obtain ⟨entry, inside, rfl⟩ := List.mem_map.mp member
  rcases mem_insertEntry inside with same | ⟨held, listed, same⟩
  · exact .inl same
  · exact .inr (same ▸ List.mem_map_of_mem listed)

theorem lookup_congr {first second : κ} (same : compare first second = .eq)
    (entries : List (κ × α)) : lookup first entries = lookup second entries := by
  induction entries with
  | nil => rfl
  | cons head rest ih => simp only [lookup, TransCmp.congr_left same, ih]

theorem find?_congr {first second : κ} (same : compare first second = .eq)
    (map : Dictionary κ α) : map.find? first = map.find? second := by
  rw [find?, find?, lookup_congr same]

theorem contains_congr {first second : κ} (same : compare first second = .eq)
    (map : Dictionary κ α) : map.contains first = map.contains second := by
  rw [contains, contains, find?_congr same]

theorem lookup_insertEntry (key other : κ) (value : α) (entries : List (κ × α)) :
    (lookup other (insertEntry key value entries)).map Prod.snd =
      if compare other key = .eq then some value else (lookup other entries).map Prod.snd := by
  induction entries with
  | nil =>
    simp only [insertEntry, lookup]
    split <;> rfl
  | cons head rest ih =>
    obtain ⟨held, old⟩ := head
    simp only [insertEntry]
    split
    · simp only [lookup]
      split <;> rfl
    · next same =>
      simp only [lookup, TransCmp.congr_right same]
      split <;> rfl
    · next above =>
      simp only [lookup]
      split
      · next here =>
        -- The key lies behind this entry, so the entry is not replaced.
        have apart : compare other key ≠ .eq := by
          rw [TransCmp.congr_left here, OrientedCmp.lt_of_gt above]
          exact Ordering.noConfusion
        simp [apart]
      · exact ih

@[simp] theorem find?_insert (map : Dictionary κ α) (key other : κ) (value : α) :
    (map.insert key value).find? other =
      if compare other key = .eq then some value else map.find? other :=
  lookup_insertEntry key other value map.entries

theorem lookup_filter_ne (key other : κ) (entries : List (κ × α)) :
    lookup other (entries.filter fun entry => compare key entry.1 ≠ .eq) =
      if compare other key = .eq then none else lookup other entries := by
  induction entries with
  | nil => simp [lookup]
  | cons head rest ih =>
    by_cases kept : compare key head.1 = .eq
    · rw [List.filter_cons_of_neg (by simp [kept]), ih]
      split
      · rfl
      · next apart =>
        have passed : compare other head.1 ≠ .eq := TransCmp.congr_right kept ▸ apart
        simp [lookup, passed]
    · rw [List.filter_cons_of_pos (by simp [kept])]
      simp only [lookup, ih]
      split
      · next here =>
        have apart : compare other key ≠ .eq := fun same =>
          kept ((TransCmp.congr_left same).symm.trans here)
        simp [apart]
      · rfl

@[simp] theorem find?_erase (map : Dictionary κ α) (key other : κ) :
    (map.erase key).find? other = if compare other key = .eq then none else map.find? other := by
  simp only [find?, erase, lookup_filter_ne]
  split <;> rfl

theorem find?_of_mem {map : Dictionary κ α} {key : κ} {value : α}
    (member : (key, value) ∈ map.entries) : map.find? key = some value := by
  obtain ⟨entries, ascending⟩ := map
  simp only [find?] at member ⊢
  induction entries with
  | nil => cases member
  | cons head rest ih =>
    obtain ⟨first, later⟩ := List.pairwise_cons.mp ascending
    rcases List.mem_cons.mp member with same | inRest
    · simp [lookup, ← same, ReflCmp.compare_self]
    · have apart : compare key head.1 ≠ .eq := by
        rw [OrientedCmp.gt_of_lt (first _ inRest)]
        exact Ordering.noConfusion
      simpa [lookup, apart] using ih later inRest

theorem contains_iff {map : Dictionary κ α} {key : κ} :
    map.contains key ↔ ∃ held ∈ map.keys, compare key held = .eq := by
  constructor
  · intro there
    obtain ⟨value, found⟩ := Option.isSome_iff_exists.mp there
    obtain ⟨held, member, same⟩ := exists_of_find? found
    exact ⟨held, List.mem_map_of_mem member, same⟩
  · rintro ⟨held, member, same⟩
    obtain ⟨⟨held, value⟩, entryMember, rfl⟩ := List.mem_map.mp member
    rw [contains, find?_congr same, find?_of_mem entryMember]
    rfl

@[simp] theorem contains_insert (map : Dictionary κ α) (key other : κ) (value : α) :
    (map.insert key value).contains other ↔ compare other key = .eq ∨ map.contains other := by
  simp only [contains, find?_insert]
  split <;> simp [*]

@[simp] theorem contains_erase (map : Dictionary κ α) (key other : κ) :
    (map.erase key).contains other ↔ compare other key ≠ .eq ∧ map.contains other := by
  simp only [contains, find?_erase]
  split <;> simp [*]

theorem isEmpty_iff {map : Dictionary κ α} : map.isEmpty ↔ ∀ key, ¬ map.contains key := by
  constructor
  · intro empty key there
    obtain ⟨held, member, -⟩ := contains_iff.mp there
    rw [keys, List.isEmpty_iff.mp empty] at member
    cases member
  · intro none
    refine List.isEmpty_iff.mpr (List.eq_nil_iff_forall_not_mem.mpr fun entry member => ?_)
    exact none entry.1 (contains_iff.mpr
      ⟨entry.1, List.mem_map_of_mem member, ReflCmp.compare_self⟩)

theorem nodup_of_ascending {entries : List α} (key : α → κ)
    (ascending : entries.Pairwise fun a b => compare (key a) (key b) = .lt) : entries.Nodup := by
  refine ascending.imp fun below => ?_
  rintro rfl
  cases ReflCmp.compare_self.symm.trans below

/-- Ascending lists with the same members are one list. -/
theorem eq_of_ascending {first second : List α} (key : α → κ)
    (left : first.Pairwise fun a b => compare (key a) (key b) = .lt)
    (right : second.Pairwise fun a b => compare (key a) (key b) = .lt)
    (members : ∀ entry, entry ∈ first ↔ entry ∈ second) : first = second := by
  have perm := (List.perm_ext_iff_of_nodup (nodup_of_ascending key left)
    (nodup_of_ascending key right)).mpr members
  refine perm.eq_of_pairwise (fun a b _ _ below above => ?_) left right
  rw [OrientedCmp.gt_of_lt above] at below
  cases below

theorem insertEntry_above {key : κ} {value : α} {entries : List (κ × α)}
    (above : ∀ entry ∈ entries, compare entry.1 key = .lt) :
    insertEntry key value entries = entries ++ [(key, value)] := by
  induction entries with
  | nil => rfl
  | cons head rest ih =>
    have after := OrientedCmp.gt_of_lt (above head List.mem_cons_self)
    simp only [insertEntry, after, List.cons_append]
    rw [ih fun entry member => above entry (List.mem_cons_of_mem _ member)]

theorem ofList_entries (map : Dictionary κ α) : ofList map.entries = map := by
  have grown (rest : List (κ × α)) (built : Dictionary κ α)
      (ascending : (built.entries ++ rest).Pairwise fun a b => compare a.1 b.1 = .lt) :
      (rest.foldl (fun map entry => map.insert entry.1 entry.2) built).entries =
        built.entries ++ rest := by
    induction rest generalizing built with
    | nil => rw [List.foldl_nil, List.append_nil]
    | cons head later ih =>
      have above : ∀ entry ∈ built.entries, compare entry.1 head.1 = .lt :=
        fun entry member => (List.pairwise_append.mp ascending).2.2 entry member head
          List.mem_cons_self
      have next : (built.insert head.1 head.2).entries = built.entries ++ [head] :=
        insertEntry_above above
      rw [List.append_cons, ← next] at ascending ⊢
      exact ih _ ascending
  exact Dictionary.ext (grown map.entries empty map.ascending)

end Laws

section Lawful

variable [TransOrd κ] [LawfulEqOrd κ]

theorem find?_insert_eq [DecidableEq κ] (map : Dictionary κ α) (key other : κ) (value : α) :
    (map.insert key value).find? other = if other = key then some value else map.find? other := by
  simp only [find?_insert, LawfulEqCmp.compare_eq_iff_eq]

theorem contains_insert_iff (map : Dictionary κ α) (key other : κ) (value : α) :
    (map.insert key value).contains other ↔ other = key ∨ map.contains other := by
  rw [contains_insert, LawfulEqCmp.compare_eq_iff_eq]

theorem find?_eq_some_iff {map : Dictionary κ α} {key : κ} {value : α} :
    map.find? key = some value ↔ (key, value) ∈ map.entries := by
  refine ⟨fun found => ?_, find?_of_mem⟩
  obtain ⟨held, member, same⟩ := exists_of_find? found
  cases LawfulEqCmp.eq_of_compare same
  exact member

theorem ext_find? {first second : Dictionary κ α}
    (same : ∀ key, first.find? key = second.find? key) : first = second := by
  refine Dictionary.ext (eq_of_ascending Prod.fst first.ascending second.ascending fun entry => ?_)
  obtain ⟨key, value⟩ := entry
  rw [← find?_eq_some_iff, ← find?_eq_some_iff, same]

end Lawful

end Tale.Dictionary
