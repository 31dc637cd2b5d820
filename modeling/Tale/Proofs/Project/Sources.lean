import Mathlib.Data.Fintype.BigOperators
import Tale.Project.Compilation
import Tale.Proofs.Disk.Identity
import Tale.Proofs.Script.Closure

/-! What the documents on a disk promise to those who read them: there are no more of them than
their capacity says, and each has one path by which it is identified.
-/

set_option autoImplicit false

namespace Tale

open Project Script

def byteCode (bound : Nat) (bytes : List UInt8) (place : Fin bound) : Fin 257 :=
  match bytes[place.val]? with
  | some byte => ⟨byte.toNat, Nat.lt_succ_of_lt byte.toNat_lt⟩
  | none => ⟨256, by decide⟩

theorem byteCode_injective {bound : Nat} {first second : List UInt8}
    (short : first.length ≤ bound) (shortToo : second.length ≤ bound)
    (same : byteCode bound first = byteCode bound second) : first = second := by
  refine List.ext_getElem? fun place => ?_
  by_cases within : place < bound
  · have code := congrFun same ⟨place, within⟩
    simp only [byteCode] at code
    cases left : first[place]? <;> cases right : second[place]? <;>
      simp only [left, right, Fin.mk.injEq] at code ⊢
    · exact absurd code.symm (UInt8.toNat_lt _).ne
    · exact absurd code (UInt8.toNat_lt _).ne
    · rw [UInt8.toNat_inj.mp code]
  · have beyond {bytes : List UInt8} (short : bytes.length ≤ bound) : bytes[place]? = none :=
      List.getElem?_eq_none (short.trans (Nat.not_lt.mp within))
    rw [beyond short, beyond shortToo]

theorem length_le_of_short {bound : Nat} {rows : List (List UInt8)} (distinct : rows.Nodup)
    (short : ∀ row ∈ rows, row.length ≤ bound) : rows.length ≤ 257 ^ bound := by
  have codes : (rows.map (byteCode bound)).Nodup := by
    refine List.Nodup.map_on (fun first member second memberToo same => ?_) distinct
    exact byteCode_injective (short first member) (short second memberToo) same
  have bounded := codes.length_le_card
  rwa [List.length_map, Fintype.card_fun, Fintype.card_fin, Fintype.card_fin] at bounded

namespace Disk

theorem length_le_mostDocuments {rows : List (List UInt8)} (distinct : rows.Nodup)
    (short : ∀ row ∈ rows, row.length ≤ longestPath) : rows.length ≤ mostDocuments := by
  unfold mostDocuments
  -- The power is far too large to be written out.
  generalize longestPath = bound at short ⊢
  exact length_le_of_short distinct short

theorem checkSpelling_short {path : Path} (checked : checkSpelling path = .ok ()) :
    path.spelling.length ≤ longestPath := by
  unfold checkSpelling at checked
  split at checked
  · cases checked
  · split at checked
    · cases checked
    · split at checked
      · cases checked
      · next short => exact Nat.not_lt.mp short

theorem resolve_of_loadDocument {disk : Disk} {filters : Filters} {path : Path} {text : String}
    (loaded : disk.loadDocument filters path = .ok text) : ∃ place, disk.resolve path = .ok place := by
  unfold loadDocument at loaded
  rw [readText_eq] at loaded
  cases resolved : disk.resolve path with
  | error error =>
    rw [resolved] at loaded
    cases error <;> cases loaded
  | ok place => exact ⟨place, rfl⟩

theorem includes_honest (disk : Disk) (filters : Filters) (root : Path) :
    ((disk.sources filters).includes root).Honest := by
  intro paths apart loads
  have spellings : (paths.map Path.spelling).Nodup := by
    refine List.pairwise_map.mpr (apart.imp fun {first second} differ same => differ ?_)
    cases first
    cases same
    exact Path.same_refl _
  refine (List.length_map Path.spelling).symm.trans_le (length_le_mostDocuments spellings ?_)
  intro spelling member
  obtain ⟨path, listed, rfl⟩ := List.mem_map.mp member
  obtain ⟨text, loaded⟩ := loads path listed
  change ((disk.loadDocument filters path).mapError LoadError.reason) = .ok text at loaded
  obtain ⟨place, resolved⟩ := resolve_of_loadDocument (mapError_eq_ok.mp loaded)
  exact checkSpelling_short (resolve_eq_ok.mp resolved).1

theorem includes_canonical {disk : Disk} (proper : disk.Proper) (filters : Filters) (path : Path) :
    ((disk.sources filters).includes (disk.identify path)).Canonical (disk.identify path) := by
  have unique (first second : Path) (same : (disk.identify first).same (disk.identify second)) :
      disk.identify first = disk.identify second := by
    obtain ⟨place, properPlace, identity⟩ := identify_proper proper first
    obtain ⟨other, properOther, otherIdentity⟩ := identify_proper proper second
    rw [identity, otherIdentity] at same ⊢
    rw [Path.ofPlace_same properPlace properOther same]
  exact ⟨fun first second => unique _ _, fun name => unique _ _⟩

end Disk

end Tale
