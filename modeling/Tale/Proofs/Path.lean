import Tale.Path
import Tale.Proofs.Text

/-! Paths that are texts, and paths that are the same: those with the same components. -/

set_option autoImplicit false

namespace Tale

namespace Path

theorem text?_eq_some_iff {path : Path} {text : String} : path.text? = some text ↔ path = ofText text := by
  unfold text?
  rw [Text.decode?_eq_some_iff]
  cases path
  simp [ofText, eq_comm]

theorem compare_eq_iff {first second : Path} : compare first second = .eq ↔ first.same second := by
  rw [same, beq_iff_eq]
  change compare first.components second.components = .eq ↔ _
  exact Std.LawfulEqCmp.compare_eq_iff_eq

@[simp] theorem same_refl (path : Path) : path.same path := by simp [same]

theorem same_symm {first second : Path} (alike : first.same second) : second.same first := by
  rw [same, beq_iff_eq] at alike ⊢
  exact alike.symm

theorem same_comm (first second : Path) : first.same second = second.same first :=
  Bool.eq_iff_iff.mpr ⟨same_symm, same_symm⟩

theorem same_trans {first second third : Path} (alike : first.same second)
    (onward : second.same third) : first.same third := by
  rw [same, beq_iff_eq] at alike onward ⊢
  exact alike.trans onward

theorem same_congr_left {first second : Path} (alike : first.same second) (other : Path) :
    first.same other ↔ second.same other :=
  ⟨same_trans (same_symm alike), same_trans alike⟩

end Path

end Tale
