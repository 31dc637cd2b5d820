import Tale.Project.StoryUnit
import Tale.Settings.Basic

/-! Making units out of compiled roots. Every unit that is issued gets the next serial number, so no
two of them share an identity. -/

set_option autoImplicit false

namespace Tale.Project

structure Issuer where
  harness : Harness
  /-- The serial number of the next unit. -/
  next : Nat

namespace Issuer

def issue (issuer : Issuer) (root : Path) (artifact : Artifact) : StoryUnit × Issuer :=
  (⟨.ofSerial issuer.next, root, issuer.harness.for? root, artifact⟩,
    { issuer with next := issuer.next + 1 })

end Issuer

end Tale.Project
