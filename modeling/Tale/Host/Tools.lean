import Tale.Host.Command.Run
import Tale.Host.Pattern.Reader
import Tale.Loom.Run

/-! Patterns and commands as far as they can be had without a host. -/

set_option autoImplicit false

namespace Tale.Host

def readPattern (written : String) : Option Tale.Pattern :=
  (Pattern.parse? written).map Pattern.isMatch

def tools : Loom.Tools := ⟨run, readPattern⟩

end Tale.Host
