import Tale.Project.StoryUnit

/-! Delivering rebuilt units to a running session. The host registers one callback; a unit is handed
to it once, and a unit that comes again right after itself is recognised. -/

set_option autoImplicit false

namespace Tale.Live

inductive Update where
  | transferred (id : UnitId)
  | duplicate
  | fullReload (reason : String)
  deriving DecidableEq, Repr

def noCallbackReason : String :=
  "no reload callback is registered; register one with on_hot_reload to keep the session across rebuilds"

def noUnitReason : String := "the rebuilt root produced no module"

/-- The state of deliveries: the callback, known by whatever the host calls it, and the unit that
was delivered last. -/
structure Delivery (κ : Type) where
  callback : Option κ
  lastDelivered : Option UnitId

structure Call (κ : Type) where
  callback : κ
  story : Story

namespace Delivery

variable {κ : Type}

def empty : Delivery κ := ⟨none, none⟩

def ofUnit (unit : StoryUnit) : Delivery κ := ⟨none, some unit.id⟩

def register (delivery : Delivery κ) (callback : κ) : Delivery κ :=
  { delivery with callback := some callback }

/-- Deliver a rebuilt unit, or nothing if the rebuild failed. The call that is to be made, if there
is one, is part of the answer. -/
def accept (delivery : Delivery κ) (unit : Option StoryUnit) :
    Except StoryError (Update × Option (Call κ) × Delivery κ) :=
  match unit with
  | none => .ok (.fullReload noUnitReason, none, delivery)
  | some unit =>
    let delivered := { delivery with lastDelivered := some unit.id }
    match delivery.callback with
    -- The host reloads everything, and that delivers the unit too.
    | none => .ok (.fullReload noCallbackReason, none, delivered)
    | some callback =>
      if delivery.lastDelivered = some unit.id then .ok (.duplicate, none, delivery)
      else
        match unit.story with
        | .error error => .error error
        | .ok story => .ok (.transferred unit.id, some ⟨callback, story⟩, delivered)

end Delivery

end Tale.Live
