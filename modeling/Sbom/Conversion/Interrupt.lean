import Sbom.Failure

/-!
# Interrupts

A conversion can be stopped from outside by a flag or by a deadline. Both are looked at before every
node and every edge, the flag first.
-/

namespace Sbom.Conversion

/-- What may stop a conversion. -/
structure Interrupt where
  /-- Whether the flag is set. -/
  flagSet : Bool := false
  /-- Whether the deadline has passed. -/
  deadlinePassed : Bool := false
deriving DecidableEq, Repr

namespace Interrupt

/-- Whether the conversion is to stop. -/
def isTriggered (interrupt : Interrupt) : Bool :=
  interrupt.flagSet || interrupt.deadlinePassed

/-- Fails when the conversion is to stop, naming the stage it stops in. -/
def check (interrupt : Interrupt) (stage : String) : Except Failure Unit :=
  if interrupt.flagSet then .error (.interrupted ("cancelled during " ++ stage))
  else if interrupt.deadlinePassed then
    .error (.interrupted ("deadline exceeded during " ++ stage))
  else .ok ()

end Interrupt

end Sbom.Conversion
