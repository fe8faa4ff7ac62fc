import SpillSelection.Spill.Energy
/-!
# Flashes and the trigger

An interaction may be matched to flashes of light, which tell when it happened; a spill records
all of its flashes.
-/

namespace SpillSelection

namespace Interaction

/-- The interaction is matched to a flash whose time is known. -/
def hasFlash (i : Interaction s) : Bool :=
  i.isFlashMatched && i.flashTimes.head?.any fun time => !time.isNaN

/-- A flash is matched and, for two parameters, its time lies between them. -/
def hasFlashWithin (window : List Float) (i : Interaction s) : Bool :=
  i.hasFlash && match window with
    | [low, high] => i.flashTimes.head?.any fun time => low ≤ time && time ≤ high
    | _ => true

end Interaction

namespace Spill

/-- For two parameters, the global trigger time lies between them. -/
def isTriggeredWithin (window : List Float) (spill : Spill) : Bool :=
  match window with
  | [low, high] =>
    let time := spill.header.trigger.globalTriggerTime
    low ≤ time && time ≤ high
  | _ => true

/-- The later of two times when it is strictly closer to `offset`. -/
def closerTime (offset : Float) (closest time : Float) : Float :=
  if (time - offset).abs < (closest - offset).abs then time else closest

/-- The time that stands for no flash at all. -/
def noFlashTime : Float := 10000

/-- The first time of the flash closest to an offset, counted within the gate. -/
def closestFlashTime (parameters : List Float) (spill : Spill) : Float :=
  let offset := parameters.headD nan
  (spill.flashes.map (·.firstTime)).foldl (closerTime offset) noFlashTime +
    spill.header.trigger.triggerWithinGate

end Spill

end SpillSelection
