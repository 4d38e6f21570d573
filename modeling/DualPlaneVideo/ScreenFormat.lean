import DualPlaneVideo.DisplayParameters
import DualPlaneVideo.SystemRegisters

/-!
# Screen format

The geometry of a frame follows from the command register of channel A and the pixel depths of the
two planes. It is latched when a frame starts.
-/

namespace DualPlaneVideo

structure ScreenFormat where
  /-- The line width at normal resolution. -/
  baseWidth : Nat
  activeLines : Nat
  totalLines : Nat
  /-- The screen shows every plane pixel instead of every other one. -/
  doubleWidth : Bool
  sixtyHz : Bool
  deriving DecidableEq

namespace ScreenFormat

def ofRegisters (system : SystemRegisters) (parameters : PerPlane DisplayParameters) :
    ScreenFormat :=
  let fields := if system.interlaced then 2 else 1
  { baseWidth := if system.wideLine then 384 else 360
    activeLines := (if system.sixtyHz then 240 else 280) * fields
    totalLines := (if system.sixtyHz then 262 else 312) * fields
    doubleWidth := parameters.a.depth.isDouble || parameters.b.depth.isDouble
    sixtyHz := system.sixtyHz }

def initial : ScreenFormat := ofRegisters .zeroed (.both .initial)

instance : Inhabited ScreenFormat := ⟨initial⟩

/-- A decoded plane line always has two pixels for each position of normal resolution. -/
def planeWidth (format : ScreenFormat) : Nat := 2 * format.baseWidth

def screenWidth (format : ScreenFormat) : Nat :=
  if format.doubleWidth then format.planeWidth else format.baseWidth

end ScreenFormat

end DualPlaneVideo
