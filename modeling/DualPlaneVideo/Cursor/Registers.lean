import DualPlaneVideo.Word

/-!
# Cursor registers

The control register of the hardware cursor holds its enable bit, its blink timing, its resolution
and its four-bit color code. The position register holds the upper left corner, horizontally in
pixels of double resolution.
-/

namespace DualPlaneVideo

namespace CursorControl

def enabled (register : Word) : Bool := register.bit 23

/-- The cursor shows its complementary color while it is off, instead of vanishing. -/
def blinksToComplement (register : Word) : Bool := register.bit 22

def onPeriod (register : Word) : Nat := register.field 19 3

def offPeriod (register : Word) : Nat := register.field 16 3

def doubleResolution (register : Word) : Bool := register.bit 15

def colorCode (register : Word) : UInt8 := (register.field 0 4).toUInt8

end CursorControl

namespace CursorPosition

def x (register : Word) : Nat := register.field 0 10

def y (register : Word) : Nat := register.field 12 10

end CursorPosition

end DualPlaneVideo
