import DualPlaneVideo.ImageCoding
import DualPlaneVideo.Matte.Command
import DualPlaneVideo.Transparency

/-!
# Matte walk

Along a line each plane works through its part of the table of eight matte commands, in table order
and at most one command per position of normal resolution; a command waits until its position is
reached. With two mattes each plane has one half of the table, with one the first command names the
plane that owns all of it.
-/

namespace DualPlaneVideo

/-- Where a plane is in the command table, where its part of the table ends, and its flags so
far. -/
structure MatteWalk where
  index : Nat
  stop : Nat
  flags : MatteFlags
  deriving DecidableEq

namespace MatteWalk

/-- A plane that owns no commands. -/
def idle : MatteWalk := ⟨8, 8, .clear⟩

instance : Inhabited MatteWalk := ⟨idle⟩

/-- The next command to run. -/
def command? (walk : MatteWalk) (commands : Vector Word 8) : Option Word :=
  if walk.index < walk.stop then commands[walk.index]? else none

/-- The walk after a command that leaves these flags. -/
def next (walk : MatteWalk) (flags : MatteFlags) : MatteWalk :=
  { walk with index := walk.index + 1, flags }

/-- The walk with no command left. -/
def finish (walk : MatteWalk) : MatteWalk := { walk with index := walk.stop }

end MatteWalk

/-- Both walks, and the contribution factors that they share. -/
structure MatteState where
  walks : PerPlane MatteWalk
  factors : PerPlane UInt8
  deriving DecidableEq

namespace MatteState

/-- A plane's walk before the first position of a line. -/
def firstWalk (imageCoding : Word) (commands : Vector Word 8) (plane : Plane) :
    MatteWalk :=
  if ImageCoding.twoMattes imageCoding then
    match plane with
    | .a => ⟨0, 4, .clear⟩
    | .b => ⟨4, 8, .clear⟩
  else if plane = (if MatteCommand.selector (commands.get ⟨0, by decide⟩) then .b else .a) then
    ⟨0, 8, .clear⟩
  else .idle

def atLineStart (imageCoding : Word) (commands : Vector Word 8)
    (factors : PerPlane UInt8) : MatteState where
  walks := .ofFn (firstWalk imageCoding commands)
  factors := factors

def flags (state : MatteState) (plane : Plane) : MatteFlags :=
  (state.walks.get plane).flags

/-- Runs one command of a plane. -/
def execute (state : MatteState) (plane : Plane) (command : Word) : MatteState :=
  let walk := state.walks.get plane
  let factor := MatteCommand.factor command
  let withFlag (value : Bool) := walk.flags.set (MatteCommand.selector command) value
  match MatteCommand.action command with
  | .terminate => { state with walks := state.walks.set plane walk.finish }
  | .setFactor target =>
    { walks := state.walks.set plane (walk.next walk.flags)
      factors := state.factors.set target factor }
  | .setFlag value => { state with walks := state.walks.set plane (walk.next (withFlag value)) }
  | .setFactorAndFlag target value =>
    { walks := state.walks.set plane (walk.next (withFlag value))
      factors := state.factors.set target factor }
  | .reserved _ => { state with walks := state.walks.set plane (walk.next walk.flags) }

/-- One plane at one position. -/
def stepPlane (commands : Vector Word 8) (position : Nat) (state : MatteState)
    (plane : Plane) : MatteState :=
  match (state.walks.get plane).command? commands with
  | none => state
  | some command =>
    if position < MatteCommand.position command then state else state.execute plane command

/-- Both planes at one position, plane A first. -/
def step (commands : Vector Word 8) (state : MatteState) (position : Nat) :
    MatteState :=
  stepPlane commands position (stepPlane commands position state .a) .b

end MatteState

end DualPlaneVideo
