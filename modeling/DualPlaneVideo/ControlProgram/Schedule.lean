import DualPlaneVideo.ControlProgram.Run
import DualPlaneVideo.Settings.Basic

/-!
# Control program schedule

Each channel has an initial control area, which it runs once when a frame starts, and a display
control area, which it runs after every line. The display areas of successive lines follow each
other at a distance of one budget, unless the program selects another; a stop instruction halts the
channel's display areas until the next frame. Channel A runs before channel B, and a failure keeps
channel B from running.
-/

namespace DualPlaneVideo

/-- What a channel remembers between its display control areas. -/
structure DisplayArea where
  /-- Where the next line's area starts, once a program has selected one. -/
  next : Option Word
  halted : Bool
  deriving DecidableEq

instance : Inhabited DisplayArea := ⟨none, false⟩

/-- What a channel's run asks of its surroundings. -/
structure ProgramRequest where
  readCursor : Option Word
  interrupted : Bool
  deriving DecidableEq

namespace ProgramRequest

/-- Of a channel that runs no program. -/
def idle : ProgramRequest := ⟨none, false⟩

def ofRun (run : ProgramRun) : ProgramRequest := ⟨run.readCursor, run.interrupted⟩

end ProgramRequest

/-- The registers and display areas after channels have run, and their requests unless one
failed. -/
structure ScheduleResult where
  registers : RegisterFile
  areas : PerPlane DisplayArea
  requests : Except Failure (PerPlane ProgramRequest)

/-- The registers, the display area and the request of one channel. -/
structure ChannelResult where
  registers : RegisterFile
  area : DisplayArea
  request : Except Failure ProgramRequest

namespace Schedule

/-- Where a channel's initial control area starts. -/
def initialAddress : Plane → Word
  | .a => 0x000400
  | .b => 0x080400

/-- Starts a frame on one channel. A display area that the program selects holds at once, also when
the program fails later. -/
def runInitial (memory : Memory) (settings : Settings) (registers : RegisterFile)
    (channel : Plane) (area : DisplayArea) : ChannelResult :=
  if registers.system.initialAreaEnabled channel then
    let (run, ending) := ProgramRun.run memory channel settings.policy
      settings.initialBudget.toNat (initialAddress channel) (.start registers)
    { registers := run.registers
      area := { next := run.displayArea <|> area.next, halted := false }
      request :=
        match ending with
        | .failed failure => .error failure
        | _ => .ok (.ofRun run) }
  else ⟨registers, { area with halted := false }, .ok .idle⟩

/-- The length of a display control area in bytes. -/
def areaLength? (settings : Settings) : Option Word :=
  if settings.lineBudget.toNat * 4 < 0x100000000 then some (settings.lineBudget * 4) else none

/-- Runs one line's display control area on one channel. A failing program leaves the area where it
was. -/
def runDisplay (memory : Memory) (settings : Settings) (registers : RegisterFile)
    (channel : Plane) (area : DisplayArea) : ChannelResult :=
  let idle : ChannelResult := ⟨registers, area, .ok .idle⟩
  if registers.system.displayAreaEnabled channel && !area.halted then
    match area.next, areaLength? settings with
    | none, _ => idle
    | some _, none => { idle with request := .error .areaTooLong }
    | some start, some length =>
      let (run, ending) := ProgramRun.run memory channel settings.policy
        settings.lineBudget.toNat start (.start registers)
      let next := run.displayArea.getD (wrapAddress (start + length))
      match ending with
      | .failed failure => { idle with registers := run.registers, request := .error failure }
      | .stopped => ⟨run.registers, ⟨some next, true⟩, .ok (.ofRun run)⟩
      | .exhausted | .redirected => ⟨run.registers, ⟨some next, false⟩, .ok (.ofRun run)⟩
  else idle

/-- Lets both channels take their turn, stopping at the first failure. -/
def runChannels (turn : RegisterFile → Plane → DisplayArea → ChannelResult)
    (registers : RegisterFile) (areas : PerPlane DisplayArea) : ScheduleResult :=
  let first := turn registers .a areas.a
  match first.request with
  | .error failure => ⟨first.registers, { areas with a := first.area }, .error failure⟩
  | .ok requestA =>
    let second := turn first.registers .b areas.b
    { registers := second.registers
      areas := ⟨first.area, second.area⟩
      requests := second.request.map fun requestB ↦ ⟨requestA, requestB⟩ }

def runInitialAreas (memory : Memory) (settings : Settings) (registers : RegisterFile)
    (areas : PerPlane DisplayArea) : ScheduleResult :=
  runChannels (runInitial memory settings) registers areas

def runDisplayAreas (memory : Memory) (settings : Settings) (registers : RegisterFile)
    (areas : PerPlane DisplayArea) : ScheduleResult :=
  runChannels (runDisplay memory settings) registers areas

end Schedule

end DualPlaneVideo
