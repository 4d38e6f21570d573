import DualPlaneVideo.ControlProgram.Instruction

/-!
# Running a control area

A channel runs instructions from an address on until one of them ends the run, an instruction
fails, or its budget is used up. A run tells what it did to the registers and what else it asked
for; who runs the area decides what becomes of that.
-/

namespace DualPlaneVideo

/-- How a run came to its end. -/
inductive RunEnd where
  /-- The budget ran out. -/
  | exhausted
  /-- A stop instruction. -/
  | stopped
  /-- An instruction that loads an address and stops. -/
  | redirected
  | failed (failure : Failure)
  deriving DecidableEq

/-- A run so far. -/
structure ProgramRun where
  registers : RegisterFile
  /-- The last display control area that the program selected. -/
  displayArea : Option Word
  /-- The read cursor that the program loaded. -/
  readCursor : Option Word
  /-- The program raised an interrupt that was not disabled. -/
  interrupted : Bool

namespace ProgramRun

def start (registers : RegisterFile) : ProgramRun where
  registers := registers
  displayArea := none
  readCursor := none
  interrupted := false

/-- Latches the channel's interrupt flag, unless its interrupts are disabled. -/
def interrupt (run : ProgramRun) (channel : Plane) : ProgramRun :=
  let system := run.registers.system
  if system.interruptDisabled channel then run
  else
    { run with
      registers := { run.registers with
        system := { system with interruptFlags := system.interruptFlags.set channel true } }
      interrupted := true }

/-- Loads the channel's display parameters. -/
def loadParameters (run : ProgramRun) (channel : Plane) (operand : Word) :
    Except Failure ProgramRun :=
  match (run.registers.parameters.get channel).load? operand with
  | none => .error (.reservedPixelDepth channel (DisplayParameters.depthCode operand))
  | some parameters =>
    .ok { run with
      registers := { run.registers with
        parameters := run.registers.parameters.set channel parameters } }

/-- What comes after an instruction: another one, or the end of the run. -/
inductive Flow where
  | goOn (address : Word)
  | finish (ending : RunEnd)
  deriving DecidableEq

/-- Carries out one instruction; `next` is the address behind it. An instruction that fails changes
nothing. -/
def execute (channel : Plane) (policy : CodingPolicy) (next : Word) (run : ProgramRun) :
    Instruction → ProgramRun × Flow
  | .stop => (run, .finish .stopped)
  | .noOperation => (run, .goOn next)
  | .loadDisplayArea area thenStop =>
    ({ run with displayArea := some area }, if thenStop then .finish .redirected else .goOn next)
  | .jump target => (run, .goOn target)
  | .loadReadCursor cursor => ({ run with readCursor := some cursor }, .finish .redirected)
  | .interrupt => (run.interrupt channel, .goOn next)
  | .loadParameters operand =>
    match run.loadParameters channel operand with
    | .error failure => (run, .finish (.failed failure))
    | .ok run => (run, .goOn next)
  | .loadRegister opcode operand =>
    ({ run with registers := run.registers.load channel opcode operand policy }, .goOn next)

/-- The instruction at an address. -/
def fetch (memory : Memory) (address : Word) : Instruction :=
  .ofWord (memory.longword address)

/-- Fetches and carries out the instruction at an address. -/
def step (memory : Memory) (channel : Plane) (policy : CodingPolicy) (address : Word)
    (state : ProgramRun) : ProgramRun × Flow :=
  state.execute channel policy (wrapAddress (address + 4)) (fetch memory address)

/-- Runs at most `budget` instructions from `address` on. -/
def run (memory : Memory) (channel : Plane) (policy : CodingPolicy) (budget : Nat)
    (address : Word) (state : ProgramRun) : ProgramRun × RunEnd :=
  match budget with
  | 0 => (state, .exhausted)
  | budget + 1 =>
    match state.step memory channel policy address with
    | (state, .finish ending) => (state, ending)
    | (state, .goOn next) => run memory channel policy budget next state

end ProgramRun

end DualPlaneVideo
