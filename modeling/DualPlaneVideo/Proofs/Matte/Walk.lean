import DualPlaneVideo.Matte.Walk

/-!
# The matte along a line

A plane's walk never leaves its part of the command table, and its part never leaves the table, so
a walk that has not reached the end of its part has a command to run. The factors decide nothing
about the walks, so those of one plane have no influence on the other.
-/

namespace DualPlaneVideo

/-- The walk is inside its part of the table, or at its end, and the part is inside the table. -/
structure MatteWalk.InTable (walk : MatteWalk) : Prop where
  index_le : walk.index ≤ walk.stop
  stop_le : walk.stop ≤ 8

namespace MatteState

/-- The state after the steps at the first `count` positions of a line. -/
def run (commands : Vector Word 8) (state : MatteState) (count : Nat) : MatteState :=
  (List.range count).foldl (step commands) state

variable {commands : Vector Word 8} {state : MatteState} {plane : Plane}

@[simp]
theorem run_zero : state.run commands 0 = state := rfl

theorem run_succ (count : Nat) :
    state.run commands (count + 1) = (state.run commands count).step commands count := by
  simp only [run, List.range_succ, List.foldl_append, List.foldl_cons, List.foldl_nil]

/-- Both walks are in the table. -/
def InTable (state : MatteState) : Prop := ∀ plane, (state.walks.get plane).InTable

theorem inTable_atLineStart (imageCoding : Word) (commands : Vector Word 8)
    (factors : PerPlane UInt8) : (atLineStart imageCoding commands factors).InTable := by
  have hidle : MatteWalk.idle.InTable := ⟨by decide, by decide⟩
  have howner : MatteWalk.InTable ⟨0, 8, .clear⟩ := ⟨by decide, by decide⟩
  intro plane
  rw [atLineStart, PerPlane.get_ofFn]
  unfold firstWalk
  by_cases htwo : ImageCoding.twoMattes imageCoding
  · rw [if_pos htwo]
    cases plane with
    | a => exact ⟨by decide, by decide⟩
    | b => exact ⟨by decide, by decide⟩
  · rw [if_neg htwo]
    by_cases hplane : plane = if MatteCommand.selector (commands.get ⟨0, by decide⟩) then .b else .a
    · rw [if_pos hplane]
      exact howner
    · rw [if_neg hplane]
      exact hidle

theorem inTable_set {walk : MatteWalk} (h : state.InTable) (hwalk : walk.InTable)
    (factors : PerPlane UInt8) : InTable ⟨state.walks.set plane walk, factors⟩ := by
  intro other
  by_cases hother : other = plane
  · subst hother
    simpa using hwalk
  · simpa [PerPlane.get_set_of_ne _ hother] using h other

theorem InTable.execute (h : state.InTable)
    (hindex : (state.walks.get plane).index < (state.walks.get plane).stop) (command : Word) :
    (state.execute plane command).InTable := by
  have hwalk := h plane
  have hnext (flags : MatteFlags) : ((state.walks.get plane).next flags).InTable :=
    ⟨hindex, hwalk.stop_le⟩
  have hfinish : (state.walks.get plane).finish.InTable := ⟨Nat.le_refl _, hwalk.stop_le⟩
  unfold MatteState.execute
  dsimp only
  cases MatteCommand.action command with
  | terminate => exact inTable_set h hfinish _
  | setFactor target => exact inTable_set h (hnext _) _
  | setFlag value => exact inTable_set h (hnext _) _
  | setFactorAndFlag target value => exact inTable_set h (hnext _) _
  | reserved code => exact inTable_set h (hnext _) _

/-- A command runs only while the walk is before the end of its part. -/
theorem InTable.stepPlane (h : state.InTable) (position : Nat) (plane : Plane) :
    (stepPlane commands position state plane).InTable := by
  unfold MatteState.stepPlane MatteWalk.command?
  by_cases hindex : (state.walks.get plane).index < (state.walks.get plane).stop
  · rw [if_pos hindex]
    cases commands[(state.walks.get plane).index]? with
    | none => exact h
    | some command =>
      dsimp only
      split
      · exact h
      · exact h.execute hindex command
  · rw [if_neg hindex]
    exact h

theorem InTable.step (h : state.InTable) (position : Nat) :
    (state.step commands position).InTable :=
  (h.stepPlane position .a).stepPlane position .b

theorem InTable.run (h : state.InTable) (count : Nat) : (state.run commands count).InTable := by
  induction count with
  | zero => exact h
  | succ count ih =>
    rw [run_succ]
    exact ih.step count

/-! ## Six bits of a factor -/

/-- Both factors are such that a register holds them. -/
def FactorsFit (state : MatteState) : Prop := ∀ plane, state.factors.get plane < 64

/-- A command has six bits for a factor. -/
theorem factor_lt (command : Word) : MatteCommand.factor command < 64 := by
  have hfield : command.field 10 6 < 64 := command.field_lt 10 6
  rw [UInt8.lt_iff_toNat_lt, MatteCommand.factor, Nat.toUInt8, UInt8.toNat_ofNat',
    Nat.mod_eq_of_lt (by omega)]
  exact hfield

theorem FactorsFit.execute (h : state.FactorsFit) (plane : Plane) (command : Word) :
    (state.execute plane command).FactorsFit := by
  have hset (target other : Plane) :
      (state.factors.set target (MatteCommand.factor command)).get other < 64 := by
    by_cases hother : other = target
    · rw [hother, PerPlane.get_set_self]
      exact factor_lt command
    · rw [PerPlane.get_set_of_ne _ hother]
      exact h other
  unfold MatteState.execute
  dsimp only
  cases MatteCommand.action command with
  | terminate => exact h
  | setFactor target => exact hset target
  | setFlag value => exact h
  | setFactorAndFlag target value => exact hset target
  | reserved code => exact h

theorem FactorsFit.stepPlane (h : state.FactorsFit) (position : Nat) (plane : Plane) :
    (stepPlane commands position state plane).FactorsFit := by
  unfold MatteState.stepPlane
  split
  · exact h
  · split
    · exact h
    · exact h.execute plane _

theorem FactorsFit.run (h : state.FactorsFit) (count : Nat) :
    (state.run commands count).FactorsFit := by
  induction count with
  | zero => exact h
  | succ count ih =>
    rw [run_succ]
    exact (ih.stepPlane count .a).stepPlane count .b

/-! ## The factor of one plane -/

/-- Two states that may differ in the contribution factor of one plane. -/
structure AgreesBeside (plane : Plane) (state other : MatteState) : Prop where
  walks : other.walks = state.walks
  factor : other.factors.get plane.other = state.factors.get plane.other

variable {other : MatteState}

theorem AgreesBeside.flags (h : AgreesBeside plane state other) (side : Plane) :
    other.flags side = state.flags side := by
  rw [MatteState.flags, MatteState.flags, h.walks]

/-- A command sets the same factor in both. -/
theorem AgreesBeside.set_factors (h : AgreesBeside plane state other) (walks : PerPlane MatteWalk)
    (target : Plane) (factor : UInt8) :
    AgreesBeside plane ⟨walks, state.factors.set target factor⟩
      ⟨walks, other.factors.set target factor⟩ where
  walks := rfl
  factor := by
    by_cases htarget : plane.other = target
    · subst htarget
      rw [PerPlane.get_set_self, PerPlane.get_set_self]
    · rw [PerPlane.get_set_of_ne _ htarget, PerPlane.get_set_of_ne _ htarget]
      exact h.factor

theorem AgreesBeside.execute (h : AgreesBeside plane state other) (side : Plane) (command : Word) :
    AgreesBeside plane (state.execute side command) (other.execute side command) := by
  unfold MatteState.execute
  rw [h.walks]
  dsimp only
  cases MatteCommand.action command with
  | terminate => exact ⟨rfl, h.factor⟩
  | setFactor target => exact h.set_factors _ _ _
  | setFlag value => exact ⟨rfl, h.factor⟩
  | setFactorAndFlag target value => exact h.set_factors _ _ _
  | reserved code => exact ⟨rfl, h.factor⟩

theorem AgreesBeside.stepPlane (h : AgreesBeside plane state other) (position : Nat)
    (side : Plane) :
    AgreesBeside plane (stepPlane commands position state side)
      (stepPlane commands position other side) := by
  unfold MatteState.stepPlane
  rw [h.walks]
  split
  · exact h
  · split
    · exact h
    · exact h.execute side _

theorem AgreesBeside.step (h : AgreesBeside plane state other) (position : Nat) :
    AgreesBeside plane (state.step commands position) (other.step commands position) :=
  (h.stepPlane position .a).stepPlane position .b

theorem AgreesBeside.run (h : AgreesBeside plane state other) (commands : Vector Word 8)
    (count : Nat) :
    AgreesBeside plane (state.run commands count) (other.run commands count) := by
  induction count with
  | zero => exact h
  | succ count ih =>
    rw [run_succ, run_succ]
    exact ih.step count

end MatteState

end DualPlaneVideo
