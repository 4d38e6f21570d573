import DualPlaneVideo.Decoder.Frame
import DualPlaneVideo.Proofs.Matte.Schedule
import DualPlaneVideo.Proofs.Matte.Walk
import Mathlib.Data.List.Sort

/-!
# A line on schedule

Along a line each plane runs its entries of the command table where the schedule has them. What has
run by a position settles the flags there, and the last command that sets a contribution factor
settles the factor.
-/

namespace DualPlaneVideo

open MattePart

namespace MatteState

variable {commands : Vector Word 8} {state other : MatteState} {plane target : Plane}
  {part : MattePart} {count index : Nat}

/-- The entry that a plane runs at a position, if it runs one there. -/
def running? (state : MatteState) (commands : Vector Word 8) (position : Nat) (plane : Plane) :
    Option Nat :=
  let walk := state.walks.get plane
  (walk.command? commands).bind fun command ↦
    if position < MatteCommand.position command then none else some walk.index

/-- The state after a plane has run an entry, if there is one to run. -/
def runEntry (state : MatteState) (commands : Vector Word 8) (plane : Plane) :
    Option Nat → MatteState
  | none => state
  | some index => state.execute plane (entry commands index)

theorem stepPlane_eq (commands : Vector Word 8) (position : Nat) (state : MatteState)
    (plane : Plane) : stepPlane commands position state plane =
      state.runEntry commands plane (state.running? commands position plane) := by
  unfold stepPlane running? MatteWalk.command?
  dsimp only
  by_cases hindex : (state.walks.get plane).index < (state.walks.get plane).stop
  · rw [if_pos hindex]
    cases hcommand : commands[(state.walks.get plane).index]? with
    | none => rfl
    | some command =>
      dsimp only [Option.bind_some]
      split
      · rfl
      · rw [runEntry, entry, hcommand]
        rfl
  · rw [if_neg hindex]
    rfl

theorem running?_congr (h : other.walks.get plane = state.walks.get plane) (position : Nat) :
    other.running? commands position plane = state.running? commands position plane := by
  rw [running?, running?, h]

/-! ## One command -/

theorem get_walks_execute (state : MatteState) (plane : Plane) (command : Word) :
    (state.execute plane command).walks.get plane =
      if MatteCommand.action command = .terminate then (state.walks.get plane).finish
      else (state.walks.get plane).next (MatteCommand.applyFlag (state.flags plane) command) := by
  unfold execute MatteCommand.applyFlag flags
  cases MatteCommand.action command <;> simp [MatteAction.flagValue?]

theorem get_walks_execute_of_ne {side : Plane} (h : side ≠ plane) (command : Word) :
    (state.execute plane command).walks.get side = state.walks.get side := by
  unfold execute
  cases MatteCommand.action command <;> exact PerPlane.get_set_of_ne _ h _

theorem flags_execute (state : MatteState) (plane : Plane) (command : Word) :
    (state.execute plane command).flags plane =
      MatteCommand.applyFlag (state.flags plane) command := by
  rw [flags, get_walks_execute]
  split
  · rename_i hterminate
    rw [MatteCommand.applyFlag, hterminate]
    rfl
  · rfl

theorem get_factors_execute (state : MatteState) (plane : Plane) (command : Word)
    (target : Plane) : (state.execute plane command).factors.get target =
      (MatteCommand.factorFor? command target).getD (state.factors.get target) := by
  have hset (side : Plane) : (state.factors.set side (MatteCommand.factor command)).get target =
      (if side = target then some (MatteCommand.factor command) else none).getD
        (state.factors.get target) := by
    by_cases hside : side = target
    · subst hside
      rw [PerPlane.get_set_self, if_pos rfl]
      rfl
    · rw [PerPlane.get_set_of_ne _ (Ne.symm hside), if_neg hside]
      rfl
  unfold execute MatteCommand.factorFor?
  cases MatteCommand.action command <;> simp [MatteAction.factorPlane?, hset]

/-! ## One position -/

theorem get_walks_stepPlane_of_ne {side : Plane} (h : side ≠ plane) (position : Nat) :
    (stepPlane commands position state plane).walks.get side = state.walks.get side := by
  rw [stepPlane_eq]
  cases state.running? commands position plane with
  | none => rfl
  | some index => exact get_walks_execute_of_ne h _

/-- Neither plane takes notice of the other's step. -/
theorem get_walks_step (position : Nat) (plane : Plane) :
    (state.step commands position).walks.get plane =
      (stepPlane commands position state plane).walks.get plane := by
  cases plane with
  | a => exact get_walks_stepPlane_of_ne (by decide) position
  | b =>
    have hother : (stepPlane commands position state .a).walks.get .b = state.walks.get .b :=
      get_walks_stepPlane_of_ne (by decide) position
    rw [step, stepPlane_eq, stepPlane_eq commands position state .b, running?_congr hother]
    cases state.running? commands position .b with
    | none => exact hother
    | some index =>
      simp only [runEntry, get_walks_execute, flags, hother]

theorem flags_step (position : Nat) (plane : Plane) :
    (state.step commands position).flags plane =
      ((state.running? commands position plane).toList.map (entry commands)).foldl
        MatteCommand.applyFlag (state.flags plane) := by
  rw [flags, get_walks_step, ← flags, stepPlane_eq]
  cases state.running? commands position plane with
  | none => rfl
  | some index => exact flags_execute _ _ _

/-- The factor that a plane's step gives to the target plane. -/
def stepFactor? (state : MatteState) (commands : Vector Word 8) (position : Nat)
    (plane target : Plane) : Option UInt8 :=
  (state.running? commands position plane).bind fun index ↦
    MatteCommand.factorFor? (entry commands index) target

theorem get_factors_stepPlane (position : Nat) (plane target : Plane) :
    (stepPlane commands position state plane).factors.get target =
      (state.stepFactor? commands position plane target).getD (state.factors.get target) := by
  rw [stepPlane_eq, stepFactor?]
  cases state.running? commands position plane with
  | none => rfl
  | some index => exact get_factors_execute _ _ _ _

/-- Plane B has the last word at a position. -/
theorem get_factors_step (state : MatteState) (commands : Vector Word 8) (position : Nat)
    (target : Plane) :
    (state.step commands position).factors.get target =
      (state.stepFactor? commands position .b target).getD
        ((state.stepFactor? commands position .a target).getD (state.factors.get target)) := by
  have hother : (stepPlane commands position state .a).walks.get .b = state.walks.get .b :=
    get_walks_stepPlane_of_ne (by decide) position
  rw [step, get_factors_stepPlane, get_factors_stepPlane, stepFactor?, running?_congr hother]
  rfl

/-! ## The walk keeps to the schedule -/

/-- A plane runs the entry that it is at, once the position of the command has come. -/
theorem running?_eq_some_iff (hstop : (state.walks.get plane).stop ≤ 8) {position : Nat} :
    state.running? commands position plane = some index ↔
      (state.walks.get plane).index = index ∧ index < (state.walks.get plane).stop ∧
        MatteCommand.position (entry commands index) ≤ position := by
  unfold running? MatteWalk.command?
  dsimp only
  by_cases hindex : (state.walks.get plane).index < (state.walks.get plane).stop
  · have hinside : (state.walks.get plane).index < 8 := Nat.lt_of_lt_of_le hindex hstop
    have hcommand : commands[(state.walks.get plane).index]? =
        some (entry commands (state.walks.get plane).index) := by
      rw [entry, Vector.getElem?_eq_getElem hinside]
      rfl
    rw [if_pos hindex, hcommand, Option.bind_some]
    split
    · rename_i hwait
      refine iff_of_false (Option.some_ne_none index).symm ?_
      rintro ⟨rfl, -, hcome⟩
      exact Nat.not_lt.mpr hcome hwait
    · rename_i hcome
      rw [Option.some_inj]
      refine ⟨?_, fun h ↦ h.1⟩
      rintro rfl
      exact ⟨rfl, hindex, Nat.le_of_not_lt hcome⟩
  · rw [if_neg hindex]
    refine iff_of_false (Option.some_ne_none index).symm ?_
    rintro ⟨rfl, hlt, -⟩
    exact hindex hlt

/-- One position: the plane runs the entry that is due there, if there is one. -/
theorem follows_step (h : (state.walks.get plane).Follows commands part count)
    (hstop : part.stop ≤ 8) :
    (∀ index, state.running? commands count plane = some index ↔
      Reaches commands part index ∧ due commands part.first index = count) ∧
    ((state.step commands count).walks.get plane).Follows commands part (count + 1) := by
  have hrunning (index : Nat) : state.running? commands count plane = some index ↔
      Reaches commands part index ∧ due commands part.first index = count :=
    (running?_eq_some_iff (by rwa [h.stop_eq])).trans h.turn_iff
  refine ⟨hrunning, ?_⟩
  rw [get_walks_step, stepPlane_eq]
  cases hran : state.running? commands count plane with
  | none =>
    apply h.wait
    intro index hreaches hdue
    have hsome := (hrunning index).mpr ⟨hreaches, hdue⟩
    rw [hran] at hsome
    cases hsome
  | some index =>
    obtain ⟨rfl, -, -⟩ := (running?_eq_some_iff (by rwa [h.stop_eq])).mp hran
    obtain ⟨hreaches, hdue⟩ := (hrunning _).mp hran
    rw [runEntry, get_walks_execute]
    split
    · exact h.finish hreaches hdue (by assumption)
    · exact h.next hreaches hdue (by assumption) _

/-! ## The whole line -/

theorem walks_startMatte (registers : RegisterFile) (plane : Plane) :
    (Decoder.startMatte registers).walks.get plane =
      ⟨(ofRegisters registers plane).first, (ofRegisters registers plane).stop, .clear⟩ := by
  rw [Decoder.startMatte, atLineStart, PerPlane.get_ofFn]
  unfold firstWalk ofRegisters
  split
  · cases plane <;> rfl
  · by_cases hplane : plane = owner registers
    · rw [if_pos hplane]
      exact if_pos hplane
    · rw [if_neg hplane]
      exact if_neg hplane

/-- The matte after the steps at the first `count` positions of a line. -/
def ofLine (registers : RegisterFile) (count : Nat) : MatteState :=
  (Decoder.startMatte registers).run registers.matteCommands count

theorem follows_ofLine (registers : RegisterFile) (plane : Plane) (count : Nat) :
    ((ofLine registers count).walks.get plane).Follows registers.matteCommands
      (ofRegisters registers plane) count := by
  induction count with
  | zero =>
    rw [ofLine, run_zero, walks_startMatte]
    refine ⟨rfl, Nat.le_refl _, ?_, ?_⟩
    · intro index hlt hreaches
      exact absurd hreaches.1 (Nat.not_le.mpr hlt)
    · intro hpending
      refine ⟨⟨Nat.le_refl _, hpending, ?_⟩, Nat.zero_le _⟩
      intro earlier hlt hfirst
      exact absurd hfirst (Nat.not_le.mpr hlt)
  | succ count ih =>
    rw [ofLine, run_succ]
    exact (follows_step ih (stop_ofRegisters_le registers plane)).2

/-- On a line a plane runs each entry where it is due. -/
theorem running?_ofLine_eq_some_iff {registers : RegisterFile} :
    (ofLine registers count).running? registers.matteCommands count plane = some index ↔
      Reaches registers.matteCommands (ofRegisters registers plane) index ∧
        due registers.matteCommands (ofRegisters registers plane).first index = count :=
  (follows_step (follows_ofLine registers plane count)
    (stop_ofRegisters_le registers plane)).1 index

/-- The entries that a plane runs at the first `count` positions of a line, as it comes to them. -/
def ran (registers : RegisterFile) (plane : Plane) (count : Nat) : List Nat :=
  (List.range count).filterMap fun position ↦
    (ofLine registers position).running? registers.matteCommands position plane

theorem ran_succ (registers : RegisterFile) (plane : Plane) (count : Nat) :
    ran registers plane (count + 1) = ran registers plane count ++
      ((ofLine registers count).running? registers.matteCommands count plane).toList := by
  rw [ran, ran, List.range_succ, List.filterMap_append]
  cases hran : (ofLine registers count).running? registers.matteCommands count plane with
  | none => simp [hran]
  | some index => simp [hran]

/-- What is executed by the next position is what was before, and the entry that is due there. -/
theorem executed_succ (registers : RegisterFile) (plane : Plane) (count : Nat) :
    executed registers.matteCommands (ofRegisters registers plane) (count + 1) =
      executed registers.matteCommands (ofRegisters registers plane) count ++
        ((ofLine registers count).running? registers.matteCommands count plane).toList := by
  apply (pairwise_executed _ _ _).eq_of_mem_iff
  · rw [List.pairwise_append]
    refine ⟨pairwise_executed _ _ _, ?_, ?_⟩
    · cases (ofLine registers count).running? registers.matteCommands count plane <;> simp
    · intro earlier hearlier index hindex
      obtain ⟨hreaches, hdue⟩ := running?_ofLine_eq_some_iff.mp (Option.mem_toList.mp hindex)
      obtain ⟨hbefore, hpassed⟩ := mem_executed_iff.mp hearlier
      rcases Nat.lt_or_ge earlier index with hlt | hge
      · exact hlt
      · rcases Nat.eq_or_lt_of_le hge with rfl | hgt
        · omega
        · have hlater := due_lt_due registers.matteCommands hreaches.1 hgt
          omega
  · intro index
    rw [List.mem_append, Option.mem_toList, running?_ofLine_eq_some_iff, mem_executed_iff,
      mem_executed_iff, ← and_or_left, Nat.lt_succ_iff_lt_or_eq]

theorem ran_eq_executed (registers : RegisterFile) (plane : Plane) (count : Nat) :
    ran registers plane count =
      executed registers.matteCommands (ofRegisters registers plane) count := by
  induction count with
  | zero => simp [ran, executed]
  | succ count ih => rw [ran_succ, executed_succ, ih]

/-- The flags are set and cleared by the executed commands, one after the other. -/
theorem flags_ofLine (registers : RegisterFile) (plane : Plane) (count : Nat) :
    (ofLine registers count).flags plane =
      ((executed registers.matteCommands (ofRegisters registers plane) count).map
        (entry registers.matteCommands)).foldl MatteCommand.applyFlag .clear := by
  induction count with
  | zero =>
    rw [flags, ofLine, run_zero, walks_startMatte]
    simp [executed]
  | succ count ih =>
    rw [ofLine, run_succ, flags_step, executed_succ, List.map_append, List.foldl_append, ← ih]
    rfl

/-- The flags of a plane follow from its own part of the table. -/
theorem flags_ofLine_congr {registers other : RegisterFile} {plane : Plane}
    (hpart : ofRegisters other plane = ofRegisters registers plane)
    (hentries : ∀ i, (ofRegisters registers plane).first ≤ i →
      i < (ofRegisters registers plane).stop →
      entry registers.matteCommands i = entry other.matteCommands i) (count : Nat) :
    (ofLine other count).flags plane = (ofLine registers count).flags plane := by
  rw [flags_ofLine, flags_ofLine, hpart, ← executed_congr hentries]
  congr 1
  apply List.map_congr_left
  intro index hindex
  obtain ⟨⟨hfirst, hstop, -⟩, -⟩ := mem_executed_iff.mp hindex
  exact (hentries index hfirst hstop).symm

/-! ## The last setting of a factor -/

/-- In the steps at the first `count` positions the plane runs an entry that sets the factor of the
target plane. -/
def SetsFactor (registers : RegisterFile) (count : Nat) (target plane : Plane) (index : Nat) :
    Prop :=
  index ∈ executed registers.matteCommands (ofRegisters registers plane) count ∧
    (MatteCommand.action (entry registers.matteCommands index)).factorPlane? = some target

/-- Entry `index` of the plane runs before entry `later` of the other plane or the same: at an
earlier position, or at the same position, where plane A comes before plane B. -/
def RunsBefore (registers : RegisterFile) (plane : Plane) (index : Nat) (other : Plane)
    (later : Nat) : Prop :=
  let position (side : Plane) (entry : Nat) :=
    due registers.matteCommands (ofRegisters registers side).first entry
  position plane index < position other later ∨
    position plane index = position other later ∧ plane = .a ∧ other = .b

/-- The plane's entry is the last of those that set the factor of the target plane. -/
structure IsLastSetting (registers : RegisterFile) (count : Nat) (target plane : Plane)
    (index : Nat) : Prop where
  setsFactor : SetsFactor registers count target plane index
  others : ∀ side other, SetsFactor registers count target side other →
    (side = plane ∧ other = index) ∨ RunsBefore registers side other plane index

variable {registers : RegisterFile}

theorem setsFactor_succ_iff : SetsFactor registers (count + 1) target plane index ↔
    SetsFactor registers count target plane index ∨
      ((ofLine registers count).running? registers.matteCommands count plane = some index ∧
        (MatteCommand.action (entry registers.matteCommands index)).factorPlane? =
          some target) := by
  rw [SetsFactor, SetsFactor, executed_succ, List.mem_append, Option.mem_toList, or_and_right]

/-- What has been executed is due before the present position. -/
theorem SetsFactor.due_lt (h : SetsFactor registers count target plane index) :
    due registers.matteCommands (ofRegisters registers plane).first index < count :=
  (mem_executed_iff.mp h.1).2

theorem stepFactor?_eq_some_iff {value : UInt8} :
    (ofLine registers count).stepFactor? registers.matteCommands count plane target = some value ↔
      ∃ index, (ofLine registers count).running? registers.matteCommands count plane =
          some index ∧
        (MatteCommand.action (entry registers.matteCommands index)).factorPlane? = some target ∧
        MatteCommand.factor (entry registers.matteCommands index) = value := by
  rw [stepFactor?, Option.bind_eq_some_iff]
  simp only [MatteCommand.factorFor?, Option.ite_none_right_eq_some, Option.some_inj]

/-- The factor that a step sets is due to the last setting so far. -/
theorem exists_isLastSetting_of_step {value : UInt8}
    (hsets : (ofLine registers count).stepFactor? registers.matteCommands count plane target =
      some value)
    (hlast : ∀ side, side ≠ plane →
      (ofLine registers count).stepFactor? registers.matteCommands count side target = none ∨
        side = .a ∧ plane = .b) :
    ∃ index, IsLastSetting registers (count + 1) target plane index ∧
      MatteCommand.factor (entry registers.matteCommands index) = value := by
  obtain ⟨index, hran, hfactor, hvalue⟩ := stepFactor?_eq_some_iff.mp hsets
  obtain ⟨-, hdue⟩ := running?_ofLine_eq_some_iff.mp hran
  refine ⟨index, ⟨setsFactor_succ_iff.mpr (.inr ⟨hran, hfactor⟩), ?_⟩, hvalue⟩
  intro side other hother
  rcases setsFactor_succ_iff.mp hother with hbefore | ⟨hothers, htarget⟩
  · right
    left
    simp only [hdue]
    exact hbefore.due_lt
  · by_cases hside : side = plane
    · subst hside
      rw [hran] at hothers
      exact .inl ⟨rfl, (Option.some.inj hothers).symm⟩
    · right
      right
      rcases hlast side hside with hnone | hplanes
      · have hsome := stepFactor?_eq_some_iff.mpr ⟨other, hothers, htarget, rfl⟩
        rw [hnone] at hsome
        cases hsome
      · obtain ⟨-, hsame⟩ := running?_ofLine_eq_some_iff.mp hothers
        exact ⟨hsame.trans hdue.symm, hplanes⟩

/-- A position at which neither plane sets the factor leaves its last setting as it is. -/
theorem setsFactor_succ_of_none
    (h : ∀ side, (ofLine registers count).stepFactor? registers.matteCommands count side target =
      none) (plane : Plane) (index : Nat) :
    SetsFactor registers (count + 1) target plane index ↔
      SetsFactor registers count target plane index := by
  rw [setsFactor_succ_iff]
  apply or_iff_left
  rintro ⟨hran, hfactor⟩
  have hsome := stepFactor?_eq_some_iff.mpr ⟨index, hran, hfactor, rfl⟩
  rw [h plane] at hsome
  cases hsome

/-- A factor is what its last setting makes it, and as it was at the start of the line while there
is none. -/
theorem get_factors_ofLine (registers : RegisterFile) (target : Plane) (count : Nat) :
    (∃ plane index, IsLastSetting registers count target plane index ∧
      (ofLine registers count).factors.get target =
        MatteCommand.factor (entry registers.matteCommands index)) ∨
    ((∀ plane index, ¬ SetsFactor registers count target plane index) ∧
      (ofLine registers count).factors.get target = registers.contributionFactor.get target) := by
  induction count with
  | zero =>
    right
    exact ⟨fun plane index h ↦ absurd h.due_lt (Nat.not_lt_zero _), rfl⟩
  | succ count ih =>
    have hstep := get_factors_step (ofLine registers count) registers.matteCommands count target
    rw [ofLine, run_succ, ← ofLine, hstep]
    cases hb : (ofLine registers count).stepFactor? registers.matteCommands count .b target with
    | some value =>
      left
      obtain ⟨index, hlast, rfl⟩ := exists_isLastSetting_of_step hb fun side hside ↦
        .inr ⟨Plane.eq_other_of_ne hside, rfl⟩
      exact ⟨.b, index, hlast, rfl⟩
    | none =>
      cases ha : (ofLine registers count).stepFactor? registers.matteCommands count .a target with
      | some value =>
        left
        obtain ⟨index, hlast, rfl⟩ := exists_isLastSetting_of_step ha fun side hside ↦ by
          left
          rw [Plane.eq_other_of_ne hside]
          exact hb
        exact ⟨.a, index, hlast, rfl⟩
      | none =>
        have hsame := setsFactor_succ_of_none (Plane.forall_iff.mpr ⟨ha, hb⟩)
        rcases ih with ⟨plane, index, hlast, hvalue⟩ | ⟨hnever, hvalue⟩
        · left
          refine ⟨plane, index, ⟨(hsame _ _).mpr hlast.setsFactor, ?_⟩, hvalue⟩
          intro side other hother
          exact hlast.others side other ((hsame _ _).mp hother)
        · right
          exact ⟨fun plane index h ↦ hnever plane index ((hsame _ _).mp h), hvalue⟩

/-! ## The schedule -/

/-- After the steps at the positions up to `k`, each plane has run exactly the entries of its part
that are due by then, up to the first that ends the matte. Its flags are what those commands make of
clear flags, so a plane without a part has both clear, and with two mattes the flags of a plane
follow from its own half of the table. Each contribution factor is that of the last command that
sets it, on whichever plane, or is still that of the start of the line. -/
theorem matte_follows_schedule (registers : RegisterFile) (k : Nat) :
    let part := ofRegisters registers
    let matte := (Decoder.startMatte registers).run registers.matteCommands (k + 1)
    let executed plane := (List.range (part plane).stop).filter fun j ↦
      Reaches registers.matteCommands (part plane) j ∧
        due registers.matteCommands (part plane).first j ≤ k
    (∀ plane, ran registers plane (k + 1) = executed plane) ∧
    (∀ plane, matte.flags plane =
      ((executed plane).map (entry registers.matteCommands)).foldl MatteCommand.applyFlag .clear) ∧
    (∀ plane, (part plane).first = (part plane).stop → matte.flags plane = .clear) ∧
    (∀ other : RegisterFile, ImageCoding.twoMattes registers.imageCoding →
      ImageCoding.twoMattes other.imageCoding → ∀ plane,
      (∀ j, (part plane).first ≤ j → j < (part plane).stop →
        entry registers.matteCommands j = entry other.matteCommands j) →
      ((Decoder.startMatte other).run other.matteCommands (k + 1)).flags plane =
        matte.flags plane) ∧
    ∀ target,
      (∃ plane j, IsLastSetting registers (k + 1) target plane j ∧
        matte.factors.get target = MatteCommand.factor (entry registers.matteCommands j)) ∨
      ((∀ plane j, ¬ SetsFactor registers (k + 1) target plane j) ∧
        matte.factors.get target = registers.contributionFactor.get target) := by
  intro part matte executed
  have hexecuted (plane : Plane) : MattePart.executed registers.matteCommands (part plane) (k + 1) =
      executed plane := by
    apply List.filter_congr
    intro j _
    rw [decide_eq_decide, Nat.lt_succ_iff]
  have hflags (plane : Plane) : matte.flags plane =
      ((executed plane).map (entry registers.matteCommands)).foldl MatteCommand.applyFlag
        .clear := by
    rw [← hexecuted plane]
    exact flags_ofLine registers plane (k + 1)
  refine ⟨?_, hflags, ?_, ?_, fun target ↦ get_factors_ofLine registers target (k + 1)⟩
  · intro plane
    rw [← hexecuted plane]
    exact ran_eq_executed registers plane (k + 1)
  · intro plane hidle
    rw [hflags, ← hexecuted plane, executed_eq_nil hidle]
    rfl
  · intro other htwo hothers plane hentries
    have hpart : ofRegisters other plane = part plane := by
      simp only [part, ofRegisters, htwo, hothers, if_true]
    exact flags_ofLine_congr hpart hentries (k + 1)

/-- Two mattes. On plane A the second command has to wait for the first, and the third ends the
matte; plane B has commands for the seventh position and the last. -/
def crowdedMatte : RegisterFile :=
  { RegisterFile.initial with
    imageCoding := 0x80000
    matteCommands := #v[0x90000A, 0xF15000, 0, 0x800000, 0x60780C, 0x9003FE, 0, 0] }

theorem matte_follows_schedule_crowded :
    let other := { crowdedMatte with matteCommands := crowdedMatte.matteCommands.set 4 0x910000 }
    let matte := (Decoder.startMatte crowdedMatte).run crowdedMatte.matteCommands 8
    ran crowdedMatte .a 8 = [0, 1, 2] ∧ ran crowdedMatte .b 8 = [4] ∧
      matte.flags .a = ⟨true, true⟩ ∧
      ((Decoder.startMatte other).run other.matteCommands 8).flags .a = ⟨true, true⟩ := by
  intro other matte
  obtain ⟨hran, hflags, -, hother, -⟩ := matte_follows_schedule crowdedMatte 7
  have hfirst : matte.flags .a = ⟨true, true⟩ := by
    refine (hflags .a).trans ?_
    decide +kernel
  refine ⟨?_, ?_, hfirst, ?_⟩
  · refine (hran .a).trans ?_
    decide +kernel
  · refine (hran .b).trans ?_
    decide +kernel
  · rw [← hfirst]
    apply hother other (by decide +kernel) (by decide +kernel)
    intro j _ hj
    have hhalf : ∀ j < 4, entry crowdedMatte.matteCommands j = entry other.matteCommands j := by
      decide +kernel
    exact hhalf j hj

end MatteState

end DualPlaneVideo
