import DualPlaneVideo.Matte.Walk
import DualPlaneVideo.RegisterFile.Basic
import Mathlib.Data.Nat.Init
import Mathlib.Tactic.Common

/-!
# The schedule of the matte

When a plane comes to a command follows from the positions of the commands alone: a command runs at
its own position, or right after the preceding one if that is later. So the commands that have run
at a position can be told without running any of them, and with them the flags and the contribution
factors that they leave.
-/

namespace DualPlaneVideo

namespace MatteAction

/-- The value that the action gives to a matte flag. -/
def flagValue? : MatteAction → Option Bool
  | setFlag value => some value
  | setFactorAndFlag _ value => some value
  | _ => none

/-- The plane whose contribution factor the action sets. -/
def factorPlane? : MatteAction → Option Plane
  | setFactor plane => some plane
  | setFactorAndFlag plane _ => some plane
  | _ => none

end MatteAction

namespace MatteCommand

/-- The flags after a command, which sets or clears one of them or leaves both alone. -/
def applyFlag (flags : MatteFlags) (command : Word) : MatteFlags :=
  match (action command).flagValue? with
  | some value => flags.set (selector command) value
  | none => flags

/-- The contribution factor that a command gives to a plane. -/
def factorFor? (command : Word) (target : Plane) : Option UInt8 :=
  if (action command).factorPlane? = some target then some (factor command) else none

end MatteCommand

/-- A plane's part of the command table: its entries from `first` to before `stop`. -/
structure MattePart where
  first : Nat
  stop : Nat
  deriving DecidableEq

namespace MattePart

/-- Entry `index` of the command table. -/
def entry (commands : Vector Word 8) (index : Nat) : Word := commands[index]?.getD 0

/-- The plane that bit 16 of the first entry names. -/
def owner (registers : RegisterFile) : Plane :=
  if (entry registers.matteCommands 0).bit 16 then .b else .a

/-- With two mattes each plane has one half of the table; with one, its owner has all of it. -/
def ofRegisters (registers : RegisterFile) (plane : Plane) : MattePart :=
  if ImageCoding.twoMattes registers.imageCoding then
    match plane with
    | .a => ⟨0, 4⟩
    | .b => ⟨4, 8⟩
  else if plane = owner registers then ⟨0, 8⟩
  else ⟨8, 8⟩

/-- The position at which a plane whose part starts at entry `first` comes to entry `index`. -/
def due (commands : Vector Word 8) (first : Nat) : Nat → Nat
  | 0 => MatteCommand.position (entry commands 0)
  | index + 1 =>
    if index < first then MatteCommand.position (entry commands (index + 1))
    else max (MatteCommand.position (entry commands (index + 1))) (due commands first index + 1)

/-- The command at an entry ends the matte of the plane that runs it. -/
def Terminates (commands : Vector Word 8) (index : Nat) : Prop :=
  MatteCommand.action (entry commands index) = .terminate

instance (commands : Vector Word 8) (index : Nat) : Decidable (Terminates commands index) :=
  inferInstanceAs (Decidable (_ = _))

/-- The plane comes to the entry: it is in the plane's part, and no entry before it ends the
matte. -/
def Reaches (commands : Vector Word 8) (part : MattePart) (index : Nat) : Prop :=
  part.first ≤ index ∧ index < part.stop ∧
    ∀ earlier < index, part.first ≤ earlier → ¬ Terminates commands earlier

instance (commands : Vector Word 8) (part : MattePart) (index : Nat) :
    Decidable (Reaches commands part index) :=
  inferInstanceAs (Decidable (_ ∧ _ ∧ _))

/-- The entries that a plane has executed after the steps at the first `count` positions, in table
order. -/
def executed (commands : Vector Word 8) (part : MattePart) (count : Nat) : List Nat :=
  (List.range part.stop).filter fun index ↦
    Reaches commands part index ∧ due commands part.first index < count

variable {commands : Vector Word 8} {part : MattePart} {first index later count : Nat}

theorem mem_executed_iff : index ∈ executed commands part count ↔
    Reaches commands part index ∧ due commands part.first index < count := by
  rw [executed, List.mem_filter, List.mem_range, decide_eq_true_iff]
  exact and_iff_right_of_imp fun h ↦ h.1.2.1

theorem pairwise_executed (commands : Vector Word 8) (part : MattePart) (count : Nat) :
    (executed commands part count).Pairwise (· < ·) :=
  List.pairwise_lt_range.filter _

/-! ## When entries are due -/

theorem due_first (commands : Vector Word 8) (first : Nat) :
    due commands first first = MatteCommand.position (entry commands first) := by
  cases first with
  | zero => rfl
  | succ first => rw [due, if_pos (Nat.lt_succ_self first)]

theorem due_succ (h : first ≤ index) : due commands first (index + 1) =
    max (MatteCommand.position (entry commands (index + 1))) (due commands first index + 1) := by
  rw [due, if_neg (Nat.not_lt.mpr h)]

theorem position_le_due (h : first ≤ index) :
    MatteCommand.position (entry commands index) ≤ due commands first index := by
  rcases Nat.eq_or_lt_of_le h with rfl | hlt
  · exact Nat.le_of_eq (due_first commands first).symm
  · cases index with
    | zero => exact absurd hlt (Nat.not_lt_zero first)
    | succ index =>
      rw [due_succ (Nat.le_of_lt_succ hlt)]
      exact Nat.le_max_left _ _

/-- Later entries are due later, since a plane runs one command at a position. -/
theorem due_lt_due (commands : Vector Word 8) (h : first ≤ index) (hlt : index < later) :
    due commands first index < due commands first later := by
  induction later, hlt using Nat.le_induction with
  | base =>
    rw [due_succ h]
    exact Nat.lt_of_lt_of_le (Nat.lt_succ_self _) (Nat.le_max_right _ _)
  | succ later hlater ih =>
    rw [due_succ (Nat.le_trans h (Nat.le_of_lt hlater))]
    exact Nat.lt_of_lt_of_le (Nat.lt_succ_of_lt ih) (Nat.le_max_right _ _)

/-- An entry whose position has come is due as soon as the entries before it have run. -/
theorem due_le_of_forall_lt (h : first ≤ index)
    (hposition : MatteCommand.position (entry commands index) ≤ count)
    (hbefore : ∀ earlier, first ≤ earlier → earlier < index → due commands first earlier < count) :
    due commands first index ≤ count := by
  rcases Nat.eq_or_lt_of_le h with rfl | hlt
  · rwa [due_first]
  · cases index with
    | zero => exact absurd hlt (Nat.not_lt_zero first)
    | succ index =>
      have hfirst := Nat.le_of_lt_succ hlt
      rw [due_succ hfirst]
      exact Nat.max_le.mpr ⟨hposition, hbefore index hfirst (Nat.lt_succ_self index)⟩

/-- The schedule of a part depends on its own entries only. -/
theorem due_congr {other : Vector Word 8} (h : first ≤ index)
    (hentries : ∀ i, first ≤ i → i ≤ index → entry commands i = entry other i) :
    due commands first index = due other first index := by
  induction index, h using Nat.le_induction with
  | base => rw [due_first, due_first, hentries first (Nat.le_refl _) (Nat.le_refl _)]
  | succ index h ih =>
    rw [due_succ h, due_succ h, hentries (index + 1) (Nat.le_succ_of_le h) (Nat.le_refl _),
      ih fun i hi hle ↦ hentries i hi (Nat.le_succ_of_le hle)]

/-- A plane without a part executes nothing. -/
theorem executed_eq_nil (h : part.first = part.stop) : executed commands part count = [] := by
  apply List.eq_nil_iff_forall_not_mem.mpr
  intro index hindex
  obtain ⟨⟨hfirst, hstop, -⟩, -⟩ := mem_executed_iff.mp hindex
  omega

theorem executed_congr {other : Vector Word 8}
    (hentries : ∀ i, part.first ≤ i → i < part.stop → entry commands i = entry other i) :
    executed commands part count = executed other part count := by
  apply List.filter_congr
  intro index hindex
  have hstop := List.mem_range.mp hindex
  rw [decide_eq_decide]
  by_cases hfirst : part.first ≤ index
  · have hdue := due_congr hfirst fun i hi hle ↦ hentries i hi (Nat.lt_of_le_of_lt hle hstop)
    have hterminates : ∀ earlier < index, part.first ≤ earlier →
        (¬ Terminates commands earlier ↔ ¬ Terminates other earlier) := by
      intro earlier hlt hle
      rw [Terminates, Terminates, hentries earlier hle (Nat.lt_trans hlt hstop)]
    rw [hdue, Reaches, Reaches,
      forall₂_congr fun earlier hlt ↦ forall_congr' (hterminates earlier hlt)]
  · exact iff_of_false (fun h ↦ hfirst h.1.1) fun h ↦ hfirst h.1.1

theorem stop_ofRegisters_le (registers : RegisterFile) (plane : Plane) :
    (ofRegisters registers plane).stop ≤ 8 := by
  unfold ofRegisters
  split
  · cases plane <;> decide
  · split <;> exact Nat.le_refl 8

end MattePart

open MattePart

/-! ## The walk of a plane -/

/-- The walk of a plane before the step at position `count`: it has passed what was due before, and
the entry that it waits for is not due any earlier. -/
structure MatteWalk.Follows (walk : MatteWalk) (commands : Vector Word 8) (part : MattePart)
    (count : Nat) : Prop where
  stop_eq : walk.stop = part.stop
  first_le : part.first ≤ walk.index
  passed : ∀ index < walk.index, Reaches commands part index →
    due commands part.first index < count
  pending : walk.index < part.stop →
    Reaches commands part walk.index ∧ count ≤ due commands part.first walk.index

variable {walk : MatteWalk} {commands : Vector Word 8} {part : MattePart} {count index : Nat}

/-- The entry that a walk is at has its turn exactly when it is due. -/
theorem MatteWalk.Follows.turn_iff (h : walk.Follows commands part count) :
    (walk.index = index ∧ index < walk.stop ∧
        MatteCommand.position (entry commands index) ≤ count) ↔
      Reaches commands part index ∧ due commands part.first index = count := by
  rw [h.stop_eq]
  constructor
  · rintro ⟨rfl, hpending, hcome⟩
    obtain ⟨hreaches, hdue⟩ := h.pending hpending
    refine ⟨hreaches, Nat.le_antisymm (due_le_of_forall_lt h.first_le hcome ?_) hdue⟩
    intro earlier hfirst hlt
    exact h.passed earlier hlt ⟨hfirst, Nat.lt_trans hlt hpending,
      fun i hi ↦ hreaches.2.2 i (Nat.lt_trans hi hlt)⟩
  · rintro ⟨hreaches, hcount⟩
    have hnext : walk.index = index := by
      rcases Nat.lt_trichotomy index walk.index with hlt | heq | hgt
      · exact absurd hcount (Nat.ne_of_lt (h.passed index hlt hreaches))
      · exact heq.symm
      · obtain ⟨-, hdue⟩ := h.pending (Nat.lt_trans hgt hreaches.2.1)
        have hlater := due_lt_due commands h.first_le hgt
        omega
    refine ⟨hnext, hreaches.2.1, ?_⟩
    rw [← hcount]
    exact position_le_due hreaches.1

/-- A position at which no entry is due passes. -/
theorem MatteWalk.Follows.wait (h : walk.Follows commands part count)
    (hnone : ∀ index, Reaches commands part index → due commands part.first index ≠ count) :
    walk.Follows commands part (count + 1) where
  stop_eq := h.stop_eq
  first_le := h.first_le
  passed index hlt hreaches := Nat.lt_succ_of_lt (h.passed index hlt hreaches)
  pending hpending := by
    obtain ⟨hreaches, hdue⟩ := h.pending hpending
    exact ⟨hreaches, Nat.lt_of_le_of_ne hdue (Ne.symm (hnone _ hreaches))⟩

/-- A command that ends the matte is the last that the plane comes to. -/
theorem MatteWalk.Follows.finish (h : walk.Follows commands part count)
    (hreaches : Reaches commands part walk.index)
    (hdue : due commands part.first walk.index = count)
    (hterminates : Terminates commands walk.index) :
    walk.finish.Follows commands part (count + 1) where
  stop_eq := h.stop_eq
  first_le := by
    rw [MatteWalk.finish, h.stop_eq]
    exact Nat.le_of_lt (Nat.lt_of_le_of_lt hreaches.1 hreaches.2.1)
  passed index _ hindex := by
    have hle : index ≤ walk.index :=
      Nat.le_of_not_lt fun hlt ↦ hindex.2.2 _ hlt hreaches.1 hterminates
    rcases Nat.eq_or_lt_of_le hle with rfl | hlt
    · exact Nat.lt_succ_of_le (Nat.le_of_eq hdue)
    · exact Nat.lt_succ_of_lt (h.passed index hlt hindex)
  pending hpending := absurd hpending (Nat.not_lt.mpr (Nat.le_of_eq h.stop_eq.symm))

/-- Behind any other command the plane waits for the next entry. -/
theorem MatteWalk.Follows.next (h : walk.Follows commands part count)
    (hreaches : Reaches commands part walk.index)
    (hdue : due commands part.first walk.index = count)
    (hgoes : ¬ Terminates commands walk.index) (flags : MatteFlags) :
    (walk.next flags).Follows commands part (count + 1) where
  stop_eq := h.stop_eq
  first_le := Nat.le_succ_of_le h.first_le
  passed index hlt hindex := by
    rcases Nat.eq_or_lt_of_le (Nat.le_of_lt_succ hlt) with rfl | hlt
    · exact Nat.lt_succ_of_le (Nat.le_of_eq hdue)
    · exact Nat.lt_succ_of_lt (h.passed index hlt hindex)
  pending hpending := by
    refine ⟨⟨Nat.le_succ_of_le h.first_le, hpending, ?_⟩, ?_⟩
    · intro earlier hlt hfirst
      rcases Nat.eq_or_lt_of_le (Nat.le_of_lt_succ hlt) with rfl | hlt
      · exact hgoes
      · exact hreaches.2.2 earlier hlt hfirst
    · rw [← hdue]
      exact due_lt_due _ h.first_le (Nat.lt_succ_self _)

end DualPlaneVideo
