import Mathlib.Data.List.Basic
import Mathlib.Data.UInt

/-! A 32-bit counter of the tasks inside a section. Each task adds one when it enters and takes one
off when it leaves, so that a counter of zero says that nobody is inside, unless 2^32 tasks are. -/

namespace RidFirmware.Lib.InFlight

variable {Task : Type*} {inside : Task → Bool} {counter : UInt32} {tasks : List Task}

/-- The counter is the number of tasks inside, as far as 32 bits tell. -/
def Counted (inside : Task → Bool) (counter : UInt32) (tasks : List Task) : Prop :=
  counter.toNat = tasks.countP inside % 2 ^ 32

theorem Counted.empty : Counted inside 0 [] := rfl

theorem countP_move (inside : Task → Bool) {index : Nat} {task : Task} (here : tasks[index]? = some task)
    (later : Task) : (tasks.set index later).countP inside + (inside task).toNat =
      tasks.countP inside + (inside later).toNat := by
  induction tasks generalizing index with
  | nil => simp at here
  | cons first rest ih =>
    cases index with
    | zero =>
      obtain rfl : first = task := by simpa using here
      rw [List.set_cons_zero, List.countP_cons, List.countP_cons]
      cases inside first <;> cases inside later <;> simp
    | succ index =>
      have moved := @ih index (by simpa using here)
      rw [List.set_cons_succ, List.countP_cons, List.countP_cons]
      omega

theorem Counted.arrive (counted : Counted inside counter tasks) {task : Task}
    (outside : inside task = false) : Counted inside counter (tasks ++ [task]) := by
  unfold Counted
  rw [List.countP_append, List.countP_singleton, outside]
  exact counted

theorem Counted.stay (counted : Counted inside counter tasks) {index : Nat} {task later : Task}
    (here : tasks[index]? = some task) (same : inside later = inside task) :
    Counted inside counter (tasks.set index later) := by
  have moved := countP_move inside here later
  rw [same] at moved
  unfold Counted
  rw [Nat.add_right_cancel moved]
  exact counted

theorem Counted.enter (counted : Counted inside counter tasks) {index : Nat} {task later : Task}
    (here : tasks[index]? = some task) (outside : inside task = false) (entered : inside later = true) :
    Counted inside (counter + 1) (tasks.set index later) := by
  have moved := countP_move inside here later
  rw [outside, entered] at moved
  unfold Counted at *
  rw [UInt32.toNat_add, counted]
  simp only [Bool.toNat_false, Bool.toNat_true, UInt32.toNat_one] at *
  omega

theorem Counted.leave (counted : Counted inside counter tasks) {index : Nat} {task later : Task}
    (here : tasks[index]? = some task) (entered : inside task = true) (outside : inside later = false) :
    Counted inside (counter - 1) (tasks.set index later) := by
  have moved := countP_move inside here later
  rw [outside, entered] at moved
  unfold Counted at *
  rw [UInt32.toNat_sub, counted]
  simp only [Bool.toNat_false, Bool.toNat_true, UInt32.toNat_one] at *
  omega

theorem Counted.none_inside (counted : Counted inside counter tasks) (zero : counter = 0)
    (few : tasks.countP inside < 2 ^ 32) : ∀ task ∈ tasks, inside task = false := by
  have none : tasks.countP inside = 0 := by
    unfold Counted at counted
    rw [zero, Nat.mod_eq_of_lt few] at counted
    exact counted.symm
  intro task member
  simpa using List.countP_eq_zero.mp none task member

end RidFirmware.Lib.InFlight
