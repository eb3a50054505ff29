import Mathlib.Algebra.BigOperators.Group.Finset.Basic
import Mathlib.Algebra.Order.BigOperators.Group.List
import RidFirmware.Lib.Grid

/-! Timers that are served in rounds: each round serves the timers that are due, in a fixed order, and moves
each of them past the time of the round. Between two services of one timer the others are served only so
often, whatever the times of the rounds. -/

namespace RidFirmware.Lib

section
variable {Key : Type*} {period : Key → Nat} {order : List Key}

def afterRound (period : Key → Nat) (nowMs : Nat) (due : Key → Nat) (key : Key) : Nat :=
  if due key ≤ nowMs then pastTime (period key) nowMs (due key) else due key

/-- The timers served in each of some rounds. -/
def rounds (period : Key → Nat) (order : List Key) : (Key → Nat) → List Nat → List (List Key)
  | _, [] => []
  | due, nowMs :: rest =>
      order.filter (fun key => due key ≤ nowMs) :: rounds period order (afterRound period nowMs due) rest

/-- Only the timers in the order matter. -/
theorem rounds_congr {first second : Key → Nat} (same : ∀ key ∈ order, first key = second key)
    (times : List Nat) : rounds period order first times = rounds period order second times := by
  induction times generalizing first second with
  | nil => rfl
  | cons nowMs rest ih =>
    have served : order.filter (fun key => first key ≤ nowMs) =
        order.filter (fun key => second key ≤ nowMs) := by
      apply List.filter_congr
      intro key member
      rw [same key member]
    have later : ∀ key ∈ order, afterRound period nowMs first key = afterRound period nowMs second key := by
      intro key member
      unfold afterRound
      rw [same key member]
    rw [rounds, rounds, served, ih later]

theorem lt_afterRound (nowMs : Nat) (due : Key → Nat) {key : Key} (positive : 0 < period key) :
    nowMs < afterRound period nowMs due key := by
  unfold afterRound
  split_ifs with fired
  · exact pastTime_gt positive
  · exact Nat.not_le.mp fired

theorem afterRound_le {nowMs : Nat} {due : Key → Nat} {key : Key} (fired : due key ≤ nowMs) :
    afterRound period nowMs due key ≤ nowMs + period key := by
  have whole := Nat.div_mul_le_self (nowMs - due key) (period key)
  unfold afterRound pastTime
  rw [if_pos fired, Nat.add_mul, Nat.one_mul]
  omega

theorem add_period_le_afterRound {nowMs : Nat} {due : Key → Nat} {key : Key} (fired : due key ≤ nowMs) :
    due key + period key ≤ afterRound period nowMs due key := by
  unfold afterRound pastTime
  rw [if_pos fired, Nat.add_mul, Nat.one_mul]
  omega

theorem mem_rounds {key : Key} {due : Key → Nat} {times : List Nat}
    (served : key ∈ (rounds period order due times).flatten) : key ∈ order := by
  induction times generalizing due with
  | nil => cases served
  | cons nowMs rest ih =>
    rw [rounds, List.flatten_cons, List.mem_append] at served
    rcases served with now | later
    · exact (List.mem_filter.mp now).1
    · exact ih later

/-- A timer that is not served is not due. -/
theorem rounds_silent {key : Key} (member : key ∈ order) {due : Key → Nat} {times : List Nat}
    (silent : key ∉ (rounds period order due times).flatten) : ∀ nowMs ∈ times, nowMs < due key := by
  induction times generalizing due with
  | nil => exact List.forall_mem_nil _
  | cons nowMs rest ih =>
    rw [rounds, List.flatten_cons, List.mem_append, not_or] at silent
    have waits : nowMs < due key := by
      by_contra fired
      exact silent.1 (List.mem_filter.mpr ⟨member, decide_eq_true (Nat.not_lt.mp fired)⟩)
    have later := ih silent.2
    have same : afterRound period nowMs due key = due key := if_neg (Nat.not_le.mpr waits)
    rw [same] at later
    exact List.forall_mem_cons.mpr ⟨waits, later⟩

/-- One of the rounds, and those after it. -/
theorem rounds_split {due : Key → Nat} {times : List Nat} {before later : List (List Key)} {round : List Key}
    (split : rounds period order due times = before ++ round :: later) :
    ∃ (due' : Key → Nat) (nowMs : Nat) (rest : List Nat), round = order.filter (fun key => due' key ≤ nowMs) ∧
      later = rounds period order (afterRound period nowMs due') rest := by
  induction before generalizing due times with
  | nil =>
    cases times with
    | nil => cases split
    | cons nowMs rest =>
      obtain ⟨rfl, rfl⟩ := List.cons.inj split
      exact ⟨due, nowMs, rest, rfl, rfl⟩
  | cons first before ih =>
    cases times with
    | nil => cases split
    | cons nowMs rest => exact ih (List.cons.inj split).2

theorem rounds_prefix {due : Key → Nat} {times : List Nat} {before later : List (List Key)}
    (split : rounds period order due times = before ++ later) :
    ∃ first, before = rounds period order due first := by
  induction before generalizing due times with
  | nil => exact ⟨[], rfl⟩
  | cons round before ih =>
    cases times with
    | nil => cases split
    | cons nowMs rest =>
      obtain ⟨rfl, tail⟩ := List.cons.inj split
      obtain ⟨first, same⟩ := ih tail
      exact ⟨nowMs :: first, by rw [rounds, same]⟩

/-- The list of a list of lists in which an item stands. -/
theorem exists_flatten_split {Item : Type*} {lists : List (List Item)} {before after : List Item} {item : Item}
    (split : lists.flatten = before ++ item :: after) :
    ∃ earlier front back later, lists = earlier ++ (front ++ item :: back) :: later ∧
      before = earlier.flatten ++ front ∧ after = back ++ later.flatten := by
  rcases List.flatten_eq_append_iff.mp split with ⟨earlier, rest, rfl, rfl, tail⟩ |
    ⟨earlier, front, head, back, later, rfl, rfl, tail⟩
  · obtain ⟨silent, back, later, rfl, none, rfl⟩ := List.flatten_eq_cons_iff.mp tail.symm
    refine ⟨earlier ++ silent, [], back, later, ?_, ?_, rfl⟩
    · rw [List.append_assoc]
      rfl
    · have empty : silent.flatten = [] := List.flatten_eq_nil_iff.mpr none
      rw [List.flatten_append, empty, List.append_nil, List.append_nil]
  · obtain ⟨rfl, rfl⟩ := List.cons.inj tail
    exact ⟨earlier, front, back, later, rfl, rfl, rfl⟩

/-- What a round serves before and after one of its timers comes before and after it in the order. -/
theorem round_sides (distinct : order.Nodup) {serves : Key → Bool} {front back left right : List Key} {key : Key}
    (round : order.filter serves = front ++ key :: back) (ordered : order = left ++ key :: right) :
    front.Sublist left ∧ back.Sublist right := by
  have once : (order.filter serves).Nodup := distinct.filter _
  have served : serves key = true := by
    have member : key ∈ order.filter serves := by
      rw [round]
      exact List.mem_append_right _ List.mem_cons_self
    exact (List.mem_filter.mp member).2
  rw [ordered, List.filter_append, List.filter_cons, if_pos served] at round once
  have apart := List.nodup_middle.mp once
  rw [List.nodup_cons, List.mem_append, not_or] at apart
  obtain ⟨rfl, _, rfl⟩ := (List.append_cons_inj_of_notMem apart.1.1 apart.1.2).mp round
  exact ⟨List.filter_sublist, List.filter_sublist⟩

/-- Between two services of a timer: the end of the round of the first, some rounds of less than a period, and
the start of the round of the second. -/
theorem between_rounds (distinct : order.Nodup) {due : Key → Nat} {times : List Nat}
    {before between after : List Key} {key : Key}
    (split : (rounds period order due times).flatten = before ++ key :: (between ++ key :: after))
    (apart : key ∉ between) :
    ∃ (due' : Key → Nat) (nowMs : Nat) (times' : List Nat) (back front left right : List Key),
      between = back ++ ((rounds period order (afterRound period nowMs due') times').flatten ++ front) ∧
      (∀ time ∈ times', time < nowMs + period key) ∧
      order = left ++ key :: right ∧ back.Sublist right ∧ front.Sublist left := by
  obtain ⟨_, _, back, later, isRound, _, tail⟩ := exists_flatten_split split
  obtain ⟨due', nowMs, rest, served, rfl⟩ := rounds_split isRound
  have once := distinct.filter fun key => due' key ≤ nowMs
  have member : key ∈ order.filter fun key => due' key ≤ nowMs := by
    rw [← served]
    exact List.mem_append_right _ List.mem_cons_self
  rw [← served] at once
  obtain ⟨known, fired⟩ := List.mem_filter.mp member
  have gone : key ∉ back := (List.nodup_cons.mp (List.nodup_append.mp once).2.1).1
  -- The second service is in a later round.
  obtain ⟨middle, rfl, next⟩ : ∃ middle, between = back ++ middle ∧
      (rounds period order (afterRound period nowMs due') rest).flatten = middle ++ key :: after := by
    rcases List.append_eq_append_iff.mp tail with ⟨middle, same, next⟩ | ⟨extra, same, next⟩
    · cases middle with
      | nil =>
        rw [List.append_nil] at same
        exact ⟨[], by rw [same, List.append_nil], next.symm⟩
      | cons head middle =>
        obtain ⟨rfl, _⟩ := List.cons.inj next
        exact absurd (same ▸ List.mem_append_right _ List.mem_cons_self) gone
    · exact ⟨extra, same, next⟩
  obtain ⟨whole, front, _, _, isRound', rfl, _⟩ := exists_flatten_split next
  obtain ⟨_, _, _, served', _⟩ := rounds_split isRound'
  obtain ⟨times', rfl⟩ := rounds_prefix isRound'
  obtain ⟨left, right, ordered⟩ := List.append_of_mem known
  refine ⟨due', nowMs, times', back, front, left, right, rfl, ?_, ordered,
    (round_sides distinct served.symm ordered).2, (round_sides distinct served'.symm ordered).1⟩
  intro time within
  rw [List.mem_append, List.mem_append, not_or, not_or] at apart
  have waits := rounds_silent known apart.2.1 time within
  exact waits.trans_le (afterRound_le (of_decide_eq_true fired))

variable [DecidableEq Key]

/-- Each service of a timer puts it on by at least a period. -/
theorem count_rounds (distinct : order.Nodup) {bound : Nat} {due : Key → Nat} {times : List Nat}
    (early : ∀ nowMs ∈ times, nowMs < bound) (key : Key) {steps : Nat}
    (served : steps < (rounds period order due times).flatten.count key) :
    due key + steps * period key < bound := by
  induction times generalizing due steps with
  | nil => cases served
  | cons nowMs rest ih =>
    obtain ⟨now, later⟩ := List.forall_mem_cons.mp early
    rw [rounds, List.flatten_cons, List.count_append] at served
    by_cases fired : due key ≤ nowMs
    · have once := List.nodup_iff_count_le_one.mp (distinct.filter fun key => due key ≤ nowMs) key
      cases steps with
      | zero => omega
      | succ steps =>
        have more : afterRound period nowMs due key + steps * period key < bound := ih later (by omega)
        have moved := @add_period_le_afterRound _ period nowMs due key fired
        rw [Nat.add_mul, Nat.one_mul]
        omega
    · have none : (order.filter fun key => due key ≤ nowMs).count key = 0 := by
        apply List.count_eq_zero_of_not_mem
        intro member
        exact fired (of_decide_eq_true (List.mem_filter.mp member).2)
      have same : afterRound period nowMs due key = due key := if_neg fired
      rw [none, Nat.zero_add] at served
      rw [← same]
      exact ih later served

/-- How often the other timers are served between two services of a timer, at most. -/
def othersBetween (period : Key → Nat) (order : List Key) (key : Key) : Nat :=
  ((order.erase key).map fun other => (period key - 1) / period other + 2).sum

theorem length_eq_sum_count {keys items : List Key} (distinct : keys.Nodup) (inside : items ⊆ keys) :
    items.length = (keys.map fun key => items.count key).sum := by
  rw [← List.sum_toFinset _ distinct]
  have all : ∀ item ∈ (items : Multiset Key), item ∈ keys.toFinset :=
    fun item member => List.mem_toFinset.mpr (inside member)
  have counted := Multiset.sum_count_eq_card all
  simp only [Multiset.coe_count, Multiset.coe_card] at counted
  exact counted.symm

/-- The others are served once a period, and once in one of the two rounds of the services at most. -/
theorem between_rounds_le (positive : ∀ key ∈ order, 0 < period key) (distinct : order.Nodup) {due : Key → Nat}
    {times : List Nat} {before between after : List Key} {key : Key}
    (split : (rounds period order due times).flatten = before ++ key :: (between ++ key :: after))
    (apart : key ∉ between) : between.length ≤ othersBetween period order key := by
  have inOrder : between ⊆ order.erase key := by
    intro other member
    have different : other ≠ key := fun same => apart (same ▸ member)
    have served : other ∈ (rounds period order due times).flatten := by
      rw [split]
      exact List.mem_append_right _ (List.mem_cons_of_mem _ (List.mem_append_left _ member))
    exact (List.mem_erase_of_ne different).mpr (mem_rounds served)
  have each : ∀ other ∈ order.erase key, between.count other ≤ (period key - 1) / period other + 2 := by
    intro other member
    have long := positive other (List.mem_of_mem_erase member)
    obtain ⟨due', nowMs, times', back, front, left, right, rfl, early, ordered, within, within'⟩ :=
      between_rounds distinct split apart
    have two : back.count other + front.count other ≤ 1 := by
      have ends := within.count_le other
      have ends' := within'.count_le other
      have most := List.nodup_iff_count_le_one.mp distinct other
      rw [ordered, List.count_append, List.count_cons] at most
      omega
    have few : (rounds period order (afterRound period nowMs due') times').flatten.count other ≤
        (period key - 1) / period other + 1 := by
      by_contra many
      have reached := count_rounds distinct early other (Nat.not_le.mp many)
      have began := lt_afterRound nowMs due' long
      have beyond := Nat.lt_div_mul_add (a := period key - 1) long
      rw [Nat.add_mul, Nat.one_mul] at reached
      omega
    rw [List.count_append, List.count_append]
    omega
  rw [length_eq_sum_count (distinct.erase key) inOrder]
  unfold othersBetween
  exact List.sum_le_sum each

theorem othersBetween_even {one : Nat} (positive : 0 < one) {key : Key} (member : key ∈ order)
    (even : ∀ key ∈ order, period key = one) : othersBetween period order key = 2 * (order.length - 1) := by
  have each : ∀ other ∈ order.erase key, (period key - 1) / period other + 2 = 2 := by
    intro other inside
    rw [even key member, even other (List.mem_of_mem_erase inside),
      Nat.div_eq_of_lt (Nat.sub_lt positive Nat.one_pos)]
  unfold othersBetween
  rw [List.map_congr_left each, List.map_const', List.sum_replicate_nat,
    List.length_erase_of_mem member, Nat.mul_comm]

end

end RidFirmware.Lib
