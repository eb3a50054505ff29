import RidFirmware.Lib.LeastFirst
import RidFirmware.Scheduler.Scheduler

/-! What a call of `pop_next` takes out of a queue, for every queue and time. Called again and again at one
time, it returns what has not expired by deadline, and nothing afterwards. -/

namespace RidFirmware
open Lib

def unexpired (nowMs : Nat) (payloads : List ScheduledPayload) : List ScheduledPayload :=
  payloads.filter fun payload => !payload.expired nowMs

theorem mem_unexpired {nowMs : Nat} {payloads : List ScheduledPayload} {payload : ScheduledPayload} :
    payload ∈ unexpired nowMs payloads ↔ payload ∈ payloads ∧ payload.expired nowMs = false := by
  simp [unexpired]

theorem unexpired_eq_nil {nowMs : Nat} {payloads : List ScheduledPayload} :
    unexpired nowMs payloads = [] ↔ ∀ payload ∈ payloads, payload.expired nowMs = true := by
  simp [unexpired]

/-- One call of `pop_next` on a queue: what it returns and what it leaves behind. -/
structure Popped (nowMs : Nat) (before : List ScheduledPayload) (stats : TransportStats)
    (result : Option ScheduledPayload) (after : List ScheduledPayload) (counted : TransportStats) :
    Prop where
  nothing : result = none ↔ ∀ payload ∈ before, payload.expired nowMs = true
  earliest : ∀ next, result = some next → next ∈ before ∧ next.expired nowMs = false ∧
    ∀ other ∈ before, other.expired nowMs = false → ¬other.key < next.key
  removed : (result.toList ++ after).Perm (unexpired nowMs before)
  counters : counted = { stats with
    dropped := saturatingIncrement^[before.countP (·.expired nowMs)] stats.dropped
    late := if ∃ next, result = some next ∧ next.deadlineMs < nowMs then saturatingIncrement stats.late
      else stats.late }

theorem Popped.takesLeast {nowMs : Nat} {before after : List ScheduledPayload}
    {stats counted : TransportStats} {result : Option ScheduledPayload}
    (popped : Popped nowMs before stats result after counted) :
    TakesLeast ScheduledPayload.key (unexpired nowMs before) result (unexpired nowMs after) := by
  have fresh : unexpired nowMs after = after := by
    refine List.filter_eq_self.mpr fun payload member => ?_
    have left := popped.removed.mem_iff.mp (List.mem_append_right result.toList member)
    rw [(mem_unexpired.mp left).2]
    rfl
  constructor
  · rw [fresh]
    exact popped.removed
  · intro next taken other member
    obtain ⟨inside, waiting⟩ := mem_unexpired.mp member
    exact not_lt.mp ((popped.earliest next taken).2.2 other inside waiting)
  · intro nothing
    exact unexpired_eq_nil.mpr (popped.nothing.mp nothing)

theorem TransportQueue.popNext_cases (queue : TransportQueue) (nowMs : Nat) :
    let popped := queue.popNext nowMs
    let stats := queue.stats.lose (queue.payloads.countP (·.expired nowMs))
    (unexpired nowMs queue.payloads = [] ∧ popped.1 = none ∧ popped.2.1 = { payloads := [], stats }) ∨
      ∃ next index, (unexpired nowMs queue.payloads)[index]? = some next ∧
        (∀ other ∈ unexpired nowMs queue.payloads, next.key ≤ other.key) ∧ popped.1 = some next ∧
        popped.2.1 = {
          payloads := (unexpired nowMs queue.payloads).eraseIdx index
          stats := { stats with
            late := if next.deadlineMs < nowMs then saturatingIncrement stats.late else stats.late } } := by
  obtain ⟨kept, -⟩ := removeExpired_spec nowMs queue.payloads queue.stats
  have counted := removeExpired_stats nowMs queue.payloads queue.stats
  unfold TransportQueue.popNext
  generalize TransportQueue.removeExpired nowMs queue.payloads queue.stats = purged at kept counted
  obtain ⟨left, events⟩ := purged
  change left.payloads = unexpired nowMs queue.payloads at kept
  dsimp only at counted ⊢
  rw [← counted, ← kept]
  by_cases empty : left.payloads = []
  · have nothing : left.payloads[left.oldest]? = none := by
      rw [empty]
      rfl
    rw [nothing]
    refine .inl ⟨empty, rfl, ?_⟩
    rw [← empty]
  · obtain ⟨next, found, least⟩ := left.oldest_spec empty
    rw [found]
    exact .inr ⟨next, left.oldest, found, least, rfl, rfl⟩

theorem TransportQueue.popNext_popped (queue : TransportQueue) (nowMs : Nat) :
    let popped := queue.popNext nowMs
    Popped nowMs queue.payloads queue.stats popped.1 popped.2.1.payloads popped.2.1.stats := by
  rcases queue.popNext_cases nowMs with ⟨empty, result, after⟩ | ⟨next, index, found, least, result, after⟩
  · dsimp only
    rw [result, after]
    constructor
    · exact iff_of_true rfl (unexpired_eq_nil.mp empty)
    · intro next taken
      cases taken
    · rw [empty]
      exact List.Perm.refl _
    · simp [TransportStats.lose]
  · have member := mem_unexpired.mp (List.mem_of_getElem? found)
    dsimp only
    rw [result, after]
    constructor
    · refine iff_of_false (Option.some_ne_none next) fun all => ?_
      rw [all next member.1] at member
      exact Bool.noConfusion member.2
    · intro taken same
      obtain rfl := Option.some.inj same
      refine ⟨member.1, member.2, fun other inside waiting => ?_⟩
      exact not_lt.mpr (least other (mem_unexpired.mpr ⟨inside, waiting⟩))
    · exact (perm_cons_eraseIdx found).symm
    · simp [TransportStats.lose]

namespace Scheduler

def waiting (scheduler : Scheduler) (transport : Transport) : List ScheduledPayload :=
  match transportIndex transport with
  | none => []
  | some index => (scheduler.queues index).payloads

theorem popNext_popped (scheduler : Scheduler) (transport : Transport) (nowMs : Nat) :
    let popped := scheduler.popNext transport nowMs
    Popped nowMs (scheduler.waiting transport) (scheduler.stats transport) popped.result
      (popped.next.waiting transport) (popped.next.stats transport) := by
  unfold waiting stats Scheduler.popNext
  cases transportIndex transport with
  | none =>
    constructor
    · simp
    · nofun
    · exact List.Perm.refl _
    · simp
  | some index =>
    have popped := (scheduler.queues index).popNext_popped nowMs
    dsimp only at popped ⊢
    rw [setQueue_own]
    exact popped

/-- The results of calling `pop_next` again and again at one time. -/
def popAgain (transport : Transport) (nowMs : Nat) (count : Nat) (scheduler : Scheduler) :
    List (Option ScheduledPayload) :=
  draws (fun scheduler => ((popNext scheduler transport nowMs).result,
    (popNext scheduler transport nowMs).next)) count scheduler

/-- The scheduler drains by deadline. For every state of it, every transport and time, `pop_next` returns
the earliest payload that has not expired, if there is one, and takes out this one and what has expired,
counting each. Called again and again, it returns each payload that has not expired once, in order, and
nothing afterwards. -/
theorem drains_by_deadline (scheduler : Scheduler) (transport : Transport) (nowMs : Nat) :
    let popped := scheduler.popNext transport nowMs
    Popped nowMs (scheduler.waiting transport) (scheduler.stats transport) popped.result
        (popped.next.waiting transport) (popped.next.stats transport) ∧
      ∃ order : List ScheduledPayload, order.Perm (unexpired nowMs (scheduler.waiting transport)) ∧
        order.Pairwise (fun first later => first.key ≤ later.key) ∧
        ∀ count, scheduler.popAgain transport nowMs count =
          (order.map some).take count ++ List.replicate (count - order.length) none := by
  refine ⟨scheduler.popNext_popped transport nowMs, ?_⟩
  apply draws_ascending _ fun scheduler : Scheduler =>
    unexpired nowMs (scheduler.waiting transport)
  intro state
  exact (state.popNext_popped transport nowMs).takesLeast

end Scheduler

end RidFirmware
