import RidFirmware.Runtime.Sending

/-! What a tick does to the sink. A relation between the sink and the events of the tick so far is kept
by the whole tick if it is kept by one submission and does not depend on the other events. -/

namespace RidFirmware
open Lib

/-- The payloads handed to the sink, whether it takes them or not. -/
def handed (events : List RuntimeEvent) : List ScheduledPayload :=
  events.filterMap fun event =>
    match event with
    | .submitted payload _ => some payload
    | _ => none

theorem handed_append (before after : List RuntimeEvent) :
    handed (before ++ after) = handed before ++ handed after := List.filterMap_append

section
variable {Number Engine Sink : Type} {env : RuntimeEnv Number Engine Sink}

/-- A relation kept by every call of the sink. -/
structure SinkRule (env : RuntimeEnv Number Engine Sink) (holds : Sink → List RuntimeEvent → Prop) :
    Prop where
  submit : ∀ sink events payload, holds sink events →
    holds (env.submit sink payload).2 (events ++ [.submitted payload (env.submit sink payload).1])
  attempt : ∀ sink events index kind sequence, holds sink events →
    holds sink (events ++ [.attempt index kind sequence])
  encodeFailed : ∀ sink events index kind, holds sink events →
    holds sink (events ++ [.encodeFailed index kind])

variable {holds : Sink → List RuntimeEvent → Prop}

theorem SinkRule.send (rule : SinkRule env holds) {progress : Progress Engine Sink}
    (before : holds progress.sink progress.events) (index : Nat) (kind : MessageKind)
    (header : ScheduledPayload) (build : UInt8 → Bytes → Option Bytes) (encoded : Option Bytes) :
    holds (progress.send env index kind header build encoded).sink
      (progress.send env index kind header build encoded).events := by
  have attempted := rule.attempt progress.sink progress.events index kind progress.fleet.sequence before
  rcases @Progress.send_cases _ _ _ env progress index kind header build encoded with handed | abandoned
  · obtain ⟨_, frame, _, _, _, sent⟩ := handed
    rw [sent, Progress.submit_sink, Progress.submit_events]
    exact rule.submit _ _ (header.withContent frame) attempted
  · obtain ⟨_, _, sent⟩ := abandoned
    rw [sent]
    exact rule.encodeFailed _ _ index kind attempted

theorem SinkRule.tickRule (rule : SinkRule env holds) (nowMs : Nat) (items : List (AircraftConfig × Nat)) :
    TickRule env nowMs items fun progress => holds progress.sink progress.events where
  sampled := fun _ _ before => before
  advanced := fun _ _ _ _ before => before
  message := fun _ _ _ _ _ _ before => rule.send before _ _ _ _ _
  pack := fun _ _ _ _ _ before => rule.send before _ _ _ _ _

theorem SinkRule.tick (rule : SinkRule env holds) (fleet : Fleet Engine) {sink : Sink}
    (before : holds sink []) (nowMs : Nat) :
    holds (fleet.tick env sink nowMs).sink (fleet.tick env sink nowMs).events :=
  (rule.tickRule nowMs fleet.aircraft.zipIdx).tick fleet before

def afterCalls (env : RuntimeEnv Number Engine Sink) (sink : Sink) (payloads : List ScheduledPayload) : Sink :=
  payloads.foldl (fun sink payload => (env.submit sink payload).2) sink

/-- A tick calls the sink with the payloads of its log, in their order, and does nothing else to it. -/
theorem tick_calls (runtime : Runtime Engine) (sink : Sink) (nowMs : Nat) :
    let ticked := runtime.tick env sink nowMs
    ticked.2.2.1 = afterCalls env sink (handed ticked.2.2.2) := by
  have rule : SinkRule env fun called events => called = afterCalls env sink (handed events) := by
    constructor
    · intro called events payload before
      unfold afterCalls at before ⊢
      rw [handed_append, List.foldl_append, ← before]
      rfl
    · intro called events index kind sequence before
      rw [handed_append]
      exact before.trans (congrArg _ (List.append_nil _).symm)
    · intro called events index kind before
      rw [handed_append]
      exact before.trans (congrArg _ (List.append_nil _).symm)
  rcases tick_cases env runtime sink nowMs with refused | ⟨fleet, _, _, same⟩
  · rw [refused]
    rfl
  · rw [same]
    exact rule.tick fleet rfl nowMs

end

end RidFirmware
