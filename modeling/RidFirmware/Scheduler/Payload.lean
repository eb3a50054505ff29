import Mathlib.Data.Prod.Lex
import RidFirmware.Lib.BoundedQueue
import RidFirmware.Model

/-! Scheduled payloads, the order they are served in, and the counters kept per transport. -/

namespace RidFirmware
open Lib

def kMaxScheduledPayloadSize : Nat := 512

inductive ScheduleError where
  | none
  | zeroCapacity
  | invalidTransport
  | invalidPayload
  | payloadTooLarge
  deriving DecidableEq

structure ScheduledPayload where
  sequence : Nat := 0
  aircraftIndex : Nat := 0
  transport : Transport := .ble4
  kind : MessageKind := .location
  deadlineMs : Nat := 0
  expiresAtMs : Nat := 0
  size : Nat := 0
  bytes : Vector UInt8 kMaxScheduledPayloadSize := Vector.replicate _ 0
  deriving DecidableEq

namespace ScheduledPayload

def earlier (left right : ScheduledPayload) : Bool :=
  if left.deadlineMs ≠ right.deadlineMs then decide (left.deadlineMs < right.deadlineMs)
  else decide (left.sequence < right.sequence)

/-- Payloads are ordered by deadline, then by sequence number. -/
def key (payload : ScheduledPayload) : ℕ ×ₗ ℕ := toLex (payload.deadlineMs, payload.sequence)

theorem earlier_iff (left right : ScheduledPayload) :
    left.earlier right = true ↔ left.key < right.key := by
  unfold earlier key
  rw [Prod.Lex.toLex_lt_toLex]
  by_cases same : left.deadlineMs = right.deadlineMs
  · simp [same]
  · simp [same]

/-- A payload without an expiry time never expires. -/
def expired (payload : ScheduledPayload) (nowMs : Nat) : Bool :=
  decide (payload.expiresAtMs ≠ 0 ∧ payload.expiresAtMs < nowMs)

def frame (payload : ScheduledPayload) : List UInt8 := payload.bytes.toList.take payload.size

/-- `memcpy` to the front of the payload's bytes. -/
def withContent (destination : ScheduledPayload) (content : Bytes) : ScheduledPayload :=
  { destination with
    bytes := Vector.ofFn fun index => content.getD index destination.bytes[index]
    size := content.length }

def tryCopyFrom (destination : ScheduledPayload) (payload : ByteView) :
    ScheduleError × ScheduledPayload :=
  if kMaxScheduledPayloadSize < payload.size then (.payloadTooLarge, destination)
  else match payload with
    | .null size =>
        if 0 < size then (.invalidPayload, destination) else (.none, { destination with size := 0 })
    | .bytes content => (.none, destination.withContent content)

theorem withContent_frame (destination : ScheduledPayload) {content : Bytes}
    (fits : content.length ≤ kMaxScheduledPayloadSize) :
    (destination.withContent content).frame = content := by
  unfold frame withContent
  apply List.ext_getElem
  · simp only [List.length_take, Vector.length_toList]
    omega
  · intro index _ inside
    simp [List.getElem_take, Vector.getElem_toList, inside]

end ScheduledPayload

/-- Counters are 64 bits wide and stop at the largest value. -/
def kCounterMax : Nat := 2 ^ 64 - 1

def saturatingIncrement (value : Nat) : Nat := if value = kCounterMax then value else value + 1

/-- A saturating counter that has been incremented `count` times. -/
def saturated (count : Nat) : Nat := min count kCounterMax

@[simp] theorem saturated_zero : saturated 0 = 0 := rfl

@[simp] theorem saturatingIncrement_saturated (count : Nat) :
    saturatingIncrement (saturated count) = saturated (count + 1) := by
  unfold saturatingIncrement saturated
  split_ifs <;> omega

theorem iterate_saturatingIncrement (before count : Nat) :
    saturatingIncrement^[count] (saturated before) = saturated (before + count) := by
  induction count generalizing before with
  | zero => rfl
  | succ count ih =>
    rw [Function.iterate_succ_apply, saturatingIncrement_saturated, ih, Nat.add_right_comm, Nat.add_assoc]

structure TransportStats where
  expected : Nat := 0
  submitted : Nat := 0
  completed : Nat := 0
  late : Nat := 0
  dropped : Nat := 0
  encodeErrors : Nat := 0
  radioErrors : Nat := 0
  deriving DecidableEq

end RidFirmware
