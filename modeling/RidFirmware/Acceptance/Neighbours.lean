import Mathlib.Logic.Relation
import RidFirmware.Acceptance.ReceiverLog

/-! Transmitters that are not expected, in the log next to those that are: when they leave the metrics
alone. -/

namespace RidFirmware
open Lib Ieee

def metrics (result : Except PyError BaselineResult) :
    Except PyError (Finset String × Option (Datum ℚ) × Datum ℚ) :=
  result.map fun result => (result.discoveredIds, result.discoveryTimeS, result.primaryDeliveryRatio)

section
variable (expectedIds : Finset String)

/-- A valid record of an id that is not expected. -/
def foreign (row : ReceiverRecord) : Bool := row.valid && decide (row.testId ∉ expectedIds)

/-- Such a record comes in somewhere. -/
def Intrudes (records others : List ReceiverRecord) : Prop :=
  ∃ before row after, foreign expectedIds row = true ∧ records = before ++ after ∧
    others = before ++ row :: after

/-- The log without them. -/
def own (records : List ReceiverRecord) : List ReceiverRecord :=
  records.filter fun row => !foreign expectedIds row

def ownPrimary (records : List ReceiverRecord) (primaryKind : String) : Nat :=
  records.countP fun row =>
    row.valid && decide (row.messageKind = primaryKind) && decide (row.testId ∈ expectedIds)

end

section
variable {records others : List ReceiverRecord} {expectedIds : Finset String}

theorem own_eq_of_intrudes (intrudes : Intrudes expectedIds records others) :
    own expectedIds others = own expectedIds records := by
  obtain ⟨before, row, after, stranger, rfl, rfl⟩ := intrudes
  unfold own
  rw [List.filter_append, List.filter_append, List.filter_cons_of_neg]
  rw [stranger]
  decide

theorem own_eq (same : Relation.EqvGen (Intrudes expectedIds) records others) :
    own expectedIds others = own expectedIds records := by
  induction same with
  | rel _ _ intrudes => exact own_eq_of_intrudes intrudes
  | refl _ => rfl
  | symm _ _ _ ih => exact ih.symm
  | trans _ _ _ _ _ first second => exact second.trans first

theorem eqvGen_append_own (before records : List ReceiverRecord) :
    Relation.EqvGen (Intrudes expectedIds) (before ++ records) (before ++ own expectedIds records) := by
  induction records generalizing before with
  | nil => exact .refl _
  | cons row rest ih =>
    cases stranger : foreign expectedIds row with
    | true =>
      have without : own expectedIds (row :: rest) = own expectedIds rest :=
        List.filter_cons_of_neg (by rw [stranger]; decide)
      have removed : Relation.EqvGen (Intrudes expectedIds) (before ++ row :: rest) (before ++ rest) :=
        .symm _ _ (.rel _ _ ⟨before, row, rest, stranger, rfl, rfl⟩)
      rw [without]
      exact .trans _ _ _ removed (ih before)
    | false =>
      have kept : own expectedIds (row :: rest) = row :: own expectedIds rest :=
        List.filter_cons_of_pos (by rw [stranger]; decide)
      have moved := ih (before ++ [row])
      rw [List.append_assoc, List.append_assoc] at moved
      rw [kept]
      exact moved

theorem eqvGen_own (records : List ReceiverRecord) :
    Relation.EqvGen (Intrudes expectedIds) records (own expectedIds records) :=
  eqvGen_append_own [] records

theorem eqvGen_replicate {row : ReceiverRecord} (stranger : foreign expectedIds row = true)
    (records : List ReceiverRecord) (count : Nat) :
    Relation.EqvGen (Intrudes expectedIds) records (List.replicate count row ++ records) := by
  induction count with
  | zero => exact .refl _
  | succ count ih =>
    exact .trans _ _ _ ih (.rel _ _ ⟨[], row, _, stranger, rfl, rfl⟩)

theorem lookup_firstSeen_own {testId : String} (expected : testId ∈ expectedIds)
    (records : List ReceiverRecord) :
    (firstSeen (own expectedIds records)).lookup testId = (firstSeen records).lookup testId := by
  rw [lookup_firstSeen, lookup_firstSeen]
  unfold own
  rw [List.find?_filter]
  congr 2
  funext row
  unfold foreign
  by_cases same : row.testId = testId
  · simp [same, expected]
  · simp [same]

theorem discovery_same (same : Relation.EqvGen (Intrudes expectedIds) records others) :
    discovered others expectedIds = discovered records expectedIds ∧
      discoveryTime others expectedIds = discoveryTime records expectedIds := by
  apply discoveryTime_congr
  intro testId expected
  rw [← lookup_firstSeen_own expected others, ← lookup_firstSeen_own expected records, own_eq same]

theorem primaryValid_own (records : List ReceiverRecord) (primaryKind : String) :
    primaryValid (own expectedIds records) primaryKind = ownPrimary expectedIds records primaryKind := by
  unfold primaryValid own ownPrimary
  rw [List.countP_filter]
  congr 1
  funext row
  unfold foreign
  cases row.valid <;> simp

theorem ownPrimary_le (same : Relation.EqvGen (Intrudes expectedIds) records others)
    (primaryKind : String) :
    ownPrimary expectedIds records primaryKind ≤ primaryValid others primaryKind := by
  rw [← primaryValid_own, ← own_eq same]
  exact List.filter_sublist.countP_le

variable {expectedPrimaryMessages : Int}

theorem metrics_evaluateBaseline (positive : 0 < expectedPrimaryMessages) (records : List ReceiverRecord)
    (expectedIds : Finset String) (primaryKind : String) :
    metrics (evaluateBaseline records expectedIds expectedPrimaryMessages primaryKind) =
      (discoveryTime records expectedIds).map fun discoveryTimeS => (discovered records expectedIds,
        discoveryTimeS, primaryRatio (primaryValid records primaryKind) expectedPrimaryMessages) := by
  rw [evaluateBaseline_eq positive]
  cases discoveryTime records expectedIds <;> rfl

theorem metrics_eq_iff (positive : 0 < expectedPrimaryMessages) (primaryKind : String)
    (same : Relation.EqvGen (Intrudes expectedIds) records others) :
    metrics (evaluateBaseline others expectedIds expectedPrimaryMessages primaryKind) =
        metrics (evaluateBaseline records expectedIds expectedPrimaryMessages primaryKind) ↔
      FarApart records expectedIds ∨
        primaryRatio (primaryValid others primaryKind) expectedPrimaryMessages =
          primaryRatio (primaryValid records primaryKind) expectedPrimaryMessages := by
  obtain ⟨sameIds, sameTime⟩ := discovery_same same
  have computed : (discoveryTime records expectedIds).isOk = true ↔ ¬FarApart records expectedIds :=
    discoveryTime_isOk_iff
  rw [metrics_evaluateBaseline positive, metrics_evaluateBaseline positive, sameIds, sameTime]
  cases time : discoveryTime records expectedIds with
  | error error =>
    rw [time] at computed
    have far : FarApart records expectedIds := by
      by_contra near
      exact Bool.false_ne_true (computed.mpr near)
    simp only [Except.map, far, true_or]
  | ok discoveryTimeS =>
    rw [time] at computed
    have near := computed.mp rfl
    simp only [Except.map, Except.ok.injEq, Prod.mk.injEq, true_and, near, false_or]

/-- Foreign transmitters leave the metrics of a log alone, whatever they send, exactly if the expected ids
deliver all primary messages by themselves, to within half the last place of a `float`, or if the log is
not evaluated. -/
theorem neighbours_ignored_iff (records : List ReceiverRecord) (expectedIds : Finset String)
    (positive : 0 < expectedPrimaryMessages) (primaryKind : String) :
    (∀ others, Relation.EqvGen (Intrudes expectedIds) records others →
      metrics (evaluateBaseline others expectedIds expectedPrimaryMessages primaryKind) =
        metrics (evaluateBaseline records expectedIds expectedPrimaryMessages primaryKind)) ↔
    (expectedPrimaryMessages - ownPrimary expectedIds records primaryKind) * 2 ^ 54 ≤
        expectedPrimaryMessages ∨
      FarApart records expectedIds := by
  have full := fun count : Nat => primaryRatio_eq_one_iff count positive
  apply Iff.intro
  · intro ignored
    rw [or_iff_not_imp_right]
    intro near
    obtain ⟨testId, unexpected⟩ := Infinite.exists_notMem_finset expectedIds
    have stranger : foreign expectedIds ⟨0, testId, primaryKind, true⟩ = true := by
      simp [foreign, unexpected]
    have alone : Relation.EqvGen (Intrudes expectedIds) records (own expectedIds records) :=
      eqvGen_own records
    have crowded := alone.trans _ _ _
      (eqvGen_replicate stranger (own expectedIds records) expectedPrimaryMessages.toNat)
    have quiet := ((metrics_eq_iff positive primaryKind alone).mp (ignored _ alone)).resolve_left near
    have noisy := ((metrics_eq_iff positive primaryKind crowded).mp (ignored _ crowded)).resolve_left near
    have many : primaryValid (List.replicate expectedPrimaryMessages.toNat ⟨0, testId, primaryKind, true⟩ ++
        own expectedIds records) primaryKind =
          expectedPrimaryMessages.toNat + ownPrimary expectedIds records primaryKind := by
      rw [← primaryValid_own]
      unfold primaryValid
      rw [List.countP_append, List.countP_replicate]
      simp
    rw [primaryValid_own] at quiet
    rw [many] at noisy
    rw [← full, quiet, ← noisy, full]
    push_cast
    omega
  · rintro delivered others same
    rw [metrics_eq_iff positive primaryKind same]
    rcases delivered with delivered | far
    · have one : ∀ log, Relation.EqvGen (Intrudes expectedIds) records log →
          primaryRatio (primaryValid log primaryKind) expectedPrimaryMessages = .finite 1 := by
        intro log related
        have atLeast := ownPrimary_le related primaryKind
        rw [full]
        omega
      rw [one others same, one records (.refl _)]
      exact .inr rfl
    · exact .inl far

/-- Where two aircraft deliver the two messages that are expected of them, a third one changes nothing. -/
theorem neighbours_ignored_iff_delivered :
    metrics (evaluateBaseline [⟨1000, "rid-1", "location", true⟩, ⟨1500, "neighbour", "location", true⟩,
        ⟨2000, "rid-2", "location", true⟩] {"rid-1", "rid-2"} 2 "location") =
      metrics (evaluateBaseline [⟨1000, "rid-1", "location", true⟩, ⟨2000, "rid-2", "location", true⟩]
        {"rid-1", "rid-2"} 2 "location") :=
  (neighbours_ignored_iff _ {"rid-1", "rid-2"} (by decide) "location").mpr (.inl (by decide)) _
    (.rel _ _ ⟨[⟨1000, "rid-1", "location", true⟩], ⟨1500, "neighbour", "location", true⟩, _, by decide,
      rfl, rfl⟩)

/-- A neighbour sends what the aircraft has not sent: half of the messages become all of them. -/
theorem neighbour_delivers : ¬∀ others, Relation.EqvGen (Intrudes {"rid-1"})
      [⟨1000, "rid-1", "location", true⟩] others →
    metrics (evaluateBaseline others {"rid-1"} 2 "location") =
      metrics (evaluateBaseline [⟨1000, "rid-1", "location", true⟩] {"rid-1"} 2 "location") := by
  intro ignored
  have intrudes : Intrudes {"rid-1"} [⟨1000, "rid-1", "location", true⟩]
      [⟨1000, "rid-1", "location", true⟩, ⟨1500, "neighbour", "location", true⟩] :=
    ⟨[⟨1000, "rid-1", "location", true⟩], _, [], by decide, rfl, rfl⟩
  exact absurd (ignored _ (.rel _ _ intrudes)) (by decide +kernel)

end

end RidFirmware
