import Mathlib.Order.Bounds.Basic
import RidFirmware.Acceptance.ReceiverLog

/-! The order of the log. The evaluation takes the first record of each id for the earliest one, which it
need not be; the summary looks at the timestamps. -/

namespace RidFirmware
open Lib Ieee

def sightings (records : List ReceiverRecord) (testId : String) : Set Int :=
  {timestamp | ∃ row ∈ records, (row.valid = true ∧ row.testId = testId) ∧ row.timestampMs = timestamp}

/-- A discovery time is computed: there are expected ids and none is missing. -/
structure Measured (records : List ReceiverRecord) (expectedIds : Finset String)
    (expectedPrimaryMessages : Int) : Prop where
  positive : 0 < expectedPrimaryMessages
  nonempty : expectedIds.Nonempty
  sighted : ∀ testId ∈ expectedIds, Sighted records testId

/-- What the discovery time is computed from is the smallest timestamp of each expected id. -/
def FromSmallest (records : List ReceiverRecord) (expectedIds : Finset String)
    (expectedPrimaryMessages : Int) : Prop :=
  Measured records expectedIds expectedPrimaryMessages →
    ∀ testId ∈ expectedIds, IsLeast (sightings records testId) (seenAt records testId)

/-- The valid records of an expected id all carry one timestamp. -/
def SeenAtOnce (records : List ReceiverRecord) (expectedIds : Finset String) : Prop :=
  ∀ testId ∈ expectedIds, (sightings records testId).Subsingleton

/-- However one valid record of each expected id is chosen, the seconds between the first and the last of
them are the same. -/
def SpreadsAgree (records : List ReceiverRecord) (expectedIds : Finset String) : Prop :=
  ∀ (nonempty : expectedIds.Nonempty) (first second : String → Int),
    (∀ testId ∈ expectedIds, first testId ∈ sightings records testId) →
    (∀ testId ∈ expectedIds, second testId ∈ sightings records testId) →
    trueDivide (timeSpread expectedIds first nonempty) 1000 =
      trueDivide (timeSpread expectedIds second nonempty) 1000

section
variable {records others : List ReceiverRecord} {expectedIds : Finset String}
  {expectedPrimaryMessages : Int}

theorem sightings_perm (same : others.Perm records) (testId : String) :
    sightings others testId = sightings records testId := by
  unfold sightings
  simp only [same.mem_iff]

theorem sighted_perm (same : others.Perm records) (testId : String) :
    Sighted others testId ↔ Sighted records testId := by
  unfold Sighted
  simp only [same.mem_iff]

theorem Measured.perm (same : others.Perm records)
    (measured : Measured records expectedIds expectedPrimaryMessages) :
    Measured others expectedIds expectedPrimaryMessages :=
  ⟨measured.positive, measured.nonempty,
    fun testId expected => (sighted_perm same testId).mpr (measured.sighted testId expected)⟩

theorem seenAt_mem_sightings {testId : String} (sighted : Sighted records testId) :
    seenAt records testId ∈ sightings records testId := by
  rw [sighted_iff_lookup] at sighted
  obtain ⟨time, found⟩ := Option.isSome_iff_exists.mp sighted
  have seen : seenAt records testId = time := by
    unfold seenAt
    rw [found]
    rfl
  rw [lookup_firstSeen, Option.map_eq_some_iff] at found
  obtain ⟨row, first, stamped⟩ := found
  have fits := List.find?_some first
  rw [Bool.and_eq_true, decide_eq_true_eq] at fits
  rw [seen]
  exact ⟨row, List.mem_of_find?_eq_some first, fits, stamped⟩

theorem exists_perm_seenAt {times : String → Int}
    (chosen : ∀ testId ∈ expectedIds, times testId ∈ sightings records testId) :
    ∃ others : List ReceiverRecord, others.Perm records ∧
      ∀ testId ∈ expectedIds, seenAt others testId = times testId := by
  have rows : ∀ testId, ∃ row, testId ∈ expectedIds → row ∈ records ∧
      (row.valid = true ∧ row.testId = testId) ∧ row.timestampMs = times testId := by
    intro testId
    by_cases expected : testId ∈ expectedIds
    · obtain ⟨row, member, fits⟩ := chosen testId expected
      exact ⟨row, fun _ => ⟨member, fits⟩⟩
    · exact ⟨⟨0, "", "", false⟩, fun member => absurd member expected⟩
  choose pick picked using rows
  obtain ⟨valid, same, first⟩ := exists_perm_find? ReceiverRecord.testId
    (records.filter fun row => row.valid) pick
  refine ⟨valid ++ records.filter fun row => !row.valid, ?_, ?_⟩
  · exact (same.append_right _).trans (List.filter_append_perm _ records)
  · intro testId expected
    obtain ⟨member, ⟨isValid, isOf⟩, stamped⟩ := picked testId expected
    have found := first testId (List.mem_filter.mpr ⟨member, isValid⟩) isOf
    have front : (valid ++ records.filter fun row => !row.valid).filter (fun row => row.valid) = valid := by
      have inside : ∀ row ∈ valid, row.valid = true :=
        fun row member => (List.mem_filter.mp (same.mem_iff.mp member)).2
      rw [List.filter_append, List.filter_eq_self.mpr inside, List.filter_filter]
      simp
    unfold seenAt firstSeen
    rw [front, lookup_firstOfEach, found]
    exact stamped

theorem evaluateBaseline_perm_iff (same : others.Perm records) (positive : 0 < expectedPrimaryMessages)
    (primaryKind : String) :
    evaluateBaseline others expectedIds expectedPrimaryMessages primaryKind =
        evaluateBaseline records expectedIds expectedPrimaryMessages primaryKind ↔
      discoveryTime others expectedIds = discoveryTime records expectedIds := by
  have sameIds : discovered others expectedIds = discovered records expectedIds :=
    discovered_congr fun testId _ => sighted_perm same testId
  have malformed := same.countP_eq fun row => !row.valid
  have primary : primaryValid others primaryKind = primaryValid records primaryKind := same.countP_eq _
  rw [evaluateBaseline_eq positive, evaluateBaseline_eq positive, sameIds, malformed, primary]
  apply map_inj_right
  intro first second equal
  exact congrArg BaselineResult.discoveryTimeS equal

theorem discoveryTime_perm_iff (same : others.Perm records)
    (measured : Measured records expectedIds expectedPrimaryMessages) :
    discoveryTime others expectedIds = discoveryTime records expectedIds ↔
      trueDivide (timeSpread expectedIds (seenAt others) measured.nonempty) 1000 =
        trueDivide (timeSpread expectedIds (seenAt records) measured.nonempty) 1000 := by
  rw [discoveryTime_of_sighted measured.nonempty (measured.perm same).sighted,
    discoveryTime_of_sighted measured.nonempty measured.sighted]
  exact map_inj_right Option.some.inj

theorem evaluateBaseline_perm_of_not_measured (same : others.Perm records) (primaryKind : String)
    (unmeasured : ¬Measured records expectedIds expectedPrimaryMessages) :
    evaluateBaseline others expectedIds expectedPrimaryMessages primaryKind =
      evaluateBaseline records expectedIds expectedPrimaryMessages primaryKind := by
  rcases le_or_gt expectedPrimaryMessages 0 with nonpos | positive
  · unfold evaluateBaseline
    rw [if_pos nonpos, if_pos nonpos]
  · rw [evaluateBaseline_perm_iff same positive, discoveryTime_of_missing, discoveryTime_of_missing]
    · rintro ⟨nonempty, all⟩
      exact unmeasured ⟨positive, nonempty, all⟩
    · rintro ⟨nonempty, all⟩
      exact unmeasured (Measured.perm same.symm ⟨positive, nonempty, all⟩)

theorem seenAt_sightings_perm (same : others.Perm records)
    (measured : Measured records expectedIds expectedPrimaryMessages) :
    ∀ testId ∈ expectedIds, seenAt others testId ∈ sightings records testId := by
  intro testId expected
  rw [← sightings_perm same]
  exact seenAt_mem_sightings ((measured.perm same).sighted testId expected)

theorem evaluateBaseline_perm_iff_spreadsAgree (records : List ReceiverRecord)
    (expectedIds : Finset String) (expectedPrimaryMessages : Int) (primaryKind : String) :
    (∀ others : List ReceiverRecord, others.Perm records →
      evaluateBaseline others expectedIds expectedPrimaryMessages primaryKind =
        evaluateBaseline records expectedIds expectedPrimaryMessages primaryKind) ↔
    (Measured records expectedIds expectedPrimaryMessages → SpreadsAgree records expectedIds) := by
  apply Iff.intro
  · intro alike measured nonempty first second firstChosen secondChosen
    obtain ⟨early, earlyPerm, earlySeen⟩ := exists_perm_seenAt firstChosen
    obtain ⟨late, latePerm, lateSeen⟩ := exists_perm_seenAt secondChosen
    have earlyTime := alike early earlyPerm
    have lateTime := alike late latePerm
    rw [evaluateBaseline_perm_iff earlyPerm measured.positive, discoveryTime_perm_iff earlyPerm measured,
      timeSpread_congr nonempty earlySeen] at earlyTime
    rw [evaluateBaseline_perm_iff latePerm measured.positive, discoveryTime_perm_iff latePerm measured,
      timeSpread_congr nonempty lateSeen] at lateTime
    rw [earlyTime, lateTime]
  · intro agree others same
    by_cases measured : Measured records expectedIds expectedPrimaryMessages
    · rw [evaluateBaseline_perm_iff same measured.positive, discoveryTime_perm_iff same measured]
      exact agree measured measured.nonempty _ _ (seenAt_sightings_perm same measured)
        (seenAt_sightings_perm (List.Perm.refl _) measured)
    · exact evaluateBaseline_perm_of_not_measured same primaryKind measured

theorem SeenAtOnce.spreadsAgree (once : SeenAtOnce records expectedIds) :
    SpreadsAgree records expectedIds := by
  intro nonempty first second firstChosen secondChosen
  rw [timeSpread_congr nonempty fun testId expected =>
    once testId expected (firstChosen testId expected) (secondChosen testId expected)]

theorem le_of_fromSmallest (measured : Measured records expectedIds expectedPrimaryMessages)
    (smallest : ∀ others : List ReceiverRecord, others.Perm records →
      FromSmallest others expectedIds expectedPrimaryMessages)
    {testId : String} (expected : testId ∈ expectedIds) {first second : Int}
    (firstSighted : first ∈ sightings records testId) (secondSighted : second ∈ sightings records testId) :
    first ≤ second := by
  have chosen : ∀ other ∈ expectedIds,
      Function.update (seenAt records) testId first other ∈ sightings records other := by
    intro other member
    by_cases same : other = testId
    · rw [same, Function.update_self]
      exact firstSighted
    · rw [Function.update_of_ne same]
      exact seenAt_mem_sightings (measured.sighted other member)
  obtain ⟨others, same, seen⟩ := exists_perm_seenAt chosen
  have least := (smallest others same (measured.perm same) testId expected).2
  rw [seen testId expected, Function.update_self] at least
  rw [← sightings_perm same] at secondSighted
  exact least secondSighted

/-- The order of the log does not matter to the result, and the discovery time is always computed from the
smallest timestamps, exactly if the valid records of each expected id carry one timestamp, or no time is
computed. The result alone is the same in all orders exactly if the records cannot be chosen so that the
seconds differ. -/
theorem log_order_ignored_iff (records : List ReceiverRecord) (expectedIds : Finset String)
    (expectedPrimaryMessages : Int) (primaryKind : String) :
    ((∀ others : List ReceiverRecord, others.Perm records →
        evaluateBaseline others expectedIds expectedPrimaryMessages primaryKind =
          evaluateBaseline records expectedIds expectedPrimaryMessages primaryKind ∧
        FromSmallest others expectedIds expectedPrimaryMessages) ↔
      (Measured records expectedIds expectedPrimaryMessages → SeenAtOnce records expectedIds)) ∧
    ((∀ others : List ReceiverRecord, others.Perm records →
        evaluateBaseline others expectedIds expectedPrimaryMessages primaryKind =
          evaluateBaseline records expectedIds expectedPrimaryMessages primaryKind) ↔
      (Measured records expectedIds expectedPrimaryMessages → SpreadsAgree records expectedIds)) := by
  have alike :=
    evaluateBaseline_perm_iff_spreadsAgree records expectedIds expectedPrimaryMessages primaryKind
  refine ⟨Iff.intro ?_ ?_, alike⟩
  · intro ignored measured testId expected first firstSighted second secondSighted
    have smallest := fun others same => (ignored others same).2
    exact le_antisymm (le_of_fromSmallest measured smallest expected firstSighted secondSighted)
      (le_of_fromSmallest measured smallest expected secondSighted firstSighted)
  · intro once others same
    refine ⟨alike.mpr (fun measured => (once measured).spreadsAgree) others same, ?_⟩
    intro measured testId expected
    have seen := seenAt_mem_sightings (measured.sighted testId expected)
    refine ⟨seen, ?_⟩
    intro timestamp sighted
    rw [sightings_perm same] at seen sighted
    exact (once (measured.perm same.symm) testId expected seen sighted).le

/-- An aircraft first logged at five seconds was seen at one already: three seconds become one. -/
theorem late_record_first : ¬∀ others : List ReceiverRecord,
    others.Perm [⟨5000, "rid-1", "location", true⟩, ⟨1000, "rid-1", "location", true⟩,
      ⟨2000, "rid-2", "location", true⟩] →
    evaluateBaseline others {"rid-1", "rid-2"} 3 "location" =
      evaluateBaseline [⟨5000, "rid-1", "location", true⟩, ⟨1000, "rid-1", "location", true⟩,
        ⟨2000, "rid-2", "location", true⟩] {"rid-1", "rid-2"} 3 "location" := by
  intro alike
  have swapped := alike [⟨1000, "rid-1", "location", true⟩, ⟨5000, "rid-1", "location", true⟩,
    ⟨2000, "rid-2", "location", true⟩] (List.Perm.swap _ _ _)
  exact absurd swapped (by decide +kernel)

/-! ## Logs in the order of their timestamps, and the summary -/

theorem fromSmallest_of_sorted
    (sorted : records.Pairwise fun first second => first.timestampMs ≤ second.timestampMs) :
    FromSmallest records expectedIds expectedPrimaryMessages := by
  intro measured testId expected
  refine ⟨seenAt_mem_sightings (measured.sighted testId expected), ?_⟩
  rintro timestamp ⟨row, member, fits, rfl⟩
  have found : (records.find? fun row => row.valid && decide (row.testId = testId)).isSome := by
    rw [List.find?_isSome]
    exact ⟨row, member, by simp [fits]⟩
  obtain ⟨earliest, first⟩ := Option.isSome_iff_exists.mp found
  have seen : seenAt records testId = earliest.timestampMs := by
    unfold seenAt
    rw [lookup_firstSeen, first]
    rfl
  obtain ⟨_, before, after, split, others⟩ := List.find?_eq_some_iff_append.mp first
  rw [split] at sorted member
  rw [seen]
  rcases List.mem_append.mp member with early | late
  · have other := others row early
    simp [fits] at other
  · rcases List.mem_cons.mp late with rfl | later
    · exact le_refl _
    · exact (List.pairwise_cons.mp (List.pairwise_append.mp sorted).2.1).1 row later

theorem summarize_perm (same : others.Perm records) : summarize others = summarize records := by
  have valid : (others.filter fun row => row.valid).Perm (records.filter fun row => row.valid) :=
    same.filter _
  have times := fun time => (valid.map ReceiverRecord.timestampMs).mem_iff (a := time)
  have first : ((others.filter fun row => row.valid).map fun row => row.timestampMs).min? =
      ((records.filter fun row => row.valid).map fun row => row.timestampMs).min? := by
    ext time
    rw [List.min?_eq_some_iff, List.min?_eq_some_iff]
    simp only [times]
  have last : ((others.filter fun row => row.valid).map fun row => row.timestampMs).max? =
      ((records.filter fun row => row.valid).map fun row => row.timestampMs).max? := by
    ext time
    rw [List.max?_eq_some_iff, List.max?_eq_some_iff]
    simp only [times]
  have ids : ((others.filter fun row => row.valid).map fun row => row.testId).toFinset =
      ((records.filter fun row => row.valid).map fun row => row.testId).toFinset :=
    List.toFinset_eq_of_perm _ _ (valid.map ReceiverRecord.testId)
  unfold summarize
  dsimp only
  rw [first, last, ids, valid.length_eq, same.length_eq]

end

end RidFirmware
