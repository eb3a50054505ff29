import RidFirmware.Lib.Machine

/-! A service answers requests one after the other, each from the state the requests before have left. A
client reports in its log what it has requested and what it was answered. The service has answered a log if
these are the answers it gives, and what it has been led to do can then be told from the log. -/

namespace RidFirmware.Lib

/-- Every entry of a log is good in view of the entries before it. -/
def Each {Output : Type*} (Good : List Output → Output → Prop) (log : List Output) : Prop :=
  ∀ before observed after, log = before ++ observed :: after → Good before observed

section
variable {Output : Type*} {Good Better : List Output → Output → Prop} {log : List Output} {observed : Output}

theorem Each.nil : Each Good [] := by
  intro before observed after split
  cases before <;> cases split

theorem each_snoc : Each Good (log ++ [observed]) ↔ Each Good log ∧ Good log observed := by
  apply Iff.intro
  · intro each
    refine ⟨?_, each log observed [] rfl⟩
    intro before other after split
    apply each before other (after ++ [observed])
    rw [split, List.append_assoc, List.cons_append]
  · rintro ⟨each, last⟩ before other after split
    rcases List.eq_nil_or_concat after with rfl | ⟨rest, final, rfl⟩
    · obtain ⟨rfl, same⟩ := List.append_inj' split rfl
      rw [← List.singleton_inj.mp same]
      exact last
    · rw [List.concat_eq_append, ← List.cons_append, ← List.append_assoc] at split
      exact each before other rest (List.append_inj' split rfl).1

theorem Each.append (each : Each Good log) {more : List Output}
    (fine : ∀ entry ∈ more, ∀ before, Good before entry) : Each Good (log ++ more) := by
  induction more generalizing log with
  | nil => rwa [List.append_nil]
  | cons entry rest ih =>
    rw [← List.singleton_append, ← List.append_assoc]
    have next : Each Good (log ++ [entry]) := each_snoc.mpr ⟨each, fine entry List.mem_cons_self log⟩
    exact ih next fun other member => fine other (List.mem_cons_of_mem entry member)

theorem Each.mono (each : Each Good log) (better : ∀ before entry, Good before entry → Better before entry) :
    Each Better log :=
  fun before entry after split => better before entry (each before entry after split)

end

/-- A log is continued by silent entries. -/
def Continued {Output : Type*} (Silent : Output → Prop) (log later : List Output) : Prop :=
  ∃ more, later = log ++ more ∧ ∀ entry ∈ more, Silent entry

namespace Continued

variable {Output : Type*} {Silent : Output → Prop} {log later last : List Output}

theorem refl (log : List Output) : Continued Silent log log := ⟨[], (List.append_nil log).symm, nofun⟩

theorem snoc (log : List Output) {entry : Output} (silent : Silent entry) :
    Continued Silent log (log ++ [entry]) := by
  refine ⟨[entry], rfl, ?_⟩
  intro other member
  rwa [List.mem_singleton.mp member]

theorem trans (first : Continued Silent log later) (second : Continued Silent later last) :
    Continued Silent log last := by
  obtain ⟨early, rfl, silent⟩ := first
  obtain ⟨more, rfl, quiet⟩ := second
  refine ⟨early ++ more, List.append_assoc _ _ _, ?_⟩
  intro entry member
  rcases List.mem_append.mp member with member | member
  · exact silent entry member
  · exact quiet entry member

theorem filterMap_eq (continued : Continued Silent log later) {Seen : Type*} (see : Output → Option Seen)
    (unseen : ∀ entry, Silent entry → see entry = none) : later.filterMap see = log.filterMap see := by
  obtain ⟨more, rfl, silent⟩ := continued
  have nothing : more.filterMap see = [] :=
    List.filterMap_eq_nil_iff.mpr fun entry member => unseen entry (silent entry member)
  rw [List.filterMap_append, nothing, List.append_nil]

theorem each (continued : Continued Silent log later) {Good : List Output → Output → Prop}
    (good : Each Good log) (fine : ∀ entry, Silent entry → ∀ before, Good before entry) :
    Each Good later := by
  obtain ⟨more, rfl, silent⟩ := continued
  exact good.append fun entry member => fine entry (silent entry member)

end Continued

structure Service (State Request Answer : Type*) where
  serve : State → Request → Answer × State

namespace Service

variable {State Request Answer : Type*} (service : Service State Request Answer)

def after (start : State) (exchanges : List (Request × Answer)) : State :=
  exchanges.foldl (fun state exchange => (service.serve state exchange.1).2) start

/-- Every request is given the answer that stands beside it. -/
def Answered : State → List (Request × Answer) → Prop
  | _, [] => True
  | state, (request, answer) :: rest =>
      (service.serve state request).1 = answer ∧ Answered (service.serve state request).2 rest

@[simp] theorem after_nil (start : State) : service.after start [] = start := rfl

theorem after_snoc (start : State) (exchanges : List (Request × Answer)) (request : Request)
    (answer : Answer) : service.after start (exchanges ++ [(request, answer)]) =
      (service.serve (service.after start exchanges) request).2 := by
  unfold after
  rw [List.foldl_append]
  rfl

theorem answered_append (start : State) (before rest : List (Request × Answer)) :
    service.Answered start (before ++ rest) ↔
      service.Answered start before ∧ service.Answered (service.after start before) rest := by
  induction before generalizing start with
  | nil => exact (iff_of_eq (true_and _)).symm
  | cons exchange before ih =>
    obtain ⟨request, answer⟩ := exchange
    rw [List.cons_append]
    simp only [Answered, ih, and_assoc]
    exact Iff.rfl

section
variable {Output : Type*} (read : Output → Option (Request × Answer))

/-- The state of the service once it has served what a log reports. -/
def afterLog (start : State) (log : List Output) : State := service.after start (log.filterMap read)

/-- The service has answered what a log reports. -/
def AnsweredLog (start : State) (log : List Output) : Prop := service.Answered start (log.filterMap read)

variable {service read} {start : State} {log : List Output}

theorem answeredLog_append (before rest : List Output) : service.AnsweredLog read start (before ++ rest) ↔
    service.AnsweredLog read start before ∧
      service.AnsweredLog read (service.afterLog read start before) rest := by
  unfold AnsweredLog afterLog
  rw [List.filterMap_append, answered_append]

/-- What an answered log tells about the service: a property of the service and the log that every entry
keeps, if the entry is good and the answer in it the one the service gives. -/
theorem AnsweredLog.track (answered : service.AnsweredLog read start log)
    {Good : List Output → Output → Prop} (each : Each Good log) (Inv : State → List Output → Prop)
    (initial : Inv start [])
    (silent : ∀ state log observed, Inv state log → Good log observed → read observed = none →
      Inv state (log ++ [observed]))
    (served : ∀ state log observed request, Inv state log → Good log observed →
      read observed = some (request, (service.serve state request).1) →
      Inv (service.serve state request).2 (log ++ [observed])) :
    Inv (service.afterLog read start log) log := by
  induction log using List.reverseRecOn with
  | nil => exact initial
  | append_singleton before observed ih =>
    rw [each_snoc] at each
    rw [answeredLog_append] at answered
    have earlier := ih answered.1 each.1
    cases asked : read observed with
    | none =>
      have same : service.afterLog read start (before ++ [observed]) = service.afterLog read start before := by
        unfold afterLog
        rw [List.filterMap_append, List.filterMap_cons, asked, List.filterMap_nil, List.append_nil]
      rw [same]
      exact silent _ _ _ earlier each.2 asked
    | some exchange =>
      obtain ⟨request, answer⟩ := exchange
      have last := answered.2
      unfold AnsweredLog at last
      rw [List.filterMap_cons, asked, List.filterMap_nil] at last
      have next : service.afterLog read start (before ++ [observed]) =
          (service.serve (service.afterLog read start before) request).2 := by
        unfold afterLog
        rw [List.filterMap_append, List.filterMap_cons, asked, List.filterMap_nil, after_snoc]
      rw [next]
      apply served _ _ _ _ earlier each.2
      rw [asked]
      exact congrArg (fun given => some (request, given)) last.1.symm

/-- Where every command has an input that the service answers, every list of commands has a run that
it answers. -/
theorem exists_run_answered {Client Input Command : Type*} (machine : Machine Client Input Output)
    (command : Input → Command)
    (each : ∀ client state given, ∃ input, command input = given ∧
      service.AnsweredLog read state (machine.step client input).2)
    (client : Client) (state : State) (commands : List Command) :
    ∃ inputs, inputs.map command = commands ∧
      service.AnsweredLog read state (machine.run client inputs).2 := by
  induction commands generalizing client state with
  | nil => exact ⟨[], rfl, trivial⟩
  | cons given rest ih =>
    obtain ⟨input, same, first⟩ := each client state given
    obtain ⟨inputs, others, later⟩ := ih (machine.step client input).1
      (service.afterLog read state (machine.step client input).2)
    refine ⟨input :: inputs, by rw [List.map_cons, same, others], ?_⟩
    exact (answeredLog_append _ _).mpr ⟨first, later⟩

end

end Service

end RidFirmware.Lib
