import Mathlib.Data.List.Induction

/-! Deterministic machines that answer each input with a list of observations. A property of
whole runs is reduced to one step by an invariant over the state and the log written so far. -/

namespace RidFirmware.Lib

/-- One step consumes an input and reports what an observer sees of it. -/
structure Machine (State Input Output : Type*) where
  step : State → Input → State × List Output

namespace Machine

variable {State Input Output : Type*} (machine : Machine State Input Output)

/-- The state after a list of inputs, with the observations in order. -/
def run (start : State) : List Input → State × List Output
  | [] => (start, [])
  | input :: rest =>
      let first := machine.step start input
      let later := run first.1 rest
      (later.1, first.2 ++ later.2)

@[simp] theorem run_nil (start : State) : machine.run start [] = (start, []) := rfl

theorem run_append (start : State) (before after : List Input) :
    machine.run start (before ++ after) =
      ((machine.run (machine.run start before).1 after).1,
        (machine.run start before).2 ++ (machine.run (machine.run start before).1 after).2) := by
  induction before generalizing start with
  | nil => simp
  | cons input rest ih => simp only [List.cons_append, run, ih, List.append_assoc]

theorem run_snoc (start : State) (before : List Input) (input : Input) :
    machine.run start (before ++ [input]) =
      ((machine.step (machine.run start before).1 input).1,
        (machine.run start before).2 ++ (machine.step (machine.run start before).1 input).2) := by
  rw [run_append]
  simp [run]

/-- A property of state and log that every admitted step preserves holds after every run whose
steps are all admitted. -/
theorem run_induction (Inv : State → List Output → Prop) (admitted : State → Input → Prop)
    (preserved : ∀ state log input, Inv state log → admitted state input →
      Inv (machine.step state input).1 (log ++ (machine.step state input).2))
    (start : State) (initial : Inv start []) (inputs : List Input)
    (allowed : ∀ before input, before ++ [input] <+: inputs →
      admitted (machine.run start before).1 input) :
    Inv (machine.run start inputs).1 (machine.run start inputs).2 := by
  induction inputs using List.reverseRecOn with
  | nil => exact initial
  | append_singleton before input ih =>
    have earlier := ih (fun shorter next within =>
      allowed shorter next (within.trans (List.prefix_append before [input])))
    rw [run_snoc]
    exact preserved _ _ _ earlier (allowed before input List.prefix_rfl)

/-- The same without a restriction on the steps. -/
theorem run_invariant (Inv : State → List Output → Prop)
    (preserved : ∀ state log input, Inv state log →
      Inv (machine.step state input).1 (log ++ (machine.step state input).2))
    (start : State) (initial : Inv start []) (inputs : List Input) :
    Inv (machine.run start inputs).1 (machine.run start inputs).2 :=
  machine.run_induction Inv (fun _ _ => True)
    (fun state log input holds _ => preserved state log input holds) start initial inputs
    (fun _ _ _ => trivial)

/-- States that answer every input alike, and stay so, answer whole runs alike. -/
theorem run_alike (Alike : State → State → Prop)
    (step : ∀ left right input, Alike left right →
      (machine.step left input).2 = (machine.step right input).2 ∧
        Alike (machine.step left input).1 (machine.step right input).1)
    (inputs : List Input) {left right : State} (alike : Alike left right) :
    (machine.run left inputs).2 = (machine.run right inputs).2 := by
  induction inputs generalizing left right with
  | nil => rfl
  | cons input rest ih =>
    obtain ⟨same, still⟩ := step left right input alike
    simp only [run, same, ih still]

/-- What is observed in a run is observed in one of its steps. -/
theorem mem_run {start : State} {inputs : List Input} {observed : Output}
    (seen : observed ∈ (machine.run start inputs).2) :
    ∃ before input, before ++ [input] <+: inputs ∧
      observed ∈ (machine.step (machine.run start before).1 input).2 := by
  induction inputs using List.reverseRecOn with
  | nil => cases seen
  | append_singleton before input ih =>
    rw [run_snoc] at seen
    rcases List.mem_append.mp seen with earlier | last
    · obtain ⟨shorter, next, within, found⟩ := ih earlier
      exact ⟨shorter, next, within.trans (List.prefix_append before [input]), found⟩
    · exact ⟨before, input, List.prefix_rfl, last⟩

/-- Where a step is observed at most once, what each admitted step makes sure of for its observation,
in view of the log before it, holds of every observation of a run. -/
theorem run_each (Inv : State → List Output → Prop) (Good : List Output → Output → Prop)
    (admitted : State → Input → Prop)
    (preserved : ∀ state log input, Inv state log → admitted state input →
      Inv (machine.step state input).1 (log ++ (machine.step state input).2))
    (good : ∀ state log input, Inv state log → admitted state input →
      (machine.step state input).2 = [] ∨
        ∃ observed, (machine.step state input).2 = [observed] ∧ Good log observed)
    (start : State) (initial : Inv start []) (inputs : List Input)
    (allowed : ∀ before input, before ++ [input] <+: inputs →
      admitted (machine.run start before).1 input) :
    ∀ before observed after, (machine.run start inputs).2 = before ++ observed :: after →
      Good before observed := by
  induction inputs using List.reverseRecOn with
  | nil => simp
  | append_singleton earlier input ih =>
    intro before observed after split
    have within : ∀ shorter next, shorter ++ [next] <+: earlier →
        admitted (machine.run start shorter).1 next :=
      fun shorter next shown => allowed shorter next (shown.trans (List.prefix_append earlier [input]))
    have holds := machine.run_induction Inv admitted preserved start initial earlier within
    rw [run_snoc] at split
    rcases good _ _ input holds (allowed earlier input List.prefix_rfl) with none | ⟨only, one, fine⟩
    · rw [none, List.append_nil] at split
      exact ih within before observed after split
    rw [one] at split
    rcases List.eq_nil_or_concat after with rfl | ⟨rest, last, rfl⟩
    · rcases List.append_inj' split rfl with ⟨rfl, same⟩
      rw [← List.singleton_inj.mp same]
      exact fine
    · rw [List.concat_eq_append, ← List.cons_append, ← List.append_assoc] at split
      exact ih within before observed rest (List.append_inj' split rfl).1

end Machine

end RidFirmware.Lib
