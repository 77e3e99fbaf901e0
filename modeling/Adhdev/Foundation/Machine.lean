import Mathlib

/-! # Deterministic machines and their runs

A machine answers each input with an output, and the output carries the next
state. Everything below is about finite runs of one machine; nothing here
depends on what the states or inputs are.
-/

namespace Adhdev

open List Option Bool

/-- A deterministic machine. `respond` computes the whole answer to an input;
`advance` reads off the state the machine is left in. -/
structure Machine (State : Type u) (Input : Type v) (Output : Type w) where
  initial : State
  respond : State → Input → Output
  advance : Output → State

namespace Machine

variable {State : Type u} {Input : Type v} {Output : Type w}
variable (machine : Machine State Input Output)

def next (state : State) (input : Input) : State :=
  machine.advance (machine.respond state input)

/-- One step taken from `before`. -/
structure Step (machine : Machine State Input Output) where
  before : State
  input : Input

namespace Step

variable {machine}

def output (step : Step machine) : Output :=
  machine.respond step.before step.input

def after (step : Step machine) : State :=
  machine.advance step.output

end Step

/-- The state reached from `state` after all inputs, first input first. -/
def runFrom (state : State) : List Input → State
  | [] => state
  | input :: inputs => runFrom (machine.next state input) inputs

def stepsFrom (state : State) : List Input → List (Step machine)
  | [] => []
  | input :: inputs => ⟨state, input⟩ :: stepsFrom (machine.next state input) inputs

def run (inputs : List Input) : State := machine.runFrom machine.initial inputs

def steps (inputs : List Input) : List (Step machine) :=
  machine.stepsFrom machine.initial inputs

def Reachable (state : State) : Prop := ∃ inputs, machine.run inputs = state

variable {machine}

theorem runFrom_append (state : State) (earlier later : List Input) :
    machine.runFrom state (earlier ++ later) =
      machine.runFrom (machine.runFrom state earlier) later := by
  induction earlier generalizing state with
  | nil => rfl
  | cons input inputs induction => exact induction (machine.next state input)

theorem run_append (earlier later : List Input) :
    machine.run (earlier ++ later) = machine.runFrom (machine.run earlier) later :=
  runFrom_append _ earlier later

theorem stepsFrom_append (state : State) (earlier later : List Input) :
    machine.stepsFrom state (earlier ++ later) = machine.stepsFrom state earlier ++
        machine.stepsFrom (machine.runFrom state earlier) later := by
  induction earlier generalizing state with
  | nil => rfl
  | cons input inputs induction => exact congrArg _ (induction (machine.next state input))

theorem Reachable.run_initial : machine.Reachable machine.initial := ⟨[], rfl⟩

theorem reachable_run (inputs : List Input) : machine.Reachable (machine.run inputs) :=
  ⟨inputs, rfl⟩

variable {state : State}

theorem Reachable.runFrom (reachable : machine.Reachable state) (inputs : List Input) :
    machine.Reachable (machine.runFrom state inputs) := by
  rcases reachable with ⟨earlier, rfl⟩
  exact ⟨earlier ++ inputs, runFrom_append _ _ _⟩

theorem Reachable.next {state : State} (reachable : machine.Reachable state)
    (input : Input) : machine.Reachable (machine.next state input) :=
  reachable.runFrom [input]

theorem runFrom_induction {Invariant : State → Prop}
    (preserved : ∀ state input, Invariant state → Invariant (machine.next state input)) :
    ∀ (inputs : List Input) {state : State}, Invariant state →
      Invariant (machine.runFrom state inputs)
  | [], _, holds => holds
  | input :: inputs, state, holds =>
    runFrom_induction preserved inputs (preserved state input holds)

theorem Reachable.induction {Invariant : State → Prop} (initially : Invariant machine.initial)
    (preserved : ∀ state input, Invariant state → Invariant (machine.next state input))
    {state : State} (reachable : machine.Reachable state) : Invariant state := by
  rcases reachable with ⟨inputs, rfl⟩
  exact runFrom_induction preserved inputs initially

variable {Invariant : State → Prop}

theorem Reachable.induction_reachable (initially : Invariant machine.initial)
    (preserved : ∀ state input, machine.Reachable state → Invariant state → Invariant
      (machine.next state input)) (reachable : machine.Reachable state) : Invariant state := by
  have both : machine.Reachable state ∧ Invariant state := by
    apply Reachable.induction _ _ reachable
    · exact ⟨run_initial, initially⟩
    · exact fun state input holds => ⟨holds.1.next input, preserved state input holds.1 holds.2⟩
  exact both.2

variable {inputs : List Input} {step : Step machine}

theorem before_of_mem_stepsFrom
    (preserved : ∀ state input, Invariant state → Invariant (machine.next state input))
    (holds : Invariant state) (member : step ∈ machine.stepsFrom state inputs) :
    Invariant step.before := by
  induction inputs generalizing state with
  | nil => cases member
  | cons input inputs induction =>
    rcases mem_cons.mp member with equal | member
    · rw [equal]
      exact holds
    · exact induction (preserved state input holds) member

theorem Reachable.of_mem_stepsFrom (reachable : machine.Reachable state)
    (member : step ∈ machine.stepsFrom state inputs) : machine.Reachable step.before :=
  before_of_mem_stepsFrom (fun _ input before => before.next input) reachable member

theorem reachable_of_mem_steps (member : step ∈ machine.steps inputs) :
    machine.Reachable step.before :=
  Reachable.run_initial.of_mem_stepsFrom member

theorem after_of_mem_stepsFrom (Allowed : Step machine → Prop) (Invariant : State → Prop)
    (preserved : ∀ step : Step machine, machine.Reachable step.before → Allowed step → Invariant
      step.before → Invariant step.after) (reachable : machine.Reachable state)
    (holds : Invariant state) (allowed : ∀ step ∈ machine.stepsFrom state inputs, Allowed step)
    (member : step ∈ machine.stepsFrom state inputs) : Invariant step.after := by
  induction inputs generalizing state with
  | nil => cases member
  | cons input inputs induction =>
    have head := preserved ⟨state, input⟩ reachable (allowed _ mem_cons_self) holds
    rcases mem_cons.mp member with equal | member
    · rw [equal]
      exact head
    · exact induction (reachable.next input) head (forall_mem_cons.mp allowed).2 member

theorem forall_after_iff {Allowed Keeps : Step machine → Prop} {Good : State → Prop}
    (decides : ∀ step : Step machine, Allowed step → Good step.before → (Good step.after ↔ Keeps
      step)) (inputs : List Input) (good : Good state)
    (allowed : ∀ step ∈ machine.stepsFrom state inputs, Allowed step) :
    (∀ step ∈ machine.stepsFrom state inputs, Good step.after) ↔
      ∀ step ∈ machine.stepsFrom state inputs, Keeps step := by
  induction inputs generalizing state with
  | nil => exact ⟨fun _ _ member => absurd member not_mem_nil,
      fun _ _ member => absurd member not_mem_nil⟩
  | cons input inputs induction =>
    have head := decides ⟨state, input⟩ (allowed _ mem_cons_self) good
    have rest (next : Good (machine.next state input)) :=
      induction next (forall_mem_cons.mp allowed).2
    simp only [stepsFrom, forall_mem_cons]
    constructor
    · rintro ⟨after, later⟩
      exact ⟨head.mp after, (rest after).mp later⟩
    · rintro ⟨keeps, later⟩
      exact ⟨head.mpr keeps, (rest (head.mpr keeps)).mpr later⟩

/-! ## Emitted once -/

section Emission

variable {Emitted : Type x} {emits : Step machine → List Emitted} (Done : State → Prop)

theorem flatMap_stepsFrom_eq_nil
    (silent : ∀ step : Step machine, Done step.before → emits step = [] ∧ Done step.after)
    (inputs : List Input) (done : Done state) :
    (machine.stepsFrom state inputs).flatMap emits = [] := by
  induction inputs generalizing state with
  | nil => rfl
  | cons input inputs induction =>
    have head := silent ⟨state, input⟩ done
    rw [stepsFrom, flatMap_cons, head.1, nil_append]
    exact induction head.2

theorem length_flatMap_stepsFrom_le_one (Invariant : State → Prop)
    (preserved : ∀ state input, Invariant state → Invariant (machine.next state input))
    (silent : ∀ step : Step machine, Done step.before → emits step = [] ∧ Done step.after)
    (last : ∀ step : Step machine, Invariant step.before → emits step = [] ∨ (emits step).length
      = 1 ∧ Done step.after) (inputs : List Input) (holds : Invariant state) :
    ((machine.stepsFrom state inputs).flatMap emits).length ≤ 1 := by
  induction inputs generalizing state with
  | nil => exact Nat.zero_le 1
  | cons input inputs induction =>
    rw [stepsFrom, flatMap_cons]
    rcases last ⟨state, input⟩ holds with nothing | ⟨one, done⟩
    · rw [nothing, nil_append]
      exact induction (preserved state input holds)
    have rest : (machine.stepsFrom (machine.next state input) inputs).flatMap emits = [] :=
      flatMap_stepsFrom_eq_nil Done silent inputs done
    rw [rest, append_nil]
    exact Nat.le_of_eq one

theorem pairwise_flatMap_stepsFrom {Before : Emitted → Emitted → Prop}
    (Allowed : Step machine → Prop) (Passed : Emitted → State → Prop)
    (kept : ∀ step, Allowed step → ∀ emitted, Passed emitted step.before → Passed emitted
      step.after)
    (marks : ∀ step, Allowed step → ∀ emitted ∈ emits step, Passed emitted step.after)
    (later : ∀ step, Allowed step → ∀ earlier, Passed earlier step.before → ∀ emitted ∈ emits
      step, Before earlier emitted) (within : ∀ step, Allowed step → (emits step).Pairwise Before)
    (inputs : List Input) (allowed : ∀ step ∈ machine.stepsFrom state inputs, Allowed step) :
    ((machine.stepsFrom state inputs).flatMap emits).Pairwise Before ∧
      ∀ earlier, Passed earlier state →
        ∀ emitted ∈ (machine.stepsFrom state inputs).flatMap emits, Before earlier emitted := by
  induction inputs generalizing state with
  | nil => exact ⟨List.Pairwise.nil, fun _ _ _ member => absurd member not_mem_nil⟩
  | cons input inputs induction =>
    have head : Allowed ⟨state, input⟩ := allowed _ mem_cons_self
    have rest := induction (forall_mem_cons.mp allowed).2
    rw [stepsFrom, flatMap_cons]
    constructor
    · refine pairwise_append.mpr ⟨within _ head, rest.1, ?_⟩
      intro first isFirst second isSecond
      exact rest.2 first (marks _ head first isFirst) second isSecond
    intro earlier passed emitted member
    rcases mem_append.mp member with now | afterwards
    · exact later _ head earlier passed emitted now
    · exact rest.2 earlier (kept _ head earlier passed) emitted afterwards

end Emission

end Machine

end Adhdev
