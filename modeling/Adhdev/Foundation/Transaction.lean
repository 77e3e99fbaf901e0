import Mathlib

/-! # Calls and transactions

A call works on a store, answers or throws, and leaves a store behind in both
cases: what it wrote before it threw stays written. A transaction puts the store
back when the call inside it throws, so that transactions nest as savepoints.
-/

namespace Adhdev

def Call (Store : Type u) (Fault : Type v) (α : Type w) :=
  Store → Except Fault α × Store

namespace Call

variable {Store : Type u} {Fault : Type v} {α β : Type w}

def answer (value : α) : Call Store Fault α := fun store => (.ok value, store)

def throwing (fault : Fault) : Call Store Fault α := fun store => (.error fault, store)

def andThen (call : Call Store Fault α) (next : α → Call Store Fault β) :
    Call Store Fault β := fun store =>
  match call store with
  | (.ok value, after) => next value after
  | (.error fault, after) => (.error fault, after)

instance : Monad (Call Store Fault) where
  pure := answer
  bind := andThen

def ofExcept (result : Except Fault α) : Call Store Fault α := fun store => (result, store)

def failIf {Store : Type u} (condition : Prop) [Decidable condition] (fault : Fault) :
    Call Store Fault PUnit.{w + 1} :=
  if condition then throwing fault else answer .unit

def inspect (view : Store → α) : Call Store Fault α := fun store => (.ok (view store), store)

def modify (change : Store → Store) : Call Store Fault PUnit.{w + 1} :=
  fun store => (.ok .unit, change store)

def transaction (call : Call Store Fault α) : Call Store Fault α := fun store =>
  match call store with
  | (.ok value, after) => (.ok value, after)
  | (.error fault, _) => (.error fault, store)

def catching (call : Call Store Fault α) (handle : Fault → Call Store Fault α) :
    Call Store Fault α := fun store =>
  match call store with
  | (.ok value, after) => (.ok value, after)
  | (.error fault, after) => handle fault after

def each (call : β → Call Store Fault α) : List β → Call Store Fault (List α)
  | [] => answer []
  | value :: values =>
    andThen (call value) fun first =>
      andThen (each call values) fun rest => answer (first :: rest)

theorem bind_eq (call : Call Store Fault α) (next : α → Call Store Fault β) :
    (call >>= next) = andThen call next := rfl

theorem pure_eq (value : α) : (pure value : Call Store Fault α) = answer value := rfl

theorem andThen_answer (call : Call Store Fault α) (view : α → β) (store : Store) :
    andThen call (fun value => answer (view value)) store =
      ((call store).1.map view, (call store).2) := by
  rw [andThen]
  cases call store with
  | mk result later => cases result <;> rfl

section Answers

variable {store later : Store} {value : α}

@[simp] theorem answer_ok_iff {given : α} :
    (answer given : Call Store Fault α) store = (.ok value, later) ↔
      value = given ∧ later = store := by
  simp [answer, eq_comm]

@[simp] theorem throwing_ok_iff {fault : Fault} :
    (throwing fault : Call Store Fault α) store = (.ok value, later) ↔ False := by
  simp [throwing]

@[simp] theorem ofExcept_ok_iff {result : Except Fault α} :
    (ofExcept result : Call Store Fault α) store = (.ok value, later) ↔
      result = .ok value ∧ later = store := by
  simp [ofExcept, eq_comm]

@[simp] theorem inspect_ok_iff {view : Store → α} :
    (inspect view : Call Store Fault α) store = (.ok value, later) ↔
      value = view store ∧ later = store := by
  simp [inspect, eq_comm]

@[simp] theorem failIf_ok_iff {condition : Prop} [Decidable condition] {fault : Fault}
    {done : PUnit.{w + 1}} :
    (failIf condition fault : Call Store Fault PUnit.{w + 1}) store = (.ok done, later) ↔
      ¬ condition ∧ later = store := by
  by_cases holds : condition <;> simp [failIf, holds]

@[simp] theorem modify_ok_iff {change : Store → Store} {done : PUnit.{w + 1}} :
    (modify change : Call Store Fault PUnit.{w + 1}) store = (.ok done, later) ↔
      later = change store := by
  simp [modify, eq_comm]

@[simp] theorem andThen_ok_iff {call : Call Store Fault β} {next : β → Call Store Fault α} :
    andThen call next store = (.ok value, later) ↔
      ∃ first middle, call store = (.ok first, middle) ∧ next first middle =
        (.ok value, later) := by
  cases called : call store with
  | mk result middle => cases result <;> simp [andThen, called]

@[simp] theorem transaction_ok_iff {call : Call Store Fault α} :
    transaction call store = (.ok value, later) ↔ call store = (.ok value, later) := by
  cases called : call store with
  | mk result middle => cases result <;> simp [transaction, called]

end Answers

/-- What the call answers or throws and the store it leaves meet `Post`. -/
def Ends (call : Call Store Fault α) (store : Store) (Post : Except Fault α → Store → Prop) :
    Prop :=
  Post (call store).1 (call store).2

section Ends

variable {γ : Type w} {store : Store} {Post : Except Fault α → Store → Prop}
variable {call : Call Store Fault α}

theorem Ends.weaken {Weaker : Except Fault α → Store → Prop} (ends : Ends call store Post)
    (follows : ∀ result later, Post result later → Weaker result later) :
    Ends call store Weaker := follows _ _ ends

theorem ends_answer {value : α} (holds : Post (.ok value) store) :
    Ends (answer value) store Post := holds

theorem ends_inspect {view : Store → α} (holds : Post (.ok (view store)) store) :
    Ends (inspect view) store Post := holds

variable {next : β → Call Store Fault α}

theorem ends_andThen {call : Call Store Fault β} {Middle : Except Fault β → Store → Prop}
    (first : Ends call store Middle)
    (throws : ∀ fault later, Middle (.error fault) later → Post (.error fault) later)
    (rest : ∀ value later, Middle (.ok value) later → Ends (next value) later Post) :
    Ends (call.andThen next) store Post := by
  have ended : Middle (call store).1 (call store).2 := first
  change Post (call.andThen next store).1 (call.andThen next store).2
  rw [Call.andThen]
  cases called : call store with
  | mk result later =>
    rw [called] at ended
    cases result with
    | error fault => exact throws fault later ended
    | ok value => exact rest value later ended

theorem ends_bind_ofExcept {result : Except Fault β}
    (throws : ∀ fault, result = .error fault → Post (.error fault) store)
    (rest : ∀ value, result = .ok value → Ends (next value) store Post) :
    Ends ((ofExcept result).andThen next) store Post := by
  cases result with
  | error fault => exact throws fault rfl
  | ok value => exact rest value rfl

theorem ends_bind_inspect {view : Store → β} (rest : Ends (next (view store)) store Post) :
    Ends ((inspect view).andThen next) store Post := rest

theorem ends_bind_check {view : Store → γ} {check : γ → Except Fault β}
    (throws : ∀ fault, check (view store) = .error fault → Post (.error fault) store)
    (rest : ∀ value, check (view store) = .ok value → Ends (next value) store Post) :
    Ends (((inspect view).andThen fun viewed => ofExcept (check viewed)).andThen next) store
      Post := by
  have checks : Ends ((inspect view).andThen fun viewed => ofExcept (check viewed)) store
      fun result later => result = check (view store) ∧ later = store := ⟨rfl, rfl⟩
  refine ends_andThen checks ?_ ?_
  · rintro fault later ⟨failed, rfl⟩
    exact throws fault failed.symm
  · rintro value later ⟨answered, rfl⟩
    exact rest value answered.symm

def rolledBack (store : Store) (Post : Except Fault α → Store → Prop) :
    Except Fault α → Store → Prop
  | .ok value, later => Post (.ok value) later
  | .error fault, _ => Post (.error fault) store

theorem ends_transaction (ends : Ends call store (rolledBack store Post)) :
    Ends (transaction call) store Post := by
  change rolledBack store Post (call store).1 (call store).2 at ends
  change Post (transaction call store).1 (transaction call store).2
  rw [transaction]
  cases called : call store with
  | mk result later =>
    rw [called] at ends
    cases result with
    | error fault | ok value => exact ends

theorem ends_catching {handle : Fault → Call Store Fault α}
    {Middle : Except Fault α → Store → Prop} (first : Ends call store Middle)
    (answers : ∀ value later, Middle (.ok value) later → Post (.ok value) later)
    (handled : ∀ fault later, Middle (.error fault) later → Ends (handle fault) later Post) :
    Ends (catching call handle) store Post := by
  have ended : Middle (call store).1 (call store).2 := first
  change Post (catching call handle store).1 (catching call handle store).2
  rw [catching]
  cases called : call store with
  | mk result later =>
    rw [called] at ended
    cases result with
    | error fault => exact handled fault later ended
    | ok value => exact answers value later ended

end Ends

def ReadOnly (call : Call Store Fault α) : Prop := ∀ store, (call store).2 = store

def Traceless (call : Call Store Fault α) : Prop :=
  ∀ store fault after, call store = (.error fault, after) → after = store

/-- From a store that meets `before`, an answer of the call and the store it leaves
meet `after`. -/
def Commits (before : Store → Prop) (call : Call Store Fault α) (after : α → Store → Prop) : Prop :=
  ∀ store, before store → ∀ value later, call store = (.ok value, later) → after value later

section ReadOnly

theorem readOnly_answer (value : α) : ReadOnly (answer value : Call Store Fault α) :=
  fun _ => rfl

theorem readOnly_ofExcept (result : Except Fault α) :
    ReadOnly (ofExcept result : Call Store Fault α) := fun _ => rfl

theorem readOnly_inspect (view : Store → α) : ReadOnly (inspect view : Call Store Fault α) :=
  fun _ => rfl

theorem readOnly_failIf (condition : Prop) [Decidable condition] (fault : Fault) :
    ReadOnly (failIf condition fault : Call Store Fault PUnit.{w + 1}) := by
  intro store
  by_cases holds : condition <;> simp [failIf, holds, throwing, answer]

theorem ReadOnly.andThen {call : Call Store Fault α} {next : α → Call Store Fault β}
    (first : ReadOnly call) (rest : ∀ value, ReadOnly (next value)) :
    ReadOnly (call.andThen next) := by
  intro store
  have same := first store
  cases called : call store with
  | mk result after =>
    rw [called] at same
    cases result with
    | error fault => simpa [Call.andThen, called] using same
    | ok value =>
      simp only [Call.andThen, called]
      exact (rest value after).trans same

theorem ReadOnly.traceless {call : Call Store Fault α} (readOnly : ReadOnly call) :
    Traceless call := fun store _ _ threw => by
  rw [← readOnly store, threw]

end ReadOnly

section Traceless

theorem traceless_transaction (call : Call Store Fault α) : Traceless (transaction call) := by
  intro store fault after threw
  cases called : call store with
  | mk result later =>
    cases result with
    | error inner =>
      simp only [transaction, called, Prod.mk.injEq] at threw
      exact threw.2.symm
    | ok value => simp [transaction, called] at threw

variable {call : Call Store Fault α}

theorem Traceless.after {next : α → Call Store Fault β} (first : ReadOnly call)
    (rest : ∀ value, Traceless (next value)) : Traceless (call.andThen next) := by
  intro store fault after threw
  have same := first store
  cases called : call store with
  | mk result middle =>
    rw [called] at same
    cases result with
    | error inner =>
      simp only [andThen, called, Prod.mk.injEq] at threw
      exact threw.2.symm.trans same
    | ok value =>
      simp only [andThen, called] at threw
      exact (rest value middle fault after threw).trans same

theorem Traceless.ends (traceless : Traceless call) {store : Store}
    {Post : Except Fault α → Store → Prop} (throws : ∀ fault, Post (.error fault) store)
    (answers : ∀ value later, call store = (.ok value, later) → Post (.ok value) later) :
    Ends call store Post := by
  change Post (call store).1 (call store).2
  cases called : call store with
  | mk result later =>
    cases result with
    | error fault => exact traceless store fault later called ▸ throws fault
    | ok value => exact answers value later called

theorem Traceless.answering (traceless : Traceless call)
    (view : α → β) : Traceless (call.andThen fun value => answer (view value)) := by
  intro store fault after threw
  cases called : call store with
  | mk result middle =>
    cases result with
    | error inner =>
      simp only [andThen, called, Prod.mk.injEq] at threw
      exact threw.2 ▸ traceless store inner middle called
    | ok value => simp [andThen, called, answer] at threw

end Traceless

section Commits

variable {before : Store → Prop} {after : α → Store → Prop}

theorem commits_answer {value : α} (holds : ∀ store, before store → after value store) :
    Commits before (answer value : Call Store Fault α) after := by
  intro store starts result later called
  cases called
  exact holds store starts

variable {call : Call Store Fault α}

theorem Commits.andThen {next : α → Call Store Fault β} {final : β → Store → Prop}
    (first : Commits before call after) (rest : ∀ value, Commits (after value) (next value) final) :
    Commits before (call.andThen next) final := by
  intro store starts value later called
  obtain ⟨inner, middle, answered, called⟩ := andThen_ok_iff.mp called
  exact rest inner middle (first store starts inner middle answered) value later called

theorem ReadOnly.commits (readOnly : ReadOnly call) : Commits before call fun _ => before := by
  intro store starts value later called
  have same := readOnly store
  rw [called] at same
  exact Eq.mpr (congrArg before same) starts

theorem Commits.transaction (commits : Commits before call after) :
    Commits before (transaction call) after := by
  intro store starts value later called
  exact commits store starts value later (transaction_ok_iff.mp called)

theorem commits_each {call : β → Call Store Fault α} {values : List β}
    (keeps : ∀ value ∈ values, Commits before (call value) fun _ => before) :
    Commits before (each call values) fun _ => before := by
  induction values with
  | nil => exact commits_answer fun _ holds => holds
  | cons value values induction =>
    have rest := induction (List.forall_mem_cons.mp keeps).2
    exact Commits.andThen (keeps value List.mem_cons_self) fun _ =>
      rest.andThen fun _ => commits_answer fun _ holds => holds

theorem Traceless.keeps (traceless : Traceless call) (commits : Commits before call fun _ => before)
    {store : Store} (holds : before store) : before (call store).2 := by
  cases called : call store with
  | mk result later =>
    cases result with
    | error fault => exact traceless store fault later called ▸ holds
    | ok value => exact commits store holds value later called

end Commits

end Call

end Adhdev
