import Mathlib

/-! # Cooperative tasks

Tasks of one program share a store and a set of locks. One task runs at a time,
from one suspension to the next, one operation a step; the rest of the program
sees the store only while no task runs. The program can be stopped before any
operation, which ends every task and releases every lock.
-/

namespace Adhdev

/-- What the tasks of one program work with. A query is a question to the
outside; its answer has a type of its own. A label names a write. -/
structure Language where
  Shared : Type
  Lock : Type
  Query : Type
  Answer : Query → Type
  Label : Type

/-- The remaining code of a task. `ask` is answered at once, `wait` and `pause`
suspend the task, and `spawn` runs the child up to its first suspension. -/
inductive Process (L : Language) : Type
  | done
  | read (next : L.Shared → List L.Lock → Process L)
  | write (label : L.Label) (effect : L.Shared → L.Shared) (next : Process L)
  | acquire (lock : L.Lock) (next : Process L)
  | release (lock : L.Lock) (next : Process L)
  | ask (query : L.Query) (next : L.Answer query → Process L)
  | wait (query : L.Query) (next : L.Answer query → Process L)
  | pause (next : Process L)
  | spawn (child next : Process L)

namespace Process

variable {L : Language}

/-- The label of the write the task makes next, when only reads come before it. -/
def upcoming (shared : L.Shared) (locks : List L.Lock) : Process L → Option L.Label
  | .read next => upcoming shared locks (next shared locks)
  | .write label _ _ => some label
  | _ => none

/-- The code a suspended task goes on with. -/
def resumed (oracle : (query : L.Query) → L.Answer query) : Process L → Process L
  | .wait query next => next (oracle query)
  | .pause next => next
  | code => code

def suspended : Process L → Bool
  | .wait _ _ => true
  | .pause _ => true
  | _ => false

end Process

structure Task (L : Language) where
  code : Process L
  owned : List L.Lock := []

structure Pool (L : Language) where
  shared : L.Shared
  locks : List L.Lock := []
  running : Option (Task L) := none
  waiting : List (Task L) := []

namespace Pool

variable {L : Language}

def call (pool : Pool L) (code : Process L) : Pool L :=
  { pool with running := some { code } }

def wake (pool : Pool L) (position : Nat) (oracle : (query : L.Query) → L.Answer query) : Pool L :=
  match pool.waiting[position]? with
  | some task =>
    { pool with
      running := some { task with code := task.code.resumed oracle }
      waiting := pool.waiting.eraseIdx position }
  | none => pool

/-- The program stops and starts again on what `crash` leaves of its store. -/
def restart (crash : L.Shared → L.Shared) (pool : Pool L) : Pool L :=
  { shared := crash pool.shared }

def upcoming (pool : Pool L) : Option L.Label :=
  match pool.running with
  | some task => task.code.upcoming pool.shared pool.locks
  | none => none

section Exec

variable [DecidableEq L.Lock]

/-- One operation of the running task. -/
def exec (pool : Pool L) (oracle : (query : L.Query) → L.Answer query) : Pool L :=
  match pool.running with
  | none => pool
  | some task =>
    match task.code with
    | .done => { pool with running := none }
    | .read next => { pool with running := some { task with code := next pool.shared pool.locks } }
    | .write _ effect next =>
      { pool with shared := effect pool.shared, running := some { task with code := next } }
    | .acquire lock next =>
      { pool with
        locks := pool.locks.insert lock
        running := some { code := next, owned := task.owned.insert lock } }
    | .release lock next =>
      { pool with
        locks := pool.locks.filter (· ≠ lock)
        running := some { code := next, owned := task.owned.filter (· ≠ lock) } }
    | .ask query next => { pool with running := some { task with code := next (oracle query) } }
    | .wait _ _ => { pool with running := none, waiting := pool.waiting ++ [task] }
    | .pause _ => { pool with running := none, waiting := pool.waiting ++ [task] }
    | .spawn child next =>
      { pool with
        running := some { code := child }
        waiting := pool.waiting ++ [{ task with code := .pause next }] }

end Exec

end Pool

/-! ## Code that throws -/

/-- Code with a result, given by what it does before a continuation. -/
def Async (L : Language) (Thrown : Type) (α : Type) : Type :=
  (Except Thrown α → Process L) → Process L

namespace Async

variable {L : Language} {Thrown α β : Type}

instance : Monad (Async L Thrown) where
  pure value := fun next => next (.ok value)
  bind code rest := fun next => code fun
    | .ok value => rest value next
    | .error thrown => next (.error thrown)

def inspect (observe : L.Shared → List L.Lock → α) : Async L Thrown α :=
  fun next => .read fun shared locks => next (.ok (observe shared locks))

def update (label : L.Label) (change : L.Shared → Except Thrown L.Shared) : Async L Thrown Unit :=
  fun next => .read fun shared _ => match change shared with
    | .ok changed => .write label (fun _ => changed) (next (.ok ()))
    | .error thrown => next (.error thrown)

def acquire (lock : L.Lock) : Async L Thrown Unit :=
  fun next => .acquire lock (next (.ok ()))

def release (lock : L.Lock) : Async L Thrown Unit :=
  fun next => .release lock (next (.ok ()))

def ask (query : L.Query) : Async L Thrown (L.Answer query) :=
  fun next => .ask query fun answer => next (.ok answer)

def wait (query : L.Query) : Async L Thrown (L.Answer query) :=
  fun next => .wait query fun answer => next (.ok answer)

def pause : Async L Thrown Unit := fun next => .pause (next (.ok ()))

def throw (thrown : Thrown) : Async L Thrown α := fun next => next (.error thrown)

def tryCatch (body : Async L Thrown α) (handler : Thrown → Async L Thrown α) : Async L Thrown α :=
  fun next => body fun
    | .ok value => next (.ok value)
    | .error thrown => handler thrown next

def ensuring (body : Async L Thrown α) (last : Async L Thrown Unit) : Async L Thrown α :=
  fun next => body fun result => last fun
    | .ok _ => next result
    | .error thrown => next (.error thrown)

def task (code : Async L Thrown α) : Process L := code fun _ => .done

def spawn (child : Async L Thrown α) : Async L Thrown Unit :=
  fun next => .spawn child.task (next (.ok ()))

/-- An awaited result reaches the caller after other tasks may have run. -/
def settled (body : Async L Thrown α) : Async L Thrown α :=
  fun next => body fun result => .pause (next result)

def each (values : List β) (body : β → Async L Thrown Unit) : Async L Thrown Unit :=
  match values with
  | [] => pure ()
  | value :: rest => body value >>= fun _ => each rest body

end Async

end Adhdev
