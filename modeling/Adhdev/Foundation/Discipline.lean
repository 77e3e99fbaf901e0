import Adhdev.Foundation.Process

/-! # Invariants of cooperative tasks

Rules for proving that the store of a program keeps an invariant however its
tasks interleave and wherever the program stops. A task may rely on what it left
in the store at a suspension as far as its locks protect it; in return each of
its writes respects the locks of the others.
-/

namespace Adhdev

open List Option Bool

/-- The obligations of the tasks of one program.

`Sound` holds of every state of the store, `Durable` also whenever the program
may be stopped. `Base` relates the store before a step to the store after it,
`Keeps` bounds what a lock lets others change, and a lock that no longer
`Matters` protects nothing. The world is what the task knows of other programs. -/
structure Discipline (L : Language) where
  World : Type
  Grows : World → World → Prop
  Sound : World → L.Shared → Prop
  Durable : World → L.Shared → Prop
  Base : L.Shared → L.Shared → Prop
  Matters : L.Lock → L.Shared → Prop
  Keeps : L.Lock → L.Shared → L.Shared → Prop
  Allowed : L.Label → L.Shared → List L.Lock → Prop
  Delicate : L.Label → L.Shared → Prop
  Answers : World → L.Shared → (query : L.Query) → L.Answer query → Prop
  grows_refl : ∀ world, Grows world world
  grows_trans : ∀ {first second third}, Grows first second → Grows second third → Grows first third
  sound_grows : ∀ {world later shared}, Grows world later → Sound world shared → Sound later shared
  durable_grows : ∀ {world later shared}, Grows world later → Durable world shared →
    Durable later shared
  base_refl : ∀ shared, Base shared shared
  base_trans : ∀ {first second third}, Base first second → Base second third → Base first third
  matters_base : ∀ {lock shared later}, Base shared later → Matters lock later → Matters lock shared
  keeps_refl : ∀ lock shared, Keeps lock shared shared
  keeps_trans : ∀ {lock first second third}, Base first second → Keeps lock first second →
    Keeps lock second third → Keeps lock first third
  keeps_of_not_matters : ∀ {lock shared later}, ¬ Matters lock shared → Base shared later →
    Keeps lock shared later

namespace Discipline

variable {L : Language} (D : Discipline L)

/-- Between two points of a task that owns these locks. -/
structure Rely (owned : List L.Lock) (shared later : L.Shared) : Prop where
  base : D.Base shared later
  keeps : ∀ lock ∈ owned, D.Keeps lock shared later

/-- What a write of a task that owns these locks may do to the store. -/
structure Guarantee (owned locks : List L.Lock) (shared later : L.Shared) : Prop where
  base : D.Base shared later
  keeps : ∀ lock ∈ locks, lock ∉ owned → D.Keeps lock shared later

/-- The write the task makes next is not a delicate one. -/
def Exposed (code : Process L) (shared : L.Shared) (locks : List L.Lock) : Prop :=
  ∀ label, code.upcoming shared locks = some label → ¬ D.Delicate label shared

/-- A state that a suspended task may find. -/
structure Later (world : D.World) (owned : List L.Lock) (shared : L.Shared)
    (world' : D.World) (shared' : L.Shared) : Prop where
  grows : D.Grows world world'
  rely : D.Rely owned shared shared'
  sound : D.Sound world' shared'
  durable : D.Durable world' shared'

variable {D}

theorem Rely.refl (owned : List L.Lock) (shared : L.Shared) : D.Rely owned shared shared :=
  ⟨D.base_refl shared, fun lock _ => D.keeps_refl lock shared⟩

variable {owned : List L.Lock}

theorem Rely.trans {first second third : L.Shared} (one : D.Rely owned first second)
    (two : D.Rely owned second third) : D.Rely owned first third :=
  ⟨D.base_trans one.base two.base,
    fun lock member => D.keeps_trans one.base (one.keeps lock member) (two.keeps lock member)⟩

theorem Later.of_rely {world world' : D.World} {shared between shared' : L.Shared}
    (rely : D.Rely owned shared between) (later : D.Later world owned between world' shared') :
    D.Later world owned shared world' shared' :=
  { later with rely := rely.trans later.rely }

variable {shared shared' : L.Shared}

theorem Later.of_grows {world between world' : D.World} (grows : D.Grows world between)
    (later : D.Later between owned shared world' shared') :
    D.Later world owned shared world' shared' :=
  { later with grows := D.grows_trans grows later.grows }

variable (D)

variable [DecidableEq L.Lock]

/-- The code meets every obligation from here on, for a task that owns `owned`. -/
def Safe (world : D.World) : Process L → List L.Lock → L.Shared → List L.Lock → Prop
  | .done, _, _, _ => True
  | .read next, owned, shared, locks => Safe world (next shared locks) owned shared locks
  | .write label effect next, owned, shared, locks =>
    D.Allowed label shared locks →
      D.Sound world (effect shared) ∧
      (D.Exposed next (effect shared) locks → D.Durable world (effect shared)) ∧
      D.Guarantee owned locks shared (effect shared) ∧
      Safe world next owned (effect shared) locks
  | .acquire lock next, owned, shared, locks =>
    (D.Matters lock shared → lock ∉ locks) ∧
      Safe world next (owned.insert lock) shared (locks.insert lock)
  | .release lock next, owned, shared, locks =>
    (lock ∈ owned ∨ ¬ D.Matters lock shared) ∧
      Safe world next (owned.filter (· ≠ lock)) shared (locks.filter (· ≠ lock))
  | .ask query next, owned, shared, locks =>
    ∀ world', D.Grows world world' → ∀ answer, D.Answers world' shared query answer →
      Safe world' (next answer) owned shared locks
  | .wait query next, owned, shared, _ =>
    ∀ world' shared' locks', D.Later world owned shared world' shared' →
      ∀ answer, D.Answers world' shared' query answer →
        Safe world' (next answer) owned shared' locks'
  | .pause next, owned, shared, _ =>
    ∀ world' shared' locks', D.Later world owned shared world' shared' →
      Safe world' next owned shared' locks'
  | .spawn child next, owned, shared, locks =>
    Safe world child [] shared locks ∧
      ∀ world' shared' locks', D.Later world owned shared world' shared' →
        Safe world' next owned shared' locks'

variable {D}

theorem Safe.grows {world later : D.World} (grows : D.Grows world later) {code : Process L}
    {shared : L.Shared} {locks : List L.Lock} (safe : D.Safe world code owned shared locks) :
    D.Safe later code owned shared locks := by
  induction code generalizing world later owned shared locks with
  | done => trivial
  | read next induction => exact induction _ _ grows safe
  | write label effect next induction =>
    intro allowed
    obtain ⟨sound, durable, guarantee, rest⟩ := safe allowed
    exact ⟨D.sound_grows grows sound, fun exposed => D.durable_grows grows (durable exposed),
      guarantee, induction grows rest⟩
  | acquire lock next induction | release lock next induction =>
        exact ⟨safe.1, induction grows safe.2⟩
  | ask query next induction =>
    intro world' grows' answer answers
    exact safe world' (D.grows_trans grows grows') answer answers
  | wait query next induction =>
    intro world' shared' locks' found answer answers
    exact safe world' shared' locks' (found.of_grows grows) answer answers
  | pause next induction =>
    intro world' shared' locks' found
    exact safe world' shared' locks' (found.of_grows grows)
  | spawn child next childInduction nextInduction =>
    refine ⟨childInduction grows safe.1, ?_⟩
    intro world' shared' locks' found
    exact safe.2 world' shared' locks' (found.of_grows grows)

theorem Safe.rely {world : D.World} {code : Process L} (suspended : code.suspended = true)
    (rely : D.Rely owned shared shared') {locks locks' : List L.Lock}
    (safe : D.Safe world code owned shared locks) : D.Safe world code owned shared' locks' := by
  cases code with
  | wait query next | pause next =>
    intro world' shared'' locks'' found
    exact safe world' shared'' locks'' (found.of_rely rely)
  | done | read | write | acquire | release | ask | spawn => simp [Process.suspended] at suspended

/-! ## Healthy pools -/

end Discipline

namespace Pool

variable {L : Language}

def tasks (pool : Pool L) : List (Task L) := pool.running.toList ++ pool.waiting

theorem tasks_of_running {pool : Pool L} {task : Task L} (runs : pool.running = some task) :
    pool.tasks = task :: pool.waiting := by
  simp [tasks, runs]

theorem tasks_of_idle {pool : Pool L} (idle : pool.running = none) : pool.tasks = pool.waiting := by
  simp [tasks, idle]

/-- The environment and the caller let the running task make its next step. -/
def Permitted (D : Discipline L) (world : D.World) (pool : Pool L)
    (oracle : (query : L.Query) → L.Answer query) : Prop :=
  match pool.running with
  | none => True
  | some task =>
    match task.code with
    | .ask query _ => D.Answers world pool.shared query (oracle query)
    | .write label _ _ => D.Allowed label pool.shared pool.locks
    | _ => True

def Answered (D : Discipline L) (world : D.World) (pool : Pool L) (position : Nat)
    (oracle : (query : L.Query) → L.Answer query) : Prop :=
  match pool.waiting[position]? with
  | none => True
  | some task =>
    match task.code with
    | .wait query _ => D.Answers world pool.shared query (oracle query)
    | _ => True

theorem pairwise_shared {D : Discipline L} {tasks : List (Task L)} {shared later : L.Shared}
    (base : D.Base shared later)
    (exclusive : tasks.Pairwise fun one other =>
      ∀ lock ∈ one.owned, lock ∈ other.owned → ¬ D.Matters lock shared) :
    tasks.Pairwise fun one other =>
      ∀ lock ∈ one.owned, lock ∈ other.owned → ¬ D.Matters lock later := by
  apply exclusive.imp
  intro one other separate lock first second matters
  exact separate lock first second (D.matters_base base matters)

variable [DecidableEq L.Lock]

/-- The store is sound, every task is safe, and no two tasks own one lock that
still matters. -/
structure Healthy (D : Discipline L) (world : D.World) (pool : Pool L) : Prop where
  sound : D.Sound world pool.shared
  durable : (∀ label, pool.upcoming = some label → ¬ D.Delicate label pool.shared) →
    D.Durable world pool.shared
  running : ∀ task, pool.running = some task →
    D.Safe world task.code task.owned pool.shared pool.locks
  waiting : ∀ task ∈ pool.waiting, task.code.suspended = true ∧
    D.Safe world task.code task.owned pool.shared pool.locks
  held : ∀ task ∈ pool.tasks, ∀ lock ∈ task.owned, D.Matters lock pool.shared → lock ∈ pool.locks
  exclusive : pool.tasks.Pairwise fun one other =>
    ∀ lock ∈ one.owned, lock ∈ other.owned → ¬ D.Matters lock pool.shared

namespace Healthy

variable {D : Discipline L} {world : D.World} {pool : Pool L}

section

variable (healthy : pool.Healthy D world)
include healthy

theorem grows {later : D.World} (grows : D.Grows world later) : pool.Healthy D later where
  sound := D.sound_grows grows healthy.sound
  durable exposed := D.durable_grows grows (healthy.durable exposed)
  running task runs := (healthy.running task runs).grows grows
  waiting task member :=
    ⟨(healthy.waiting task member).1, (healthy.waiting task member).2.grows grows⟩
  held := healthy.held
  exclusive := healthy.exclusive

theorem durable_of_idle (idle : pool.running = none) : D.Durable world pool.shared := by
  apply healthy.durable
  simp [upcoming, idle]

theorem foreign {task : Task L} (runs : pool.running = some task) {other : Task L}
    (member : other ∈ pool.waiting) {lock : L.Lock} (owns : lock ∈ other.owned)
    (matters : D.Matters lock pool.shared) : lock ∈ pool.locks ∧ lock ∉ task.owned := by
  have tasks := tasks_of_running runs
  refine ⟨healthy.held other (by simp [tasks, member]) lock owns matters, ?_⟩
  intro shared
  have exclusive := healthy.exclusive
  rw [tasks, pairwise_cons] at exclusive
  exact exclusive.1 other member lock shared owns matters

end

variable {later : L.Shared}

theorem rely_of_guarantee (healthy : pool.Healthy D world) {task : Task L}
    (runs : pool.running = some task)
    (guarantee : D.Guarantee task.owned pool.locks pool.shared later) {other : Task L}
    (member : other ∈ pool.waiting) : D.Rely other.owned pool.shared later := by
  refine ⟨guarantee.base, ?_⟩
  intro lock owns
  by_cases matters : D.Matters lock pool.shared
  · obtain ⟨present, notOwned⟩ := healthy.foreign runs member owns matters
    exact guarantee.keeps lock present notOwned
  · exact D.keeps_of_not_matters matters guarantee.base

variable {code : Process L}

theorem call (healthy : pool.Healthy D world) (idle : pool.running = none)
    (safe : D.Safe world code [] pool.shared pool.locks) : (pool.call code).Healthy D world where
  sound := healthy.sound
  durable _ := healthy.durable_of_idle idle
  running task runs := by
    cases runs
    exact safe
  waiting := healthy.waiting
  held task member lock owns := by
    rcases mem_cons.mp member with equal | member
    · rw [equal] at owns
      cases owns
    · exact healthy.held task (by rw [tasks_of_idle idle]; exact member) lock owns
  exclusive := by
    have exclusive := healthy.exclusive
    rw [tasks_of_idle idle] at exclusive
    exact pairwise_cons.mpr ⟨fun _ _ lock owns => absurd owns not_mem_nil, exclusive⟩

theorem restart (crash : L.Shared → L.Shared) (sound : D.Sound world (crash pool.shared))
    (durable : D.Durable world (crash pool.shared)) : (pool.restart crash).Healthy D world where
  sound := sound
  durable _ := durable
  running _ runs := by cases runs
  waiting _ member := absurd member not_mem_nil
  held _ member := absurd member not_mem_nil
  exclusive := List.Pairwise.nil

theorem environment (healthy : pool.Healthy D world) (idle : pool.running = none)
    (sound : D.Sound world later) (durable : D.Durable world later)
    (base : D.Base pool.shared later) (keeps : ∀ lock, D.Keeps lock pool.shared later) :
    { pool with shared := later }.Healthy D world where
  sound := sound
  durable _ := durable
  running task runs := by
    rw [show ({ pool with shared := later } : Pool L).running = pool.running from rfl, idle] at runs
    cases runs
  waiting task member :=
    ⟨(healthy.waiting task member).1,
      Discipline.Safe.rely (healthy.waiting task member).1 ⟨base, fun lock _ => keeps lock⟩
        (healthy.waiting task member).2⟩
  held task member lock owns matters :=
    healthy.held task member lock owns (D.matters_base base matters)
  exclusive := pairwise_shared base healthy.exclusive

variable {oracle : (query : L.Query) → L.Answer query}

theorem wake (healthy : pool.Healthy D world) (idle : pool.running = none) {position : Nat}
    (answered : pool.Answered D world position oracle) :
    (pool.wake position oracle).Healthy D world := by
  unfold Pool.wake
  unfold Answered at answered
  cases found : pool.waiting[position]? with
  | none => exact healthy
  | some task =>
    simp only [found] at answered
    have member : task ∈ pool.waiting := mem_of_getElem? found
    obtain ⟨suspended, safe⟩ := healthy.waiting task member
    have durable := healthy.durable_of_idle idle
    have found' : D.Later world task.owned pool.shared world pool.shared :=
      ⟨D.grows_refl world, .refl _ _, healthy.sound, durable⟩
    have resumes : D.Safe world (task.code.resumed oracle) task.owned pool.shared pool.locks := by
      cases code : task.code with
      | wait query next =>
        simp only [code] at answered
        rw [code] at safe
        exact safe world pool.shared pool.locks found' (oracle query) answered
      | pause next =>
        rw [code] at safe
        exact safe world pool.shared pool.locks found'
      | done | read | write | acquire | release | ask | spawn =>
        simp [code, Process.suspended] at suspended
    obtain ⟨bound, equal⟩ := List.getElem?_eq_some_iff.mp found
    have rearranged : (task :: pool.waiting.eraseIdx position).Perm pool.waiting := by
      rw [← equal]
      exact (getElem_cons_eraseIdx_perm bound)
    refine ⟨healthy.sound, fun _ => durable, ?_, ?_, ?_, ?_⟩
    · rintro _ ⟨⟩
      exact resumes
    · exact fun other later => healthy.waiting other (mem_of_mem_eraseIdx later)
    · intro other later lock owns
      rw [tasks_of_running rfl] at later
      rcases mem_cons.mp later with equal | later
      · rw [equal] at owns
        exact healthy.held task (by rw [tasks_of_idle idle]; exact member) lock owns
      refine healthy.held other ?_ lock owns
      rw [tasks_of_idle idle]
      exact mem_of_mem_eraseIdx later
    have exclusive := healthy.exclusive
    rw [tasks_of_idle idle] at exclusive
    rw [tasks_of_running rfl]
    have ordered := (rearranged.pairwise_iff (fun {one other} separate lock first second =>
      separate lock second first)).mpr exclusive
    rw [pairwise_cons] at ordered ⊢
    exact ordered

section Exec

variable {task : Task L}

theorem continue_with (healthy : pool.Healthy D world) (runs : pool.running = some task)
    (sound : D.Sound world later)
    (durable : D.Exposed code later pool.locks → D.Durable world later)
    (guarantee : D.Guarantee task.owned pool.locks pool.shared later)
    (safe : D.Safe world code task.owned later pool.locks) :
    { pool with shared := later, running := some { task with code } }.Healthy D world where
  sound := sound
  durable := durable
  running _ equal := by
    cases equal
    exact safe
  waiting other member :=
    ⟨(healthy.waiting other member).1,
      Discipline.Safe.rely (healthy.waiting other member).1
        (healthy.rely_of_guarantee runs guarantee member) (healthy.waiting other member).2⟩
  held other member lock owns matters := by
    have before := D.matters_base guarantee.base matters
    rcases mem_cons.mp member with equal | member
    · rw [equal] at owns
      exact healthy.held task (by simp [tasks_of_running runs]) lock owns before
    refine healthy.held other ?_ lock owns before
    rw [tasks_of_running runs]
    exact .tail _ member
  exclusive := by
    have exclusive := pairwise_shared guarantee.base healthy.exclusive
    rw [tasks_of_running runs] at exclusive
    rw [tasks_of_running rfl]
    rw [pairwise_cons] at exclusive ⊢
    exact exclusive

theorem continue_locks (healthy : pool.Healthy D world) (runs : pool.running = some task)
    (durable : D.Durable world pool.shared) {owned locks : List L.Lock}
    (safe : D.Safe world code owned pool.shared locks)
    (mine : ∀ lock ∈ owned, D.Matters lock pool.shared → lock ∈ locks)
    (others : ∀ other ∈ pool.waiting, ∀ lock ∈ other.owned, D.Matters lock pool.shared → lock ∈
      locks ∧ lock ∉ owned) :
    { pool with locks := locks, running := some { code, owned } }.Healthy D world where
  sound := healthy.sound
  durable _ := durable
  running _ equal := by
    cases equal
    exact safe
  waiting other member :=
    ⟨(healthy.waiting other member).1,
      Discipline.Safe.rely (healthy.waiting other member).1 (.refl _ _)
        (healthy.waiting other member).2⟩
  held other member lock owns matters := by
    rcases mem_cons.mp member with equal | member
    · rw [equal] at owns
      exact mine lock owns matters
    · exact (others other member lock owns matters).1
  exclusive := by
    have exclusive := healthy.exclusive
    rw [tasks_of_running runs, pairwise_cons] at exclusive
    rw [tasks_of_running rfl, pairwise_cons]
    refine ⟨?_, exclusive.2⟩
    intro other member lock owns shared matters
    exact (others other member lock shared matters).2 owns

theorem suspend (healthy : pool.Healthy D world) (runs : pool.running = some task)
    (durable : D.Durable world pool.shared) (suspended : code.suspended = true)
    (safe : D.Safe world code task.owned pool.shared pool.locks) (next : Option (Process L))
    (starts : ∀ child ∈ next, D.Safe world child [] pool.shared pool.locks) : { pool with
      running := next.map fun child => { code := child }
      waiting := pool.waiting ++ [{ task with code }] }.Healthy D world where
  sound := healthy.sound
  durable _ := durable
  running started equal := by
    obtain ⟨child, isNext, rfl⟩ := map_eq_some_iff.mp equal
    exact starts child isNext
  waiting other member := by
    rcases mem_append.mp member with member | member
    · exact healthy.waiting other member
    rw [mem_singleton] at member
    rw [member]
    exact ⟨suspended, safe⟩
  held other member lock owns := by
    have cases : lock ∈ task.owned ∨ other ∈ pool.waiting := by
      rcases mem_append.mp member with starting | waits
      · obtain ⟨child, _, rfl⟩ := map_eq_some_iff.mp (mem_toList.mp starting)
        cases owns
      rcases mem_append.mp waits with waits | waits
      · exact .inr waits
      rw [mem_singleton] at waits
      rw [waits] at owns
      exact .inl owns
    rcases cases with mine | waits
    · exact healthy.held task (by simp [tasks_of_running runs]) lock mine
    · exact healthy.held other (by simp [tasks_of_running runs, waits]) lock owns
  exclusive := by
    have exclusive := healthy.exclusive
    rw [tasks_of_running runs, pairwise_cons] at exclusive
    refine pairwise_append.mpr ⟨?_, ?_, ?_⟩
    · cases next <;> simp
    · refine pairwise_append.mpr ⟨exclusive.2, pairwise_singleton _ _, ?_⟩
      intro other member mine isMine lock owns shared
      rw [mem_singleton] at isMine
      rw [isMine] at shared
      exact exclusive.1 other member lock shared owns
    intro started isStarted other _ lock owns
    obtain ⟨child, _, rfl⟩ := map_eq_some_iff.mp (mem_toList.mp isStarted)
    cases owns

section

variable (healthy : pool.Healthy D world)
include healthy

theorem durable_of_no_write (runs : pool.running = some task)
    (quiet : task.code.upcoming pool.shared pool.locks = none) : D.Durable world pool.shared := by
  apply healthy.durable
  simp [upcoming, runs, quiet]

theorem exec (permitted : pool.Permitted D world oracle) : (pool.exec oracle).Healthy D world := by
  unfold Pool.exec
  unfold Permitted at permitted
  cases runs : pool.running with
  | none => exact healthy
  | some task =>
    obtain ⟨code, owned⟩ := task
    simp only [runs] at permitted
    have safe := healthy.running _ runs
    have same : D.Guarantee owned pool.locks pool.shared pool.shared :=
      ⟨D.base_refl _, fun lock _ _ => D.keeps_refl lock _⟩
    cases code with
    | done =>
      have durable := healthy.durable_of_no_write runs rfl
      refine ⟨healthy.sound, fun _ => durable, ?_, healthy.waiting, ?_, ?_⟩
      · rintro _ ⟨⟩
      · intro other member
        apply healthy.held other
        rw [tasks_of_running runs]
        exact .tail _ member
      have exclusive := healthy.exclusive
      rw [tasks_of_running runs, pairwise_cons] at exclusive
      exact exclusive.2
    | read next =>
      refine healthy.continue_with runs healthy.sound ?_ same safe
      intro exposed
      apply healthy.durable
      intro label equal
      rw [upcoming, runs] at equal
      exact exposed label equal
    | write label effect next =>
      obtain ⟨sound, durable, guarantee, rest⟩ := safe permitted
      exact healthy.continue_with runs sound durable guarantee rest
    | ask query next =>
      have durable := healthy.durable_of_no_write runs rfl
      exact healthy.continue_with runs healthy.sound (fun _ => durable) same
        (safe world (D.grows_refl world) (oracle query) permitted)
    | acquire lock next =>
      have durable := healthy.durable_of_no_write runs rfl
      refine healthy.continue_locks runs durable safe.2 ?_ ?_
      · intro taken member matters
        rcases mem_insert_iff.mp member with rfl | member
        · exact mem_insert_self
        · exact mem_insert_of_mem
            (healthy.held _ (by simp [tasks_of_running runs]) taken member matters)
      intro other member taken owns matters
      obtain ⟨present, notOwned⟩ := healthy.foreign runs member owns matters
      refine ⟨mem_insert_of_mem present, ?_⟩
      intro mine
      rcases mem_insert_iff.mp mine with rfl | mine
      · exact safe.1 matters present
      · exact notOwned mine
    | release lock next =>
      have durable := healthy.durable_of_no_write runs rfl
      refine healthy.continue_locks runs durable safe.2 ?_ ?_
      · intro taken member matters
        rw [mem_filter] at member ⊢
        exact ⟨healthy.held _ (by simp [tasks_of_running runs]) taken member.1 matters, member.2⟩
      intro other member taken owns matters
      obtain ⟨present, notOwned⟩ := healthy.foreign runs member owns matters
      rw [mem_filter, mem_filter]
      refine ⟨⟨present, ?_⟩, fun mine => notOwned mine.1⟩
      rw [decide_eq_true_eq]
      rintro rfl
      rcases safe.1 with mine | idle
      · exact notOwned mine
      · exact idle matters
    | wait query next | pause next =>
      have durable := healthy.durable_of_no_write runs rfl
      exact healthy.suspend runs durable rfl safe none (by simp)
    | spawn child next =>
      have durable := healthy.durable_of_no_write runs rfl
      have rest : D.Safe world (.pause next) owned pool.shared pool.locks := safe.2
      refine healthy.suspend runs durable rfl rest (some child) ?_
      rintro _ ⟨⟩
      exact safe.1

theorem base_exec (permitted : pool.Permitted D world oracle) : D.Base pool.shared
    (pool.exec oracle).shared := by
  unfold Pool.exec
  unfold Permitted at permitted
  cases runs : pool.running with
  | none => exact D.base_refl _
  | some task =>
    obtain ⟨code, owned⟩ := task
    simp only [runs] at permitted
    have safe := healthy.running _ runs
    cases code with
    | write label effect next => exact (safe permitted).2.2.1.base
    | done | read | acquire | release | ask | wait | pause | spawn => exact D.base_refl _

end

end Exec

end Healthy

end Pool

end Adhdev
