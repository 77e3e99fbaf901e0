import Adhdev.Foundation.Discipline

/-! # Rules for code with a result

`Runs` is the specification of a piece of code by what holds when it hands its
result on, whatever the continuation is. There is one rule for each way of
building code.
-/

namespace Adhdev

open Async

namespace Discipline

variable {L : Language}

/-- A point in the execution of one task. -/
structure Moment (D : Discipline L) where
  world : D.World
  owned : List L.Lock
  shared : L.Shared
  locks : List L.Lock

variable {D : Discipline L}

/-- The obligations of a change of the store. -/
structure Step (here : Moment D) (later : L.Shared) : Prop where
  sound : D.Sound here.world later
  durable : D.Durable here.world later
  guarantee : D.Guarantee here.owned here.locks here.shared later

/-- The store is as a suspended task may find it. -/
structure Steady (here : Moment D) : Prop where
  sound : D.Sound here.world here.shared
  durable : D.Durable here.world here.shared

theorem Step.steady {here : Moment D} {changed : L.Shared} (step : Step here changed) :
    Steady { here with shared := changed } :=
  ⟨step.sound, step.durable⟩

structure After (here there : Moment D) : Prop where
  owned : there.owned = here.owned
  grows : D.Grows here.world there.world
  base : D.Base here.shared there.shared
  steady : Steady there

namespace After

variable {here there later : Moment D}

theorem refl (steady : Steady here) : After here here :=
  ⟨rfl, D.grows_refl _, D.base_refl _, steady⟩

theorem trans (first : After here there) (second : After there later) : After here later :=
  ⟨second.owned.trans first.owned, D.grows_trans first.grows second.grows,
    D.base_trans first.base second.base, second.steady⟩

theorem of_later (owned : there.owned = here.owned)
    (found : D.Later here.world here.owned here.shared there.world there.shared) :
    After here there :=
  ⟨owned, found.grows, found.rely.base, ⟨found.sound, found.durable⟩⟩

theorem of_step {changed : L.Shared} (step : Step here changed) :
    After here { here with shared := changed } :=
  ⟨rfl, D.grows_refl _, step.guarantee.base, step.steady⟩

theorem of_grows (steady : Steady here) {world : D.World} (grows : D.Grows here.world world) :
    After here { here with world } :=
  ⟨rfl, grows, D.base_refl _,
    ⟨D.sound_grows grows steady.sound, D.durable_grows grows steady.durable⟩⟩

end After

variable [DecidableEq L.Lock] {Thrown α β : Type}

/-- Code run from here meets every obligation and hands on a result that
satisfies `Post`. -/
def Runs (here : Moment D) (code : Async L Thrown α)
    (Post : Except Thrown α → Moment D → Prop) : Prop :=
  ∀ next : Except Thrown α → Process L,
    (∀ result there, Post result there →
      D.Safe there.world (next result) there.owned there.shared there.locks) →
    D.Safe here.world (code next) here.owned here.shared here.locks

namespace Runs

variable {here : Moment D} {Post : Except Thrown α → Moment D → Prop}
variable {code : Async L Thrown α}

theorem weaken {Strong : Except Thrown α → Moment D → Prop} (runs : Runs here code Strong)
    (weaker : ∀ result there, Strong result there → Post result there) : Runs here code Post := by
  intro next continues
  exact runs next fun result there strong => continues result there (weaker result there strong)

theorem task (runs : Runs here code Post) :
    D.Safe here.world code.task here.owned here.shared here.locks :=
  runs (fun _ => .done) fun _ _ _ => trivial

theorem pure {value : α} (post : Post (.ok value) here) :
    Runs here (Pure.pure value : Async L Thrown α) Post :=
  fun _ continues => continues _ _ post

theorem throw {thrown : Thrown} (post : Post (.error thrown) here) :
    Runs here (throw thrown) Post :=
  fun _ continues => continues _ _ post

theorem bind {code : Async L Thrown β} {rest : β → Async L Thrown α}
    (runs : Runs here code fun result there => match result with
      | .ok value => Runs there (rest value) Post
      | .error thrown => Post (.error thrown) there) :
    Runs here (code >>= rest) Post := by
  intro next continues
  apply runs
  intro result there post
  cases result with
  | ok value => exact post next continues
  | error thrown => exact continues _ _ post

theorem inspect {observe : L.Shared → List L.Lock → α}
    (post : Post (.ok (observe here.shared here.locks)) here) : Runs here (inspect observe) Post :=
  fun _ continues => continues _ _ post

theorem bind_inspect {observe : L.Shared → List L.Lock → β} {rest : β → Async L Thrown α}
    (runs : Runs here (rest (observe here.shared here.locks)) Post) :
    Runs here (Async.inspect observe >>= rest) Post :=
  bind (inspect runs)

variable {change : L.Shared → Except Thrown L.Shared}

theorem update {label : L.Label} {Post : Except Thrown Unit → Moment D → Prop}
    (step : ∀ changed, change here.shared = .ok changed → D.Allowed label here.shared here.locks
      → Step here changed ∧ Post (.ok ()) { here with shared := changed })
    (thrown : ∀ thrown, change here.shared = .error thrown → Post (.error thrown) here) :
    Runs here (update label change) Post := by
  intro next continues
  simp only [Async.update, Safe]
  cases result : change here.shared with
  | error fault => exact continues _ _ (thrown fault result)
  | ok changed =>
    intro allowed
    obtain ⟨step, post⟩ := step changed result allowed
    exact ⟨step.sound, fun _ => step.durable, step.guarantee, continues _ _ post⟩

theorem bind_update_delicate (delicate : L.Label) {label : L.Label} {rest : Unit → Async L Thrown α}
    (step : ∀ changed, change here.shared = .ok changed → D.Allowed label here.shared here.locks
      → D.Sound here.world changed ∧ D.Guarantee here.owned here.locks here.shared changed ∧
      (D.Durable here.world changed ∨ D.Delicate delicate changed ∧ ∀ next, (rest ()
      next).upcoming changed here.locks = some delicate) ∧ Runs { here with shared := changed }
      (rest ()) Post)
    (thrown : ∀ thrown, change here.shared = .error thrown → Post (.error thrown) here) :
    Runs here (Async.update label change >>= rest) Post := by
  intro next continues
  simp only [Bind.bind, Async.update, Safe]
  cases result : change here.shared with
  | error fault => exact continues _ _ (thrown fault result)
  | ok changed =>
    intro allowed
    obtain ⟨sound, guarantee, settled, runs⟩ := step changed result allowed
    refine ⟨sound, ?_, guarantee, runs next continues⟩
    intro exposed
    rcases settled with durable | ⟨isDelicate, upcoming⟩
    · exact durable
    · exact absurd isDelicate (exposed delicate (upcoming next))

theorem bind_acquire {lock : L.Lock} {rest : Unit → Async L Thrown α}
    (absent : D.Matters lock here.shared → lock ∉ here.locks)
    (runs : Runs { here with owned := here.owned.insert lock, locks := here.locks.insert lock }
      (rest ()) Post) :
    Runs here (acquire lock >>= rest) Post :=
  fun next continues => ⟨absent, runs next continues⟩

theorem release {lock : L.Lock} {Post : Except Thrown Unit → Moment D → Prop}
    (owned : lock ∈ here.owned ∨ ¬ D.Matters lock here.shared)
    (post : Post (.ok ()) { here with
      owned := here.owned.filter (· ≠ lock), locks := here.locks.filter (· ≠ lock) }) :
    Runs here (release lock) Post :=
  fun _ continues => ⟨owned, continues _ _ post⟩

theorem ask {query : L.Query} {Post : Except Thrown (L.Answer query) → Moment D → Prop}
    (post : ∀ world, D.Grows here.world world → ∀ answer,
      D.Answers world here.shared query answer → Post (.ok answer) { here with world }) :
    Runs here (ask query) Post :=
  fun _ continues world grows answer answers => continues _ _ (post world grows answer answers)

theorem wait {query : L.Query} {Post : Except Thrown (L.Answer query) → Moment D → Prop}
    (post : ∀ there : Moment D, there.owned = here.owned →
      D.Later here.world here.owned here.shared there.world there.shared →
      ∀ answer, D.Answers there.world there.shared query answer → Post (.ok answer) there) :
    Runs here (wait query) Post :=
  fun _ continues world shared locks later answer answers =>
    continues _ _ (post ⟨world, here.owned, shared, locks⟩ rfl later answer answers)

theorem settled
    (runs : Runs here code fun result there => ∀ later : Moment D, later.owned = there.owned →
      D.Later there.world there.owned there.shared later.world later.shared → Post result later) :
    Runs here code.settled Post := by
  intro next continues
  apply runs
  intro result there post world shared locks later
  exact continues _ _ (post ⟨world, there.owned, shared, locks⟩ rfl later)

theorem tryCatch {body : Async L Thrown α} {handler : Thrown → Async L Thrown α}
    (runs : Runs here body fun result there => match result with
      | .ok value => Post (.ok value) there
      | .error thrown => Runs there (handler thrown) Post) :
    Runs here (body.tryCatch handler) Post := by
  intro next continues
  apply runs
  intro result there post
  cases result with
  | ok value => exact continues _ _ post
  | error thrown => exact post next continues

theorem ensuring {body : Async L Thrown α} {last : Async L Thrown Unit}
    (runs : Runs here body fun result there => Runs there last fun closing later =>
      match closing with
      | .ok _ => Post result later
      | .error thrown => Post (.error thrown) later) :
    Runs here (body.ensuring last) Post := by
  intro next continues
  apply runs
  intro result there post
  apply post
  intro closing later closed
  cases closing with
  | ok _ | error thrown => exact continues _ _ closed

theorem spawn {child : Async L Thrown β} {Post : Except Thrown Unit → Moment D → Prop}
    {ChildPost : Except Thrown β → Moment D → Prop}
    (starts : Runs { here with owned := [] } child ChildPost)
    (post : ∀ there : Moment D, there.owned = here.owned →
      D.Later here.world here.owned here.shared there.world there.shared → Post (.ok ()) there) :
    Runs here child.spawn Post :=
  fun _ continues => ⟨starts.task, fun world shared locks later =>
    continues _ _ (post ⟨world, here.owned, shared, locks⟩ rfl later)⟩

theorem each {body : β → Async L Thrown Unit} {Post : Except Thrown Unit → Moment D → Prop}
    (Ready : List β → Moment D → Prop)
    (round : ∀ value rest there, Ready (value :: rest) there →
      Runs there (body value) fun result later => match result with
        | .ok _ => Ready rest later
        | .error thrown => Post (.error thrown) later)
    (finish : ∀ there, Ready [] there → Post (.ok ()) there) (values : List β)
    (ready : Ready values here) : Runs here (each values body) Post := by
  induction values generalizing here with
  | nil => exact pure (finish here ready)
  | cons value rest induction =>
    refine bind ((round value rest here ready).weaken ?_)
    intro result there post
    cases result with
    | ok _ => exact induction post
    | error thrown => exact post

end Runs

/-! ## Code that leaves the store steady -/

def Tame (here : Moment D) (code : Async L Thrown α) : Prop :=
  Runs here code fun _ there => After here there

namespace Tame

variable {here there : Moment D}

theorem pure {value : α} (steady : Steady here) : Tame here (Pure.pure value : Async L Thrown α) :=
  Runs.pure (.refl steady)

theorem throw {thrown : Thrown} (steady : Steady here) :
    Tame here (throw thrown : Async L Thrown α) :=
  Runs.throw (.refl steady)

theorem from_after {code : Async L Thrown α} (reached : After here there)
    (tame : Tame there code) : Runs there code fun _ later => After here later :=
  Runs.weaken tame fun _ _ later => reached.trans later

variable {rest : β → Async L Thrown α} {code : Async L Thrown β}

theorem bind (first : Tame here code)
    (second : ∀ value there, After here there → Tame there (rest value)) :
    Tame here (code >>= rest) := by
  refine Runs.bind (Runs.weaken first ?_)
  intro result there reached
  cases result with
  | ok value => exact from_after reached (second value there reached)
  | error thrown => exact reached

theorem bind_known {Known : Except Thrown β → Moment D → Prop}
    (first : Runs here code fun result there => After here there ∧ Known result there)
    (second : ∀ value there, After here there → Known (.ok value) there → Tame there (rest value)) :
    Tame here (code >>= rest) := by
  refine Runs.bind (Runs.weaken first ?_)
  intro result there found
  cases result with
  | ok value => exact from_after found.1 (second value there found.1 found.2)
  | error thrown => exact found.1

theorem runs_bind {Post : Except Thrown α → Moment D → Prop} (tame : Tame here code)
    (failed : ∀ thrown there, After here there → Post (.error thrown) there)
    (next : ∀ value there, After here there → Runs there (rest value) Post) :
    Runs here (code >>= rest) Post := by
  refine Runs.bind (Runs.weaken tame ?_)
  intro result there reached
  cases result with
  | ok value => exact next value there reached
  | error thrown => exact failed thrown there reached

theorem bind_inspect {observe : L.Shared → List L.Lock → β}
    (tame : Tame here (rest (observe here.shared here.locks))) :
    Tame here (Async.inspect observe >>= rest) :=
  Runs.bind_inspect tame

variable {change : L.Shared → Except Thrown L.Shared}

theorem update {label : L.Label} (steady : Steady here)
    (step : ∀ changed, change here.shared = .ok changed → D.Allowed label here.shared here.locks
      → Step here changed) :
    Tame here (update label change) := by
  refine Runs.update ?_ fun _ _ => .refl steady
  intro changed result allowed
  have step := step changed result allowed
  exact ⟨step, .of_step step⟩

theorem bind_update {label : L.Label} {rest : Unit → Async L Thrown α} (steady : Steady here)
    (step : ∀ changed, change here.shared = .ok changed → D.Allowed label here.shared here.locks
      → Step here changed)
    (next : ∀ changed, change here.shared = .ok changed → Step here changed → Tame { here with
      shared := changed } (rest ())) :
    Tame here (Async.update label change >>= rest) := by
  refine Runs.bind (Runs.update ?_ fun _ _ => .refl steady)
  intro changed result allowed
  have step := step changed result allowed
  exact ⟨step, from_after (.of_step step) (next changed result step)⟩

variable {query : L.Query}

theorem bind_ask {rest : L.Answer query → Async L Thrown α} (steady : Steady here)
    (next : ∀ world, D.Grows here.world world → ∀ answer,
      D.Answers world here.shared query answer → Tame { here with world } (rest answer)) :
    Tame here (ask query >>= rest) := by
  refine Runs.bind (Runs.ask ?_)
  intro world grows answer answers
  exact from_after (.of_grows steady grows) (next world grows answer answers)

theorem wait : Tame here (wait query : Async L Thrown (L.Answer query)) :=
  Runs.wait fun _ owned found _ _ => .of_later owned found

theorem bind_wait {rest : L.Answer query → Async L Thrown α}
    (next : ∀ there : Moment D, there.owned = here.owned →
      D.Later here.world here.owned here.shared there.world there.shared →
      ∀ answer, D.Answers there.world there.shared query answer → Tame there (rest answer)) :
    Tame here (Async.wait query >>= rest) := by
  refine Runs.bind (Runs.wait ?_)
  intro there owned found answer answers
  exact from_after (.of_later owned found) (next there owned found answer answers)

theorem settled {code : Async L Thrown α} (tame : Tame here code) : Tame here code.settled := by
  refine Runs.settled (Runs.weaken tame ?_)
  intro result there reached later owned found
  exact reached.trans (.of_later owned found)

variable {body : Async L Thrown α}

theorem tryCatch {handler : Thrown → Async L Thrown α} (first : Tame here body)
    (caught : ∀ thrown there, After here there → Tame there (handler thrown)) :
    Tame here (body.tryCatch handler) := by
  refine Runs.tryCatch (Runs.weaken first ?_)
  intro result there reached
  cases result with
  | ok value => exact reached
  | error thrown => exact from_after reached (caught thrown there reached)

theorem spawn {child : Async L Thrown β} (starts : Tame { here with owned := [] } child) :
    Tame here (child.spawn : Async L Thrown Unit) :=
  Runs.spawn starts fun _ owned found => .of_later owned found

theorem runs_locked (Known : Except Thrown α → L.Shared → Prop) {lock : L.Lock}
    (absent : D.Matters lock here.shared → lock ∉ here.locks) (free : lock ∉ here.owned)
    (runs : Runs { here with owned := here.owned.insert lock, locks := here.locks.insert lock }
      body fun result there =>
        After { here with owned := here.owned.insert lock, locks := here.locks.insert lock } there ∧
          Known result there.shared) :
    Runs here (acquire lock >>= fun _ => body.ensuring (release lock))
      fun result there => After here there ∧ Known result there.shared := by
  refine Runs.bind_acquire absent (Runs.ensuring (Runs.weaken runs ?_))
  intro result there ⟨reached, known⟩
  have owned : there.owned = here.owned.insert lock := reached.owned
  refine Runs.release (.inl (owned ▸ List.mem_insert_self)) ⟨?_, known⟩
  refine ⟨?_, reached.grows, reached.base, ⟨reached.steady.sound, reached.steady.durable⟩⟩
  simp only [owned]
  rw [List.insert_of_not_mem free, List.filter_cons_of_neg (by simp), List.filter_eq_self]
  intro other member
  rw [decide_eq_true_eq]
  rintro rfl
  exact free member

theorem locked {lock : L.Lock} (absent : D.Matters lock here.shared → lock ∉ here.locks)
    (free : lock ∉ here.owned)
    (tame : Tame { here with owned := here.owned.insert lock, locks := here.locks.insert lock }
      body) :
    Tame here (acquire lock >>= fun _ => body.ensuring (release lock)) := by
  have known : Runs { here with
      owned := here.owned.insert lock, locks := here.locks.insert lock } body
      fun _ there => After { here with
        owned := here.owned.insert lock, locks := here.locks.insert lock } there ∧ True :=
    Runs.weaken tame fun _ _ reached => ⟨reached, trivial⟩
  exact (runs_locked (fun _ _ => True) absent free known).weaken fun _ _ known => known.1

end Tame

end Discipline

end Adhdev
