import Adhdev.HostHandoff.SourceInvariant

/-! # What each write of the source keeps

One lemma for each kind of write, with what the code knows when it makes it. -/

namespace Adhdev.HostHandoff.SourceView

open Option SourcePhase

variable {orderly careful : Prop} {targets later : Targets} {view : SourceView}
variable {owned locks : List SourceLock} {handoffId : HandoffId} {old new : Handoff}

/-! ## The rest of the system -/

theorem Ordered.grows (grows : ∀ daemon, (targets daemon).Grown (later daemon))
    (ordered : Ordered targets view) : Ordered later view where
  oneLive first second firstLive secondLive := by
    have back : ∀ {handoffId handoff}, Live later handoffId handoff →
        Live targets handoffId handoff := by
      intro handoffId handoff live
      exact ⟨live.1, fun intended gone => live.2 intended ((grows _).inPhase rfl gone)⟩
    exact ordered.oneLive first second (back firstLive) (back secondLive)
  oneIntended first second firstIntended secondIntended := by
    rcases ordered.oneIntended first second firstIntended secondIntended with same | gone | gone
    · exact .inl same
    · exact .inr (.inl ((grows _).inPhase rfl gone))
    · exact .inr (.inr ((grows _).inPhase rfl gone))
  followerIntended := ordered.followerIntended
  intendedPhase := ordered.intendedPhase
  digestPhase := ordered.digestPhase
  ackStaged found acked := by
    obtain ⟨manifest, digest, staged⟩ := ordered.ackStaged found acked
    exact ⟨manifest, digest, (grows _).staged staged⟩
  ended found ended := by
    rcases ordered.ended found ended with aborted | ⟨intended, gone⟩
    · exact .inl aborted
    · exact .inr ⟨intended, (grows _).inPhase rfl gone⟩

theorem Sound.grows (grows : ∀ daemon, (targets daemon).Grown (later daemon))
    (sound : view.Sound orderly careful targets) : view.Sound orderly careful later where
  fenced found intended := by
    rcases sound.fenced found intended with follows | fenced | gone
    · exact .inl follows
    · exact .inr (.inl fenced)
    · exact .inr (.inr ((grows _).inPhase rfl gone))
  committed found phase :=
    ⟨(grows _).inPhase rfl (sound.committed found phase).1, (sound.committed found phase).2⟩
  intended := sound.intended
  aborted found phase :=
    ⟨(sound.aborted found phase).1,
      fun intended => (grows _).inPhase rfl ((sound.aborted found phase).2 intended)⟩
  stopped := sound.stopped
  activates := sound.activates
  known := sound.known
  history := sound.history
  proved := sound.proved
  ordered isOrderly := (sound.ordered isOrderly).grows grows
  current isOrderly isCareful _ _ found intended kept := by
    have current := sound.current isOrderly isCareful found intended
      (fun gone => kept ((grows _).inPhase rfl gone))
    obtain ⟨cut, manifest, digest, contents, staged⟩ := current
    exact ⟨cut, manifest, digest, contents, (grows _).staged staged⟩

/-! ## Relations between views -/

theorem Grown.refl (view : SourceView) : view.Grown orderly view :=
  ⟨fun found => ⟨_, found, rfl, rfl, id, fun _ _ digest => digest⟩, id, id, id, fun _ _ _ => id⟩

variable {first second third : SourceView}

theorem Grown.trans (one : first.Grown orderly second) (two : second.Grown orderly third) :
    first.Grown orderly third where
  handoff found := by
    obtain ⟨between, found, peer, epoch, intended, digest⟩ := one.handoff found
    obtain ⟨last, found', peer', epoch', intended', digest'⟩ := two.handoff found
    exact ⟨last, found', peer'.trans peer, epoch'.trans epoch, fun was => intended' (intended was),
      fun isOrderly manifest was => digest' isOrderly manifest (digest isOrderly manifest was)⟩
  follows was := two.follows (one.follows was)
  stopped was := two.stopped (one.stopped was)
  ended was := two.ended (one.ended was)
  released isOrderly _ was cut :=
    two.released isOrderly (one.stopped was) (one.released isOrderly was cut)

theorem Guards.refl (lock : SourceLock) (view : SourceView) : view.Guards orderly lock view := by
  cases lock with
  | starting => exact ⟨fun _ => id, fun _ quiet => quiet.1⟩
  | busy handoffId =>
    intro _ handoff found digest _
    exact ⟨⟨handoff, found, digest, rfl⟩, rfl, id⟩
  | activating => trivial

variable {lock : SourceLock}

theorem Guards.trans (grown : first.Grown orderly second) (one : first.Guards orderly lock second)
    (two : second.Guards orderly lock third) : first.Guards orderly lock third := by
  cases lock with
  | starting =>
    refine ⟨fun handoffId absent => two.1 handoffId (one.1 handoffId absent), ?_⟩
    intro isOrderly quiet
    refine two.2 isOrderly ⟨one.2 isOrderly quiet, ?_⟩
    intro handoffId handoff found
    cases before : first.handoff handoffId with
    | none =>
      rw [one.1 handoffId before] at found
      cases found
    | some was => exact grown.ended (quiet.2 before)
  | busy handoffId =>
    intro isOrderly handoff found digest stopping
    obtain ⟨⟨between, found', digest', phase⟩, stopped, fence⟩ :=
      one isOrderly handoff found digest stopping
    obtain ⟨last, stopped', fence'⟩ :=
      two isOrderly between found' digest' (by rw [phase]; exact stopping)
    rw [phase] at last
    exact ⟨last, stopped'.trans stopped, fun held => fence' (fence held)⟩
  | activating => trivial

theorem matters_of_grown {next : SourceView} (grown : view.Grown orderly next)
    (matters : next.Matters orderly lock) : view.Matters orderly lock := by
  cases lock with
  | starting => trivial
  | busy handoffId =>
    refine ⟨matters.1, ?_⟩
    intro handoff found
    obtain ⟨between, found', _, _, _, digest⟩ := grown.handoff found
    have empty := matters.2 between found'
    cases cut : handoff.digest with
    | none => rfl
    | some manifest =>
      rw [digest matters.1 manifest cut] at empty
      cases empty
  | activating => exact matters

theorem guards_of_not_matters {next : SourceView} (idle : ¬ view.Matters orderly lock) :
    view.Guards orderly lock next := by
  cases lock with
  | starting => exact absurd trivial idle
  | busy handoffId =>
    intro isOrderly handoff found digest _
    refine absurd ⟨isOrderly, ?_⟩ idle
    intro other found'
    rw [found, some.injEq] at found'
    rw [← found']
    exact digest
  | activating => trivial

/-! ## Marks of the project -/

section Marks

variable {next : SourceView}

theorem Ordered.of_same (ordered : Ordered targets view) (handoff : next.handoff = view.handoff)
    (role : next.role = view.role) (ended : next.ended = view.ended) : Ordered targets next where
  oneLive := by rw [handoff]; exact ordered.oneLive
  oneIntended := by rw [handoff]; exact ordered.oneIntended
  followerIntended := by rw [handoff, role]; exact ordered.followerIntended
  intendedPhase := by rw [handoff]; exact ordered.intendedPhase
  digestPhase := by rw [handoff]; exact ordered.digestPhase
  ackStaged := by rw [handoff]; exact ordered.ackStaged
  ended := by rw [handoff, ended]; exact ordered.ended

theorem Grown.of_same (handoff : next.handoff = view.handoff)
    (follows : view.role = .member → next.role = .member)
    (stopped : ∀ {handoffId}, view.stopped handoffId = true → next.stopped handoffId = true)
    (ended : next.ended = view.ended)
    (released : orderly → ∀ {handoffId}, view.stopped handoffId = true →
      view.cut ≠ some handoffId → next.cut ≠ some handoffId) : view.Grown orderly next where
  handoff found := ⟨_, handoff ▸ found, rfl, rfl, id, fun _ _ digest => digest⟩
  follows := follows
  stopped := stopped
  ended was := by rw [ended]; exact was
  released := released

theorem guards_of_same (handoff : next.handoff = view.handoff)
    (role : orderly → view.Quiet → next.role = .host)
    (marks : ∀ handoffId handoff, lock = .busy handoffId → view.handoff handoffId = some handoff
      → handoff.phase.stopping = true → orderly → next.stopped handoffId = view.stopped handoffId
      ∧ (view.fence = some handoffId → next.fence = some handoffId)) :
    view.Guards orderly lock next := by
  cases lock with
  | starting => exact ⟨fun _ absent => by rw [handoff]; exact absent, role⟩
  | busy handoffId =>
    intro isOrderly was found digest stopping
    refine ⟨⟨was, by rw [handoff]; exact found, digest, rfl⟩, ?_⟩
    exact marks handoffId was rfl found stopping isOrderly
  | activating => trivial

theorem eq_of_free {held : Option HandoffId} {other : HandoffId}
    (free : held = none ∨ held = some handoffId) (isHeld : held = some other) :
    other = handoffId := by
  rcases free with none | mine
  · rw [none] at isHeld
    cases isHeld
  · exact mem_unique isHeld mine

section

variable (sound : view.Sound orderly careful targets)
include sound

theorem Change.raise (kept : view.Kept orderly careful) (free : view.fence = none ∨ view.fence =
      some handoffId) : Change orderly careful targets owned locks view (view.raise handoffId) := by
  have stays : ∀ {other}, view.fence = some other → (view.raise handoffId).fence = some other := by
    intro other held
    rw [eq_of_free free held]
    rfl
  refine ⟨{ sound with
    fenced := ?_
    ordered := fun isOrderly => (sound.ordered isOrderly).of_same rfl rfl rfl
    current := sound.current }, ?_, .of_same rfl id id rfl fun _ _ _ => id, ?_⟩
  · intro other handoff found intended
    rcases sound.fenced found intended with follows | fenced | gone
    · exact .inl follows
    · exact .inr (.inl (stays fenced))
    · exact .inr (.inr gone)
  · intro isOrderly isCareful other handoff found stopped open_
    obtain ⟨⟨cut, fence⟩, contents⟩ := kept isOrderly isCareful found stopped open_
    exact ⟨⟨cut, fence.imp stays id⟩, contents⟩
  · intro lock _ _
    refine guards_of_same (by rfl) (fun _ quiet => quiet.1) ?_
    exact fun _ _ _ _ _ _ => ⟨rfl, stays⟩

theorem drop_for_abort (found : view.handoff handoffId = some old)
    (free : view.fence = none ∨ view.fence = some handoffId)
    (cut : view.cut = none ∨ view.cut = some handoffId) (harmless : old.intended = true → (targets
      old.peer).Discarded handoffId) (undisturbed : orderly → old.phase.stopping = true → .busy
      handoffId ∈ locks → .busy handoffId ∈ owned) : (view.drop
      handoffId).Sound orderly careful targets ∧ view.Grown orderly (view.drop
      handoffId) ∧ ∀ lock ∈ locks, lock ∉ owned → view.Guards orderly lock (view.drop
      handoffId) := by
  refine ⟨{ sound with
    fenced := ?_
    history := ?_
    ordered := fun isOrderly => (sound.ordered isOrderly).of_same rfl rfl rfl
    current := ?_ }, .of_same rfl id id rfl ?_, ?_⟩
  · intro other handoff found' intended
    rcases sound.fenced found' intended with follows | fenced | gone
    · exact .inl follows
    · right
      right
      obtain rfl := eq_of_free free fenced
      obtain rfl := mem_unique found' found
      exact harmless intended
    · exact .inr (.inr gone)
  · intro history
    by_cases keeps : view.role = .member ∧ view.handedTo = some handoffId
    · exact keeps.1
    · simp [drop, keeps] at history
  · intro isOrderly isCareful other handoff found' intended kept
    obtain ⟨held, _⟩ := sound.current isOrderly isCareful found' intended kept
    obtain rfl := eq_of_free cut held
    obtain rfl := mem_unique found' found
    exact absurd (harmless intended) kept
  · intro _ other _ notHeld held
    simp only [drop] at held
    split_ifs at held
    exact notHeld held
  · intro lock present foreign
    refine guards_of_same (by rfl) (fun _ quiet => quiet.1) ?_
    intro other handoff isBusy found' stopping isOrderly
    refine ⟨rfl, ?_⟩
    intro fenced
    obtain rfl := eq_of_free free fenced
    subst lock
    obtain rfl := mem_unique found' found
    exact absurd (undisturbed isOrderly stopping present) foreign

section

variable (kept : view.Kept orderly careful)
include kept

theorem Change.drop_following (found : view.handoff handoffId = some old)
    (committed : old.phase = .committed) (follows : view.role = .member)
    (handed : view.handedTo = some handoffId) (free : view.fence = none ∨ view.fence = some
      handoffId) : Change orderly careful targets owned locks view (view.drop handoffId) := by
  have cut : (view.drop handoffId).cut = view.cut := if_pos ⟨follows, handed⟩
  refine ⟨{ sound with
    fenced := fun _ _ => .inl follows
    history := fun _ => follows
    ordered := fun isOrderly => (sound.ordered isOrderly).of_same rfl rfl rfl
    current := ?_ }, ?_, .of_same rfl id id rfl ?_, ?_⟩
  · intro isOrderly isCareful other handoff found' intended open_
    obtain ⟨held, rest⟩ := sound.current isOrderly isCareful found' intended open_
    exact ⟨cut.trans held, rest⟩
  · intro isOrderly isCareful other handoff found' stopped open_
    obtain ⟨⟨held, _⟩, contents⟩ := kept isOrderly isCareful found' stopped open_
    exact ⟨⟨cut.trans held, .inr follows⟩, contents⟩
  · intro _ other _ notHeld
    rw [cut]
    exact notHeld
  · intro lock _ _
    refine guards_of_same (by rfl) (fun _ quiet => quiet.1) ?_
    intro other handoff _ found' stopping _
    refine ⟨rfl, ?_⟩
    intro fenced
    obtain rfl := eq_of_free free fenced
    obtain rfl := mem_unique found' found
    rw [committed] at stopping
    cases stopping

theorem Change.freeze (found : view.handoff handoffId = some old)
    (stopping : orderly → old.phase = .frozen) (unproved : orderly → view.stopped handoffId = false)
    (free : view.cut = none ∨ view.cut = some handoffId ∨ view.history = true) :
    Change orderly careful targets owned locks view (view.freeze handoffId) := by
  have plain : orderly → old.intended = false := by
    intro isOrderly
    by_contra intended
    have phase := (sound.ordered isOrderly).intendedPhase found (by simpa using intended)
    rw [stopping isOrderly] at phase
    cases phase
  have present : orderly → view.history = false := by
    intro isOrderly
    by_contra history
    have intended := (sound.ordered isOrderly).followerIntended found
      (sound.history (by simpa using history)) (by rw [stopping isOrderly]; rfl)
    rw [plain isOrderly] at intended
    cases intended
  have mine : orderly → ∀ {other}, view.cut = some other → other = handoffId := by
    intro isOrderly other held
    refine eq_of_free (free.imp id fun rest => rest.resolve_right ?_) held
    rw [present isOrderly]
    exact Bool.false_ne_true
  refine ⟨{ sound with
    history := by simp [SourceView.freeze]
    ordered := fun isOrderly => (sound.ordered isOrderly).of_same rfl rfl rfl
    current := ?_ }, ?_, .of_same rfl id id rfl ?_, ?_⟩
  · intro isOrderly isCareful other handoff found' intended open_
    obtain ⟨held, rest⟩ := sound.current isOrderly isCareful found' intended open_
    have same := mine isOrderly held
    subst other
    exact ⟨rfl, rest⟩
  · intro isOrderly isCareful other handoff found' stopped open_
    obtain ⟨⟨held, fence⟩, contents⟩ := kept isOrderly isCareful found' stopped open_
    have same := mine isOrderly held
    subst other
    exact ⟨⟨rfl, fence⟩, contents⟩
  · intro isOrderly other stopped _ held
    have same : handoffId = other := some.inj held
    subst other
    rw [unproved isOrderly] at stopped
    cases stopped
  · intro lock _ _
    refine guards_of_same (by rfl) (fun _ quiet => quiet.1) ?_
    exact fun _ _ _ _ _ _ => ⟨rfl, id⟩

theorem Change.same : Change orderly careful targets owned locks view view :=
  ⟨sound, kept, .refl view, fun lock _ _ => .refl lock view⟩

end

end

theorem stop_of_stopped (proved : view.stopped handoffId = true) : view.stop handoffId = view := by
  have same : Function.update view.stopped handoffId true = view.stopped :=
    Function.update_eq_self_iff.mpr proved.symm
  simp [stop, same]

section

variable (sound : view.Sound orderly careful targets)
include sound

section

variable (kept : view.Kept orderly careful)
include kept

theorem Change.stop (found : view.handoff handoffId = some old)
    (stopping : orderly → old.phase = .frozen ∧ view.Fenced handoffId)
    (busy : .busy handoffId ∈ owned) : Change orderly careful targets owned locks view
    (view.stop handoffId) := by
  have more : ∀ {other}, view.stopped other = true →
      (view.stop handoffId).stopped other = true := by
    intro other was
    by_cases same : other = handoffId
    · simp [SourceView.stop, same]
    · simpa [SourceView.stop, same] using was
  refine ⟨{ sound with
    stopped := fun found' reached => more (sound.stopped found' reached)
    known := ?_
    ordered := fun isOrderly => (sound.ordered isOrderly).of_same rfl rfl rfl
    current := sound.current }, ?_, .of_same rfl id more rfl fun _ _ _ => id, ?_⟩
  · intro other marked
    by_cases same : other = handoffId
    · exact ⟨old, same ▸ found⟩
    · exact sound.known (marked.imp id fun stopped => by simpa
        [SourceView.stop, same] using stopped)
  · intro isOrderly isCareful other handoff found' stopped open_
    by_cases same : other = handoffId
    · subst other
      obtain rfl := mem_unique found' found
      obtain ⟨frozen, fenced⟩ := stopping isOrderly
      refine ⟨fenced, ?_⟩
      intro manifest digest
      have none := (sound.ordered isOrderly).digestPhase found (by rw [frozen]; rfl)
      rw [digest, frozen] at none
      cases none
    · refine kept isOrderly isCareful found' ?_ open_
      simpa [SourceView.stop, same] using stopped
  · intro lock present foreign
    refine guards_of_same (by rfl) (fun _ quiet => quiet.1) ?_
    intro other handoff isBusy _ _ _
    refine ⟨?_, id⟩
    by_cases same : other = handoffId
    · subst lock
      rw [same] at foreign
      exact absurd busy foreign
    · simp [SourceView.stop, same]

theorem Change.follow (found : view.handoff handoffId = some old) (intended : old.intended = true)
    (unfinished : old.phase.terminal = false) (active : (targets old.peer).Active handoffId) :
    Change orderly careful targets owned locks view (view.follow handoffId) := by
  have notGone := TargetData.not_discarded_of_active active
  refine ⟨{ sound with
    fenced := fun _ _ => .inl rfl
    committed := fun found' phase => ⟨(sound.committed found' phase).1, rfl⟩
    history := fun _ => rfl
    ordered := ?_
    current := sound.current }, ?_, .of_same rfl (fun _ => rfl) id rfl fun _ _ _ => id, ?_⟩
  · intro isOrderly
    have ordered := sound.ordered isOrderly
    refine { ordered with followerIntended := ?_ }
    intro other handoff found' _ unfinished'
    by_contra plain
    have same := ordered.oneLive found found' ⟨unfinished, fun _ => notGone⟩
      ⟨unfinished', fun intended' => absurd intended' plain⟩
    subst other
    obtain rfl := mem_unique found' found
    exact plain intended
  · intro isOrderly isCareful other handoff found' stopped open_
    obtain ⟨⟨cut, _⟩, contents⟩ := kept isOrderly isCareful found' stopped open_
    exact ⟨⟨cut, .inr rfl⟩, contents⟩
  · intro lock _ _
    refine guards_of_same (by rfl) ?_ fun _ _ _ _ _ _ => ⟨rfl, id⟩
    intro isOrderly quiet
    rcases (sound.ordered isOrderly).ended found (quiet.2 found) with aborted | gone
    · rw [intended] at aborted
      cases aborted.2
    · exact absurd gone.2 notGone

theorem Change.sends {peer : DaemonId} {request : Request}
    (backed : ∀ handoffId epoch certificate, request = .activate handoffId epoch certificate → ∃
      handoff, view.handoff handoffId = some handoff ∧ handoff.intended = true ∧ handoff.peer =
      peer ∧ handoff.epoch = epoch) : Change orderly careful targets owned locks view (view.sends
      peer request) := by
  refine ⟨{ sound with
    activates := ?_
    ordered := fun isOrderly => (sound.ordered isOrderly).of_same rfl rfl rfl
    current := sound.current }, kept, .of_same rfl id id rfl fun _ _ _ => id, ?_⟩
  · intro other handoffId epoch certificate sent
    rcases List.mem_append.mp sent with earlier | now
    · exact sound.activates earlier
    rw [List.mem_singleton, Prod.mk.injEq] at now
    rw [now.1]
    exact backed handoffId epoch certificate now.2.symm
  · intro lock _ _
    refine guards_of_same (by rfl) (fun _ quiet => quiet.1) ?_
    exact fun _ _ _ _ _ _ => ⟨rfl, id⟩

end

end

end Marks

/-! ## Records -/

section Records

@[simp] theorem record_handoff_self : (view.record handoffId new).handoff handoffId = some new :=
  Function.update_self ..

theorem record_handoff_of_ne {other : HandoffId} (differs : other ≠ handoffId) :
    (view.record handoffId new).handoff other = view.handoff other :=
  Function.update_of_ne differs ..

@[elab_as_elim] theorem of_record {P : HandoffId → Handoff → Prop} {other : HandoffId}
    {handoff : Handoff} (found : (view.record handoffId new).handoff other = some handoff)
    (mine : P handoffId new)
    (rest : ∀ {other handoff}, other ≠ handoffId → view.handoff other = some handoff →
      P other handoff) : P other handoff := by
  by_cases isNew : other = handoffId
  · subst other
    rw [record_handoff_self, some.injEq] at found
    subst handoff
    exact mine
  · rw [record_handoff_of_ne isNew] at found
    exact rest isNew found

/-- What a record must satisfy next to the other records. -/
structure Fits (targets : Targets) (view : SourceView) (handoffId : HandoffId) (new : Handoff) :
    Prop where
  oneLive : Live targets handoffId new → ∀ {other handoff}, other ≠ handoffId →
    view.handoff other = some handoff → ¬ Live targets other handoff
  oneIntended : new.intended = true → ∀ {other handoff}, other ≠ handoffId →
    view.handoff other = some handoff → handoff.intended = true →
    (targets new.peer).Discarded handoffId ∨ (targets handoff.peer).Discarded other
  followerIntended : view.role = .member → new.phase.terminal = false → new.intended = true
  intendedPhase : new.intended = true → new.phase.beforeIntent = false
  digestPhase : new.phase.beforeIntent = true → new.digest.isSome = new.phase.digested
  ackStaged : new.phase = .acked → ∃ manifest, new.digest = some manifest ∧
    (targets new.peer).Staged handoffId manifest
  ended : view.ended handoffId ∨ new.phase = .aborted →
    new.phase = .aborted ∧ new.intended = false ∨
      new.intended = true ∧ (targets new.peer).Discarded handoffId

theorem Ordered.record (ordered : Ordered targets view)
    (fits : Fits targets view handoffId new) : Ordered targets (view.record handoffId new) where
  oneLive := by
    intro one other first second found found'
    refine of_record found ?_ ?_
    · refine of_record found' (fun _ _ => rfl) ?_
      intro other second differs found' live live'
      exact absurd live' (fits.oneLive live differs found')
    intro one first differs found
    refine of_record found' ?_ fun _ found' => ordered.oneLive found found'
    intro live live'
    exact absurd live (fits.oneLive live' differs found)
  oneIntended := by
    intro one other first second found found'
    refine of_record found ?_ ?_
    · refine of_record found' (fun _ _ => .inl rfl) ?_
      intro other second differs found' intended intended'
      exact .inr (fits.oneIntended intended differs found' intended')
    intro one first differs found
    refine of_record found' ?_ fun _ found' => ordered.oneIntended found found'
    intro intended intended'
    exact .inr (fits.oneIntended intended' differs found intended).symm
  followerIntended := fun found => of_record found fits.followerIntended fun _ =>
    ordered.followerIntended
  intendedPhase := fun found => of_record found fits.intendedPhase fun _ => ordered.intendedPhase
  digestPhase := fun found => of_record found fits.digestPhase fun _ => ordered.digestPhase
  ackStaged := fun found => of_record found fits.ackStaged fun _ => ordered.ackStaged
  ended := by
    intro other handoff found
    refine of_record found ?_ ?_
    · exact fun ended => fits.ended (ended.imp id And.right)
    · intro other handoff differs found ended
      exact ordered.ended found (ended.resolve_right fun now => differs now.1)

/-- What a record must satisfy in every run. -/
structure Agrees (targets : Targets) (view : SourceView) (handoffId : HandoffId)
    (new : Handoff) : Prop where
  fenced : new.intended = true → view.role = .member ∨ view.fence = some handoffId ∨
    (targets new.peer).Discarded handoffId
  committed : new.phase = .committed → (targets new.peer).Active handoffId ∧ view.role = .member
  intended : new.phase.beforeIntent = false → new.phase ≠ .aborted → new.intended = true
  aborted : new.phase = .aborted → new.intended = true → (targets new.peer).Discarded handoffId
  stopped : new.phase.exportBegun = true ∨ new.intended = true → view.stopped handoffId = true

/-- What a record takes over from the one it replaces. -/
structure Continues (orderly : Prop) (old new : Handoff) : Prop where
  peer : new.peer = old.peer
  epoch : new.epoch = old.epoch
  intended : old.intended = true → new.intended = true
  digest : orderly → ∀ manifest, old.digest = some manifest → new.digest = some manifest

theorem Sound.record (sound : view.Sound orderly careful targets)
    (continues : ∀ old, view.handoff handoffId = some old → Continues orderly old new)
    (agrees : Agrees targets view handoffId new) (fits : orderly → Fits targets view handoffId new)
    (current : orderly → careful → new.intended = true →
      ¬ (targets new.peer).Discarded handoffId → Current targets view handoffId new) :
    (view.record handoffId new).Sound orderly careful targets where
  fenced := fun found => of_record found agrees.fenced fun _ => sound.fenced
  committed := fun found => of_record found agrees.committed fun _ => sound.committed
  intended := fun found => of_record found agrees.intended fun _ => sound.intended
  aborted := by
    intro other handoff found
    refine of_record found ?_ ?_
    · exact fun phase => ⟨.inr ⟨rfl, phase⟩, agrees.aborted phase⟩
    · intro other handoff _ found phase
      exact ⟨.inl (sound.aborted found phase).1, (sound.aborted found phase).2⟩
  stopped := fun found => of_record found agrees.stopped fun _ => sound.stopped
  activates := by
    intro peer other epoch certificate sent
    obtain ⟨handoff, found, intended, isPeer, isEpoch⟩ := sound.activates sent
    by_cases isNew : other = handoffId
    · subst other
      have continues := continues handoff found
      exact ⟨new, record_handoff_self, continues.intended intended, continues.peer.trans isPeer,
        continues.epoch.trans isEpoch⟩
    · exact ⟨handoff, (record_handoff_of_ne isNew).trans found, intended, isPeer, isEpoch⟩
  known := by
    intro other marked
    by_cases isNew : other = handoffId
    · exact ⟨new, isNew ▸ record_handoff_self⟩
    obtain ⟨handoff, found⟩ := sound.known
      (marked.imp (fun ended => ended.resolve_right fun now => isNew now.1) id)
    exact ⟨handoff, (record_handoff_of_ne isNew).trans found⟩
  history := sound.history
  proved := sound.proved
  ordered isOrderly := (sound.ordered isOrderly).record (fits isOrderly)
  current isOrderly isCareful _ _ found :=
    of_record found (current isOrderly isCareful) fun _ => sound.current isOrderly isCareful

theorem continues_of_found (found : view.handoff handoffId = some old)
    (continues : Continues orderly old new) :
    ∀ was, view.handoff handoffId = some was → Continues orderly was new := by
  intro was found'
  obtain rfl := mem_unique found' found
  exact continues

def KeptExcept (orderly careful : Prop) (view : SourceView) (handoffId : HandoffId) : Prop :=
  orderly → careful → ∀ {other handoff}, other ≠ handoffId → view.handoff other = some handoff →
    view.stopped other = true → ¬ view.ended other →
    view.Fenced other ∧
      ∀ manifest, handoff.digest = some manifest → manifest.contents = view.contents

theorem Kept.except (kept : view.Kept orderly careful) (handoffId : HandoffId) :
    KeptExcept orderly careful view handoffId :=
  fun isOrderly isCareful _ _ _ => kept isOrderly isCareful

theorem KeptExcept.drop (kept : view.Kept orderly careful)
    (cut : view.cut = none ∨ view.cut = some handoffId) :
    KeptExcept orderly careful (view.drop handoffId) handoffId := by
  intro isOrderly isCareful other handoff differs found stopped open_
  obtain ⟨⟨held, _⟩, _⟩ := kept isOrderly isCareful found stopped open_
  exact absurd (eq_of_free cut held) differs

theorem KeptExcept.kept (kept : KeptExcept orderly careful view handoffId)
    (running : view.stopped handoffId = false) : view.Kept orderly careful := by
  intro isOrderly isCareful other handoff found stopped open_
  refine kept isOrderly isCareful ?_ found stopped open_
  rintro rfl
  rw [running] at stopped
  cases stopped

theorem Kept.record (kept : KeptExcept orderly careful view handoffId)
    (mine : orderly → careful → view.stopped handoffId = true → ¬ view.ended handoffId →
      new.phase ≠ .aborted → view.Fenced handoffId ∧
        ∀ manifest, new.digest = some manifest → manifest.contents = view.contents) :
    (view.record handoffId new).Kept orderly careful := by
  intro isOrderly isCareful other handoff found
  refine of_record found ?_ ?_
  · intro stopped open_
    exact mine isOrderly isCareful stopped (fun ended => open_ (.inl ended))
      fun phase => open_ (.inr ⟨rfl, phase⟩)
  · intro other handoff differs found stopped open_
    exact kept isOrderly isCareful differs found stopped fun ended => open_ (.inl ended)

theorem Grown.record (continues : ∀ old, view.handoff handoffId = some old →
    Continues orderly old new) : view.Grown orderly (view.record handoffId new) where
  handoff := by
    intro other handoff found
    by_cases isNew : other = handoffId
    · subst other
      have continues := continues handoff found
      exact ⟨new, record_handoff_self, continues.peer, continues.epoch, continues.intended,
        continues.digest⟩
    · exact ⟨handoff, (record_handoff_of_ne isNew).trans found, rfl, rfl, id,
        fun _ _ digest => digest⟩
  follows := id
  stopped := id
  ended := .inl
  released _ _ _ := id

theorem guards_record (known : view.handoff handoffId ≠ none ∨ .starting ∈ owned)
    (undisturbed : orderly → .busy handoffId ∉ owned → .busy handoffId ∈ locks → ∀ old,
      view.handoff handoffId = some old → old.digest = none → old.phase.stopping = true →
      new.digest = none ∧ new.phase = old.phase) (present : lock ∈ locks) (foreign : lock ∉ owned) :
    view.Guards orderly lock (view.record handoffId new) := by
  cases lock with
  | starting =>
    refine ⟨?_, fun _ quiet => quiet.1⟩
    intro other absent
    by_cases isNew : other = handoffId
    · subst other
      rcases known with known | starts
      · exact absurd absent known
      · exact absurd starts foreign
    · exact (record_handoff_of_ne isNew).trans absent
  | busy other =>
    intro isOrderly handoff found digest stopping
    refine ⟨?_, rfl, id⟩
    by_cases isNew : other = handoffId
    · subst other
      exact ⟨new, record_handoff_self,
        undisturbed isOrderly foreign present handoff found digest stopping⟩
    · exact ⟨handoff, (record_handoff_of_ne isNew).trans found, digest, rfl⟩
  | activating => trivial

section Moves

variable (sound : view.Sound orderly careful targets)
include sound

theorem Change.forward (kept : view.Kept orderly careful)
    (found : view.handoff handoffId = some old)
    (new : Handoff) (peer : new.peer = old.peer) (epoch : new.epoch = old.epoch)
    (intended : new.intended = old.intended) (phase : new.phase.beforeIntent = true)
    (before : orderly → old.phase.beforeIntent = true)
    (stopped : new.phase.exportBegun = true → view.stopped handoffId = true)
    (digest : orderly → ∀ manifest, old.digest = some manifest → new.digest = some manifest)
    (digested : orderly → new.digest.isSome = new.phase.digested)
    (ackStaged : orderly → new.phase = .acked → ∃ manifest, new.digest = some manifest ∧
      (targets new.peer).Staged handoffId manifest)
    (contents : orderly → careful → view.stopped handoffId = true → ¬ view.ended handoffId →
      ∀ manifest, new.digest = some manifest → manifest.contents = view.contents)
    (undisturbed : orderly → old.phase.stopping = true → .busy handoffId ∈ owned) :
    Change orderly careful targets owned locks view (view.record handoffId new) := by
  have unfinished : ∀ {phase : SourcePhase}, phase.beforeIntent = true →
      phase.terminal = false ∧ phase ≠ .aborted ∧ phase ≠ .committed := by
    intro phase
    cases phase <;> decide
  have plain : orderly → old.intended = false := by
    intro isOrderly
    by_contra wasIntended
    have late := (sound.ordered isOrderly).intendedPhase found (by simpa using wasIntended)
    rw [before isOrderly] at late
    cases late
  have continues := continues_of_found found ⟨peer, epoch, fun was => intended.trans was, digest⟩
  have running : orderly → ¬ view.ended handoffId := by
    intro isOrderly ended
    rcases (sound.ordered isOrderly).ended found ended with aborted | gone
    · exact (unfinished (before isOrderly)).2.1 aborted.1
    · rw [plain isOrderly] at gone
      cases gone.1
  refine ⟨sound.record continues ?_ ?_ ?_, Kept.record (kept.except handoffId) ?_,
    .record continues, ?_⟩
  · refine ⟨?_, ?_, ?_, ?_, ?_⟩
    · intro isIntended
      rw [peer]
      exact sound.fenced found (intended.symm.trans isIntended)
    · exact fun committed => absurd committed (unfinished phase).2.2
    · intro late
      rw [phase] at late
      cases late
    · exact fun aborted => absurd aborted (unfinished phase).2.1
    rintro (begun | isIntended)
    · exact stopped begun
    · exact sound.stopped found (.inr (intended.symm.trans isIntended))
  · intro isOrderly
    have ordered := sound.ordered isOrderly
    have isPlain : new.intended = false := intended.trans (plain isOrderly)
    have wasLive : Live targets handoffId old :=
      ⟨(unfinished (before isOrderly)).1, fun was => by rw [plain isOrderly] at was; cases was⟩
    refine ⟨?_, ?_, ?_, ?_, fun _ => digested isOrderly, ackStaged isOrderly, ?_⟩
    · intro _ other handoff differs found' live
      exact differs (ordered.oneLive found' found live wasLive)
    · intro isIntended
      rw [isPlain] at isIntended
      cases isIntended
    · intro follows _
      have was := ordered.followerIntended found follows (unfinished (before isOrderly)).1
      exact intended.trans was
    · intro isIntended
      rw [isPlain] at isIntended
      cases isIntended
    rintro (ended | aborted)
    · exact absurd ended (running isOrderly)
    · exact absurd aborted (unfinished phase).2.1
  · intro isOrderly _ isIntended
    rw [intended, plain isOrderly] at isIntended
    cases isIntended
  · intro isOrderly isCareful isStopped open_ _
    exact ⟨(kept isOrderly isCareful found isStopped open_).1,
      contents isOrderly isCareful isStopped open_⟩
  · intro lock
    refine guards_record (.inl (by simp [found])) ?_
    intro isOrderly foreign _ was found' _ stopping
    obtain rfl := mem_unique found' found
    exact absurd (undisturbed isOrderly stopping) foreign

theorem Change.begin (kept : view.Kept orderly careful) (absent : view.handoff handoffId = none)
    (phase : new.phase = .preflight) (plain : new.intended = false) (undigested : new.digest = none)
    (starting : .starting ∈ owned) (quiet : orderly → view.Quiet) :
    Change orderly careful targets owned locks view (view.record handoffId new) := by
  have unmarked : ¬ (view.ended handoffId ∨ view.stopped handoffId = true) := by
    intro marked
    obtain ⟨handoff, found⟩ := sound.known marked
    rw [absent] at found
    cases found
  have continues : ∀ was, view.handoff handoffId = some was → Continues orderly was new := by
    intro was found
    rw [absent] at found
    cases found
  refine ⟨sound.record continues ?_ ?_ ?_, Kept.record (kept.except handoffId) ?_,
    .record continues, ?_⟩
  · refine ⟨?_, ?_, ?_, ?_, ?_⟩ <;> simp [phase, plain, beforeIntent, exportBegun]
  · intro isOrderly
    have ordered := sound.ordered isOrderly
    obtain ⟨host, allEnded⟩ := quiet isOrderly
    refine ⟨?_, ?_, ?_, ?_, ?_, ?_, ?_⟩
    · intro _ other handoff _ found live
      rcases ordered.ended found (allEnded found) with aborted | gone
      · have finished := live.1
        rw [aborted.1] at finished
        cases finished
      · exact live.2 gone.1 gone.2
    · simp [plain]
    · intro follows
      rw [host] at follows
      cases follows
    · simp [plain]
    · simp [phase, undigested, digested]
    · simp [phase]
    rintro (ended | aborted)
    · exact absurd (.inl ended) unmarked
    · rw [phase] at aborted
      cases aborted
  · simp [plain]
  · intro _ _ stopped
    exact absurd (.inr stopped) unmarked
  · intro lock
    refine guards_record (.inr starting) ?_
    intro _ _ _ was found
    rw [absent] at found
    cases found

theorem not_live_of_intended (isOrderly : orderly) (found : view.handoff handoffId = some old)
    (intended : old.intended = true) (open_ : ¬ (targets old.peer).Discarded handoffId)
    {other : HandoffId} {handoff : Handoff} (differs : other ≠ handoffId)
    (found' : view.handoff other = some handoff) : ¬ Live targets other handoff := by
  have ordered := sound.ordered isOrderly
  intro live
  cases finished : old.phase.terminal with
  | false => exact differs (ordered.oneLive found' found live ⟨finished, fun _ => open_⟩)
  | true =>
    have phase : old.phase = .committed ∨ old.phase = .aborted := by
      simpa [terminal] using finished
    rcases phase with committed | aborted
    · have follows := (sound.committed found committed).2
      have intended' := ordered.followerIntended found' follows live.1
      rcases ordered.oneIntended found found' intended intended' with same | gone | gone
      · exact differs same.symm
      · exact open_ gone
      · exact live.2 intended' gone
    · exact open_ ((sound.aborted found aborted).2 intended)

theorem Change.intend (kept : view.Kept orderly careful) (found : view.handoff handoffId = some old)
    (phase : old.phase = .acked ∨ old.phase = .uncertain) (fence : view.fence = some handoffId)
    (stopped : view.stopped handoffId = true) (new : Handoff)
    (isNew : new = { old with phase := .activating, intended := true }) : 
    Change orderly careful targets owned locks view (view.record handoffId new) := by
  have unfinished : old.phase.terminal = false ∧ old.phase ≠ .aborted := by
    rcases phase with phase | phase <;> rw [phase] <;> decide
  have continues : ∀ was, view.handoff handoffId = some was → Continues orderly was new := by
    subst isNew
    exact continues_of_found found ⟨rfl, rfl, fun _ => rfl, fun _ _ digest => digest⟩
  have current : orderly → careful → ¬ (targets old.peer).Discarded handoffId →
      Current targets view handoffId old := by
    intro isOrderly isCareful open_
    have ordered := sound.ordered isOrderly
    cases wasIntended : old.intended with
    | true => exact sound.current isOrderly isCareful found wasIntended open_
    | false =>
      have acked : old.phase = .acked := by
        rcases phase with acked | uncertain
        · exact acked
        have isIntended := sound.intended found (by rw [uncertain]; rfl) (by rw [uncertain]; decide)
        rw [wasIntended] at isIntended
        cases isIntended
      obtain ⟨manifest, digest, staged⟩ := ordered.ackStaged found acked
      have running : ¬ view.ended handoffId := by
        intro ended
        rcases ordered.ended found ended with aborted | gone
        · exact unfinished.2 aborted.1
        · exact open_ gone.2
      obtain ⟨⟨cut, _⟩, contents⟩ := kept isOrderly isCareful found stopped running
      exact ⟨cut, manifest, digest, contents manifest digest, staged⟩
  refine ⟨sound.record continues ?_ ?_ ?_, Kept.record (kept.except handoffId) ?_,
    .record continues, ?_⟩
  · subst isNew
    exact ⟨fun _ => .inr (.inl fence), nofun, fun _ _ => rfl, nofun, fun _ => stopped⟩
  · intro isOrderly
    have ordered := sound.ordered isOrderly
    subst isNew
    refine ⟨?_, ?_, fun _ _ => rfl, fun _ => rfl, nofun,
      nofun, ?_⟩
    · intro live other handoff differs found' live'
      have open_ := live.2 rfl
      exact differs (ordered.oneLive found' found live' ⟨unfinished.1, fun _ => open_⟩)
    · intro _ other handoff differs found' intended'
      by_cases open_ : (targets old.peer).Discarded handoffId
      · exact .inl open_
      right
      by_contra open'
      cases wasIntended : old.intended with
      | true =>
        rcases ordered.oneIntended found found' wasIntended intended' with same | gone | gone
        · exact differs same.symm
        · exact open_ gone
        · exact open' gone
      | false =>
        exact not_live_of_intended sound isOrderly found' intended' open' (Ne.symm differs)
          found ⟨unfinished.1, fun was => by rw [wasIntended] at was; cases was⟩
    · rintro (ended | aborted)
      · rcases ordered.ended found ended with aborted | gone
        · exact absurd aborted.1 unfinished.2
        · exact .inr ⟨rfl, gone.2⟩
      · cases aborted
  · intro isOrderly isCareful _ open_
    subst isNew
    exact current isOrderly isCareful open_
  · intro isOrderly isCareful isStopped open_ _
    have was := kept isOrderly isCareful found isStopped open_
    subst isNew
    exact was
  · intro lock
    refine guards_record (.inl (by simp [found])) ?_
    intro _ _ _ was found' _ stopping
    obtain rfl := mem_unique found' found
    rcases phase with phase | phase <;> rw [phase] at stopping <;> cases stopping

theorem Change.settle (kept : KeptExcept orderly careful view handoffId)
    (found : view.handoff handoffId = some old) (phase : SourcePhase)
    (late : phase.beforeIntent = false) (agreed : old.intended = true)
    (committed : phase = .committed → (targets old.peer).Active handoffId ∧ view.role = .member)
    (aborted : phase = .aborted → (targets old.peer).Discarded handoffId)
    (mine : orderly → careful → phase ≠ .aborted → view.stopped handoffId = true →
      ¬ view.ended handoffId → view.Fenced handoffId ∧
        ∀ manifest, old.digest = some manifest → manifest.contents = view.contents)
    (new : Handoff) (isNew : new = { old with phase }) :
    Change orderly careful targets owned locks view (view.record handoffId new) := by
  have continues : ∀ was, view.handoff handoffId = some was → Continues orderly was new := by
    subst isNew
    exact continues_of_found found ⟨rfl, rfl, id, fun _ _ digest => digest⟩
  subst isNew
  refine ⟨sound.record continues ?_ ?_ ?_, Kept.record kept ?_, .record continues, ?_⟩
  · have fenced := sound.fenced found agreed
    exact ⟨fun _ => fenced, committed, fun _ _ => agreed, fun isAborted _ => aborted isAborted,
      fun _ => sound.stopped found (.inr agreed)⟩
  · intro isOrderly
    have ordered := sound.ordered isOrderly
    have early : ∀ {motive : Prop}, phase.beforeIntent = true → motive := by
      intro motive early
      rw [late] at early
      cases early
    refine ⟨?_, ?_, fun _ _ => agreed, fun _ => late, fun isEarly => early isEarly,
      fun acked => early (by simp only at acked; rw [acked]; rfl), ?_⟩
    · intro live other handoff differs found'
      exact not_live_of_intended sound isOrderly found agreed (live.2 agreed) differs found'
    · intro _ other handoff differs found' intended'
      rcases ordered.oneIntended found found' agreed intended' with same | gone
      · exact absurd same.symm differs
      · exact gone
    · rintro (ended | isAborted)
      · rcases ordered.ended found ended with was | gone
        · rw [agreed] at was
          cases was.2
        · exact .inr gone
      · exact .inr ⟨agreed, aborted isAborted⟩
  · intro isOrderly isCareful _ open_
    have was := sound.current isOrderly isCareful found agreed open_
    exact was
  · intro isOrderly isCareful isStopped open_ running
    exact mine isOrderly isCareful running isStopped open_
  intro lock
  refine guards_record (.inl (by simp [found])) ?_
  intro isOrderly _ _ was found' _ stopping
  obtain rfl := mem_unique found' found
  have isLate := (sound.ordered isOrderly).intendedPhase found agreed
  revert isLate stopping
  cases was.phase <;> simp [stopping, beforeIntent]

theorem Change.abandon (kept : KeptExcept orderly careful view handoffId)
    (found : view.handoff handoffId = some old) (plain : old.intended = false)
    (undisturbed : orderly → old.phase.stopping = true → .busy handoffId ∈ locks →
      .busy handoffId ∈ owned)
    (new : Handoff) (isNew : new = { old with phase := .aborted }) :
    Change orderly careful targets owned locks view (view.record handoffId new) := by
  have continues : ∀ was, view.handoff handoffId = some was → Continues orderly was new := by
    subst isNew
    exact continues_of_found found ⟨rfl, rfl, id, fun _ _ digest => digest⟩
  subst isNew
  have absurd_intended : ∀ {motive : Prop}, old.intended = true → motive := by
    intro motive intended
    rw [plain] at intended
    cases intended
  refine ⟨sound.record continues ?_ ?_ ?_, Kept.record kept ?_, .record continues, ?_⟩
  · exact ⟨fun intended => absurd_intended intended, nofun,
      fun _ running => absurd rfl running, fun _ intended => absurd_intended intended,
      fun reached => reached.elim (nofun) fun was => absurd_intended was⟩
  · intro isOrderly
    refine ⟨?_, fun intended => absurd_intended intended, nofun,
      fun _ => rfl, nofun, nofun,
      fun _ => .inl ⟨rfl, plain⟩⟩
    intro live
    cases live.1
  · exact fun _ _ intended => absurd_intended intended
  · exact fun _ _ _ _ running => absurd rfl running
  intro lock present foreign
  refine guards_record (.inl (by simp [found])) ?_ present foreign
  intro isOrderly notMine isPresent was found' _ stopping
  obtain rfl := mem_unique found' found
  exact absurd (undisturbed isOrderly stopping isPresent) notMine

end Moves

end Records

/-! ## Writes of the owner -/

theorem Change.written (sound : view.Sound orderly careful targets)
    (kept : view.Kept orderly careful) (free : view.cut = none) (contents : Nat) :
    Change orderly careful targets owned locks view { view with contents } := by
  refine ⟨{ sound with
    ordered := fun isOrderly => (sound.ordered isOrderly).of_same rfl rfl rfl
    current := ?_ }, ?_, .of_same rfl id id rfl fun _ _ _ => id, ?_⟩
  · intro isOrderly isCareful other handoff found intended open_
    obtain ⟨cut, _⟩ := sound.current isOrderly isCareful found intended open_
    rw [free] at cut
    cases cut
  · intro isOrderly isCareful other handoff found stopped open_
    obtain ⟨⟨cut, _⟩, _⟩ := kept isOrderly isCareful found stopped open_
    rw [free] at cut
    cases cut
  · intro lock _ _
    refine guards_of_same (by rfl) (fun _ quiet => quiet.1) ?_
    exact fun _ _ _ _ _ _ => ⟨rfl, id⟩

end Adhdev.HostHandoff.SourceView
