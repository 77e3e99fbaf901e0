import Adhdev.KeyedTranscript.Rollback

/-! # The main thread's mirror of the views

`TranscriptViewMirror` of `transcript-view-mirror.ts`: frames of applied commits
come in, and each session's list is kept sorted, in place where no order changes.
-/

namespace Adhdev.KeyedTranscript

open List KeyedMap Function

/-- A message object: `object` is its identity, with the fields that the mirror
does not read. -/
structure HeldMessage where
  messageId : String
  ord : String
  object : Nat

def transcriptOrdKey (message : HeldMessage) : List Nat ×ₗ List Nat :=
  toLex (codeUnits message.ord, codeUnits message.messageId)

/-- Whether `compareTranscriptOrd` leaves the two in this order. -/
def transcriptOrdLe (one two : HeldMessage) : Prop := transcriptOrdKey one ≤ transcriptOrdKey two

instance decidableTranscriptOrdLe : DecidableRel transcriptOrdLe :=
  fun one two => inferInstanceAs (Decidable (transcriptOrdKey one ≤ transcriptOrdKey two))

instance totalTranscriptOrdLe : Std.Total transcriptOrdLe where
  total one two := le_total (transcriptOrdKey one) (transcriptOrdKey two)

instance transTranscriptOrdLe : IsTrans HeldMessage transcriptOrdLe where
  trans _ _ _ first second := le_trans (α := List Nat ×ₗ List Nat) first second

structure TranscriptViewMeta where
  epoch : String
  frame : Nat

structure TranscriptBridgeFrameMessage where
  sessionId : String
  epoch : String
  frame : Nat
  reset : Bool
  upserts : List HeldMessage
  deletes : List String
  metadata : Option TranscriptViewMeta

abbrev MessagesById := KeyedMap fun message : HeldMessage => message.messageId

def MessagesById.get (byId : MessagesById) (id : String) : Option HeldMessage :=
  KeyedMap.lookup (·.messageId) byId.entries id

structure SessionMirror where
  metadata : TranscriptViewMeta
  byId : MessagesById
  ordered : List HeldMessage
  indexOf : String → Option Nat

def setIndex (indexOf : String → Option Nat) (slot : HeldMessage × Nat) : String → Option Nat :=
  Function.update indexOf slot.1.messageId (some slot.2)

def indexMessages (ordered : List HeldMessage) : String → Option Nat :=
  ordered.zipIdx.foldl setIndex fun _ => none

namespace SessionMirror

variable (mirror : SessionMirror) (frame : TranscriptBridgeFrameMessage)

def inPlace : Bool :=
  frame.deletes.isEmpty && frame.upserts.all fun message =>
    (mirror.byId.get message.messageId).any fun previous => previous.ord == message.ord

/-- One turn of the loop of the fast path. -/
def swap (message : HeldMessage) : SessionMirror :=
  { mirror with
    byId := mirror.byId.set message
    ordered := (mirror.indexOf message.messageId).elim mirror.ordered fun index =>
      mirror.ordered.set index message }

def sorted (byId : MessagesById) : SessionMirror :=
  let ordered := byId.entries.insertionSort transcriptOrdLe
  { mirror with byId, ordered, indexOf := indexMessages ordered }

/-- A frame that does not reset. -/
def advance : SessionMirror :=
  let mirror := { mirror with
    metadata := frame.metadata.getD
      { mirror.metadata with epoch := frame.epoch, frame := frame.frame } }
  if mirror.inPlace frame then frame.upserts.foldl swap mirror
  else
    let kept := frame.deletes.foldl
      (fun byId id => byId.keepWhere fun message => message.messageId ≠ id) mirror.byId
    mirror.sorted (frame.upserts.foldl KeyedMap.set kept)

def ofReset (metadata : TranscriptViewMeta) : SessionMirror :=
  let ordered := frame.upserts.insertionSort transcriptOrdLe
  { metadata, byId := KeyedMap.ofList _ ordered, ordered, indexOf := indexMessages ordered }

end SessionMirror

abbrev Sessions := String → Option SessionMirror

inductive MirrorCall
  | apply (frame : TranscriptBridgeFrameMessage)
  | retain (sessionIds : List String)
  | clear

/-- A call: the sessions after it. What `apply` returns is the view of its session. -/
def MirrorCall.perform (sessions : Sessions) : MirrorCall → Sessions
  | .apply frame =>
    if frame.reset then
      match frame.metadata with
      | none => sessions
      | some metadata =>
        Function.update sessions frame.sessionId (some (SessionMirror.ofReset frame metadata))
    else
      match sessions frame.sessionId with
      | none => sessions
      | some mirror => Function.update sessions frame.sessionId (some (mirror.advance frame))
  | .retain sessionIds => fun id => if id ∈ sessionIds then sessions id else none
  | .clear => fun _ => none

def mirrorRun (calls : List MirrorCall) : Sessions :=
  calls.foldl MirrorCall.perform fun _ => none

/-! ## What the mirror is for

A session's messages are the frames since its last reset, each one's deletes and
then its upserts. -/

abbrev Content := String → Option HeldMessage

def foldFrame (frame : TranscriptBridgeFrameMessage) (content : Content) : Content := fun id =>
  (KeyedMap.lookup (·.messageId) frame.upserts id).or
    (if id ∈ frame.deletes then none else content id)

def MirrorCall.fold (contents : String → Option Content) : MirrorCall → String → Option Content
  | .apply frame =>
    if frame.reset then
      match frame.metadata with
      | none => contents
      | some _ => Function.update contents frame.sessionId
          (some fun id => KeyedMap.lookup (·.messageId) frame.upserts id)
    else Function.update contents frame.sessionId ((contents frame.sessionId).map (foldFrame frame))
  | .retain sessionIds => fun id => if id ∈ sessionIds then contents id else none
  | .clear => fun _ => none

def folded (calls : List MirrorCall) : String → Option Content :=
  calls.foldl MirrorCall.fold fun _ => none

def Touches (sessionId id : String) (call : MirrorCall) : Prop :=
  ∃ frame, call = .apply frame ∧ frame.sessionId = sessionId ∧
    (frame.reset = true ∨ id ∈ frame.deletes ∨ id ∈ frame.upserts.map (·.messageId))

/-! ## The order and the positions -/

theorem held_sorted {one two : List HeldMessage} (perm : one.Perm two)
    (distinct : (one.map (·.messageId)).Nodup) (ordered : one.Pairwise transcriptOrdLe) :
    one = two.insertionSort transcriptOrdLe := by
  refine List.Perm.eq_of_pairwise (fun a b inOne inTwo first second => ?_) ordered
    (pairwise_insertionSort transcriptOrdLe two)
    (perm.trans (perm_insertionSort transcriptOrdLe two).symm)
  rw [mem_insertionSort] at inTwo
  have keys : transcriptOrdKey a = transcriptOrdKey b := le_antisymm first second
  exact inj_on_of_nodup_map distinct inOne (perm.mem_iff.mpr inTwo)
    (codeUnits_injective (congrArg Prod.snd (toLex.injective keys)))

variable {index : Nat}

theorem slots_foldl_iff {slots : List (HeldMessage × Nat)} {indexOf : String → Option Nat}
    (distinct : (slots.map (·.1.messageId)).Nodup) {id : String} :
    slots.foldl setIndex indexOf id = some index ↔
      (∃ message, (message, index) ∈ slots ∧ message.messageId = id) ∨
        id ∉ slots.map (·.1.messageId) ∧ indexOf id = some index := by
  induction slots generalizing indexOf with
  | nil => simp
  | cons slot slots induction =>
    obtain ⟨message, position⟩ := slot
    rw [map_cons, nodup_cons] at distinct
    rw [foldl_cons, induction distinct.2, map_cons, mem_cons, not_or, setIndex]
    by_cases same : id = message.messageId
    · subst same
      constructor
      · rintro (⟨other, member, named⟩ | ⟨-, found⟩)
        · exact absurd (mem_map.mpr ⟨_, member, named⟩) distinct.1
        · rw [update_self] at found
          exact .inl ⟨message, Option.some.inj found ▸ mem_cons_self, rfl⟩
      rintro (⟨other, member, named⟩ | ⟨⟨differs, -⟩, -⟩)
      · rcases mem_cons.mp member with equal | later
        · cases equal
          exact .inr ⟨distinct.1, update_self ..⟩
        · exact absurd (mem_map.mpr ⟨_, later, named⟩) distinct.1
      · exact absurd rfl differs
    rw [update_of_ne same]
    constructor
    · rintro (⟨other, member, named⟩ | ⟨absent, found⟩)
      · exact .inl ⟨other, .tail _ member, named⟩
      · exact .inr ⟨⟨same, absent⟩, found⟩
    rintro (⟨other, member, named⟩ | ⟨⟨-, absent⟩, found⟩)
    · rcases mem_cons.mp member with equal | later
      · cases equal
        exact absurd named.symm same
      · exact .inl ⟨other, later, named⟩
    · exact .inr ⟨absent, found⟩

variable {ordered : List HeldMessage}

theorem indexMessages_iff (distinct : (ordered.map (·.messageId)).Nodup) {id : String} :
    indexMessages ordered id = some index ↔ (ordered[index]?).map (·.messageId) = some id := by
  have keys : ordered.zipIdx.map (·.1.messageId) = ordered.map (·.messageId) := by
    rw [← zipIdx_map_fst 0 ordered, map_map]
    simp [comp_def]
  rw [indexMessages, slots_foldl_iff (keys ▸ distinct)]
  simp [mem_zipIdx_iff_getElem?]

def replace (message : HeldMessage) (held : HeldMessage) : HeldMessage :=
  if held.messageId = message.messageId then message else held

theorem insertEntry_eq_map {entries : List HeldMessage} {message : HeldMessage}
    (distinct : (entries.map (·.messageId)).Nodup)
    (present : message.messageId ∈ entries.map (·.messageId)) :
    insertEntry (·.messageId) message entries = entries.map (replace message) := by
  induction entries with
  | nil => cases present
  | cons head tail induction =>
    rw [map_cons, nodup_cons] at distinct
    rw [insertEntry, map_cons, replace]
    by_cases same : head.messageId = message.messageId
    · have others : ∀ other ∈ tail, replace message other = other := by
        intro other member
        rw [replace, if_neg]
        exact fun named =>
          distinct.1 (mem_map.mpr ⟨other, member, named.trans same.symm⟩)
      rw [if_pos same, if_pos same, map_congr_left others, map_id']
    · rw [if_neg same, if_neg same, induction distinct.2
        ((mem_cons.mp present).resolve_left (Ne.symm same))]

theorem set_eq_map {message held : HeldMessage} (distinct : (ordered.map (·.messageId)).Nodup)
    (found : ordered[index]? = some held) (named : held.messageId = message.messageId) :
    ordered.set index message = ordered.map (replace message) := by
  refine ext_getElem? fun position => ?_
  rw [getElem?_map]
  by_cases here : index = position
  · subst here
    have inRange := (List.getElem?_eq_some_iff.mp found).1
    rw [getElem?_set_self inRange, found, Option.map_some, replace, if_pos named]
  rw [getElem?_set_ne here]
  cases there : ordered[position]? with
  | none => rfl
  | some other =>
    rw [Option.map_some, replace, if_neg]
    intro same
    have inRange := (List.getElem?_eq_some_iff.mp found).1
    refine here ((getElem?_inj (by rwa [length_map]) distinct).mp ?_)
    rw [getElem?_map, getElem?_map, found, there, Option.map_some, Option.map_some, named, same]

theorem messageId_replace (message held : HeldMessage) :
    (replace message held).messageId = held.messageId := by
  rw [replace]
  split_ifs with same
  · exact same.symm
  · rfl

theorem transcriptOrdLe_congr {one one' two two' : HeldMessage} (ord : one.ord = one'.ord)
    (id : one.messageId = one'.messageId) (ord' : two.ord = two'.ord)
    (id' : two.messageId = two'.messageId) (le : transcriptOrdLe one two) :
    transcriptOrdLe one' two' := by
  simpa only [transcriptOrdLe, transcriptOrdKey, ord, id, ord', id'] using le

/-! ## The map of a mirror -/

variable {byId : MessagesById} {id : String}

theorem get_set (message : HeldMessage) : MessagesById.get (byId.set message) id =
      if message.messageId = id then some message else byId.get id :=
  lookup_insertEntry (fun _ _ => Iff.rfl) id

theorem lookup_cons (message : HeldMessage) (messages : List HeldMessage) :
    lookup (·.messageId) (message :: messages) id =
      if message.messageId = id then some message
      else KeyedMap.lookup (·.messageId) messages id := by
  by_cases same : message.messageId = id <;> simp [KeyedMap.lookup, same]

variable {upserts : List HeldMessage}

theorem get_foldl_set (distinct : (upserts.map (·.messageId)).Nodup) :
    MessagesById.get (upserts.foldl set byId) id =
      (lookup (·.messageId) upserts id).or (byId.get id) := by
  induction upserts generalizing byId with
  | nil => rfl
  | cons message upserts induction =>
    rw [map_cons, nodup_cons] at distinct
    rw [foldl_cons, induction distinct.2, get_set, lookup_cons]
    split_ifs with same
    · have absent : lookup (·.messageId) upserts id = none :=
        lookup_eq_none.mpr fun other member named =>
          distinct.1 (mem_map.mpr ⟨other, member, named.trans same.symm⟩)
      rw [absent]
      rfl
    · rfl

theorem get_foldl_delete (deletes : List String) : MessagesById.get (deletes.foldl
      (fun byId id => byId.keepWhere fun message => message.messageId ≠ id) byId) id =
        if id ∈ deletes then none else byId.get id := by
  induction deletes generalizing byId with
  | nil => rfl
  | cons deleted deletes induction =>
    have kept : MessagesById.get (byId.keepWhere fun message => message.messageId ≠ deleted) id =
        if id ≠ deleted then byId.get id else none := by
      rw [MessagesById.get, keepWhere]
      have filtered : lookup (fun held : HeldMessage => held.messageId)
          (byId.entries.filter fun held => decide (held.messageId ≠ deleted)) id =
            if decide (id ≠ deleted) = true then byId.get id else none :=
        lookup_filter byId.entries (fun other => decide (other ≠ deleted)) id
      simpa using filtered
    rw [foldl_cons, induction, kept]
    by_cases same : id = deleted <;> simp [same]

/-! ## A mirror holds a content -/

structure Mirrors (mirror : SessionMirror) (content : Content) : Prop where
  ordered : mirror.ordered = mirror.byId.entries.insertionSort transcriptOrdLe
  indexOf : ∀ id index, mirror.indexOf id = some index ↔
    (mirror.ordered[index]?).map (·.messageId) = some id
  content : ∀ id, mirror.byId.get id = content id

namespace Mirrors

variable {mirror : SessionMirror} {content : Content}

theorem sorted_distinct (byId : MessagesById) :
    ((byId.entries.insertionSort transcriptOrdLe).map (·.messageId)).Nodup :=
  ((perm_insertionSort _ _).map _).nodup_iff.mpr byId.nodup

/-- The fast path: one message in the place of an older one with its `ord`. -/
theorem swap (mirrors : Mirrors mirror content) {message previous : HeldMessage}
    (found : mirror.byId.get message.messageId = some previous)
    (sameOrd : previous.ord = message.ord) : Mirrors (mirror.swap message)
      fun id => if message.messageId = id then some message else content id := by
  have looked : lookup (fun held : HeldMessage => held.messageId) mirror.byId.entries
      message.messageId = some previous := found
  have named : previous.messageId = message.messageId := label_of_lookup looked
  have isEntry : previous ∈ mirror.byId.entries := mem_of_lookup looked
  have distinct : (mirror.ordered.map (·.messageId)).Nodup :=
    mirrors.ordered ▸ sorted_distinct mirror.byId
  have isOrdered : previous ∈ mirror.ordered := by
    rw [mirrors.ordered, mem_insertionSort]
    exact isEntry
  obtain ⟨index, at_⟩ := getElem?_of_mem isOrdered
  have indexed : mirror.indexOf message.messageId = some index := by
    rw [mirrors.indexOf, at_, Option.map_some, named]
  have entries : (mirror.swap message).byId.entries = mirror.byId.entries.map (replace message) :=
    insertEntry_eq_map mirror.byId.nodup (mem_map.mpr ⟨previous, isEntry, named⟩)
  have swapped : (mirror.swap message).ordered = mirror.ordered.map (replace message) := by
    rw [SessionMirror.swap, indexed]
    exact set_eq_map distinct at_ named
  have keepsOrd : ∀ held ∈ mirror.ordered, held.ord = (replace message held).ord := by
    intro held member
    rw [replace]
    split_ifs with same
    · rw [inj_on_of_nodup_map distinct member isOrdered (same.trans named.symm), sameOrd]
    · rfl
  have ids : (mirror.ordered.map (replace message)).map (·.messageId) =
      mirror.ordered.map (·.messageId) := by
    rw [map_map]
    exact map_congr_left fun held _ => messageId_replace message held
  refine ⟨?_, fun id other => ?_, fun id => ?_⟩
  · rw [swapped, entries]
    refine held_sorted ?_ (ids ▸ distinct) ?_
    · rw [mirrors.ordered]
      exact (perm_insertionSort _ _).map _
    have sorted : mirror.ordered.Pairwise transcriptOrdLe := by
      rw [mirrors.ordered]
      exact pairwise_insertionSort _ _
    refine pairwise_map.mpr (sorted.imp_of_mem fun {one two} inOne inTwo le => ?_)
    exact transcriptOrdLe_congr (keepsOrd one inOne) (messageId_replace message one).symm
      (keepsOrd two inTwo) (messageId_replace message two).symm le
  · have same : ((mirror.swap message).ordered[other]?).map (·.messageId) =
        (mirror.ordered[other]?).map (·.messageId) := by
      rw [swapped, ← getElem?_map, ids, getElem?_map]
    rw [same]
    exact mirrors.indexOf id other
  · rw [← mirrors.content]
    exact get_set message

theorem swaps (mirrors : Mirrors mirror content) (distinct : (upserts.map (·.messageId)).Nodup)
    (inPlace : ∀ message ∈ upserts, ∃ previous, mirror.byId.get message.messageId = some previous
      ∧ previous.ord = message.ord) :
    Mirrors (upserts.foldl SessionMirror.swap mirror)
      fun id => (lookup (·.messageId) upserts id).or (content id) := by
  induction upserts generalizing mirror content with
  | nil => exact mirrors
  | cons message upserts induction =>
    rw [map_cons, nodup_cons] at distinct
    obtain ⟨previous, found, sameOrd⟩ := inPlace message mem_cons_self
    have differs : ∀ other ∈ upserts, message.messageId ≠ other.messageId :=
      fun other member same => distinct.1 (mem_map.mpr ⟨other, member, same.symm⟩)
    have step := induction (mirrors.swap found sameOrd) distinct.2 fun other member => by
      obtain ⟨held, isHeld, heldOrd⟩ := inPlace other (.tail _ member)
      refine ⟨held, ?_, heldOrd⟩
      rw [SessionMirror.swap, get_set, if_neg (differs other member), isHeld]
    refine ⟨step.ordered, step.indexOf, fun id => (step.content id).trans ?_⟩
    rw [lookup_cons]
    split_ifs with same
    · have absent : lookup (·.messageId) upserts id = none :=
        lookup_eq_none.mpr fun other member named =>
          differs other member (same.trans named.symm)
      rw [absent]
      rfl
    · rfl

/-- The slow path. -/
theorem sorted (mirror : SessionMirror) {byId : MessagesById}
    (holds : ∀ id, byId.get id = content id) :
    Mirrors (mirror.sorted byId) content :=
  ⟨rfl, fun _ _ => indexMessages_iff (sorted_distinct byId), holds⟩

variable {frame : TranscriptBridgeFrameMessage}

theorem advance (mirrors : Mirrors mirror content)
    (distinct : (frame.upserts.map (·.messageId)).Nodup) :
    Mirrors (mirror.advance frame) (foldFrame frame content) := by
  rw [SessionMirror.advance]
  dsimp only
  split_ifs with inPlace
  · rw [SessionMirror.inPlace, Bool.and_eq_true, List.isEmpty_iff, List.all_eq_true] at inPlace
    have holds : Mirrors { mirror with
        metadata := frame.metadata.getD
          { mirror.metadata with epoch := frame.epoch, frame := frame.frame } } content :=
      ⟨mirrors.ordered, mirrors.indexOf, mirrors.content⟩
    have swapped := holds.swaps distinct fun message member => by
      simpa [Option.any_eq_true] using inPlace.2 message member
    have same : foldFrame frame content =
        fun id => (lookup (·.messageId) frame.upserts id).or (content id) := by
      funext id
      rw [foldFrame, inPlace.1, if_neg not_mem_nil]
    rw [same]
    exact swapped
  · refine Mirrors.sorted _ fun id => ?_
    rw [get_foldl_set distinct, get_foldl_delete, mirrors.content, foldFrame]

theorem ofReset (metadata : TranscriptViewMeta)
    (distinct : (frame.upserts.map (·.messageId)).Nodup) :
    Mirrors (SessionMirror.ofReset frame metadata)
      fun id => lookup (·.messageId) frame.upserts id := by
  have perm := perm_insertionSort transcriptOrdLe frame.upserts
  have sortedDistinct := (perm.map (·.messageId)).nodup_iff.mpr distinct
  have entries : (SessionMirror.ofReset frame metadata).byId.entries =
      frame.upserts.insertionSort transcriptOrdLe := entries_ofList sortedDistinct
  refine ⟨?_, fun _ _ => indexMessages_iff sortedDistinct, fun id => ?_⟩
  · rw [entries]
    exact held_sorted (.refl _) sortedDistinct (pairwise_insertionSort _ _)
  rw [MessagesById.get, entries]
  cases found : lookup (·.messageId) frame.upserts id with
  | none =>
    rw [lookup_eq_none] at found ⊢
    exact fun held member => found held (perm.mem_iff.mp member)
  | some held =>
    rw [← label_of_lookup found]
    refine lookup_of_mem (fun other member same => ?_) (perm.mem_iff.mpr (mem_of_lookup found))
    exact inj_on_of_nodup_map sortedDistinct member (perm.mem_iff.mpr (mem_of_lookup found)) same

end Mirrors

def Distinct : MirrorCall → Prop
  | .apply frame => (frame.upserts.map (·.messageId)).Nodup
  | _ => True

theorem rel_map {mirror : Option SessionMirror} {content : Option Content}
    (related : Option.Rel Mirrors mirror content) :
    mirror.map (fun mirror => mirror.byId.get) = content := by
  cases related with
  | some related => exact congrArg some (funext related.content)
  | none => rfl

theorem rel_some {mirror : Option SessionMirror} {content : Option Content}
    (related : Option.Rel Mirrors mirror content) {one : SessionMirror} (held : mirror = some one) :
    ∃ its, content = some its ∧ Mirrors one its := by
  cases related with
  | some related => exact Option.some.inj held ▸ ⟨_, rfl, related⟩
  | none => cases held

variable {contents : String → Option Content}

theorem perform_mirrors {sessions : Sessions}
    (mirrors : ∀ id, Option.Rel Mirrors (sessions id) (contents id)) {call : MirrorCall}
    (distinct : Distinct call) (id : String) :
    Option.Rel Mirrors (call.perform sessions id) (call.fold contents id) := by
  have changes {sessionId : String} {mirror : SessionMirror} {content : Content}
      (related : Mirrors mirror content) :
      Option.Rel Mirrors (update sessions sessionId (some mirror) id)
        (update contents sessionId (some content) id) := by
    by_cases same : id = sessionId
    · subst same
      rw [update_self, update_self]
      exact .some related
    · rw [update_of_ne same, update_of_ne same]
      exact mirrors id
  cases call with
  | apply frame =>
    cases resets : frame.reset with
    | true =>
      cases given : frame.metadata with
      | none =>
        simpa only [MirrorCall.perform, MirrorCall.fold, resets, given, if_true] using mirrors id
      | some metadata =>
        simpa only [MirrorCall.perform, MirrorCall.fold, resets, given, if_true] using
          changes (.ofReset metadata distinct)
    | false =>
      have related := mirrors frame.sessionId
      simp only [MirrorCall.perform, MirrorCall.fold, resets, Bool.false_eq_true, if_false]
      cases session : sessions frame.sessionId with
      | none =>
        have absent : contents frame.sessionId = none := by
          rw [← rel_map related, session, Option.map_none]
        rw [absent, Option.map_none, ← absent, update_eq_self]
        exact mirrors id
      | some mirror =>
        obtain ⟨content, found, held⟩ := rel_some related session
        rw [found]
        exact changes (held.advance distinct)
  | retain sessionIds =>
    simp only [MirrorCall.perform, MirrorCall.fold]
    split_ifs
    · exact mirrors id
    · exact .none
  | clear => exact .none

variable {calls : List MirrorCall}

theorem run_mirrors (distinct : ∀ call ∈ calls, Distinct call) (id : String) :
    Option.Rel Mirrors (mirrorRun calls id) (folded calls id) := by
  induction calls using reverseRecOn generalizing id with
  | nil => exact .none
  | append_singleton calls call induction =>
    rw [mirrorRun, folded, foldl_concat, foldl_concat]
    exact perform_mirrors (induction fun earlier member => distinct earlier (by simp [member]))
      (distinct call (by simp)) id

theorem fold_untouched {call : MirrorCall} {sessionId id : String} {content after : Content}
    (before : contents sessionId = some content) (folds : call.fold contents sessionId = some after)
    (untouched : ¬Touches sessionId id call) : after id = content id := by
  cases call with
  | apply frame =>
    by_cases same : frame.sessionId = sessionId
    · subst same
      have quiet : ¬(frame.reset = true ∨ id ∈ frame.deletes ∨
          id ∈ frame.upserts.map (·.messageId)) :=
        fun touched => untouched ⟨frame, rfl, rfl, touched⟩
      rw [not_or, not_or] at quiet
      obtain ⟨noReset, noDelete, noUpsert⟩ := quiet
      rw [MirrorCall.fold, if_neg noReset, update_self, before, Option.map_some] at folds
      have absent : lookup (·.messageId) frame.upserts id = none :=
        lookup_eq_none.mpr fun held member named =>
          noUpsert (mem_map.mpr ⟨held, member, named⟩)
      rw [← Option.some.inj folds, foldFrame, if_neg noDelete, absent, Option.none_or]
    have kept : (MirrorCall.apply frame).fold contents sessionId = contents sessionId := by
      rw [MirrorCall.fold]
      split_ifs
      · cases frame.metadata with
        | none => rfl
        | some metadata => exact update_of_ne (Ne.symm same) _ _
      · exact update_of_ne (Ne.symm same) _ _
    rw [Option.some.inj (before.symm.trans (kept.symm.trans folds))]
  | retain sessionIds =>
    simp only [MirrorCall.fold] at folds
    split_ifs at folds
    rw [Option.mem_unique before folds]
  | clear => cases folds

/-- However frames, retains and clears follow each other, each session's list is
its map in order, its index gives the positions in that list, and its map is the
fold of the frames since the last reset; a call leaves the messages that it does
not touch the objects they were. -/
theorem mirror_exact (distinct : ∀ call ∈ calls, Distinct call) (sessionId : String) :
    (mirrorRun calls sessionId).map (fun mirror => mirror.byId.get) = folded calls sessionId ∧
    ∀ mirror, mirrorRun calls sessionId = some mirror →
      mirror.ordered = mirror.byId.entries.insertionSort transcriptOrdLe ∧
      (∀ id index, mirror.indexOf id = some index ↔
        (mirror.ordered[index]?).map (·.messageId) = some id) ∧
      ∀ earlier call before id, calls = earlier ++ [call] →
        mirrorRun earlier sessionId = some before → ¬Touches sessionId id call →
          mirror.byId.get id = before.byId.get id := by
  have related := run_mirrors distinct sessionId
  refine ⟨rel_map related, fun mirror found => ?_⟩
  obtain ⟨content, isContent, mirrors⟩ := rel_some related found
  refine ⟨mirrors.ordered, mirrors.indexOf, ?_⟩
  rintro earlier call before id rfl isBefore untouched
  obtain ⟨old, isOld, mirrored⟩ := rel_some
    (run_mirrors (fun one member => distinct one (by simp [member])) sessionId) isBefore
  rw [folded, List.foldl_concat] at isContent
  rw [mirrors.content, mirrored.content, fold_untouched isOld isContent untouched]

theorem mirror_exact_of_growth :
    let bubble : HeldMessage := ⟨"a", "a1", 0⟩
    let frame : TranscriptBridgeFrameMessage :=
      ⟨"s1", "e1", 1, true, [bubble], [], some ⟨"e1", 1⟩⟩
    let growth : TranscriptBridgeFrameMessage :=
      { frame with frame := 2, reset := false, upserts := [{ bubble with object := 1 }] }
    (mirrorRun [.apply frame, .apply growth] "s1").map (fun mirror => mirror.byId.get) =
      folded [.apply frame, .apply growth] "s1" :=
  (mirror_exact (by simp [Distinct]) "s1").1

end Adhdev.KeyedTranscript
