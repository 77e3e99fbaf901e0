import Mathlib

/-! # Owned paths

What a task declares it will write, from `path-ownership.ts`: exact paths and
`/**` subtrees, normalised once and compared as text.
-/

namespace Adhdev.PathOwnership

open List

abbrev Segment := List Char

structure OwnedPathEntry where
  path : List Char
  subtree : Bool

structure Rejection where
  input : List Char
  reason : String

inductive Raw where
  | text (chars : List Char)
  | other (printed : List Char)

inductive Input where
  | absent
  | other (printed : List Char)
  | array (raws : List Raw)

def MAX_OWNED_PATHS : Nat := 64

/-- White space and line ends, as `trim` takes them. -/
def isSpace (c : Char) : Bool :=
  let code := c.toNat
  (9 ≤ code && code ≤ 13) || code = 32 || code = 160 || code = 5760 ||
    (8192 ≤ code && code ≤ 8202) || code = 8232 || code = 8233 || code = 8239 || code = 8287 ||
    code = 12288 || code = 65279

def trim (text : List Char) : List Char := (text.dropWhile isSpace).rdropWhile isSpace

def toPosix (raw : List Char) : List Char := raw.map fun c => if c = '\\' then '/' else c

def isAbsolute : List Char → Bool
  | '/' :: _ => true
  | '~' :: _ => true
  | drive :: ':' :: '/' :: _ => drive.isAlpha
  | _ => false

/-- Without one leading `./`. -/
def stripDot : List Char → List Char
  | '.' :: '/' :: rest => rest.dropWhile (· = '/')
  | posix => posix

def segmentsOf (posix : List Char) : List Segment := (posix.splitOn '/').filter (· ≠ [])

def endsInStars (segments : List Segment) : Bool := segments.getLast? = some ['*', '*']

def globbed (segment : Segment) : Bool := segment.contains '*' || segment.contains '?'

def normalizeOne : Raw → Except Rejection OwnedPathEntry
  | .other printed => .error ⟨printed, "not_a_string"⟩
  | .text raw =>
    let trimmed := trim raw
    if trimmed = [] then .error ⟨raw, "empty"⟩
    else
      let posix := toPosix trimmed
      if isAbsolute posix then .error ⟨raw, "absolute_path"⟩
      else
        let segments := segmentsOf (stripDot posix)
        if segments.any (· = ['.', '.']) then .error ⟨raw, "parent_traversal"⟩
        else if segments = [] then .error ⟨raw, "empty"⟩
        else
          let subtree := endsInStars segments
          let kept := if subtree then segments.dropLast else segments
          if kept.any globbed then .error ⟨raw, "unsupported_glob"⟩
          else .ok ⟨['/'].intercalate kept, subtree⟩

def addEntry : List OwnedPathEntry → OwnedPathEntry → List OwnedPathEntry
  | [], entry => [entry]
  | existing :: rest, entry =>
    if existing.path = entry.path then
      (if entry.subtree && !existing.subtree then entry else existing) :: rest
    else existing :: addEntry rest entry

structure Normalized where
  declaration : List OwnedPathEntry
  rejected : List Rejection

def gather (state : List OwnedPathEntry × List Rejection) (raw : Raw) :
    List OwnedPathEntry × List Rejection :=
  match normalizeOne raw with
  | .error rejection => (state.1, state.2 ++ [rejection])
  | .ok entry => (addEntry state.1 entry, state.2)

def normalizeOwnedPaths : Input → Normalized
  | .absent => ⟨[], []⟩
  | .other printed => ⟨[], [⟨printed, "not_an_array"⟩]⟩
  | .array raws =>
    let gathered := raws.foldl gather ([], [])
    ⟨gathered.1.take MAX_OWNED_PATHS,
      gathered.2 ++ (gathered.1.drop MAX_OWNED_PATHS).map fun dropped =>
        ⟨dropped.path, "over_cap"⟩⟩

def entryContains (base : OwnedPathEntry) (path : List Char) : Bool :=
  if path = base.path then true
  else base.subtree && (base.path = [] || (base.path ++ ['/']).isPrefixOf path)

def entriesOverlap (a b : OwnedPathEntry) : Bool :=
  entryContains a b.path || entryContains b a.path

def pathsOverlap (a b : List OwnedPathEntry) : Bool :=
  if a.length = 0 || b.length = 0 then false
  else a.any fun pa => b.any fun pb => entriesOverlap pa pb

structure InFlightOwnership where
  taskId : String
  paths : List OwnedPathEntry

structure OwnershipConflict where
  taskId : String
  overlappingPaths : List (List Char)

def narrower (pa pb : OwnedPathEntry) : List Char :=
  if pb.path.length ≤ pa.path.length then pa.path else pb.path

def addPath (paths : List (List Char)) (path : List Char) : List (List Char) :=
  if paths.contains path then paths else paths ++ [path]

def overlappingPaths (candidate other : List OwnedPathEntry) : List (List Char) :=
  candidate.foldl (fun paths pa => other.foldl (fun paths pb =>
    if entriesOverlap pa pb then addPath paths (narrower pa pb) else paths) paths) []

def findOwnershipConflicts (candidate : List OwnedPathEntry) (inFlight : List InFlightOwnership) :
    List OwnershipConflict :=
  if candidate.length = 0 then []
  else inFlight.filterMap fun other =>
    if other.paths.length = 0 then none
    else if (overlappingPaths candidate other.paths).length > 0 then
      some ⟨other.taskId, overlappingPaths candidate other.paths⟩
    else none

section Declarations

variable {raws : List Raw} {entry : OwnedPathEntry}

def declared (raws : List Raw) : List OwnedPathEntry :=
  (normalizeOwnedPaths (.array raws)).declaration

def Accepted (raws : List Raw) : Prop := (normalizeOwnedPaths (.array raws)).rejected = []

variable {entries : List OwnedPathEntry}

theorem mem_addEntry {other : OwnedPathEntry} (member : other ∈ addEntry entries entry) :
    other ∈ entries ∨ other = entry := by
  induction entries with
  | nil => exact .inr (mem_singleton.mp member)
  | cons existing entries induction =>
    rw [addEntry] at member
    split at member
    · rcases mem_cons.mp member with equal | later
      · split at equal
        · exact .inr equal
        · exact .inl (equal ▸ mem_cons_self)
      · exact .inl (.tail _ later)
    rcases mem_cons.mp member with equal | later
    · exact .inl (equal ▸ mem_cons_self)
    · exact (induction later).imp_left (mem_cons_of_mem _)

def Covered (entries : List OwnedPathEntry) (entry : OwnedPathEntry) : Prop :=
  ∃ kept ∈ entries, kept.path = entry.path ∧ (entry.subtree = true → kept.subtree = true)

theorem covered_addEntry (entries : List OwnedPathEntry) (entry : OwnedPathEntry) :
    Covered (addEntry entries entry) entry := by
  induction entries with
  | nil => exact ⟨entry, .head _, rfl, id⟩
  | cons existing entries induction =>
    rw [addEntry]
    split
    next same =>
      refine ⟨_, mem_cons_self, ?_⟩
      split
      · exact ⟨rfl, id⟩
      next narrow =>
        refine ⟨same, fun wide => ?_⟩
        simpa [wide] using narrow
    next =>
      obtain ⟨kept, member, facts⟩ := induction
      exact ⟨kept, .tail _ member, facts⟩

theorem Covered.addEntry (covered : Covered entries entry) (added : OwnedPathEntry) :
    Covered (addEntry entries added) entry := by
  obtain ⟨kept, member, same, wide⟩ := covered
  induction entries with
  | nil => cases member
  | cons existing entries induction =>
    rw [PathOwnership.addEntry]
    rcases mem_cons.mp member with equal | later
    · subst equal
      split
      next path =>
        refine ⟨_, mem_cons_self, ?_⟩
        split
        next wider =>
          simp only [Bool.and_eq_true] at wider
          exact ⟨path.symm.trans same, fun _ => wider.1⟩
        · exact ⟨same, wide⟩
      · exact ⟨kept, mem_cons_self, same, wide⟩
    split
    · exact ⟨kept, .tail _ later, same, wide⟩
    · obtain ⟨other, otherMember, facts⟩ := induction later
      exact ⟨other, .tail _ otherMember, facts⟩

theorem foldl_gather {state : List OwnedPathEntry × List Rejection}
    (clean : (raws.foldl gather state).2 = []) :
    state.2 = [] ∧ (∀ raw ∈ raws, ∃ entry, normalizeOne raw = .ok entry) ∧
      (∀ entry ∈ (raws.foldl gather state).1,
        entry ∈ state.1 ∨ ∃ raw ∈ raws, normalizeOne raw = .ok entry) ∧
      (∀ entry, Covered state.1 entry → Covered (raws.foldl gather state).1 entry) ∧
      ∀ raw ∈ raws, ∀ entry, normalizeOne raw = .ok entry →
        Covered (raws.foldl gather state).1 entry := by
  induction raws generalizing state with
  | nil =>
    exact ⟨clean, fun _ member => (not_mem_nil member).elim, fun _ member => .inl member,
      fun _ covered => covered, fun _ member => (not_mem_nil member).elim⟩
  | cons raw raws induction =>
    rw [foldl_cons] at clean ⊢
    obtain ⟨empty, accepted, origin, covers, later⟩ := induction clean
    cases normalized : normalizeOne raw with
    | error rejection => simp [gather, normalized] at empty
    | ok entry =>
      simp only [gather, normalized] at empty origin covers later ⊢
      refine ⟨empty, ?_, ?_, ?_, ?_⟩
      · intro other member
        rcases mem_cons.mp member with equal | member
        · exact ⟨entry, equal ▸ normalized⟩
        · exact accepted other member
      · intro other member
        rcases origin other member with added | ⟨source, listed, found⟩
        · rcases mem_addEntry added with before | equal
          · exact .inl before
          · exact .inr ⟨raw, mem_cons_self, equal ▸ normalized⟩
        · exact .inr ⟨source, .tail _ listed, found⟩
      · exact fun other covered => covers other (covered.addEntry entry)
      intro other member written found
      rcases mem_cons.mp member with equal | member
      · rw [equal, normalized, Except.ok.injEq] at found
        exact found ▸ covers entry (covered_addEntry _ entry)
      · exact later other member written found

theorem Accepted.declared_spec (accepted : Accepted raws) :
    (∀ raw ∈ raws, ∃ entry, normalizeOne raw = .ok entry ∧ Covered (declared raws) entry) ∧
      ∀ entry ∈ declared raws, ∃ raw ∈ raws, normalizeOne raw = .ok entry := by
  have parts := append_eq_nil_iff.mp accepted
  have short : (raws.foldl gather ([], [])).1.drop MAX_OWNED_PATHS = [] := map_eq_nil_iff.mp parts.2
  have whole : declared raws = (raws.foldl gather ([], [])).1 :=
    take_of_length_le (drop_eq_nil_iff.mp short)
  obtain ⟨-, normalized, origin, -, covers⟩ := foldl_gather parts.1
  rw [whole]
  constructor
  · intro raw member
    obtain ⟨entry, found⟩ := normalized raw member
    exact ⟨entry, found, covers raw member entry found⟩
  · intro entry member
    exact (origin entry member).resolve_left not_mem_nil

theorem pathsOverlap_eq_true {a b : List OwnedPathEntry} :
    pathsOverlap a b = true ↔ ∃ pa ∈ a, ∃ pb ∈ b, entriesOverlap pa pb = true := by
  rw [pathsOverlap]
  cases a with
  | nil => simp
  | cons pa a =>
    cases b with
    | nil => simp
    | cons pb b => simp only [length_cons, Nat.add_eq_zero_iff, one_ne_zero, and_false,
        decide_false, Bool.or_self, Bool.false_eq_true, if_false, any_eq_true]

theorem entryContains_mono {base wide : OwnedPathEntry} {path : List Char}
    (same : wide.path = base.path) (wider : base.subtree = true → wide.subtree = true)
    (contains : entryContains base path = true) : entryContains wide path = true := by
  rw [entryContains] at contains ⊢
  rw [same]
  split at contains
  next equal => rw [if_pos equal]
  next other =>
    rw [if_neg other]
    simp only [Bool.and_eq_true] at contains ⊢
    exact ⟨wider contains.1, contains.2⟩

theorem entriesOverlap_mono {a b wideA wideB : OwnedPathEntry} (sameA : wideA.path = a.path)
    (widerA : a.subtree = true → wideA.subtree = true) (sameB : wideB.path = b.path)
    (widerB : b.subtree = true → wideB.subtree = true) (overlap : entriesOverlap a b = true) :
    entriesOverlap wideA wideB = true := by
  simp only [entriesOverlap, Bool.or_eq_true] at overlap ⊢
  rw [sameA, sameB]
  exact overlap.imp (entryContains_mono sameA widerA) (entryContains_mono sameB widerB)

theorem declared_overlap_iff {xs ys : List Raw} (left : Accepted xs) (right : Accepted ys) :
    pathsOverlap (declared xs) (declared ys) = true ↔
      ∃ x ∈ xs, ∃ y ∈ ys, ∃ a b, normalizeOne x = .ok a ∧ normalizeOne y = .ok b ∧
        entriesOverlap a b = true := by
  rw [pathsOverlap_eq_true]
  constructor
  · rintro ⟨a, aMember, b, bMember, overlap⟩
    obtain ⟨x, xMember, xFound⟩ := left.declared_spec.2 a aMember
    obtain ⟨y, yMember, yFound⟩ := right.declared_spec.2 b bMember
    exact ⟨x, xMember, y, yMember, a, b, xFound, yFound, overlap⟩
  rintro ⟨x, xMember, y, yMember, a, b, xFound, yFound, overlap⟩
  obtain ⟨a', found, keptA, aMember, sameA, widerA⟩ := left.declared_spec.1 x xMember
  obtain ⟨b', found', keptB, bMember, sameB, widerB⟩ := right.declared_spec.1 y yMember
  rw [xFound, Except.ok.injEq] at found
  rw [yFound, Except.ok.injEq] at found'
  subst found found'
  exact ⟨keptA, aMember, keptB, bMember, entriesOverlap_mono sameA widerA sameB widerB overlap⟩

theorem length_addPath_pos (paths : List (List Char)) (path : List Char) :
    0 < (addPath paths path).length := by
  rw [addPath]
  split
  next present =>
    cases paths with
    | nil => cases present
    | cons first paths => simp
  · simp

theorem foldl_overlapping_pos (pa : OwnedPathEntry) (other : List OwnedPathEntry)
    (paths : List (List Char)) :
    0 < (other.foldl (fun paths pb => if entriesOverlap pa pb then addPath paths (narrower pa pb)
      else paths) paths).length ↔
        0 < paths.length ∨ ∃ pb ∈ other, entriesOverlap pa pb = true := by
  induction other generalizing paths with
  | nil => simp
  | cons pb other induction =>
    rw [foldl_cons, induction]
    by_cases overlap : entriesOverlap pa pb = true
    · simp [overlap, length_addPath_pos]
    · simp [overlap]

theorem overlappingPaths_pos (candidate other : List OwnedPathEntry) :
    0 < (overlappingPaths candidate other).length ↔ pathsOverlap candidate other = true := by
  have folded : ∀ paths : List (List Char), 0 < (candidate.foldl (fun paths pa =>
      other.foldl (fun paths pb => if entriesOverlap pa pb then addPath paths (narrower pa pb)
        else paths) paths) paths).length ↔ 0 < paths.length ∨
          ∃ pa ∈ candidate, ∃ pb ∈ other, entriesOverlap pa pb = true := by
    induction candidate with
    | nil => simp
    | cons pa candidate induction =>
      intro paths
      rw [foldl_cons, induction, foldl_overlapping_pos]
      simp [or_assoc]
  rw [overlappingPaths, folded, pathsOverlap_eq_true]
  simp

theorem taskIds_findOwnershipConflicts (candidate : List OwnedPathEntry)
    (inFlight : List InFlightOwnership) :
    (findOwnershipConflicts candidate inFlight).map OwnershipConflict.taskId =
      (inFlight.filter fun other => pathsOverlap candidate other.paths).map
        InFlightOwnership.taskId := by
  rw [findOwnershipConflicts]
  split
  next empty =>
    have none : ∀ other : InFlightOwnership, pathsOverlap candidate other.paths = false :=
      fun other => by simp [pathsOverlap, empty]
    simp [none]
  next =>
    induction inFlight with
    | nil => rfl
    | cons other inFlight induction =>
      have named := overlappingPaths_pos candidate other.paths
      by_cases overlap : pathsOverlap candidate other.paths = true
      · have nonempty : other.paths.length ≠ 0 := fun empty => by
          simp [pathsOverlap, empty] at overlap
        have positive := named.mpr overlap
        rw [filter_cons, if_pos overlap, map_cons, ← induction, filterMap_cons]
        simp only [if_neg nonempty, if_pos positive, map_cons]
      rw [filter_cons, if_neg overlap, ← induction, filterMap_cons_none]
      split
      · rfl
      · exact if_neg fun positive => overlap (named.mp positive)

end Declarations

end Adhdev.PathOwnership
