import Adhdev.PathOwnership.Entries

/-! # What owned paths denote

An entry denotes the path its segments resolve to, and as a subtree everything
below it. The code compares the segments as they are written; a `.` among them
stays.
-/

namespace Adhdev.PathOwnership

open List

abbrev Path := List Segment

def dot : Segment := ['.']

def resolved (raw : List Char) : Path := (segmentsOf (toPosix (trim raw))).filter (· ≠ dot)

def Denotes : Raw → Path → Prop
  | .other _, _ => False
  | .text raw, path =>
    if endsInStars (resolved raw) then (resolved raw).dropLast <+: path else path = resolved raw

/-- Some path is denoted by both lists. -/
def Common (xs ys : List Raw) : Prop :=
  ∃ x ∈ xs, ∃ y ∈ ys, ∃ path, Denotes x path ∧ Denotes y path

/-- The segments of an entry as written, but for one leading dot, without the stars. -/
def written : Raw → Path
  | .other _ => []
  | .text raw =>
    let segments := segmentsOf (stripDot (toPosix (trim raw)))
    if endsInStars segments then segments.dropLast else segments

def isSubtree : Raw → Bool
  | .other _ => false
  | .text raw => endsInStars (segmentsOf (stripDot (toPosix (trim raw))))

def names (raw : Raw) : Path := (written raw).filter (· ≠ dot)

def SameDots (path other : Path) : Prop :=
  ∀ place < path.length, path[place]? = some dot ↔ other[place]? = some dot

/-- `base` denotes `other`, with its dots where `other` has its own. -/
def HoldsInPlace (base other : Raw) : Prop :=
  SameDots (written base) (written other) ∧
    if isSubtree base then names base <+: names other
    else names base = names other ∧ SameDots (written other) (written base)

/-- If the lists have a common path, then through two entries whose dots stand alike. -/
def Aligned (xs ys : List Raw) : Prop :=
  Common xs ys → ∃ x ∈ xs, ∃ y ∈ ys, HoldsInPlace x y ∨ HoldsInPlace y x

section Segments

variable {path other : Path}

def Plain (path : Path) : Prop := ∀ segment ∈ path, segment ≠ [] ∧ '/' ∉ segment

theorem not_mem_of_mem_splitOn {text : List Char} {segment : Segment}
    (member : segment ∈ text.splitOn '/') : '/' ∉ segment := by
  induction text generalizing segment with
  | nil =>
    rw [splitOn_nil, mem_singleton] at member
    rw [member]
    exact not_mem_nil
  | cons c text induction =>
    rw [splitOn_cons_eq_if_modifyHead] at member
    split at member
    · rcases mem_cons.mp member with equal | later
      · rw [equal]
        exact not_mem_nil
      · exact induction later
    next other =>
      obtain ⟨head, rest, cut⟩ := exists_cons_of_ne_nil (splitOn_ne_nil '/' text)
      rw [cut, modifyHead_cons] at member
      rcases mem_cons.mp member with equal | later
      · rw [equal, mem_cons, not_or]
        refine ⟨fun slash => other (by simp [← slash]), induction ?_⟩
        rw [cut]
        exact mem_cons_self
      · exact induction (cut ▸ .tail _ later)

theorem plain_segmentsOf (text : List Char) : Plain (segmentsOf text) := fun segment member => by
  obtain ⟨cut, nonempty⟩ := mem_filter.mp member
  exact ⟨by simpa using nonempty, not_mem_of_mem_splitOn cut⟩

theorem splitOn_join (plain : Plain path) (nonempty : path ≠ []) :
    (['/'].intercalate path).splitOn '/' = path :=
  splitOn_intercalate '/' (fun segment member => (plain segment member).2) nonempty

theorem join_eq_nil (plain : Plain path) : ['/'].intercalate path = [] ↔ path = [] := by
  constructor
  · intro empty
    by_contra nonempty
    have cut := splitOn_join plain nonempty
    rw [empty, splitOn_nil] at cut
    exact (plain [] (cut ▸ .head _)).1 rfl
  · rintro rfl
    rfl

theorem join_inj (plain : Plain path) (otherPlain : Plain other) :
    ['/'].intercalate path = ['/'].intercalate other ↔ path = other := by
  constructor
  · intro same
    by_cases empty : path = []
    · rw [empty] at same ⊢
      exact ((join_eq_nil otherPlain).mp same.symm).symm
    have otherNonempty : other ≠ [] := fun equal => by
      rw [equal] at same
      exact empty ((join_eq_nil plain).mp same)
    rw [← splitOn_join plain empty, same, splitOn_join otherPlain otherNonempty]
  · rintro rfl
    rfl

theorem join_append {first rest : Path} (firstNonempty : first ≠ []) (restNonempty : rest ≠ []) :
    ['/'].intercalate (first ++ rest) =
      ['/'].intercalate first ++ '/' :: ['/'].intercalate rest := by
  induction first with
  | nil => exact absurd rfl firstNonempty
  | cons head first induction =>
    cases first with
    | nil =>
      obtain ⟨next, rest, rfl⟩ := exists_cons_of_ne_nil restNonempty
      simp [intercalate]
    | cons next first =>
      have later := induction (by simp)
      simp only [cons_append, intercalate, intersperse_cons_cons,
        flatten_cons, append_assoc, cons_append, nil_append] at later ⊢
      rw [later]

theorem join_below_iff (plain : Plain path) (otherPlain : Plain other) (nonempty : path ≠ []) :
    ['/'].intercalate path ++ ['/'] <+: ['/'].intercalate other ↔
      ∃ rest, rest ≠ [] ∧ other = path ++ rest := by
  constructor
  · rintro ⟨text, below⟩
    rw [append_assoc, singleton_append] at below
    have otherNonempty : other ≠ [] := by
      rintro rfl
      simp [intercalate] at below
    refine ⟨text.splitOn '/', splitOn_ne_nil _ _, ?_⟩
    rw [← splitOn_join otherPlain otherNonempty, ← below, splitOn_append_cons_self,
      splitOn_join plain nonempty]
  rintro ⟨rest, restNonempty, rfl⟩
  rw [join_append nonempty restNonempty]
  exact ⟨['/'].intercalate rest, by simp⟩

end Segments

section Dots

variable {path other : Path}

theorem prefix_iff_sameDots : path <+: other ↔
    SameDots path other ∧ path.filter (· ≠ dot) <+: other.filter (· ≠ dot) := by
  constructor
  · intro begins
    refine ⟨fun place inside => ?_, begins.filter _⟩
    obtain ⟨rest, rfl⟩ := begins
    rw [getElem?_append_left inside]
  rintro ⟨same, begins⟩
  induction path generalizing other with
  | nil => exact nil_prefix
  | cons segment path induction =>
    have first := same 0 (by simp)
    cases other with
    | nil =>
      by_cases isDot : segment = dot
      · simp [isDot] at first
      · rw [filter_cons, if_pos (by simpa using isDot)] at begins
        simp at begins
    | cons head other =>
      have rest : SameDots path other := fun place inside => by
        simpa using same (place + 1) (by simpa using inside)
      simp only [getElem?_cons_zero, Option.some.injEq] at first
      by_cases isDot : segment = dot
      · have headDot := first.mp isDot
        subst isDot headDot
        simp only [ne_eq, not_true_eq_false, decide_false, Bool.false_eq_true,
          not_false_eq_true, filter_cons_of_neg] at begins
        exact cons_prefix_cons.mpr ⟨rfl, induction rest begins⟩
      have headNot : head ≠ dot := fun equal => isDot (first.mpr equal)
      rw [filter_cons, filter_cons, if_pos (by simpa using isDot),
        if_pos (by simpa using headNot), cons_prefix_cons] at begins
      exact cons_prefix_cons.mpr ⟨begins.1, induction rest begins.2⟩

theorem eq_iff_sameDots : path = other ↔ SameDots path other ∧
    path.filter (· ≠ dot) = other.filter (· ≠ dot) ∧ SameDots other path := by
  constructor
  · rintro rfl
    exact ⟨fun _ _ => Iff.rfl, rfl, fun _ _ => Iff.rfl⟩
  rintro ⟨forwards, same, backwards⟩
  have begins : path <+: other := prefix_iff_sameDots.mpr ⟨forwards, same ▸ prefix_refl _⟩
  have back : other <+: path := prefix_iff_sameDots.mpr ⟨backwards, same ▸ prefix_refl _⟩
  exact begins.eq_of_length (le_antisymm begins.length_le back.length_le)

theorem segmentsOf_slash (text : List Char) : segmentsOf ('/' :: text) = segmentsOf text := by
  have cut := splitOn_append_cons_self (a := '/') [] text
  rw [nil_append, splitOn_nil] at cut
  rw [segmentsOf, cut]
  rfl

theorem segmentsOf_dropSlashes (text : List Char) :
    segmentsOf (text.dropWhile (· = '/')) = segmentsOf text := by
  induction text with
  | nil => rfl
  | cons c text induction =>
    rw [dropWhile_cons]
    split
    next slash =>
      have slash : c = '/' := by simpa using slash
      rw [induction, slash, segmentsOf_slash]
    · rfl

theorem filter_segmentsOf_stripDot (posix : List Char) :
    (segmentsOf (stripDot posix)).filter (· ≠ dot) = (segmentsOf posix).filter (· ≠ dot) := by
  unfold stripDot
  split
  next rest =>
    have cut := splitOn_append_cons_self (a := '/') ['.'] rest
    have whole : segmentsOf ('.' :: '/' :: rest) = dot :: segmentsOf rest := by
      rw [segmentsOf, show '.' :: '/' :: rest = ['.'] ++ '/' :: rest from rfl, cut]
      rfl
    rw [segmentsOf_dropSlashes, whole, filter_cons, if_neg (by simp)]
  · rfl

end Dots

section Entries

variable {raw other : Raw} {entry otherEntry : OwnedPathEntry}

structure Keeps (raw : Raw) (entry : OwnedPathEntry) : Prop where
  path : entry.path = ['/'].intercalate (written raw)
  subtree : entry.subtree = isSubtree raw
  plain : Plain (written raw)
  rooted : written raw = [] → isSubtree raw = true
  denotes : ∀ path, Denotes raw path ↔
    if isSubtree raw then names raw <+: path else path = names raw

theorem endsInStars_iff (segments : List Segment) :
    endsInStars segments = true ↔ segments.getLast? = some ['*', '*'] := by
  simp [endsInStars]

theorem resolved_of_segments {segments : List Segment}
    (plainStars : endsInStars segments = false → segments.any globbed = false) :
    endsInStars (segments.filter (· ≠ dot)) = endsInStars segments ∧
      (endsInStars segments = true →
        (segments.filter (· ≠ dot)).dropLast = segments.dropLast.filter (· ≠ dot)) := by
  by_cases stars : endsInStars segments = true
  · have last := (endsInStars_iff segments).mp stars
    obtain ⟨init, rfl⟩ := getLast?_eq_some_iff.mp last
    have kept : (init ++ [['*', '*']]).filter (· ≠ dot) = init.filter (· ≠ dot) ++
        [['*', '*']] := by
      rw [filter_append]
      rfl
    rw [kept, stars]
    refine ⟨(endsInStars_iff _).mpr (by simp), fun _ => by simp⟩
  have stars : endsInStars segments = false := by simpa using stars
  rw [stars]
  refine ⟨Bool.eq_false_iff.mpr fun ends => ?_, nofun⟩
  have last := (endsInStars_iff _).mp ends
  have member := (mem_filter.mp (mem_of_getLast? last)).1
  have free := any_eq_false.mp (plainStars stars) _ member
  exact free (by decide)

theorem keeps_of_normalizeOne (found : normalizeOne raw = .ok entry) : Keeps raw entry := by
  cases raw with
  | other printed => cases found
  | text chars =>
    simp only [normalizeOne] at found
    split at found
    · cases found
    split at found
    · cases found
    split at found
    · cases found
    split at found
    · cases found
    next nonempty =>
      change (if (written (.text chars)).any globbed = true then _ else _) = _ at found
      split at found
      · cases found
      next starless =>
        cases found
        have plain := plain_segmentsOf (stripDot (toPosix (trim chars)))
        have facts := @resolved_of_segments (segmentsOf (stripDot (toPosix (trim chars))))
          fun free => by simpa [written, free] using starless
        have same : (segmentsOf (stripDot (toPosix (trim chars)))).filter (· ≠ dot) =
            resolved chars := filter_segmentsOf_stripDot _
        rw [same] at facts
        refine ⟨rfl, rfl, fun segment member => ?_, fun empty => ?_, fun path => ?_⟩
        · refine plain segment ?_
          rw [written] at member
          split at member
          · exact mem_of_mem_dropLast member
          · exact member
        · by_contra notSubtree
          rw [isSubtree] at notSubtree
          rw [written, if_neg notSubtree] at empty
          exact nonempty empty
        simp only [Denotes, isSubtree, names, written, facts.1]
        split
        next stars => rw [facts.2 stars]
        · rw [same]

theorem entryContains_iff (keeps : Keeps raw entry) (otherKeeps : Keeps other otherEntry) :
    entryContains entry otherEntry.path = true ↔ HoldsInPlace raw other := by
  have equal := join_inj otherKeeps.plain keeps.plain
  rw [entryContains, otherKeeps.path, keeps.path, keeps.subtree, HoldsInPlace, names, names]
  by_cases same : written other = written raw
  · rw [if_pos (equal.mpr same), same]
    refine ⟨fun _ => ⟨fun _ _ => Iff.rfl, ?_⟩, fun _ => rfl⟩
    split
    · exact prefix_refl _
    · exact ⟨rfl, fun _ _ => Iff.rfl⟩
  rw [if_neg fun joined => same (equal.mp joined)]
  by_cases wide : isSubtree raw = true
  · rw [if_pos wide, ← prefix_iff_sameDots, wide, Bool.true_and, Bool.or_eq_true,
      decide_eq_true_eq, isPrefixOf_iff_prefix, join_eq_nil keeps.plain]
    by_cases empty : written raw = []
    · simp [empty]
    rw [join_below_iff keeps.plain otherKeeps.plain empty]
    constructor
    · rintro (none | ⟨rest, -, below⟩)
      · exact absurd none empty
      · exact ⟨rest, below.symm⟩
    rintro ⟨rest, below⟩
    refine .inr ⟨rest, ?_, below.symm⟩
    rintro rfl
    exact same (by simpa using below.symm)
  rw [if_neg wide]
  simp only [wide, Bool.false_and, Bool.false_eq_true, false_iff]
  rintro ⟨forwards, names, backwards⟩
  exact same (eq_iff_sameDots.mpr ⟨backwards, names.symm, forwards⟩)

theorem entriesOverlap_iff (keeps : Keeps raw entry) (otherKeeps : Keeps other otherEntry) :
    entriesOverlap entry otherEntry = true ↔ HoldsInPlace raw other ∨ HoldsInPlace other raw := by
  rw [entriesOverlap, Bool.or_eq_true, entryContains_iff keeps otherKeeps,
    entryContains_iff otherKeeps keeps]

theorem HoldsInPlace.common (keeps : Keeps raw entry) (otherKeeps : Keeps other otherEntry)
    (holds : HoldsInPlace raw other) : ∃ path, Denotes raw path ∧ Denotes other path := by
  refine ⟨names other, (keeps.denotes _).mpr ?_, (otherKeeps.denotes _).mpr ?_⟩
  · have inside := holds.2
    by_cases wide : isSubtree raw = true
    · rw [if_pos wide] at inside ⊢
      exact inside
    · rw [if_neg wide] at inside ⊢
      exact inside.1.symm
  split
  · exact prefix_refl _
  · rfl

end Entries

section Lists

variable {xs ys : List Raw}

theorem declared_overlap_inPlace (left : Accepted xs) (right : Accepted ys) :
    pathsOverlap (declared xs) (declared ys) = true ↔
      ∃ x ∈ xs, ∃ y ∈ ys, HoldsInPlace x y ∨ HoldsInPlace y x := by
  rw [declared_overlap_iff left right]
  constructor
  · rintro ⟨x, xMember, y, yMember, a, b, xFound, yFound, overlap⟩
    refine ⟨x, xMember, y, yMember, ?_⟩
    exact (entriesOverlap_iff (keeps_of_normalizeOne xFound) (keeps_of_normalizeOne yFound)).mp
      overlap
  rintro ⟨x, xMember, y, yMember, holds⟩
  obtain ⟨a, xFound, -⟩ := left.declared_spec.1 x xMember
  obtain ⟨b, yFound, -⟩ := right.declared_spec.1 y yMember
  exact ⟨x, xMember, y, yMember, a, b, xFound, yFound,
    (entriesOverlap_iff (keeps_of_normalizeOne xFound) (keeps_of_normalizeOne yFound)).mpr holds⟩

theorem common_of_overlap (left : Accepted xs) (right : Accepted ys)
    (overlap : pathsOverlap (declared xs) (declared ys) = true) : Common xs ys := by
  obtain ⟨x, xMember, y, yMember, holds⟩ := (declared_overlap_inPlace left right).mp overlap
  obtain ⟨a, xFound, -⟩ := left.declared_spec.1 x xMember
  obtain ⟨b, yFound, -⟩ := right.declared_spec.1 y yMember
  have xKeeps := keeps_of_normalizeOne xFound
  have yKeeps := keeps_of_normalizeOne yFound
  rcases holds with forwards | backwards
  · exact ⟨x, xMember, y, yMember, forwards.common xKeeps yKeeps⟩
  · obtain ⟨path, yDenotes, xDenotes⟩ := backwards.common yKeeps xKeeps
    exact ⟨x, xMember, y, yMember, path, xDenotes, yDenotes⟩

theorem overlap_exact_iff (left : Accepted xs) (right : Accepted ys) :
    (pathsOverlap (declared xs) (declared ys) = true ↔ Common xs ys) ↔ Aligned xs ys := by
  rw [Aligned, ← declared_overlap_inPlace left right]
  exact ⟨Iff.mpr, fun found => ⟨common_of_overlap left right, found⟩⟩

theorem filter_eq_of_map_eq {α β : Type} {label : α → β} {strong weak : α → Bool}
    {values : List α} (implies : ∀ value ∈ values, strong value = true → weak value = true) :
    (values.filter strong).map label = (values.filter weak).map label ↔
      ∀ value ∈ values, strong value = weak value := by
  constructor
  · intro same value member
    have twice : (values.filter weak).filter strong = values.filter strong := by
      rw [filter_filter]
      refine filter_congr fun other listed => ?_
      cases holds : strong other with
      | false => rfl
      | true => exact implies other listed holds
    have length : ((values.filter weak).filter strong).length = (values.filter weak).length := by
      rw [twice]
      simpa using congrArg length same
    have all := filter_eq_self.mp (filter_sublist.eq_of_length length)
    cases holds : weak value with
    | true => exact all value (mem_filter.mpr ⟨member, holds⟩)
    | false =>
      refine Bool.eq_false_iff.mpr fun strongly => ?_
      rw [implies value member strongly] at holds
      cases holds
  · intro same
    rw [filter_congr same]

open scoped Classical in
/-- Two accepted lists overlap exactly when they denote a common path, if and
only if the dots of some common path stand alike; the conflicts are the tasks
in flight with a common path, if and only if that is so of each of them; and
lists that denote the same compare the same. -/
theorem ownedPaths_exact {xs : List Raw} (accepted : Accepted xs) :
    (∀ ys, Accepted ys →
      ((pathsOverlap (declared xs) (declared ys) = true ↔ Common xs ys) ↔ Aligned xs ys)) ∧
    (∀ inFlight : List (String × List Raw),
      (∀ task ∈ inFlight, Accepted task.2) →
      ((findOwnershipConflicts (declared xs)
          (inFlight.map fun task => ⟨task.1, declared task.2⟩)).map OwnershipConflict.taskId =
        (inFlight.filter fun task => Common xs task.2).map Prod.fst ↔
          ∀ task ∈ inFlight, Aligned xs task.2)) ∧
    (∀ xs' ys ys', Accepted xs' → Accepted ys → Accepted ys' →
      (∀ raw, raw ∈ xs ↔ raw ∈ xs') → (∀ raw, raw ∈ ys ↔ raw ∈ ys') →
      pathsOverlap (declared xs) (declared ys) = pathsOverlap (declared xs') (declared ys')) ∧
    ∀ xs' ys ys', Accepted xs' → Accepted ys → Accepted ys' →
      (∀ path, (∃ x ∈ xs, Denotes x path) ↔ ∃ x ∈ xs', Denotes x path) →
      (∀ path, (∃ y ∈ ys, Denotes y path) ↔ ∃ y ∈ ys', Denotes y path) →
      Aligned xs ys → Aligned xs' ys' →
      pathsOverlap (declared xs) (declared ys) = pathsOverlap (declared xs') (declared ys') := by
  refine ⟨fun ys => overlap_exact_iff accepted, ?_, ?_, ?_⟩
  · intro inFlight allAccepted
    have sound : ∀ task ∈ inFlight, pathsOverlap (declared xs) (declared task.2) = true →
        decide (Common xs task.2) = true := fun task member overlap =>
      decide_eq_true (common_of_overlap accepted (allAccepted task member) overlap)
    rw [taskIds_findOwnershipConflicts, List.filter_map, List.map_map]
    have labels : InFlightOwnership.taskId ∘
        (fun task : String × List Raw => (⟨task.1, declared task.2⟩ : InFlightOwnership)) =
          Prod.fst := rfl
    rw [labels]
    refine (filter_eq_of_map_eq sound).trans ?_
    refine forall₂_congr fun task member => ?_
    rw [← overlap_exact_iff accepted (allAccepted task member), Bool.eq_iff_iff, decide_eq_true_eq]
  · intro xs' ys ys' left' right right' sameXs sameYs
    rw [Bool.eq_iff_iff, declared_overlap_inPlace accepted right,
      declared_overlap_inPlace left' right']
    simp only [sameXs, sameYs]
  intro xs' ys ys' left' right right' sameXs sameYs aligned aligned'
  rw [Bool.eq_iff_iff, (overlap_exact_iff accepted right).mpr aligned,
    (overlap_exact_iff left' right').mpr aligned']
  have common_iff : ∀ xs ys : List Raw, Common xs ys ↔
      ∃ path, (∃ x ∈ xs, Denotes x path) ∧ ∃ y ∈ ys, Denotes y path := by
    intro xs ys
    constructor
    · rintro ⟨x, xMember, y, yMember, path, xDenotes, yDenotes⟩
      exact ⟨path, ⟨x, xMember, xDenotes⟩, y, yMember, yDenotes⟩
    · rintro ⟨path, ⟨x, xMember, xDenotes⟩, y, yMember, yDenotes⟩
      exact ⟨x, xMember, y, yMember, path, xDenotes, yDenotes⟩
  rw [common_iff, common_iff]
  simp only [sameXs, sameYs]

/-- `src/**` and `src/a`. -/
theorem ownedPaths_exact_of_file : let xs := [Raw.text ['s', 'r', 'c', '/', '*', '*']]
    let ys := [Raw.text ['s', 'r', 'c', '/', 'a']]
    Common xs ys ∧ ((pathsOverlap (declared xs) (declared ys) = true ↔ Common xs ys) ↔
      Aligned xs ys) := by
  intro xs ys
  have subtree : Accepted xs := by
    rw [Accepted]
    decide
  have file : Accepted ys := by
    rw [Accepted]
    decide
  exact ⟨⟨_, List.mem_singleton_self _, _, List.mem_singleton_self _, [['s', 'r', 'c'], ['a']],
    by simp only [Denotes]; decide⟩, (ownedPaths_exact subtree).1 ys file⟩

/-- `src/./a` and `src/a`. -/
theorem pathsOverlap_misses_inner_dot : ∃ xs ys, Accepted xs ∧ Accepted ys ∧ Common xs ys ∧
      pathsOverlap (declared xs) (declared ys) = false := by
  refine ⟨[.text ['s', 'r', 'c', '/', '.', '/', 'a']], [.text ['s', 'r', 'c', '/', 'a']],
    ?_, ?_, ⟨_, List.mem_singleton_self _, _, List.mem_singleton_self _,
      [['s', 'r', 'c'], ['a']], ?_⟩, ?_⟩
  · rw [Accepted]
    decide
  · rw [Accepted]
    decide
  · simp only [Denotes]
    decide
  · decide

end Lists

end Adhdev.PathOwnership
