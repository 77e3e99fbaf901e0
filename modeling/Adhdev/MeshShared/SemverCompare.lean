import Adhdev.Foundation.Comparison
import Adhdev.MeshShared.NumberText
import Mathlib.Data.Char
import Mathlib.Data.Sum.Order
import Mathlib.Order.WithBot

/-! # Comparing two versions

Which way an upgrade moves a daemon. The comparison reads digits as numbers,
and tests two prerelease identifiers for equality as texts.
-/

namespace Adhdev.MeshShared

/-! ## The parser -/

/-- The groups of `SEMVER_PATTERN`; the fourth one split at its dots. -/
structure SemverMatch where
  major : List Char
  minor : List Char
  patch : List Char
  prerelease : List (List Char)
  deriving DecidableEq

/-- `[0-9A-Za-z-]+` -/
def isIdentifier (text : List Char) : Bool :=
  text ≠ [] && text.all fun char => char.isAlphanum || char == '-'

/-- What stands behind the separator, where the text holds it. -/
def identifiersAfter : List Char → Option (List (List Char))
  | [] => some []
  | _ :: text =>
    let identifiers := text.splitOn '.'
    if identifiers.all isIdentifier then some identifiers else none

/-- No group before the build holds a plus, and no number a hyphen. -/
def matchSemver (version : String) : Option SemverMatch := do
  let text := (trim version).toList
  let text := if text.head? = some 'v' then text.tail else text
  let (text, build) := text.span (· ≠ '+')
  let _ ← identifiersAfter build
  let (core, prerelease) := text.span (· ≠ '-')
  let prerelease ← identifiersAfter prerelease
  match core.splitOn '.' with
  | [major, minor, patch] =>
    if isDigits major && isDigits minor && isDigits patch then
      some { major, minor, patch, prerelease }
    else none
  | _ => none

/-- The double nearest to an integer, the even one of two; infinity past the last. -/
@[irreducible] def toDouble (value : Nat) : WithTop Nat :=
  let step := 2 ^ (value.log2 - 52)
  let below := value / step
  let excess := value % step
  let rounded :=
    if excess * 2 < step ∨ (excess * 2 = step ∧ below % 2 = 0) then below * step
    else (below + 1) * step
  if rounded < 2 ^ 1024 then rounded else ⊤

/-- `Number(digits)` -/
def number (digits : List Char) : WithTop Nat := toDouble (valueOf digits)

structure ParsedSemver where
  major : WithTop Nat
  minor : WithTop Nat
  patch : WithTop Nat
  prerelease : List (List Char)

def SemverMatch.parsed (found : SemverMatch) : ParsedSemver where
  major := number found.major
  minor := number found.minor
  patch := number found.patch
  prerelease := found.prerelease

def parseSemver (version : String) : Option ParsedSemver :=
  (matchSemver version).map SemverMatch.parsed

/-! ## The comparison -/

/-- The loop of `comparePrerelease` and its last line. -/
def compareIdentifiers : List (List Char) → List (List Char) → Int
  | idA :: a, idB :: b =>
    if idA = idB then compareIdentifiers a b
    else if isDigits idA && isDigits idB then if number idA < number idB then -1 else 1
    else if isDigits idA then -1
    else if isDigits idB then 1
    else if idA < idB then -1
    else 1
  | [], [] => 0
  | [], _ :: _ => -1
  | _ :: _, [] => 1

def comparePrerelease (a b : List (List Char)) : Int :=
  if a = [] ∧ b = [] then 0
  else if a = [] then 1
  else if b = [] then -1
  else compareIdentifiers a b

def compareParsed (a b : ParsedSemver) : Int :=
  if a.major = b.major then
    if a.minor = b.minor then
      if a.patch = b.patch then comparePrerelease a.prerelease b.prerelease
      else if a.patch < b.patch then -1 else 1
    else if a.minor < b.minor then -1 else 1
  else if a.major < b.major then -1 else 1

def compareSemver (a b : String) : Option Int :=
  match parseSemver a, parseSemver b with
  | some a, some b => some (compareParsed a b)
  | _, _ => none

def isDowngrade (current target : String) : Bool :=
  match compareSemver target current with
  | none => false
  | some direction => direction < 0

/-! ## Precedence -/

section Rank

variable {Number : Type} (read : List Char → Number)

/-- Numeric identifiers come before the others, by their numbers. -/
def identifierRank (identifier : List Char) : Lex (Number ⊕ List Char) :=
  toLex (if isDigits identifier then .inl (read identifier) else .inr identifier)

/-- A release comes after its prereleases. -/
def prereleaseRank (identifiers : List (List Char)) : WithTop (List (Lex (Number ⊕ List Char))) :=
  if identifiers = [] then ⊤ else identifiers.map (identifierRank read)

abbrev Rank (Number : Type) :=
  Number ×ₗ Number ×ₗ Number ×ₗ WithTop (List (Lex (Number ⊕ List Char)))

def SemverMatch.rank (found : SemverMatch) : Rank Number :=
  toLex (read found.major, toLex (read found.minor, toLex (read found.patch,
    prereleaseRank read found.prerelease)))

end Rank

/-- A version string that parses. -/
structure Version where
  text : String
  found : SemverMatch
  parses : matchSemver text = some found

/-- Precedence, on the numbers that the digits stand for. -/
def Precedes (a b : Version) : Prop := a.found.rank valueOf < b.found.rank valueOf

/-- What the comparison is for, on some versions. -/
structure Lawful (versions : Set Version) : Prop where
  antisymmetric : ∀ a ∈ versions, ∀ b ∈ versions, ∀ sign,
    compareSemver a.text b.text = some sign → compareSemver b.text a.text = some (-sign)
  transitive : ∀ a ∈ versions, ∀ b ∈ versions, ∀ c ∈ versions, ∀ ab bc,
    compareSemver a.text b.text = some ab → ab ≤ 0 →
      compareSemver b.text c.text = some bc → bc ≤ 0 →
        ∃ ac ≤ 0, compareSemver a.text c.text = some ac
  zero : ∀ a ∈ versions, ∀ b ∈ versions,
    compareSemver a.text b.text = some 0 ↔ ¬Precedes a b ∧ ¬Precedes b a
  oneWay : ∀ a ∈ versions, ∀ b ∈ versions,
    ¬(isDowngrade a.text b.text = true ∧ isDowngrade b.text a.text = true)

/-- The lists first differ in two texts of one number. -/
inductive Tied : List (List Char) → List (List Char) → Prop
  | here {idA idB : List Char} {a b : List (List Char)} (differ : idA ≠ idB)
      (digitsA : isDigits idA = true) (digitsB : isDigits idB = true)
      (same : number idA = number idB) : Tied (idA :: a) (idB :: b)
  | later {id : List Char} {a b : List (List Char)} (tied : Tied a b) : Tied (id :: a) (id :: b)

def SemverMatch.core {Number : Type} (read : List Char → Number) (found : SemverMatch) :
    Number × Number × Number := (read found.major, read found.minor, read found.patch)

/-- Two versions whose numbers become the same doubles, and whose prereleases are
the same beside different numbers, or tied. -/
def Confused (a b : Version) : Prop :=
  a.found.core number = b.found.core number ∧
    ((a.found.prerelease = b.found.prerelease ∧ a.found.core valueOf ≠ b.found.core valueOf) ∨
      Tied a.found.prerelease b.found.prerelease)

/-! ## The laws -/

section Prereleases

variable {a b : List (List Char)}

theorem compareIdentifiers_sign (untied : ¬Tied a b) :
    IsSign (compareIdentifiers a b) (a.map (identifierRank number))
      (b.map (identifierRank number)) := by
  induction a generalizing b with
  | nil =>
    cases b with
    | nil => exact .inr (.inl ⟨rfl, rfl⟩)
    | cons idB b => exact .inl ⟨rfl, .nil⟩
  | cons idA a induction =>
    cases b with
    | nil => exact .inr (.inr ⟨rfl, .nil⟩)
    | cons idB b =>
      rw [compareIdentifiers]
      by_cases differ : idA = idB
      · subst differ
        rw [if_pos rfl]
        exact (induction fun tied => untied (.later tied)).map (identifierRank number idA :: ·)
          fun _ _ before => .cons before
      rw [if_neg differ]
      refine IsSign.head ?_ (by split_ifs <;> decide)
      cases digitsA : isDigits idA <;> cases digitsB : isDigits idB <;>
        simp only [identifierRank, digitsA, digitsB, Bool.and_true, Bool.and_false, if_true,
          Bool.false_eq_true, if_false]
      · exact (IsSign.of_ne differ).map (toLex ∘ Sum.inr) Sum.Lex.inr_strictMono
      · exact .inr (.inr ⟨rfl, Sum.Lex.inl_lt_inr _ _⟩)
      · exact .inl ⟨rfl, Sum.Lex.inl_lt_inr _ _⟩
      · have apart : number idA ≠ number idB := fun same =>
          untied (.here differ digitsA digitsB same)
        exact (IsSign.of_ne apart).map (toLex ∘ Sum.inl) Sum.Lex.inl_strictMono

theorem comparePrerelease_sign (untied : ¬Tied a b) :
    IsSign (comparePrerelease a b) (prereleaseRank number a) (prereleaseRank number b) := by
  by_cases emptyA : a = [] <;> by_cases emptyB : b = [] <;>
    simp only [comparePrerelease, prereleaseRank, emptyA, emptyB, and_self, and_true, and_false,
      if_true, if_false]
  · exact .inr (.inl ⟨rfl, rfl⟩)
  · exact .inr (.inr ⟨rfl, WithTop.coe_lt_top _⟩)
  · exact .inl ⟨rfl, WithTop.coe_lt_top _⟩
  · exact (compareIdentifiers_sign untied).map _ WithTop.coe_strictMono

theorem compareIdentifiers_eq_zero : compareIdentifiers a b = 0 ↔ a = b := by
  induction a generalizing b with
  | nil => cases b <;> simp [compareIdentifiers]
  | cons idA a induction =>
    cases b with
    | nil => simp [compareIdentifiers]
    | cons idB b =>
      rw [compareIdentifiers]
      by_cases same : idA = idB
      · rw [if_pos same, induction, same, List.cons_inj_right]
      · rw [if_neg same]
        refine iff_of_false (by split_ifs <;> decide) fun equal => same (List.cons.inj equal).1

theorem comparePrerelease_eq_zero : comparePrerelease a b = 0 ↔ a = b := by
  cases a <;> cases b <;> simp [comparePrerelease, compareIdentifiers_eq_zero]

theorem Tied.symm (tied : Tied a b) : Tied b a := by
  induction tied with
  | here differ digitsA digitsB same => exact .here differ.symm digitsB digitsA same.symm
  | later _ induction => exact .later induction

theorem Tied.compare (tied : Tied a b) : comparePrerelease a b = 1 := by
  have compared : compareIdentifiers a b = 1 := by
    induction tied with
    | here differ digitsA digitsB same =>
      rw [compareIdentifiers, if_neg differ, digitsA, digitsB, Bool.and_true, if_pos rfl, same,
        if_neg (lt_irrefl _)]
    | later _ induction => rw [compareIdentifiers, if_pos rfl, induction]
  cases tied <;> simpa [comparePrerelease] using compared

theorem same_or_tied
    (same : a.map (identifierRank valueOf) = b.map (identifierRank valueOf)) : a = b ∨
      Tied a b := by
  induction a generalizing b with
  | nil => exact .inl (List.map_eq_nil_iff.mp same.symm).symm
  | cons idA a induction =>
    cases b with
    | nil => cases same
    | cons idB b =>
      rw [List.map_cons, List.map_cons, List.cons.injEq] at same
      by_cases equal : idA = idB
      · subst equal
        exact (induction same.2).imp (fun rest => by rw [rest]) .later
      right
      have ranks := toLex_inj.mp same.1
      split_ifs at ranks with digitsA digitsB
      · exact .here equal digitsA digitsB (congrArg toDouble (Sum.inl.inj ranks))
      · exact absurd (Sum.inr.inj ranks) equal

end Prereleases

section Versions

variable {one two : SemverMatch} {a b : Version}

theorem compareParsed_sign
    (untied : one.core number = two.core number → ¬Tied one.prerelease two.prerelease) :
    IsSign (compareParsed one.parsed two.parsed) (one.rank number) (two.rank number) :=
  .lex fun major => .lex fun minor => .lex fun patch =>
    comparePrerelease_sign (untied (Prod.ext major (Prod.ext minor patch)))

theorem compareParsed_of_core (same : one.core number = two.core number) :
    compareParsed one.parsed two.parsed = comparePrerelease one.prerelease two.prerelease := by
  simp only [SemverMatch.core, Prod.mk.injEq] at same
  simp only [compareParsed, SemverMatch.parsed, same, if_true]

theorem rank_eq_iff {Number : Type} {read : List Char → Number} :
    one.rank read = two.rank read ↔ one.core read = two.core read ∧
      prereleaseRank read one.prerelease = prereleaseRank read two.prerelease := by
  simp only [SemverMatch.rank, SemverMatch.core, toLex_inj, Prod.mk.injEq, and_assoc]

theorem prereleaseRank_eq {a b : List (List Char)}
    (same : prereleaseRank valueOf a = prereleaseRank valueOf b) : a = b ∨ Tied a b := by
  cases a <;> cases b <;> simp only [prereleaseRank, reduceCtorEq, if_true, if_false] at same
  · exact .inl rfl
  · cases same
  · cases same
  · exact same_or_tied (WithTop.coe_injective same)

theorem compareSemver_eq (a b : Version) :
    compareSemver a.text b.text = some (compareParsed a.found.parsed b.found.parsed) := by
  simp [compareSemver, parseSemver, a.parses, b.parses]

/-- Where neither precedes, the ranks are the same. -/
theorem unordered_iff : (¬Precedes a b ∧ ¬Precedes b a) ↔
    a.found.rank valueOf = b.found.rank valueOf := by
  rw [Precedes, Precedes, not_lt, not_lt, and_comm, le_antisymm_iff]

theorem zero_iff (clear : ¬Confused a b) :
    compareSemver a.text b.text = some 0 ↔ ¬Precedes a b ∧ ¬Precedes b a := by
  rw [unordered_iff, compareSemver_eq, Option.some.injEq, rank_eq_iff]
  constructor
  · intro zero
    have signed := compareParsed_sign fun same tied => clear ⟨same, .inr tied⟩
    have same := (rank_eq_iff.mp (zero ▸ signed).eq_of_zero).1
    rw [compareParsed_of_core same, comparePrerelease_eq_zero] at zero
    exact ⟨not_not.mp fun differ => clear ⟨same, .inl ⟨zero, differ⟩⟩, by rw [zero]⟩
  rintro ⟨cores, ranks⟩
  have same : a.found.core number = b.found.core number := by
    simp only [SemverMatch.core, Prod.mk.injEq, number] at cores ⊢
    simp only [cores, and_self]
  rw [compareParsed_of_core same, comparePrerelease_eq_zero]
  exact (prereleaseRank_eq ranks).resolve_right fun tied => clear ⟨same, .inr tied⟩

end Versions

/-- The laws hold of some versions exactly when no two of them are confused. -/
theorem compareSemver_lawful_iff (versions : Set Version) :
    Lawful versions ↔ ∀ a ∈ versions, ∀ b ∈ versions, ¬Confused a b := by
  constructor
  · rintro lawful a memberA b memberB ⟨sameCore, confused⟩
    have answer := compareSemver_eq a b
    rw [compareParsed_of_core sameCore] at answer
    rcases confused with ⟨same, differ⟩ | tied
    · rw [comparePrerelease_eq_zero.mpr same, lawful.zero a memberA b memberB, unordered_iff,
        rank_eq_iff] at answer
      exact differ answer.1
    have back := compareSemver_eq b a
    rw [compareParsed_of_core sameCore.symm, tied.symm.compare,
      lawful.antisymmetric a memberA b memberB _ answer, tied.compare] at back
    exact absurd (Option.some.inj back) (by decide)
  intro clear
  have signs : ∀ a ∈ versions, ∀ b ∈ versions, IsSign
      (compareParsed a.found.parsed b.found.parsed) (a.found.rank number) (b.found.rank number) :=
    fun a memberA b memberB => compareParsed_sign fun same tied =>
      clear a memberA b memberB ⟨same, .inr tied⟩
  have antisymmetric : ∀ a ∈ versions, ∀ b ∈ versions, ∀ sign,
      compareSemver a.text b.text = some sign → compareSemver b.text a.text = some (-sign) := by
    intro a memberA b memberB sign answer
    rw [compareSemver_eq] at answer ⊢
    rw [← Option.some.inj answer]
    exact congrArg some ((signs b memberB a memberA).unique (signs a memberA b memberB).flip)
  refine ⟨antisymmetric, ?_, fun a memberA b memberB => zero_iff (clear a memberA b memberB), ?_⟩
  · intro a memberA b memberB c memberC ab bc answer before next after
    rw [compareSemver_eq] at answer next
    cases answer
    cases next
    refine ⟨_, ?_, compareSemver_eq a c⟩
    rw [(signs a memberA c memberC).nonpos_iff]
    exact ((signs a memberA b memberB).nonpos_iff.mp before).trans
      ((signs b memberB c memberC).nonpos_iff.mp after)
  rintro a memberA b memberB ⟨down, up⟩
  have answer := compareSemver_eq a b
  rw [isDowngrade, antisymmetric a memberA b memberB _ answer] at down
  rw [isDowngrade, answer] at up
  simp only [decide_eq_true_eq] at down up
  omega

/-- Two texts of one number: each version comes after the other. -/
theorem leading_zero_unlawful : ∃ a b : Version, a.text = "1.0.0-01" ∧ b.text = "1.0.0-1" ∧
    ¬Lawful {a, b} := by
  refine ⟨⟨_, ⟨['1'], ['0'], ['0'], [['0', '1']]⟩, by decide +kernel⟩,
    ⟨_, ⟨['1'], ['0'], ['0'], [['1']]⟩, by decide +kernel⟩, rfl, rfl, fun lawful => ?_⟩
  have one : compareSemver "1.0.0-01" "1.0.0-1" = some 1 := by decide +kernel
  have other : compareSemver "1.0.0-1" "1.0.0-01" = some 1 := by decide +kernel
  have back := lawful.antisymmetric _ (.inl rfl) _ (.inr rfl) 1 one
  rw [other] at back
  exact absurd (Option.some.inj back) (by decide)

end Adhdev.MeshShared
