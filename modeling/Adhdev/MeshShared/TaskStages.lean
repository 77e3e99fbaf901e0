import Adhdev.MeshShared.TurnEvidence

/-! # Task stages

The vocabulary and the review report validator of `mesh-shared/src/task-stages.ts`.
An absent object key and an `undefined` value are both `none`.
-/

namespace Adhdev.MeshShared

/-! ## Vocabulary and limits -/

inductive MeshReviewVerdict
  | approve | approveWithNits | changesRequested | rejectApproach
  deriving DecidableEq

inductive MeshFindingSeverity
  | blocking | major | minor | nit
  deriving DecidableEq

inductive MeshFindingCategory
  | correctness | regression | testGap | scope | security | performance | maintainability
  deriving DecidableEq

inductive MeshPriorFindingStatus
  | resolved | unresolved | disputeAccepted | disputeRejected
  deriving DecidableEq

inductive MeshStagePhase
  | implementing | selfChecking | awaitingReview | reviewing | revising | done
  deriving DecidableEq

inductive MeshStageIndependenceMode
  | differentProvider | freshSessionOk

inductive MeshStageIndependenceUsed
  | differentProvider | freshSessionFallback

inductive MeshStageBlockedReason
  | reviewUnresolved | reviewRejectedApproach | reviewUnavailable | selfCheckFailed
  | stagePipelineCeiling | reviewerMutatedSource | reviewerIntegrityUnverifiable
  deriving DecidableEq

namespace MeshStagePhase

/-- A writer or the self-check works on the change. -/
def isWork : MeshStagePhase → Bool
  | implementing | selfChecking | revising => true
  | awaitingReview | reviewing | done => false

def isReview : MeshStagePhase → Bool
  | awaitingReview | reviewing => true
  | implementing | selfChecking | revising | done => false

@[simp] theorem isReview_awaitingReview : isReview awaitingReview = true := rfl
@[simp] theorem isReview_reviewing : isReview reviewing = true := rfl
@[simp] theorem isReview_selfChecking : isReview selfChecking = false := rfl
@[simp] theorem isReview_revising : isReview revising = false := rfl

variable {phase : MeshStagePhase}

theorem not_isReview_of_isWork (works : phase.isWork = true) : phase.isReview = false := by
  revert works
  cases phase <;> decide

theorem ne_done_of_isWork (works : phase.isWork = true) : phase ≠ .done := by
  rintro rfl
  cases works

theorem ne_done_of_isReview (reviews : phase.isReview = true) : phase ≠ .done := by
  rintro rfl
  cases reviews

end MeshStagePhase

namespace MeshReviewVerdict

def label : MeshReviewVerdict → String
  | approve => "approve"
  | approveWithNits => "approve_with_nits"
  | changesRequested => "changes_requested"
  | rejectApproach => "reject_approach"

def approves : MeshReviewVerdict → Bool
  | approve | approveWithNits => true
  | changesRequested | rejectApproach => false

end MeshReviewVerdict

def MeshFindingSeverity.label : MeshFindingSeverity → String
  | blocking => "blocking"
  | major => "major"
  | minor => "minor"
  | nit => "nit"

def MeshFindingCategory.label : MeshFindingCategory → String
  | correctness => "correctness"
  | regression => "regression"
  | testGap => "test_gap"
  | scope => "scope"
  | security => "security"
  | performance => "performance"
  | maintainability => "maintainability"

namespace MeshPriorFindingStatus

def label : MeshPriorFindingStatus → String
  | resolved => "resolved"
  | unresolved => "unresolved"
  | disputeAccepted => "dispute_accepted"
  | disputeRejected => "dispute_rejected"

def closes : MeshPriorFindingStatus → Bool
  | resolved | disputeAccepted => true
  | unresolved | disputeRejected => false

end MeshPriorFindingStatus

def reviewVerdicts : List MeshReviewVerdict :=
  [.approve, .approveWithNits, .changesRequested, .rejectApproach]

def findingSeverities : List MeshFindingSeverity := [.blocking, .major, .minor, .nit]

def findingCategories : List MeshFindingCategory :=
  [.correctness, .regression, .testGap, .scope, .security, .performance, .maintainability]

def priorFindingStatuses : List MeshPriorFindingStatus :=
  [.resolved, .unresolved, .disputeAccepted, .disputeRejected]

def stageSelfCheckMaxBounces : Nat := 2
def reviewFindingsMax : Nat := 30
def reviewClaimMaxChars : Nat := 500
def reviewEvidenceMaxChars : Nat := 1000
def reviewFixMaxChars : Nat := 500
def reviewFindingIdMaxChars : Nat := 40
def reviewCheckedMax : Nat := 20
def reviewNoteMaxChars : Nat := 500
def reviewTestsRunMax : Nat := 20

/-! ## Shapes -/

structure MeshTaskStagePlan where
  maxRevisions : Nat
  independence : MeshStageIndependenceMode

structure MeshReviewFinding where
  id : String
  severity : MeshFindingSeverity
  category : MeshFindingCategory
  file : Option String
  line : Option Rat
  claim : String
  evidence : String
  suggestedFix : Option String
  deriving DecidableEq

structure MeshPriorFindingStatusEntry where
  id : String
  status : MeshPriorFindingStatus
  note : Option String
  deriving DecidableEq

structure MeshTestRun where
  command : String
  exit : Rat
  passed : Option Rat
  failed : Option Rat
  note : Option String
  deriving DecidableEq

structure MeshReviewReport where
  verdict : MeshReviewVerdict
  findings : List MeshReviewFinding
  priorFindings : Option (List MeshPriorFindingStatusEntry)
  checked : List String
  notChecked : List String
  testsRun : Option (List MeshTestRun)
  deriving DecidableEq

structure StageValidationError where
  field : String
  message : String
  deriving DecidableEq

def isBlockingSeverity (severity : MeshFindingSeverity) : Bool :=
  severity == .blocking || severity == .major

namespace MeshReviewReport

def blocking (report : MeshReviewReport) : List MeshReviewFinding :=
  report.findings.filter (isBlockingSeverity ·.severity)

/-- `report.priorFindings ?? []` -/
def answers (report : MeshReviewReport) : List MeshPriorFindingStatusEntry :=
  report.priorFindings.getD []

def Closes (report : MeshReviewReport) (findingId : String) : Prop :=
  ∃ answer ∈ report.answers, answer.id = findingId ∧ answer.status.closes = true

def LeavesOpen (report : MeshReviewReport) (findingId : String) : Prop :=
  (∃ answer ∈ report.answers, answer.id = findingId) ∧
    ∀ answer ∈ report.answers, answer.id = findingId → answer.status.closes = false

instance (report : MeshReviewReport) (findingId : String) : Decidable (report.Closes findingId) :=
  inferInstanceAs (Decidable (∃ answer ∈ report.answers, _))

end MeshReviewReport

/-! ## Values and guards -/

/-- A parsed JSON value: what a reviewer sends as `review`. -/
inductive Json
  | null
  | bool (value : Bool)
  | number (value : Rat)
  | string (value : String)
  | array (items : List Json)
  | object (fields : List (String × Json))

def nonEmpty (text : String) : Option String := if text == "" then none else some text

def str : Option Json → String
  | some (.string value) => trim value
  | _ => ""

def typeofNumber : Option Json → Option Rat
  | some (.number value) => some value
  | _ => none

def isIntegerFrom (least : Option Int) (value : Rat) : Bool :=
  value.den == 1 && least.all fun bound => bound ≤ value.num

def makeGuard {α : Type} (values : List α) (label : α → String) : Option Json → Option α
  | some (.string text) => values.find? fun candidate => label candidate == text
  | _ => none

def isReviewVerdict : Option Json → Option MeshReviewVerdict :=
  makeGuard reviewVerdicts MeshReviewVerdict.label

def isFindingSeverity : Option Json → Option MeshFindingSeverity :=
  makeGuard findingSeverities MeshFindingSeverity.label

def isFindingCategory : Option Json → Option MeshFindingCategory :=
  makeGuard findingCategories MeshFindingCategory.label

def isPriorFindingStatus : Option Json → Option MeshPriorFindingStatus :=
  makeGuard priorFindingStatuses MeshPriorFindingStatus.label

def oneOf {α : Type} (values : List α) (label : α → String) : String :=
  String.intercalate " | " (values.map label)

/-! ## Review report validation -/

def errorIf (refused : Bool) (field message : String) : List StageValidationError :=
  if refused then [{ field, message }] else []

def unknownKeys (path : String) (known : List String) (message : String → String)
    (fields : List (String × Json)) : List StageValidationError :=
  ((fields.map Prod.fst).filter fun key => !known.contains key).map fun key =>
    { field := path ++ "." ++ key, message := message key }

def unknownField (key : String) : String := s!"unknown field '{key}'"

def validateStringList (value : Option Json) (field : String) (max maxChars minItems : Nat) :
    List StageValidationError × List String :=
  match value with
  | some (.array items) =>
    let texts := (items.map fun item => str (some item)).filter (· != "")
    let out := texts.filter fun text => utf16Length text ≤ maxChars
    (errorIf (items.length > max) field
        s!"{field} has {items.length} entries, over the {max} limit" ++
      (texts.filter fun text => utf16Length text > maxChars).map (fun _ =>
        { field, message := s!"{field} contains an entry over {maxChars} chars" }) ++
      errorIf (out.length < minItems) field
        (s!"{field} needs at least {minItems} entry — an empty {field} list is a review " ++
          "with no recorded scope"),
      out)
  | _ => ([{ field, message := s!"{field} must be an array of strings" }], [])

def validateTestRun (path : String) : Json → List StageValidationError × Option MeshTestRun
  | .object fields =>
    let command := str (fields.lookup "command")
    let exit := typeofNumber (fields.lookup "exit")
    let note := (fields.lookup "note").map fun value => str (some value)
    let count (key : String) : List StageValidationError :=
      errorIf ((fields.lookup key).isSome &&
          !(typeofNumber (fields.lookup key)).any (isIntegerFrom (some 0)))
        s!"{path}.{key}" s!"{key} must be a non-negative integer"
    (unknownKeys path ["command", "exit", "passed", "failed", "note"] unknownField fields ++
      errorIf (command == "" || utf16Length command > reviewClaimMaxChars)
        s!"{path}.command" s!"command is required (≤ {reviewClaimMaxChars} chars)" ++
      errorIf (!exit.any (isIntegerFrom none)) s!"{path}.exit" "exit must be an integer" ++
      count "passed" ++ count "failed" ++
      errorIf (note.any fun text => utf16Length text > reviewNoteMaxChars)
        s!"{path}.note" s!"note is over {reviewNoteMaxChars} chars",
      if command == "" then none
      else exit.map fun exit => {
        command, exit
        passed := typeofNumber (fields.lookup "passed")
        failed := typeofNumber (fields.lookup "failed")
        note := note.bind nonEmpty })
  | _ => ([{ field := path, message := "each entry must be an object" }], none)

def validateTestRuns (field : String) (index : Nat) :
    List Json → List StageValidationError × List MeshTestRun
  | [] => ([], [])
  | value :: rest =>
    let (errors, run) := validateTestRun s!"{field}[{index}]" value
    let (later, runs) := validateTestRuns field (index + 1) rest
    (errors ++ later, run.toList ++ runs)

def validateTestsRun (raw : Json) (field : String) : List StageValidationError × List MeshTestRun :=
  match raw with
  | .array items =>
    let (errors, runs) := validateTestRuns field 0 items
    (errorIf (items.length > reviewTestsRunMax) field
      s!"{field} has {items.length} entries, over the {reviewTestsRunMax} limit" ++ errors,
      runs)
  | _ => ([{ field
             message := field ++
               " must be an array of \x7bcommand, exit, passed?, failed?, note?\x7d" }], [])

def validateFinding (path : String) (seen : List String) :
    Json → List StageValidationError × List String × Option MeshReviewFinding
  | .object fields =>
    let id := str (fields.lookup "id")
    let severity := isFindingSeverity (fields.lookup "severity")
    let category := isFindingCategory (fields.lookup "category")
    let claim := str (fields.lookup "claim")
    let evidence := str (fields.lookup "evidence")
    let fix := (fields.lookup "suggestedFix").map fun value => str (some value)
    let malformed := id == "" || utf16Length id > reviewFindingIdMaxChars
    (unknownKeys path
        ["id", "severity", "category", "file", "line", "claim", "evidence", "suggestedFix"]
        unknownField fields ++
      (if malformed then
        [{ field := s!"{path}.id"
           message := s!"id is required (≤ {reviewFindingIdMaxChars} chars)" }]
      else errorIf (seen.contains id) s!"{path}.id" s!"duplicate finding id '{id}'") ++
      errorIf severity.isNone s!"{path}.severity"
        s!"severity must be one of {oneOf findingSeverities MeshFindingSeverity.label}" ++
      errorIf category.isNone s!"{path}.category"
        s!"category must be one of {oneOf findingCategories MeshFindingCategory.label}" ++
      (if claim == "" then [{ field := s!"{path}.claim", message := "claim is required" }]
      else errorIf (utf16Length claim > reviewClaimMaxChars) s!"{path}.claim"
        s!"claim is over {reviewClaimMaxChars} chars") ++
      (if evidence == "" then
        [{ field := s!"{path}.evidence"
           message := "evidence is required — what did you read or run to know this" }]
      else errorIf (utf16Length evidence > reviewEvidenceMaxChars) s!"{path}.evidence"
        s!"evidence is over {reviewEvidenceMaxChars} chars") ++
      errorIf (fix.any fun text => utf16Length text > reviewFixMaxChars)
        s!"{path}.suggestedFix" s!"suggestedFix is over {reviewFixMaxChars} chars" ++
      errorIf (match fields.lookup "file" with
          | none | some (.string _) => false
          | _ => true)
        s!"{path}.file" "file must be a string" ++
      errorIf ((fields.lookup "line").isSome &&
          !(typeofNumber (fields.lookup "line")).any (isIntegerFrom (some 1)))
        s!"{path}.line" "line must be a positive integer",
      if malformed || seen.contains id then seen else id :: seen,
      if id == "" || claim == "" || evidence == "" then none
      else severity.bind fun severity => category.map fun category => {
        id, severity, category, claim, evidence
        file := nonEmpty (str (fields.lookup "file"))
        line := typeofNumber (fields.lookup "line")
        suggestedFix := fix.bind nonEmpty })
  | _ => ([{ field := path, message := "each finding must be an object" }], seen, none)

def validateFindings (index : Nat) (seen : List String) :
    List Json → List StageValidationError × List MeshReviewFinding
  | [] => ([], [])
  | value :: rest =>
    let (errors, seen, finding) := validateFinding s!"review.findings[{index}]" seen value
    let (later, findings) := validateFindings (index + 1) seen rest
    (errors ++ later, finding.toList ++ findings)

def validatePriorFinding (path : String) :
    Json → List StageValidationError × Option MeshPriorFindingStatusEntry
  | .object fields =>
    let id := str (fields.lookup "id")
    let status := isPriorFindingStatus (fields.lookup "status")
    let note := (fields.lookup "note").map fun value => str (some value)
    (unknownKeys path ["id", "status", "note"] unknownField fields ++
      errorIf (id == "") s!"{path}.id" "id is required" ++
      errorIf status.isNone s!"{path}.status"
        s!"status must be one of {oneOf priorFindingStatuses MeshPriorFindingStatus.label}" ++
      errorIf (note.any fun text => utf16Length text > reviewNoteMaxChars)
        s!"{path}.note" s!"note is over {reviewNoteMaxChars} chars",
      if id == "" then none
      else status.map fun status => { id, status, note := note.bind nonEmpty })
  | _ =>
    ([{ field := path
        message := "each entry must be an object \x7bid, status, note?\x7d" }], none)

def validatePriorFindings (index : Nat) :
    List Json → List StageValidationError × List MeshPriorFindingStatusEntry
  | [] => ([], [])
  | value :: rest =>
    let (errors, entry) := validatePriorFinding s!"review.priorFindings[{index}]" value
    let (later, entries) := validatePriorFindings (index + 1) rest
    (errors ++ later, entry.toList ++ entries)

structure ReviewValidationContext where
  round : Nat
  priorOpenBlockingIds : List String

def reviewKeys : List String :=
  ["verdict", "findings", "priorFindings", "checked", "notChecked", "testsRun"]

def readFindings : Option Json → List StageValidationError × List MeshReviewFinding
  | some (.array items) =>
    let (errors, findings) := validateFindings 0 [] items
    (errorIf (items.length > reviewFindingsMax) "review.findings"
      (s!"findings has {items.length} entries, over the {reviewFindingsMax} limit — " ++
        "keep the most important") ++ errors, findings)
  | _ => ([{ field := "review.findings"
             message := "findings must be an array (use [] when there are none)" }], [])

def readPriorFindings :
    Option Json → List StageValidationError × Option (List MeshPriorFindingStatusEntry)
  | none => ([], none)
  | some (.array items) =>
    let (errors, entries) := validatePriorFindings 0 items
    (errors, some entries)
  | some _ => ([{ field := "review.priorFindings"
                  message := "priorFindings must be an array" }], none)

def readTestsRun : Option Json → List StageValidationError × Option (List MeshTestRun)
  | none => ([], none)
  | some raw =>
    let (errors, runs) := validateTestsRun raw "review.testsRun"
    (errors, some runs)

/-- The rules between the verdict and the findings; `clean` says that no error came before. -/
def verdictErrors (verdict : MeshReviewVerdict) (blocking : List MeshReviewFinding)
    (clean : Bool) : List StageValidationError :=
  errorIf (verdict == .changesRequested && blocking.isEmpty && clean) "review.verdict"
      ("changes_requested needs at least one blocking or major finding — nits alone are " ++
        "approve_with_nits") ++
    errorIf (verdict == .approve && !blocking.isEmpty) "review.verdict"
      "approve cannot carry blocking or major findings" ++
    errorIf (verdict == .approveWithNits && !blocking.isEmpty) "review.verdict"
      "approve_with_nits cannot carry blocking or major findings — use changes_requested"

def priorErrors (context : ReviewValidationContext)
    (entries : List MeshPriorFindingStatusEntry) : List StageValidationError :=
  let missing := context.priorOpenBlockingIds.filter fun id =>
    !(entries.map (·.id)).contains id
  errorIf (decide (2 ≤ context.round) && !missing.isEmpty) "review.priorFindings"
    (s!"round {context.round} must give a status for every prior blocking/major finding; " ++
      "missing: " ++ String.intercalate ", " missing)

def omitEmpty {α : Type} (values : Option (List α)) : Option (List α) :=
  values.filter fun values => !values.isEmpty

/-- The `review` field of a reviewer's `report_completion`: rejected, never coerced. -/
def validateReviewReport (raw : Json) (context : ReviewValidationContext) :
    Except (List StageValidationError) MeshReviewReport :=
  match raw with
  | .object fields =>
    let verdict := isReviewVerdict (fields.lookup "verdict")
    let findings := readFindings (fields.lookup "findings")
    let checked := validateStringList (fields.lookup "checked") "review.checked"
      reviewCheckedMax reviewClaimMaxChars 1
    let notChecked := validateStringList (fields.lookup "notChecked") "review.notChecked"
      reviewCheckedMax reviewClaimMaxChars 1
    let priorFindings := readPriorFindings (fields.lookup "priorFindings")
    let testsRun := readTestsRun (fields.lookup "testsRun")
    let errors :=
      unknownKeys "review" reviewKeys
          (fun key => unknownField key ++
            " (expected one of: " ++ String.intercalate ", " reviewKeys ++ ")") fields ++
        errorIf verdict.isNone "review.verdict"
          s!"verdict must be one of {oneOf reviewVerdicts MeshReviewVerdict.label}" ++
        findings.1 ++ checked.1 ++ notChecked.1 ++ priorFindings.1 ++ testsRun.1
    let crossField :=
      (match verdict with
        | none => []
        | some verdict =>
          verdictErrors verdict (findings.2.filter (isBlockingSeverity ·.severity))
            errors.isEmpty) ++
        priorErrors context (priorFindings.2.getD [])
    match verdict, errors ++ crossField with
    | some verdict, [] => .ok {
        verdict
        findings := findings.2
        priorFindings := omitEmpty priorFindings.2
        checked := checked.2
        notChecked := notChecked.2
        testsRun := omitEmpty testsRun.2 }
    | _, errors => .error errors
  | _ => .error [{
      field := "review"
      message := "review must be an object " ++
        "\x7bverdict, findings, checked, notChecked, ...\x7d" }]

@[simp] theorem errorIf_eq_nil {refused : Bool} {field message : String} :
    errorIf refused field message = [] ↔ refused = false := by
  cases refused <;> simp [errorIf]

theorem getD_omitEmpty {α : Type} (values : Option (List α)) :
    (omitEmpty values).getD [] = values.getD [] := by
  cases values with
  | none => rfl
  | some values => cases values <;> rfl

section Accepted

variable {raw : Json} {context : ReviewValidationContext} {report : MeshReviewReport}

section

variable (accepted : validateReviewReport raw context = .ok report)
include accepted

theorem crossField_of_accepted : verdictErrors report.verdict report.blocking true = [] ∧
    priorErrors context report.answers = [] := by
  unfold validateReviewReport at accepted
  split at accepted
  · dsimp only at accepted
    split at accepted
    · rename_i verdict isVerdict errors
      cases accepted
      rw [isVerdict] at errors
      obtain ⟨clean, crossField⟩ := List.append_eq_nil_iff.mp errors
      obtain ⟨verdictRules, priorRules⟩ := List.append_eq_nil_iff.mp crossField
      refine ⟨?_, ?_⟩
      · rw [clean] at verdictRules
        exact verdictRules
      · simpa [MeshReviewReport.answers, getD_omitEmpty] using priorRules
    · cases accepted
  · cases accepted

theorem blocking_of_accepted (requests : report.verdict = .changesRequested) : report.blocking ≠ []
    := by
  have rules := (crossField_of_accepted accepted).1
  intro clean
  simp [verdictErrors, requests, clean] at rules

theorem answered_of_accepted (later : 2 ≤ context.round) {findingId : String}
    (prior : findingId ∈ context.priorOpenBlockingIds) : ∃ answer ∈ report.answers, answer.id =
    findingId := by
  have rules := (crossField_of_accepted accepted).2
  simp only [priorErrors, errorIf_eq_nil, later, decide_true, Bool.true_and, Bool.not_eq_false',
    List.isEmpty_iff, List.filter_eq_nil_iff] at rules
  have found := rules findingId prior
  simpa using found

end

end Accepted

end Adhdev.MeshShared
