import Mathlib.Data.Prod.Lex
import PiAutopilot.Lib.Assoc
import PiAutopilot.Lib.Checks
import PiAutopilot.Planning.Declarations

set_option autoImplicit false

/-! # Admission of a validator's submission -/

namespace PiAutopilot.Validation

open Lib

abbrev Id := String
abbrev Ref := String

inductive CriterionVerdict where
  | BLOCKED
  | FAIL
  | PASS
deriving DecidableEq

inductive FindingEffect where
  | advisory
  | closureBlockingForwardSafe
  | forwardBlocking
deriving DecidableEq

inductive FindingKindV2 where
  | advisory
  | contextGap
  | contractDefect
  | evidenceGap
  | sourceDefect
  | testDefect
  | unsafeBoundary
deriving DecidableEq

def FindingKindV2.debugText : FindingKindV2 → String
  | .advisory => "Advisory"
  | .contextGap => "ContextGap"
  | .contractDefect => "ContractDefect"
  | .evidenceGap => "EvidenceGap"
  | .sourceDefect => "SourceDefect"
  | .testDefect => "TestDefect"
  | .unsafeBoundary => "UnsafeBoundary"

def FindingKindV2.isDefect (kind : FindingKindV2) : Bool := kind == .sourceDefect || kind == .testDefect || kind == .contractDefect

def FindingKindV2.isGap (kind : FindingKindV2) : Bool := kind == .contextGap || kind == .evidenceGap || kind == .unsafeBoundary

structure ValidationSourceLocation where
  citationRef : Ref
  startLine : Nat
  endLine : Nat

structure CriterionResultV3 where
  criterionId : Id
  verdict : CriterionVerdict
  citationRefs : List Ref
  findingIds : List Id

structure FindingV3 where
  findingId : Id
  kind : FindingKindV2
  effect : FindingEffect
  summary : String
  detail : String
  criterionIds : List Id
  citationRefs : List Ref
  sourceLocations : List ValidationSourceLocation

structure ValidationSubmissionV3 where
  schema : String
  criterionResults : List CriterionResultV3
  findings : List FindingV3

inductive ValidationOutcomeV2 where
  | BLOCKED
  | FORWARD_BLOCKED
  | FORWARD_READY

structure NormalizedCriterionResultV3 where
  criterionId : Id
  verdict : CriterionVerdict
  modelCitationRefs : List Ref
  commandReceiptRefs : List Ref
  packageCheckReceiptRefs : List Ref
  findingIds : List Id
  coveredPaths : List String
  semanticSurfaceIds : List Id
  forwardEdgeIds : List Id

structure ValidationVerdictV3 where
  schema : String
  validationId : Id
  assignmentId : Id
  exactCommit : String
  exactTree : String
  outcome : ValidationOutcomeV2
  criterionResults : List NormalizedCriterionResultV3
  findings : List FindingV3

structure AdmittedValidationV3 where
  submission : ValidationSubmissionV3
  verdict : ValidationVerdictV3
  verdictBytes : List UInt8

structure ValidationAuthorityCriterion where
  criterionId : Id
  coveredPaths : List String
  semanticSurfaceIds : List Id
  forwardEdgeIds : List Id
  allowedCitationRefs : List Ref
  commandReceiptRefs : List Ref
  packageCheckReceiptRefs : List Ref

structure ValidationSourceRecord where
  evidenceRef : Ref
  lineCount : Nat

structure ValidationEvidenceAuthority where
  validationId : Id
  assignmentId : Id
  exactCommit : String
  exactTree : String
  authorityDigest : String
  criteria : List ValidationAuthorityCriterion
  sourceRecords : List ValidationSourceRecord
  diffRefs : List Ref

def sortedStrings (values : List String) : List String := values.insertionSort (· ≤ ·)

abbrev sortedRefs (values : List Ref) : List Ref := sortedStrings values

abbrev sortedIds (values : List Id) : List Id := sortedStrings values

abbrev sortedPaths (values : List String) : List String := sortedStrings values

/-- A map collected from a list: of two items with one key the later stays. -/
def keyed {α β : Type} (key : α → Id) (value : α → β) (items : List α) : List (Id × β) :=
  (items.map fun item => (key item, value item)).reverse

structure ValidationAuthorityIndex where
  authority : ValidationEvidenceAuthority
  criterionOrder : List Id
  criteria : List (Id × ValidationAuthorityCriterion)
  modelEvidence : List Ref
  sourceEvidence : List (Ref × ValidationSourceRecord)
  commandReceiptsByCriterion : List (Id × List Ref)
  packageReceiptsByCriterion : List (Id × List Ref)
  criteria_known : ∀ id ∈ criterionOrder, (getOwn criteria id).isSome
  commands_known : ∀ id ∈ criterionOrder, (getOwn commandReceiptsByCriterion id).isSome
  packages_known : ∀ id ∈ criterionOrder, (getOwn packageReceiptsByCriterion id).isSome

theorem keyed_known {α β : Type} {key : α → Id} {value : α → β} {items : List α} :
    ∀ id ∈ items.map key, (getOwn (keyed key value items) id).isSome := by
  intro id member
  rw [get_own_isSome]
  simpa [keyed] using member

theorem keyed_found {α β : Type} {key : α → Id} {value : α → β} {items : List α} (distinct : (items.map key).Nodup)
    {item : α} (member : item ∈ items) : getOwn (keyed key value items) (key item) = some (value item) := by
  have keys : ((keyed key value items).map Prod.fst).Nodup := by
    rw [keyed, List.map_reverse, List.nodup_reverse, List.map_map]
    exact distinct
  rw [get_own_iff keys, keyed, List.mem_reverse]
  exact List.mem_map_of_mem member

def indexOf (authority : ValidationEvidenceAuthority) : ValidationAuthorityIndex where
  authority := authority
  criterionOrder := authority.criteria.map ValidationAuthorityCriterion.criterionId
  criteria := keyed ValidationAuthorityCriterion.criterionId id authority.criteria
  modelEvidence := sortedSet (authority.sourceRecords.map ValidationSourceRecord.evidenceRef ++ authority.diffRefs)
  sourceEvidence := keyed ValidationSourceRecord.evidenceRef id authority.sourceRecords
  commandReceiptsByCriterion :=
    keyed ValidationAuthorityCriterion.criterionId (fun criterion => sortedRefs criterion.commandReceiptRefs) authority.criteria
  packageReceiptsByCriterion :=
    keyed ValidationAuthorityCriterion.criterionId (fun criterion => sortedRefs criterion.packageCheckReceiptRefs)
      authority.criteria
  criteria_known := keyed_known
  commands_known := keyed_known
  packages_known := keyed_known

structure MismatchRow where
  code : String
  field : String
  criterionId : Option String
  findingId : Option String
  comparison : String
  expected : List String
  actual : List String
  missing : List String
  extra : List String
  duplicates : List (String × Nat)

structure AdmissionFailure where
  validationId : Id
  assignmentId : Id
  authorityDigest : String
  valueAttempt : Nat
  phase : String
  disposition : String
  mismatches : List MismatchRow
  fatalAuthority : Bool

/-- A failed lookup of a map by index is a panic, which is no answer of the admission. -/
inductive AdmitStop where
  | failure (failure : AdmissionFailure)
  | panicked

/-- The texts of a diagnostic that rest on a digest, and the JSON library: writing a record, and reading the verdict
back from its fields. -/
structure ValidationHost where
  boundedDiagnosticString : String → String
  stringListSummary : List String → String
  duplicateListSummary : List (String × Nat) → String
  submissionBytes : ValidationSubmissionV3 → Except String (List UInt8)
  readVerdict : ValidationVerdictV3 → Except String Unit
  verdictBytes : ValidationVerdictV3 → Except String (List UInt8)

def receiptPrefixes : List String := ["approved-command-receipt:", "package-check-receipt:", "v2-package-proof-receipt:"]

def isReceiptRef (value : String) : Bool := receiptPrefixes.any fun start => start.toList.isPrefixOf value.toList

def hasDuplicates (values : List String) : Bool := (sortedSet values).length != values.length

def counts (values : List String) : List (String × Nat) := (sortedSet values).map fun value => (value, values.count value)

def difference (expected actual : List String) : List String × List String :=
  let e := counts expected
  let a := counts actual
  (e.flatMap fun entry => List.replicate (entry.2 - (getOwn a entry.1).getD 0) entry.1,
    a.flatMap fun entry => List.replicate (entry.2 - (getOwn e entry.1).getD 0) entry.1)

def maxDiagnosticListItems : Nat := 8

def isBlank (text : String) : Bool := (Planning.trim text.toList).isEmpty

def locationText (location : ValidationSourceLocation) : String :=
  location.citationRef ++ ":" ++ toString location.startLine ++ ":" ++ toString location.endLine

def allowedFindingCitations (criteria : List (Id × ValidationAuthorityCriterion)) (criterionIds : List Id) : List String :=
  match criterionIds.filterMap (getOwn criteria) with
  | [] => []
  | first :: rest =>
    rest.foldl (fun allowed criterion => allowed.filter (· ∈ criterion.allowedCitationRefs))
      (sortedSet first.allowedCitationRefs)

structure Mismatch where
  expected : List String
  actual : List String
  missing : List String
  extra : List String
  duplicates : List (String × Nat)

def Mismatch.changedExact (mismatch : Mismatch) : Bool :=
  !mismatch.missing.isEmpty || !mismatch.extra.isEmpty || !mismatch.duplicates.isEmpty

def Mismatch.changedSubset (mismatch : Mismatch) : Bool := !mismatch.extra.isEmpty || !mismatch.duplicates.isEmpty

section Admit

variable (host : ValidationHost)

def duplicateRows (values : List String) : List (String × Nat) :=
  let raw := (counts values).filter fun entry => 1 < entry.2
  let rows := raw.map fun entry => (host.boundedDiagnosticString entry.1, entry.2)
  if maxDiagnosticListItems < rows.length then
    [(host.duplicateListSummary raw, min (max (raw.map Prod.snd).sum 2) 0xFFFFFFFF)]
  else rows

def multisetMismatch (expected actual : List String) : Mismatch :=
  let expected := sortedStrings expected
  let actual := sortedStrings actual
  let (missing, extra) := difference expected actual
  { expected, actual, missing, extra, duplicates := duplicateRows host actual }

def multisetSubset (expected actual : List String) : Mismatch :=
  let expected := sortedStrings expected
  let actual := sortedStrings actual
  { expected, actual, missing := [], extra := (difference expected actual).2, duplicates := duplicateRows host actual }

def boundedDiagnosticValues (values : List String) : List String :=
  let originals := sortedStrings values
  let bounded := originals.map host.boundedDiagnosticString
  sortedStrings
    (if maxDiagnosticListItems < bounded.length then
      bounded.take (maxDiagnosticListItems - 1) ++ [host.stringListSummary originals]
    else bounded)

def row (code field : String) (criterionId findingId : Option Id) (comparison : String)
    (expected actual missing extra : List String) (duplicates : List (String × Nat)) : MismatchRow where
  code := code
  field := field
  criterionId := criterionId.map host.boundedDiagnosticString
  findingId := findingId.map host.boundedDiagnosticString
  comparison := comparison
  expected := boundedDiagnosticValues host expected
  actual := boundedDiagnosticValues host actual
  missing := boundedDiagnosticValues host missing
  extra := boundedDiagnosticValues host extra
  duplicates := duplicates.insertionSort (byKey Prod.fst)

def simpleRow (code field expected actual : String) : MismatchRow :=
  row host code field none none "exact" [expected] [actual] [] [] []

def simpleFindingRow (code field : String) (findingId : Id) (expected actual : String) : MismatchRow :=
  row host code field none (some findingId) "exact" [expected] [actual] [] [] []

def diagnosticRowKey (row : MismatchRow) : String ×ₗ String ×ₗ String ×ₗ String :=
  toLex (row.field, toLex (row.criterionId.getD "", toLex (row.findingId.getD "", row.code)))

def diagnostic (authority : ValidationEvidenceAuthority) (attempt : Nat) (phase disposition : String)
    (rows : List MismatchRow) (fatalAuthority : Bool) : AdmissionFailure where
  validationId := authority.validationId
  assignmentId := authority.assignmentId
  authorityDigest := authority.authorityDigest
  valueAttempt := attempt
  phase := phase
  disposition := disposition
  mismatches := rows.insertionSort (byKey diagnosticRowKey)
  fatalAuthority := fatalAuthority

/-- `authorityRows` are the mismatches of the authority itself. -/
def fromAuthority (authorityRows : ValidationEvidenceAuthority → List MismatchRow) (authority : ValidationEvidenceAuthority) :
    Except AdmissionFailure ValidationAuthorityIndex := do
  let rows := authorityRows authority
  refuseIf (!rows.isEmpty) (diagnostic authority 0 "authority" "fatal-authority" rows true)
  return indexOf authority

variable (index : ValidationAuthorityIndex)

def uncitable (reference : Ref) : Bool := isReceiptRef reference || reference ∉ index.modelEvidence

variable (submission : ValidationSubmissionV3)

def resultRows (position : Nat) (result : CriterionResultV3) : List MismatchRow :=
  let path := "/criterion_results/" ++ toString position
  let findingIds := submission.findings.map FindingV3.findingId
  let unknown := result.findingIds.filter (· ∉ findingIds)
  let cited := result.citationRefs
  let invalid := cited.filter (uncitable index)
  (if !unknown.isEmpty || hasDuplicates result.findingIds then
    [row host "criterion-finding-ids" (path ++ "/finding_ids") (some result.criterionId) none "membership" findingIds
      result.findingIds [] unknown (duplicateRows host result.findingIds)]
  else []) ++
  match getOwn index.criteria result.criterionId with
  | none =>
    if cited.isEmpty || !invalid.isEmpty || hasDuplicates cited then
      [row host "criterion-citation-refs" (path ++ "/citation_refs") (some result.criterionId) none "membership"
        ["known criterion-specific source/diff citations"] cited [] invalid (duplicateRows host cited)]
    else []
  | some criterion =>
    let allowed := sortedRefs criterion.allowedCitationRefs
    let comparison := multisetSubset host allowed cited
    if cited.isEmpty || comparison.changedSubset || cited.any (uncitable index) then
      [row host "criterion-citation-refs" (path ++ "/citation_refs") (some result.criterionId) none "subset-of" allowed
        comparison.actual [] comparison.extra comparison.duplicates]
    else []

def locationValid (finding : FindingV3) (location : ValidationSourceLocation) : Bool :=
  (getOwn index.sourceEvidence location.citationRef).any fun source =>
    location.citationRef ∈ finding.citationRefs &&
      (finding.criterionIds.all fun id =>
        (getOwn index.criteria id).any fun criterion => location.citationRef ∈ criterion.allowedCitationRefs) &&
      1 ≤ location.startLine && location.startLine ≤ location.endLine && location.endLine ≤ source.lineCount

def findingRows (position : Nat) (finding : FindingV3) : List MismatchRow :=
  let field := "/findings/" ++ toString position
  let findingOrder := submission.findings.map FindingV3.findingId
  let idsCheck := multisetSubset host index.criterionOrder finding.criterionIds
  let allowedCitations := allowedFindingCitations index.criteria finding.criterionIds
  let citationsCheck := multisetSubset host allowedCitations finding.citationRefs
  let locations := finding.sourceLocations.map locationText
  let invalidLocations := (finding.sourceLocations.filter fun location => !locationValid index finding location).map locationText
  (if isBlank finding.findingId || 1 < findingOrder.count finding.findingId then
    [row host "finding-identity" (field ++ "/finding_id") none (some finding.findingId) "exact" ["unique nonempty finding id"]
      [finding.findingId] [] [] (duplicateRows host findingOrder)]
  else []) ++
  (if isBlank finding.summary then
    [simpleFindingRow host "finding-summary" (field ++ "/summary") finding.findingId "nonempty summary" finding.summary]
  else []) ++
  (if isBlank finding.detail then
    [simpleFindingRow host "finding-detail" (field ++ "/detail") finding.findingId "nonempty detail" finding.detail]
  else []) ++
  (if finding.criterionIds.isEmpty || idsCheck.changedSubset then
    [row host "finding-criterion-ids" (field ++ "/criterion_ids") none (some finding.findingId) "subset-of"
      index.criterionOrder idsCheck.actual [] idsCheck.extra idsCheck.duplicates]
  else []) ++
  (if finding.citationRefs.isEmpty || citationsCheck.changedSubset || finding.citationRefs.any (uncitable index) then
    [row host "finding-citation-refs" (field ++ "/citation_refs") none (some finding.findingId) "subset-of" allowedCitations
      citationsCheck.actual [] citationsCheck.extra citationsCheck.duplicates]
  else []) ++
  (if !invalidLocations.isEmpty || hasDuplicates locations then
    [row host "finding-source-locations" (field ++ "/source_locations") none (some finding.findingId) "line-bounds"
      ((finding.citationRefs.filterMap (getOwn index.sourceEvidence)).map fun source =>
        source.evidenceRef ++ ":1:" ++ toString source.lineCount)
      locations [] invalidLocations (duplicateRows host locations)]
  else []) ++
  (if finding.kind == .sourceDefect && (finding.sourceLocations.isEmpty ||
      !finding.citationRefs.any fun reference => (getOwn index.sourceEvidence reference).isSome) then
    [simpleFindingRow host "source-defect-location" (field ++ "/source_locations") finding.findingId
      "nonempty in-scope source location" "missing"]
  else [])

def CriterionVerdict.requirement : CriterionVerdict → String
  | .PASS => "PASS with no forward-blocking finding"
  | .FAIL => "FAIL with a source-defect, test-defect, or contract-defect forward blocker"
  | .BLOCKED => "BLOCKED with a context-gap, evidence-gap, or unsafe-boundary forward blocker"

def CriterionVerdict.coherent (verdict : CriterionVerdict) (blocking : List FindingV3) : Bool :=
  match verdict with
  | .PASS => blocking.isEmpty
  | .FAIL => blocking.any fun finding => finding.kind.isDefect
  | .BLOCKED => blocking.any fun finding => finding.kind.isGap

def blockingFindings (result : CriterionResultV3) : List FindingV3 :=
  (result.findingIds.flatMap fun id => submission.findings.filter fun finding => finding.findingId == id).filter
    fun finding => finding.effect == .forwardBlocking

def linkRows (position : Nat) (result : CriterionResultV3) : List MismatchRow :=
  if (getOwn index.criteria result.criterionId).isNone then []
  else
    let path := "/criterion_results/" ++ toString position
    let actualBacklinks := result.findingIds.filter fun id =>
      submission.findings.any fun finding => finding.findingId == id && finding.criterionIds.contains result.criterionId
    let missingBacklinks := (difference result.findingIds actualBacklinks).1
    let blocking := blockingFindings submission result
    (if !missingBacklinks.isEmpty then
      [row host "criterion-finding-link" (path ++ "/finding_ids") (some result.criterionId) none "membership"
        result.findingIds actualBacklinks missingBacklinks [] []]
    else []) ++
    (if !result.verdict.coherent blocking then
      [row host "criterion-verdict-blocker-coherence" (path ++ "/verdict") (some result.criterionId) none "exact"
        [result.verdict.requirement] (blocking.map fun finding => finding.findingId ++ ":" ++ finding.kind.debugText) [] [] []]
    else [])

def effectRows (position : Nat) (finding : FindingV3) : List MismatchRow :=
  let field := "/findings/" ++ toString position
  let actualLinks := finding.criterionIds.filter fun id =>
    submission.criterionResults.any fun result => result.criterionId == id && result.findingIds.contains finding.findingId
  let missingLinks := (difference finding.criterionIds actualLinks).1
  (if !missingLinks.isEmpty then
    [row host "finding-criterion-link" (field ++ "/criterion_ids") none (some finding.findingId) "membership"
      finding.criterionIds actualLinks missingLinks [] []]
  else []) ++
  (if finding.effect == .forwardBlocking && (finding.criterionIds.any fun id =>
      submission.criterionResults.any fun result => result.criterionId == id && result.verdict == .PASS) then
    [simpleFindingRow host "blocking-finding-verdict" (field ++ "/effect") finding.findingId "all linked criteria non-PASS"
      "linked PASS criterion"]
  else [])

def submissionSchema : String := "autopilot.validation_submission.v3"

def admissionRows : List MismatchRow :=
  let results := submission.criterionResults.zipIdx
  let findings := submission.findings.zipIdx
  let mismatch := multisetMismatch host index.criterionOrder (submission.criterionResults.map CriterionResultV3.criterionId)
  (if submission.schema != submissionSchema then
    [row host "submission-schema" "/schema" none none "exact" [submissionSchema] [submission.schema] [submissionSchema]
      [submission.schema] []]
  else []) ++
  (if mismatch.changedExact then
    [row host "criterion-results" "/criterion_results" none none "exact" mismatch.expected mismatch.actual mismatch.missing
      mismatch.extra mismatch.duplicates]
  else []) ++
  (results.flatMap fun entry => resultRows host index submission entry.2 entry.1) ++
  (findings.flatMap fun entry => findingRows host index submission entry.2 entry.1) ++
  (results.flatMap fun entry => linkRows host index submission entry.2 entry.1) ++
  findings.flatMap fun entry => effectRows host submission entry.2 entry.1

def canonicalResult (result : CriterionResultV3) : CriterionResultV3 :=
  { result with citationRefs := sortedRefs result.citationRefs, findingIds := sortedIds result.findingIds }

def locationKey (location : ValidationSourceLocation) : String ×ₗ Nat ×ₗ Nat :=
  toLex (location.citationRef, toLex (location.startLine, location.endLine))

def canonicalFinding (finding : FindingV3) : FindingV3 :=
  { finding with
    criterionIds := sortedIds finding.criterionIds
    citationRefs := sortedRefs finding.citationRefs
    sourceLocations := finding.sourceLocations.insertionSort (byKey locationKey) }

def canonicalFindings : List FindingV3 := (submission.findings.map canonicalFinding).insertionSort (byKey FindingV3.findingId)

def indexed {α : Type} (entries : List (Id × α)) (id : Id) : Except AdmitStop α :=
  match getOwn entries id with
  | some value => .ok value
  | none => .error .panicked

def normalizedResult (id : Id) (result : CriterionResultV3) : Except AdmitStop NormalizedCriterionResultV3 := do
  let authority ← indexed index.criteria id
  let commandReceiptRefs ← indexed index.commandReceiptsByCriterion id
  let packageCheckReceiptRefs ← indexed index.packageReceiptsByCriterion id
  return {
    criterionId := id
    verdict := result.verdict
    modelCitationRefs := sortedRefs result.citationRefs
    commandReceiptRefs
    packageCheckReceiptRefs
    findingIds := sortedIds result.findingIds
    coveredPaths := sortedPaths authority.coveredPaths
    semanticSurfaceIds := sortedIds authority.semanticSurfaceIds
    forwardEdgeIds := sortedIds authority.forwardEdgeIds }

def outcomeOf (results : List CriterionResultV3) (findings : List FindingV3) : ValidationOutcomeV2 :=
  let blocked := (results.any fun result => result.verdict == .BLOCKED) ||
    findings.any fun finding => finding.effect == .forwardBlocking && finding.kind.isGap
  let failed := (results.any fun result => result.verdict == .FAIL) ||
    findings.any fun finding => finding.effect == .forwardBlocking && finding.kind.isDefect
  if blocked then .BLOCKED else if failed then .FORWARD_BLOCKED else .FORWARD_READY

def validationSubmissionV3MaxBytes : Nat := 1048576

def validationVerdictV3MaxBytes : Nat := 2097152

def fatalAuthority (attempt : Nat) (phase code field expected actual : String) : AdmitStop :=
  .failure (diagnostic index.authority attempt phase "fatal-authority" [simpleRow host code field expected actual] true)

def sealVerdict (attempt : Nat) (canonical : ValidationSubmissionV3) (verdict : ValidationVerdictV3) :
    Except AdmitStop AdmittedValidationV3 := do
  let submissionBytes ← (host.submissionBytes canonical).mapError
    (fatalAuthority host index attempt "value" "canonical-submission-bytes" "" "serializable canonical v3 submission")
  refuseIf (validationSubmissionV3MaxBytes < submissionBytes.length)
    (fatalAuthority host index attempt "value" "canonical-submission-bytes" "" "bounded canonical v3 submission"
      (toString submissionBytes.length))
  (host.readVerdict verdict).mapError
    (fatalAuthority host index attempt "authority" "normalized-verdict" "/verdict" "closed normalized v3 verdict")
  let verdictBytes ← (host.verdictBytes verdict).mapError
    (fatalAuthority host index attempt "authority" "normalized-verdict-bytes" "/verdict" "serializable normalized v3 verdict")
  refuseIf (validationVerdictV3MaxBytes < verdictBytes.length)
    (fatalAuthority host index attempt "authority" "normalized-verdict-bytes" "/verdict" "bounded normalized v3 verdict"
      (toString verdictBytes.length))
  return { submission := canonical, verdict, verdictBytes }

def admitSubmission (valueAttempt : Nat) : Except AdmitStop AdmittedValidationV3 := do
  let rows := admissionRows host index submission
  refuseIf (!rows.isEmpty)
    (.failure (diagnostic index.authority valueAttempt "value" "repairable-model-value" rows false))
  let results := keyed CriterionResultV3.criterionId id submission.criterionResults
  let chosen ← index.criterionOrder.mapM (indexed results)
  let normalizedCriteria ← (index.criterionOrder.zip chosen).mapM fun entry => normalizedResult index entry.1 entry.2
  let normalizedFindings := canonicalFindings submission
  sealVerdict host index valueAttempt
    { schema := submission.schema
      criterionResults := chosen.map canonicalResult
      findings := normalizedFindings }
    { schema := "autopilot.validation_verdict.v3"
      validationId := index.authority.validationId
      assignmentId := index.authority.assignmentId
      exactCommit := index.authority.exactCommit
      exactTree := index.authority.exactTree
      outcome := outcomeOf chosen submission.findings
      criterionResults := normalizedCriteria
      findings := normalizedFindings }

end Admit

end PiAutopilot.Validation
