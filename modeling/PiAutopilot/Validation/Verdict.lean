import PiAutopilot.Validation.OrderFree

set_option autoImplicit false

namespace PiAutopilot.Validation

open Lib

structure VerdictCoherent (authority : ValidationEvidenceAuthority) (submission : ValidationSubmissionV3)
    (outcome : ValidationOutcomeV2) : Prop where
  results_once : (submission.criterionResults.map CriterionResultV3.criterionId).Nodup
  results_perm : (submission.criterionResults.map CriterionResultV3.criterionId).Perm
    (authority.criteria.map ValidationAuthorityCriterion.criterionId)
  results_linked : ∀ result ∈ submission.criterionResults, ∀ id ∈ result.findingIds,
    ∃ finding ∈ submission.findings, finding.findingId = id ∧ result.criterionId ∈ finding.criterionIds
  findings_linked : ∀ finding ∈ submission.findings, ∀ id ∈ finding.criterionIds,
    ∃ result ∈ submission.criterionResults, result.criterionId = id ∧ finding.findingId ∈ result.findingIds
  results_cite : ∀ criterion ∈ authority.criteria, ∀ result ∈ submission.criterionResults,
    result.criterionId = criterion.criterionId → ∀ reference ∈ result.citationRefs, reference ∈ criterion.allowedCitationRefs
  findings_cite : ∀ criterion ∈ authority.criteria, ∀ finding ∈ submission.findings,
    criterion.criterionId ∈ finding.criterionIds → ∀ reference ∈ finding.citationRefs, reference ∈ criterion.allowedCitationRefs
  ready_iff_pass : outcome = .FORWARD_READY ↔ ∀ result ∈ submission.criterionResults, result.verdict = .PASS
  ready_iff_unblocked : outcome = .FORWARD_READY ↔ ∀ finding ∈ submission.findings, finding.effect ≠ .forwardBlocking
  blocked : (∃ result ∈ submission.criterionResults, result.verdict = .BLOCKED) → outcome = .BLOCKED

theorem supported_blocks {submission : ValidationSubmissionV3} {result : CriterionResultV3}
    (supported : VerdictSupported submission result) (failing : result.verdict ≠ .PASS) :
    ∃ finding, Blocks submission result finding := by
  unfold VerdictSupported at supported
  cases verdict : result.verdict with
  | PASS => exact absurd verdict failing
  | FAIL | BLOCKED =>
    rw [verdict] at supported
    exact supported.imp fun _ => And.left

section Outcome

variable {index : ValidationAuthorityIndex} {submission : ValidationSubmissionV3} (coherent : Coherent index submission)

include coherent

theorem result_linked {result : CriterionResultV3} (member : result ∈ submission.criterionResults) :
    (∀ id ∈ result.findingIds, ∃ finding ∈ submission.findings, finding.findingId = id ∧
      result.criterionId ∈ finding.criterionIds) ∧ VerdictSupported submission result :=
  coherent.results_linked result member (index.criteria_known _ (coherent.results_perm.mem_iff.mp (List.mem_map_of_mem member)))

theorem pass_iff_unblocked : (∀ result ∈ submission.criterionResults, result.verdict = .PASS) ↔
    ∀ finding ∈ submission.findings, finding.effect ≠ .forwardBlocking := by
  constructor
  · intro pass finding member blocking
    obtain ⟨id, listed⟩ := List.exists_mem_of_ne_nil _ (coherent.findings_sound finding member).some_criterion
    obtain ⟨links, notPass⟩ := coherent.findings_linked finding member
    obtain ⟨result, isResult, rfl, -⟩ := links id listed
    exact notPass blocking result isResult listed (pass result isResult)
  · intro unblocked result member
    by_contra failing
    obtain ⟨finding, isFinding, -, blocking⟩ := supported_blocks (result_linked coherent member).2 failing
    exact unblocked finding isFinding blocking

theorem ready_iff_all_pass : outcomeOf submission.criterionResults submission.findings = .FORWARD_READY ↔
    ∀ result ∈ submission.criterionResults, result.verdict = .PASS := by
  constructor
  · intro ready result member
    cases verdict : result.verdict with
    | PASS => rfl
    | FAIL =>
      have failed : (submission.criterionResults.any fun result => result.verdict == .FAIL) = true :=
        List.any_eq_true.mpr ⟨result, member, by simp [verdict]⟩
      simp only [outcomeOf, failed, Bool.true_or, if_true] at ready
      split at ready <;> cases ready
    | BLOCKED =>
      have blocked : (submission.criterionResults.any fun result => result.verdict == .BLOCKED) = true :=
        List.any_eq_true.mpr ⟨result, member, by simp [verdict]⟩
      simp [outcomeOf, blocked] at ready
  · intro pass
    have unblocked := (pass_iff_unblocked coherent).mp pass
    have noResult : ∀ verdict : CriterionVerdict, verdict ≠ .PASS →
        (submission.criterionResults.any fun result => result.verdict == verdict) = false := by
      intro verdict other
      rw [List.any_eq_false]
      intro result member
      rw [pass result member, beq_iff_eq]
      exact other.symm
    have noFinding : ∀ kinds : FindingKindV2 → Bool,
        (submission.findings.any fun finding => finding.effect == .forwardBlocking && kinds finding.kind) = false := by
      intro kinds
      rw [List.any_eq_false]
      intro finding member
      simp [unblocked finding member]
    simp [outcomeOf, noResult, noFinding]

end Outcome

theorem admitted_verdict_coherent (host : ValidationHost) (authorityRows : ValidationEvidenceAuthority → List MismatchRow)
    (authority : ValidationEvidenceAuthority) (index : ValidationAuthorityIndex)
    (built : fromAuthority authorityRows authority = .ok index) (submission : ValidationSubmissionV3) (attempt : Nat)
    (admitted : AdmittedValidationV3) (accepted : admitSubmission host index submission attempt = .ok admitted) :
    VerdictCoherent authority submission admitted.verdict.outcome := by
  obtain ⟨⟨⟩, -, returned⟩ := bind_ok built
  cases returned
  have coherent : Coherent (indexOf authority) submission := by
    by_contra incoherent
    obtain ⟨failure, refused⟩ := admit_refused host attempt incoherent
    rw [refused] at accepted
    cases accepted
  have outcome : admitted.verdict.outcome = outcomeOf submission.criterionResults submission.findings := by
    obtain ⟨canonical, verdict, -, isOutcome, sealing⟩ := admit_sealed host coherent
    rw [sealing submission (.refl submission)] at accepted
    rcases seal_answers host (indexOf authority) attempt attempt canonical verdict with
      ⟨answer, answered, -, -, isVerdict⟩ | ⟨failure, -, refused, -⟩
    · rw [answered] at accepted
      cases accepted
      rw [isVerdict, isOutcome]
    · rw [refused] at accepted
      cases accepted
  have known : ∀ criterion ∈ authority.criteria,
      getOwn (indexOf authority).criteria criterion.criterionId = some criterion := fun criterion member =>
    keyed_found (coherent.results_perm.nodup_iff.mp coherent.results_once) member
  refine ⟨coherent.results_once, coherent.results_perm, fun result member => (result_linked coherent member).1,
    fun finding member => (coherent.findings_linked finding member).1, fun criterion isCriterion result member same => ?_,
    fun criterion isCriterion finding member listed => ?_, outcome ▸ ready_iff_all_pass coherent,
    outcome ▸ (ready_iff_all_pass coherent).trans (pass_iff_unblocked coherent), fun blocked => ?_⟩
  · exact fun reference cited => (coherent.results_sound result member).cites.allowed reference cited _ List.mem_cons_self
      criterion (same ▸ known criterion isCriterion)
  · exact fun reference cited => (coherent.findings_sound finding member).cites.allowed reference cited _ listed criterion
      (known criterion isCriterion)
  · obtain ⟨result, member, verdict⟩ := blocked
    have anyBlocked : (submission.criterionResults.any fun result => result.verdict == .BLOCKED) = true :=
      List.any_eq_true.mpr ⟨result, member, by simp [verdict]⟩
    simp [outcome, outcomeOf, anyBlocked]

theorem sample_verdict_coherent : ∃ outcome, VerdictCoherent sampleAuthority sampleSubmission outcome :=
  ⟨_, admitted_verdict_coherent sampleHost (fun _ => []) sampleAuthority _ rfl sampleSubmission 0 _ rfl⟩

end PiAutopilot.Validation
