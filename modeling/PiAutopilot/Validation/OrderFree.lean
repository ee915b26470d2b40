import PiAutopilot.Lib.Reordered
import PiAutopilot.Validation.Coherence

set_option autoImplicit false

namespace PiAutopilot.Validation

open Lib

structure ResultReordered (result other : CriterionResultV3) : Prop where
  id : result.criterionId = other.criterionId
  verdict : result.verdict = other.verdict
  citations : result.citationRefs.Perm other.citationRefs
  findings : result.findingIds.Perm other.findingIds

structure FindingReordered (finding other : FindingV3) : Prop where
  id : finding.findingId = other.findingId
  kind : finding.kind = other.kind
  effect : finding.effect = other.effect
  summary : finding.summary = other.summary
  detail : finding.detail = other.detail
  criteria : finding.criterionIds.Perm other.criterionIds
  citations : finding.citationRefs.Perm other.citationRefs
  locations : finding.sourceLocations.Perm other.sourceLocations

structure SubmissionReordered (submission other : ValidationSubmissionV3) : Prop where
  schema : submission.schema = other.schema
  results : Reordered ResultReordered submission.criterionResults other.criterionResults
  findings : Reordered FindingReordered submission.findings other.findings

theorem ResultReordered.symm (result other : CriterionResultV3) (same : ResultReordered result other) : ResultReordered other result :=
  ⟨same.1.symm, same.2.symm, same.3.symm, same.4.symm⟩

theorem FindingReordered.symm (finding other : FindingV3) (same : FindingReordered finding other) : FindingReordered other finding :=
  ⟨same.1.symm, same.2.symm, same.3.symm, same.4.symm, same.5.symm, same.6.symm, same.7.symm, same.8.symm⟩

variable {index : ValidationAuthorityIndex} {submission other : ValidationSubmissionV3}

theorem SubmissionReordered.symm (reordered : SubmissionReordered submission other) : SubmissionReordered other submission :=
  ⟨reordered.1.symm, reordered.2.symm ResultReordered.symm, reordered.3.symm FindingReordered.symm⟩

theorem SubmissionReordered.refl (submission : ValidationSubmissionV3) : SubmissionReordered submission submission :=
  ⟨rfl, ⟨_, .refl _, List.forall₂_same.mpr fun _ _ => ⟨rfl, rfl, .refl _, .refl _⟩⟩,
    ⟨_, .refl _, List.forall₂_same.mpr fun _ _ => ⟨rfl, rfl, rfl, rfl, rfl, .refl _, .refl _, .refl _⟩⟩⟩

theorem SubmissionReordered.finding_ids (reordered : SubmissionReordered submission other) :
    (submission.findings.map FindingV3.findingId).Perm (other.findings.map FindingV3.findingId) :=
  reordered.findings.map_perm _ fun _ _ same => same.id

theorem SubmissionReordered.criterion_ids (reordered : SubmissionReordered submission other) :
    (submission.criterionResults.map CriterionResultV3.criterionId).Perm (other.criterionResults.map CriterionResultV3.criterionId) :=
  reordered.results.map_perm _ fun _ _ same => same.id

theorem Cites.reorder {references others : List Ref} {ids otherIds : List Id} (cites : Cites index references ids)
    (sameReferences : references.Perm others) (sameIds : ids.Perm otherIds) : Cites index others otherIds where
  some_cited := fun empty => cites.some_cited (List.perm_nil.mp (empty ▸ sameReferences))
  cited_once := sameReferences.nodup_iff.mp cites.cited_once
  citable := fun reference member => cites.citable reference (sameReferences.mem_iff.mpr member)
  allowed := fun reference member id linked =>
    cites.allowed reference (sameReferences.mem_iff.mpr member) id (sameIds.mem_iff.mpr linked)

theorem location_valid_reorder {finding twin : FindingV3} (same : FindingReordered finding twin)
    {location : ValidationSourceLocation} : locationValid index finding location = locationValid index twin location := by
  simp only [locationValid, same.citations.mem_iff, same.criteria.all_eq]

section Reorder

variable {result twin : CriterionResultV3} (reordered : SubmissionReordered submission other)

include reordered

theorem ResultSound.reorder (sound : ResultSound index submission result)
    (same : ResultReordered result twin) : ResultSound index other twin where
  findings_known := fun id member =>
    reordered.finding_ids.mem_iff.mp (sound.findings_known id (same.findings.mem_iff.mpr member))
  findings_once := same.findings.nodup_iff.mp sound.findings_once
  cites := same.id ▸ sound.cites.reorder same.citations (List.Perm.refl _)

theorem FindingSound.reorder {finding twin : FindingV3} (sound : FindingSound index submission finding)
    (same : FindingReordered finding twin) :
    FindingSound index other twin where
  named := same.id ▸ sound.named
  named_once := by
    rw [← reordered.finding_ids.count_eq, ← same.id]
    exact sound.named_once
  summarized := same.summary ▸ sound.summarized
  detailed := same.detail ▸ sound.detailed
  some_criterion := fun empty => sound.some_criterion (List.perm_nil.mp (empty ▸ same.criteria))
  criteria_once := same.criteria.nodup_iff.mp sound.criteria_once
  criteria_known := fun id member => sound.criteria_known id (same.criteria.mem_iff.mpr member)
  cites := sound.cites.reorder same.citations same.criteria
  locations_valid := fun location member =>
    location_valid_reorder same ▸ sound.locations_valid location (same.locations.mem_iff.mpr member)
  locations_once := (same.locations.map _).nodup_iff.mp sound.locations_once
  located := by
    intro isDefect
    obtain ⟨located, reference, member, known⟩ := sound.located (same.kind.trans isDefect)
    exact ⟨fun empty => located (List.perm_nil.mp (empty ▸ same.locations)), reference, same.citations.mem_iff.mp member, known⟩

theorem Blocks.reorder {finding : FindingV3} (blocks : Blocks submission result finding) (same : ResultReordered result twin) :
    ∃ twinFinding, Blocks other twin twinFinding ∧ twinFinding.kind = finding.kind := by
  obtain ⟨member, linked, forward⟩ := blocks
  obtain ⟨twinFinding, inside, sameFinding⟩ := reordered.symm.findings.exists_left finding member
  exact ⟨twinFinding, ⟨inside, sameFinding.id ▸ same.findings.mem_iff.mp linked, sameFinding.effect.trans forward⟩, sameFinding.kind⟩

theorem VerdictSupported.reorder (supported : VerdictSupported submission result)
    (same : ResultReordered result twin) : VerdictSupported other twin := by
  unfold VerdictSupported at supported ⊢
  rw [← same.verdict]
  cases verdict : result.verdict with
  | PASS =>
    rw [verdict] at supported
    intro finding blocks
    obtain ⟨source, blocked, -⟩ := blocks.reorder reordered.symm (same.symm _ _)
    exact supported source blocked
  | FAIL | BLOCKED =>
    rw [verdict] at supported
    obtain ⟨finding, blocks, isKind⟩ := supported
    obtain ⟨source, blocked, kind⟩ := blocks.reorder reordered same
    exact ⟨source, blocked, kind ▸ isKind⟩

theorem ResultLinked.reorder (linked : ResultLinked index submission result)
    (same : ResultReordered result twin) : ResultLinked index other twin := by
  intro known
  obtain ⟨backlinks, supported⟩ := linked (same.id ▸ known)
  refine ⟨fun id member => ?_, supported.reorder reordered same⟩
  obtain ⟨finding, inside, isFinding, lists⟩ := backlinks id (same.findings.mem_iff.mpr member)
  obtain ⟨source, inOther, sameFinding⟩ := reordered.symm.findings.exists_left finding inside
  exact ⟨source, inOther, sameFinding.id.trans isFinding, sameFinding.criteria.mem_iff.mpr (same.id ▸ lists)⟩

theorem FindingLinked.reorder {finding twin : FindingV3} (linked : FindingLinked submission finding)
    (same : FindingReordered finding twin) : FindingLinked other twin := by
  refine ⟨fun id member => ?_, fun forward result inside lists => ?_⟩
  · obtain ⟨result, inside, isResult, lists⟩ := linked.1 id (same.criteria.mem_iff.mpr member)
    obtain ⟨source, inOther, sameResult⟩ := reordered.symm.results.exists_left result inside
    exact ⟨source, inOther, sameResult.id.trans isResult, sameResult.findings.mem_iff.mpr (same.id ▸ lists)⟩
  · obtain ⟨source, inSubmission, sameResult⟩ := reordered.results.exists_left result inside
    rw [← sameResult.verdict]
    exact linked.2 (same.effect.trans forward) source inSubmission (sameResult.id ▸ same.criteria.mem_iff.mpr lists)

theorem Coherent.reorder (coherent : Coherent index submission) : Coherent index other where
  schema := reordered.schema ▸ coherent.schema
  results_once := reordered.criterion_ids.nodup_iff.mp coherent.results_once
  results_perm := reordered.criterion_ids.symm.trans coherent.results_perm
  results_sound := fun result member =>
    have ⟨source, inside, same⟩ := reordered.results.exists_left result member
    (coherent.results_sound source inside).reorder reordered same
  findings_sound := fun finding member =>
    have ⟨source, inside, same⟩ := reordered.findings.exists_left finding member
    (coherent.findings_sound source inside).reorder reordered same
  results_linked := fun result member =>
    have ⟨source, inside, same⟩ := reordered.results.exists_left result member
    (coherent.results_linked source inside).reorder reordered same
  findings_linked := fun finding member =>
    have ⟨source, inside, same⟩ := reordered.findings.exists_left finding member
    (coherent.findings_linked source inside).reorder reordered same

end Reorder

theorem sorted_strings_perm {left right : List String} (perm : left.Perm right) : sortedStrings left = sortedStrings right :=
  sort_eq_of_perm id left right perm fun _ _ _ _ same => same

theorem canonical_result_reordered (result : CriterionResultV3) : ResultReordered result (canonicalResult result) :=
  ⟨rfl, rfl, (List.perm_insertionSort _ _).symm, (List.perm_insertionSort _ _).symm⟩

theorem canonical_finding_reordered (finding : FindingV3) : FindingReordered finding (canonicalFinding finding) :=
  ⟨rfl, rfl, rfl, rfl, rfl, (List.perm_insertionSort _ _).symm, (List.perm_insertionSort _ _).symm, (List.perm_insertionSort _ _).symm⟩

theorem canonical_result_eq (result twin : CriterionResultV3) (same : ResultReordered result twin) :
    canonicalResult result = canonicalResult twin := by
  simp only [canonicalResult, same.id, same.verdict, sorted_strings_perm same.citations, sorted_strings_perm same.findings]

theorem canonical_finding_eq (finding twin : FindingV3) (same : FindingReordered finding twin) :
    canonicalFinding finding = canonicalFinding twin := by
  have locations := sort_eq_of_perm locationKey _ _ same.locations (by
    rintro ⟨reference, start, finish⟩ - ⟨_, _, _⟩ - keys
    simpa [locationKey, Prod.ext_iff] using keys)
  simp only [canonicalFinding, same.id, same.kind, same.effect, same.summary, same.detail, locations,
    sorted_strings_perm same.criteria, sorted_strings_perm same.citations]

theorem canonical_findings_eq (coherent : Coherent index submission) (reordered : SubmissionReordered submission other) :
    canonicalFindings submission = canonicalFindings other := by
  refine sort_eq_of_perm _ _ _ (reordered.findings.map_perm _ canonical_finding_eq) ?_
  have distinct : (submission.findings.map FindingV3.findingId).Nodup := by
    rw [List.nodup_iff_count_le_one]
    intro id
    by_cases member : id ∈ submission.findings.map FindingV3.findingId
    · obtain ⟨finding, inside, rfl⟩ := List.mem_map.mp member
      exact (coherent.findings_sound finding inside).named_once
    · simp [List.count_eq_zero_of_not_mem member]
  refine fun first inFirst second inSecond same => List.inj_on_of_nodup_map ?_ inFirst inSecond same
  rwa [List.map_map]

theorem outcome_reorder (reordered : SubmissionReordered submission other) (results : List CriterionResultV3) :
    outcomeOf results submission.findings = outcomeOf results other.findings := by
  have counted : ∀ blocking : FindingV3 → Bool, (∀ first second, FindingReordered first second → blocking first = blocking second) →
      submission.findings.any blocking = other.findings.any blocking := by
    intro blocking agrees
    have perm := reordered.findings.map_perm blocking agrees
    simpa [List.any_map] using perm.any_eq (f := id)
  unfold outcomeOf
  rw [counted _ fun first second same => by rw [same.effect, same.kind], counted _ fun first second same => by rw [same.effect, same.kind]]

theorem chosen_results (coherent : Coherent index submission) :
    ∃ chosen, index.criterionOrder.mapM (indexed (keyed CriterionResultV3.criterionId id submission.criterionResults)) = .ok chosen ∧
      submission.criterionResults.Perm chosen ∧ chosen.map CriterionResultV3.criterionId = index.criterionOrder := by
  have named : Relation.Comp (List.Forall₂ fun result id => CriterionResultV3.criterionId result = id) List.Perm
      submission.criterionResults index.criterionOrder :=
    ⟨_, List.forall₂_map_right_iff.mpr (List.forall₂_same.mpr fun _ _ => rfl), coherent.results_perm⟩
  rw [List.forall₂_comp_perm_eq_perm_comp_forall₂] at named
  obtain ⟨chosen, perm, keys⟩ := named
  have ordered : chosen.map CriterionResultV3.criterionId = index.criterionOrder := by
    rw [← List.forall₂_eq_eq_eq, List.forall₂_map_left_iff]
    exact keys
  refine ⟨chosen, ?_, perm, ordered⟩
  rw [← ordered, mapM_ok_iff, List.forall₂_map_left_iff, List.forall₂_same]
  intro result member
  rw [indexed, keyed_found coherent.results_once (perm.mem_iff.mpr member), id]

theorem normalized_canonical {id : Id} {result : CriterionResultV3} :
    normalizedResult index id result = normalizedResult index id (canonicalResult result) := by
  have idempotent : ∀ values, sortedStrings (sortedStrings values) = sortedStrings values := fun values =>
    sorted_strings_perm (List.perm_insertionSort _ _)
  simp only [normalizedResult, canonicalResult, idempotent]

theorem normalized_exists (index : ValidationAuthorityIndex) (results : List CriterionResultV3) :
    ∃ normalized, (index.criterionOrder.zip results).mapM (fun entry => normalizedResult index entry.1 entry.2) = .ok normalized := by
  refine mapM_ok_exists fun entry member => ?_
  have listed := (List.of_mem_zip member).1
  obtain ⟨criterion, known⟩ := Option.isSome_iff_exists.mp (index.criteria_known _ listed)
  obtain ⟨commands, commandsKnown⟩ := Option.isSome_iff_exists.mp (index.commands_known _ listed)
  obtain ⟨packages, packagesKnown⟩ := Option.isSome_iff_exists.mp (index.packages_known _ listed)
  simp only [normalizedResult, indexed, known, commandsKnown, packagesKnown]
  exact ⟨_, rfl⟩

variable (host : ValidationHost)

theorem seal_answers (index : ValidationAuthorityIndex) (attempt later : Nat) (canonical : ValidationSubmissionV3)
    (verdict : ValidationVerdictV3) :
    (∃ admitted, sealVerdict host index attempt canonical verdict = .ok admitted ∧
      sealVerdict host index later canonical verdict = .ok admitted ∧ admitted.submission = canonical ∧
      admitted.verdict = verdict) ∨
    ∃ failure laterFailure, sealVerdict host index attempt canonical verdict = .error (.failure failure) ∧
      sealVerdict host index later canonical verdict = .error (.failure laterFailure) := by
  unfold sealVerdict fatalAuthority refuseIf
  cases host.submissionBytes canonical with
  | error => exact .inr ⟨_, _, rfl, rfl⟩
  | ok bytes =>
    by_cases long : validationSubmissionV3MaxBytes < bytes.length
    · simp [long, Except.mapError, bind, Except.bind]
    · cases host.readVerdict verdict with
      | error => simp [long, Except.mapError, bind, Except.bind]
      | ok =>
        cases host.verdictBytes verdict with
        | error => simp [long, Except.mapError, bind, Except.bind]
        | ok verdictBytes =>
          by_cases longVerdict : validationVerdictV3MaxBytes < verdictBytes.length
          · simp [long, longVerdict, Except.mapError, bind, Except.bind]
          · simp [long, longVerdict, Except.mapError, bind, Except.bind, pure, Except.pure]

/-- A coherent submission is sealed with a canonical form and a verdict that every reordering of it shares. -/
theorem admit_sealed (coherent : Coherent index submission) : ∃ canonical verdict, SubmissionReordered submission canonical ∧
      verdict.outcome = outcomeOf submission.criterionResults submission.findings ∧
      ∀ other, SubmissionReordered submission other →
        ∀ attempt, admitSubmission host index other attempt = sealVerdict host index attempt canonical verdict := by
  obtain ⟨chosen, choosing, perm, ordered⟩ := chosen_results coherent
  obtain ⟨normalized, normalizing⟩ := normalized_exists index (chosen.map canonicalResult)
  refine ⟨⟨submission.schema, chosen.map canonicalResult, canonicalFindings submission⟩,
    ⟨"autopilot.validation_verdict.v3", index.authority.validationId, index.authority.assignmentId,
      index.authority.exactCommit, index.authority.exactTree, outcomeOf (chosen.map canonicalResult) submission.findings,
      normalized, canonicalFindings submission⟩,
    ⟨rfl, reordered_of_map canonical_result_reordered (perm.map _),
      reordered_of_map canonical_finding_reordered (List.perm_insertionSort _ _).symm⟩, ?_, fun other reordered attempt => ?_⟩
  · simp only [outcomeOf, List.any_map, Function.comp_def, canonicalResult, perm.any_eq]
  have otherCoherent := coherent.reorder reordered
  obtain ⟨otherChosen, otherChoosing, otherPerm, otherOrdered⟩ := chosen_results otherCoherent
  have canonicalIds : ∀ results : List CriterionResultV3,
      (results.map canonicalResult).map CriterionResultV3.criterionId = results.map CriterionResultV3.criterionId := by
    intro results
    rw [List.map_map]
    rfl
  have sameResults : otherChosen.map canonicalResult = chosen.map canonicalResult := by
    refine eq_of_perm_of_keys CriterionResultV3.criterionId _ _ ?_ ?_ ?_
    · exact ((otherPerm.symm.map _).trans (reordered.results.map_perm _ canonical_result_eq).symm).trans (perm.map _)
    · rw [canonicalIds, canonicalIds, otherOrdered, ordered]
    · rw [canonicalIds, otherOrdered]
      exact otherCoherent.results_perm.nodup_iff.mp otherCoherent.results_once
  have normalizes : (index.criterionOrder.zip otherChosen).mapM (fun entry => normalizedResult index entry.1 entry.2) = .ok normalized := by
    rw [← normalizing, ← sameResults, List.zip_map_right, List.mapM_map]
    congr 1
    funext entry
    exact normalized_canonical
  have sameOutcome : outcomeOf otherChosen other.findings = outcomeOf (chosen.map canonicalResult) submission.findings := by
    rw [outcome_reorder reordered, ← sameResults]
    simp only [outcomeOf, List.any_map, Function.comp_def, canonicalResult]
  have noRows := (admission_rows_nil index other host).mpr otherCoherent
  unfold admitSubmission
  simp only [noRows, List.isEmpty_nil, Bool.not_true, refuseIf, Bool.false_eq_true, if_false, otherChoosing, bind, Except.bind,
    normalizes, sameOutcome, sameResults, canonical_findings_eq coherent reordered, reordered.schema]

theorem admit_refused (attempt : Nat) (incoherent : ¬ Coherent index submission) :
    ∃ failure, admitSubmission host index submission attempt = .error (.failure failure) := by
  have someRow : (admissionRows host index submission).isEmpty = false := by
    rw [List.isEmpty_eq_false_iff]
    exact fun empty => incoherent ((admission_rows_nil index submission host).mp empty)
  unfold admitSubmission
  simp [someRow, refuseIf, bind, Except.bind]

theorem admission_order_free (host : ValidationHost) (index : ValidationAuthorityIndex)
    (submission other : ValidationSubmissionV3) (attempt later : Nat) (reordered : SubmissionReordered submission other) :
    ((∃ admitted, admitSubmission host index submission attempt = .ok admitted ∧ admitSubmission host index other later = .ok admitted) ∨
      ∃ failure laterFailure, admitSubmission host index submission attempt = .error (.failure failure) ∧
        admitSubmission host index other later = .error (.failure laterFailure)) ∧
    ∀ admitted, admitSubmission host index submission attempt = .ok admitted →
      admitSubmission host index admitted.submission later = .ok admitted := by
  by_cases coherent : Coherent index submission
  · obtain ⟨canonical, verdict, canonicalReordered, -, shared⟩ := admit_sealed host coherent
    rw [shared submission (.refl submission), shared other reordered]
    rcases seal_answers host index attempt later canonical verdict with
      ⟨admitted, first, again, isCanonical, -⟩ | ⟨failure, laterFailure, first, again⟩
    · refine ⟨.inl ⟨admitted, first, again⟩, fun answer answered => ?_⟩
      rw [first] at answered
      cases answered
      rw [isCanonical, shared canonical canonicalReordered, again]
    · refine ⟨.inr ⟨failure, laterFailure, first, again⟩, fun answer answered => ?_⟩
      rw [first] at answered
      cases answered
  · have otherIncoherent : ¬ Coherent index other := fun holds => coherent (holds.reorder reordered.symm)
    obtain ⟨failure, refused⟩ := admit_refused host attempt coherent
    obtain ⟨laterFailure, laterRefused⟩ := admit_refused host later otherIncoherent
    refine ⟨.inr ⟨failure, laterFailure, refused, laterRefused⟩, fun answer answered => ?_⟩
    rw [refused] at answered
    cases answered

def sampleHost : ValidationHost where
  boundedDiagnosticString := id
  stringListSummary := fun _ => "@summary"
  duplicateListSummary := fun _ => "@summary"
  submissionBytes := fun _ => .ok []
  readVerdict := fun _ => .ok ()
  verdictBytes := fun _ => .ok []

def sampleCriterion (criterionId : Id) : ValidationAuthorityCriterion :=
  ⟨criterionId, ["src/a.rs"], [], [], ["source:a", "diff:a"], ["approved-command-receipt:a"], []⟩

def sampleAuthority : ValidationEvidenceAuthority :=
  ⟨"validation", "assignment", "commit", "tree", "digest", [sampleCriterion "a", sampleCriterion "b"], [⟨"source:a", 10⟩],
    ["diff:a"]⟩

def sampleFinding (criterionIds : List Id) : FindingV3 :=
  ⟨"f", .testDefect, .forwardBlocking, "summary", "detail", criterionIds, ["diff:a"], []⟩

def sampleSubmission : ValidationSubmissionV3 :=
  ⟨submissionSchema, [⟨"b", .FAIL, ["source:a", "diff:a"], ["f"]⟩, ⟨"a", .FAIL, ["diff:a"], ["f"]⟩], [sampleFinding ["b", "a"]]⟩

def swappedSubmission : ValidationSubmissionV3 :=
  ⟨submissionSchema, [⟨"a", .FAIL, ["diff:a"], ["f"]⟩, ⟨"b", .FAIL, ["diff:a", "source:a"], ["f"]⟩], [sampleFinding ["a", "b"]]⟩

theorem sample_swapped : SubmissionReordered sampleSubmission swappedSubmission :=
  ⟨rfl, ⟨_, .swap _ _ _, .cons ⟨rfl, rfl, .refl _, .refl _⟩ (.cons ⟨rfl, rfl, .swap _ _ _, .refl _⟩ .nil)⟩,
    ⟨_, .refl _, .cons ⟨rfl, rfl, rfl, rfl, rfl, .swap _ _ _, .refl _, .refl _⟩ .nil⟩⟩

theorem swapped_submission_admitted : (∃ admitted, admitSubmission sampleHost (indexOf sampleAuthority) sampleSubmission 0 = .ok admitted ∧
      admitSubmission sampleHost (indexOf sampleAuthority) swappedSubmission 1 = .ok admitted) := by
  have agrees := (admission_order_free sampleHost (indexOf sampleAuthority) _ _ 0 1 sample_swapped).1
  refine agrees.resolve_right ?_
  rintro ⟨failure, laterFailure, refused, -⟩
  have admits : (admitSubmission sampleHost (indexOf sampleAuthority) sampleSubmission 0).isOk = true := by decide +kernel
  rw [refused] at admits
  cases admits

end PiAutopilot.Validation
