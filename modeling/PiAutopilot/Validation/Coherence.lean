import PiAutopilot.Validation.Submission

set_option autoImplicit false

namespace PiAutopilot.Validation

open Lib

theorem has_duplicates_false (values : List String) : hasDuplicates values = false ↔ values.Nodup := by
  rw [hasDuplicates, sortedSet, List.length_insertionSort, bne_eq_false_iff_eq, (List.dedup_sublist values).length_eq, List.dedup_eq_self]

theorem duplicate_rows_nil (host : ValidationHost) (values : List String) : duplicateRows host values = [] ↔ values.Nodup := by
  have none_twice : ((counts values).filter fun entry => 1 < entry.2) = [] ↔ values.Nodup := by
    rw [List.filter_eq_nil_iff, List.nodup_iff_count_le_one]
    simp only [counts, List.forall_mem_map, mem_sorted_set, decide_eq_true_eq, not_lt]
    refine ⟨fun once value => ?_, fun once value _ => once value⟩
    by_cases member : value ∈ values
    · exact once value member
    · simp [List.count_eq_zero_of_not_mem member]
  rw [← none_twice, duplicateRows]
  generalize (counts values).filter (fun entry => 1 < entry.2) = raw
  by_cases many : maxDiagnosticListItems < raw.length
  · have filled : raw ≠ [] := by
      rintro rfl
      simp at many
    simp [many, filled]
  · simp [many]

theorem get_own_counts (values : List String) (value : String) : (getOwn (counts values) value).getD 0 = values.count value := by
  have keys : (counts values).map Prod.fst = sortedSet values := by simp [counts, Function.comp_def]
  by_cases member : value ∈ values
  · rw [(get_own_iff (keys ▸ sorted_set_nodup) value (values.count value)).mpr]
    · rfl
    · simpa [counts] using member
  · have absent : getOwn (counts values) value = none := by
      rw [← Option.not_isSome_iff_eq_none, get_own_isSome, keys, mem_sorted_set]
      exact member
    simp [absent, List.count_eq_zero_of_not_mem member]

theorem nothing_missing (expected actual : List String) :
    (difference expected actual).1 = [] ↔ ∀ value ∈ expected, expected.count value ≤ actual.count value := by
  simp only [difference, List.flatMap_eq_nil_iff, List.replicate_eq_nil_iff, get_own_counts]
  simp [counts, Nat.sub_eq_zero_iff_le]

theorem exact_unchanged (host : ValidationHost) (expected actual : List String) :
    (multisetMismatch host expected actual).changedExact = false ↔ actual.Nodup ∧ actual.Perm expected := by
  have expectedPerm := List.perm_insertionSort (· ≤ ·) expected
  have actualPerm := List.perm_insertionSort (· ≤ ·) actual
  have extra : ∀ left right, (difference left right).2 = (difference right left).1 := fun _ _ => rfl
  simp only [multisetMismatch, Mismatch.changedExact, Bool.or_eq_false_iff, Bool.not_eq_false', List.isEmpty_iff,
    extra, nothing_missing, duplicate_rows_nil, sortedStrings, expectedPerm.count_eq, actualPerm.count_eq, expectedPerm.mem_iff,
    actualPerm.mem_iff, actualPerm.nodup_iff]
  refine ⟨fun ⟨⟨below, above⟩, distinct⟩ => ⟨distinct, List.perm_iff_count.mpr fun value => ?_⟩, fun ⟨distinct, perm⟩ => ?_⟩
  · by_cases inActual : value ∈ actual
    · have least := above value inActual
      have inExpected : value ∈ expected := List.count_pos_iff.mp (lt_of_lt_of_le (List.count_pos_iff.mpr inActual) least)
      exact le_antisymm least (below value inExpected)
    · have inExpected : value ∉ expected := fun member => inActual
        (List.count_pos_iff.mp (lt_of_lt_of_le (List.count_pos_iff.mpr member) (below value member)))
      rw [List.count_eq_zero_of_not_mem inActual, List.count_eq_zero_of_not_mem inExpected]
  · exact ⟨⟨fun value _ => (perm.count_eq value).ge, fun value _ => (perm.count_eq value).le⟩, distinct⟩

theorem subset_unchanged (host : ValidationHost) (allowed cited : List String) :
    (multisetSubset host allowed cited).changedSubset = false ↔ cited.Nodup ∧ ∀ value ∈ cited, value ∈ allowed := by
  have allowedPerm := List.perm_insertionSort (· ≤ ·) allowed
  have citedPerm := List.perm_insertionSort (· ≤ ·) cited
  have extra : ∀ left right, (difference left right).2 = (difference right left).1 := fun _ _ => rfl
  simp only [multisetSubset, Mismatch.changedSubset, Bool.or_eq_false_iff, Bool.not_eq_false', List.isEmpty_iff,
    extra, nothing_missing, duplicate_rows_nil, sortedStrings, allowedPerm.count_eq, citedPerm.count_eq, citedPerm.mem_iff,
    citedPerm.nodup_iff]
  refine ⟨fun ⟨below, distinct⟩ => ⟨distinct, fun value member => ?_⟩, fun ⟨distinct, inside⟩ => ⟨fun value member => ?_, distinct⟩⟩
  · exact List.count_pos_iff.mp (lt_of_lt_of_le (List.count_pos_iff.mpr member) (below value member))
  · exact (List.nodup_iff_count_le_one.mp distinct value).trans (List.count_pos_iff.mpr (inside value member))

theorem filter_covers (values : List String) (kept : String → Bool) :
    (difference values (values.filter kept)).1 = [] ↔ ∀ value ∈ values, kept value = true := by
  rw [nothing_missing]
  refine forall₂_congr fun value member => ⟨fun below => ?_, fun holds => ?_⟩
  · exact (List.mem_filter.mp (List.count_pos_iff.mp (lt_of_lt_of_le (List.count_pos_iff.mpr member) below))).2
  · rw [List.count_filter holds]

theorem mem_allowed_finding_citations (criteria : List (Id × ValidationAuthorityCriterion)) (ids : List Id) (reference : Ref) :
    reference ∈ allowedFindingCitations criteria ids ↔ (∃ id ∈ ids, (getOwn criteria id).isSome) ∧
      ∀ id ∈ ids, ∀ criterion, getOwn criteria id = some criterion → reference ∈ criterion.allowedCitationRefs := by
  have narrowed : ∀ (rest : List ValidationAuthorityCriterion) (start : List String),
      reference ∈ rest.foldl (fun allowed criterion => allowed.filter (· ∈ criterion.allowedCitationRefs)) start ↔
        reference ∈ start ∧ ∀ criterion ∈ rest, reference ∈ criterion.allowedCitationRefs := by
    intro rest
    induction rest with
    | nil => simp
    | cons first rest ih =>
      intro start
      rw [List.foldl_cons, ih, List.mem_filter, List.forall_mem_cons, decide_eq_true_iff, and_assoc]
  have known : ∀ criterion, criterion ∈ ids.filterMap (getOwn criteria) ↔ ∃ id ∈ ids, getOwn criteria id = some criterion :=
    fun criterion => List.mem_filterMap
  have allKnown : (∀ id ∈ ids, ∀ criterion, getOwn criteria id = some criterion → reference ∈ criterion.allowedCitationRefs) ↔
      ∀ criterion ∈ ids.filterMap (getOwn criteria), reference ∈ criterion.allowedCitationRefs := by
    simp only [known, forall_exists_index, and_imp]
    exact ⟨fun each criterion id member => each id member criterion, fun each id member criterion => each criterion id member⟩
  have someKnown : (∃ id ∈ ids, (getOwn criteria id).isSome) ↔ ids.filterMap (getOwn criteria) ≠ [] := by
    simp [List.filterMap_eq_nil_iff, Option.isSome_iff_ne_none]
  rw [allKnown, someKnown, allowedFindingCitations]
  cases ids.filterMap (getOwn criteria) with
  | nil => simp
  | cons first rest => simp [narrowed]

theorem mem_blocking_findings (submission : ValidationSubmissionV3) (result : CriterionResultV3) (finding : FindingV3) :
    finding ∈ blockingFindings submission result ↔
      finding ∈ submission.findings ∧ finding.findingId ∈ result.findingIds ∧ finding.effect = .forwardBlocking := by
  simp only [blockingFindings, List.mem_filter, List.mem_flatMap, beq_iff_eq]
  exact ⟨fun ⟨⟨_, linked, member, same⟩, blocks⟩ => ⟨member, same ▸ linked, blocks⟩,
    fun ⟨member, linked, blocks⟩ => ⟨⟨_, linked, member, rfl⟩, blocks⟩⟩

section Sound

variable (index : ValidationAuthorityIndex) (submission : ValidationSubmissionV3)

/-- Citations the authority allows: each once, none a receipt, and each allowed by every known criterion it is for. -/
structure Cites (references : List Ref) (criterionIds : List Id) : Prop where
  some_cited : references ≠ []
  cited_once : references.Nodup
  citable : ∀ reference ∈ references, uncitable index reference = false
  allowed : ∀ reference ∈ references, ∀ id ∈ criterionIds, ∀ criterion, getOwn index.criteria id = some criterion →
    reference ∈ criterion.allowedCitationRefs

structure ResultSound (result : CriterionResultV3) : Prop where
  findings_known : ∀ id ∈ result.findingIds, id ∈ submission.findings.map FindingV3.findingId
  findings_once : result.findingIds.Nodup
  cites : Cites index result.citationRefs [result.criterionId]

structure FindingSound (finding : FindingV3) : Prop where
  named : isBlank finding.findingId = false
  named_once : (submission.findings.map FindingV3.findingId).count finding.findingId ≤ 1
  summarized : isBlank finding.summary = false
  detailed : isBlank finding.detail = false
  some_criterion : finding.criterionIds ≠ []
  criteria_once : finding.criterionIds.Nodup
  criteria_known : ∀ id ∈ finding.criterionIds, id ∈ index.criterionOrder
  cites : Cites index finding.citationRefs finding.criterionIds
  locations_valid : ∀ location ∈ finding.sourceLocations, locationValid index finding location = true
  locations_once : (finding.sourceLocations.map locationText).Nodup
  located : finding.kind = .sourceDefect → finding.sourceLocations ≠ [] ∧
    ∃ reference ∈ finding.citationRefs, (getOwn index.sourceEvidence reference).isSome

def Blocks (result : CriterionResultV3) (finding : FindingV3) : Prop :=
  finding ∈ submission.findings ∧ finding.findingId ∈ result.findingIds ∧ finding.effect = .forwardBlocking

def VerdictSupported (result : CriterionResultV3) : Prop :=
  match result.verdict with
  | .PASS => ∀ finding, ¬ Blocks submission result finding
  | .FAIL => ∃ finding, Blocks submission result finding ∧ finding.kind.isDefect
  | .BLOCKED => ∃ finding, Blocks submission result finding ∧ finding.kind.isGap

def ResultLinked (result : CriterionResultV3) : Prop :=
  (getOwn index.criteria result.criterionId).isSome →
    (∀ id ∈ result.findingIds, ∃ finding ∈ submission.findings, finding.findingId = id ∧
      result.criterionId ∈ finding.criterionIds) ∧ VerdictSupported submission result

def FindingLinked (finding : FindingV3) : Prop :=
  (∀ id ∈ finding.criterionIds, ∃ result ∈ submission.criterionResults, result.criterionId = id ∧
    finding.findingId ∈ result.findingIds) ∧
  (finding.effect = .forwardBlocking →
    ∀ result ∈ submission.criterionResults, result.criterionId ∈ finding.criterionIds → result.verdict ≠ .PASS)

structure Coherent : Prop where
  schema : submission.schema = submissionSchema
  results_once : (submission.criterionResults.map CriterionResultV3.criterionId).Nodup
  results_perm : (submission.criterionResults.map CriterionResultV3.criterionId).Perm index.criterionOrder
  results_sound : ∀ result ∈ submission.criterionResults, ResultSound index submission result
  findings_sound : ∀ finding ∈ submission.findings, FindingSound index submission finding
  results_linked : ∀ result ∈ submission.criterionResults, ResultLinked index submission result
  findings_linked : ∀ finding ∈ submission.findings, FindingLinked submission finding

variable (host : ValidationHost)

theorem row_if_nil (refused : Bool) (row : MismatchRow) : (if refused then [row] else []) = [] ↔ refused = false := by
  cases refused <;> simp

theorem result_rows_nil (position : Nat) (result : CriterionResultV3) :
    resultRows host index submission position result = [] ↔ ResultSound index submission result := by
  have linked : (!(result.findingIds.filter (· ∉ submission.findings.map FindingV3.findingId)).isEmpty ||
      hasDuplicates result.findingIds) = false ↔
        (∀ id ∈ result.findingIds, id ∈ submission.findings.map FindingV3.findingId) ∧ result.findingIds.Nodup := by
    simp only [Bool.or_eq_false_iff, Bool.not_eq_false', List.isEmpty_iff, List.filter_eq_nil_iff, decide_eq_true_eq, not_not,
      has_duplicates_false]
  simp only [resultRows, List.append_eq_nil_iff, row_if_nil, linked]
  cases known : getOwn index.criteria result.criterionId with
  | none =>
    simp only [row_if_nil, Bool.or_eq_false_iff, Bool.not_eq_false', List.isEmpty_iff, List.filter_eq_nil_iff,
      has_duplicates_false, List.isEmpty_eq_false_iff, Bool.not_eq_true]
    refine ⟨?_, fun sound => ⟨⟨sound.1, sound.2⟩, ⟨sound.cites.1, sound.cites.3⟩, sound.cites.2⟩⟩
    rintro ⟨⟨inside, once⟩, ⟨cited, citable⟩, citedOnce⟩
    exact ⟨inside, once, cited, citedOnce, citable, by simp [known]⟩
  | some criterion =>
    have sorted := List.perm_insertionSort (· ≤ ·) criterion.allowedCitationRefs
    simp only [row_if_nil, Bool.or_eq_false_iff, subset_unchanged, List.isEmpty_eq_false_iff, List.any_eq_false,
      Bool.not_eq_true, sortedStrings, sorted.mem_iff]
    refine ⟨?_, fun sound => ⟨⟨sound.1, sound.2⟩, ⟨sound.cites.1, sound.cites.2, fun reference member => ?_⟩, sound.cites.3⟩⟩
    · rintro ⟨⟨inside, once⟩, ⟨cited, citedOnce, allowed⟩, citable⟩
      exact ⟨inside, once, cited, citedOnce, citable, by simpa [known] using allowed⟩
    · exact sound.cites.4 reference member _ List.mem_cons_self criterion known

theorem finding_rows_nil (position : Nat) (finding : FindingV3) :
    findingRows host index submission position finding = [] ↔ FindingSound index submission finding := by
  simp only [findingRows, List.append_eq_nil_iff, row_if_nil, Bool.or_eq_false_iff, Bool.and_eq_false_iff, subset_unchanged,
    has_duplicates_false, List.isEmpty_eq_false_iff, List.any_eq_false, Bool.not_eq_true, Bool.not_eq_false', List.isEmpty_iff,
    List.map_eq_nil_iff, List.filter_eq_nil_iff, decide_eq_false_iff_not, not_lt, mem_allowed_finding_citations,
    beq_eq_false_iff_ne, List.any_eq_true]
  constructor
  · rintro ⟨⟨⟨⟨⟨⟨⟨named, once⟩, summarized⟩, detailed⟩, someId, idsOnce, idsKnown⟩, ⟨cited, citedOnce, allowed⟩, citable⟩,
      valid, locationsOnce⟩, located⟩
    refine ⟨named, once, summarized, detailed, someId, idsOnce, idsKnown, ⟨cited, citedOnce, citable, fun reference member =>
      (allowed reference member).2⟩, valid, locationsOnce, fun isDefect => ?_⟩
    exact located.resolve_left fun other => other isDefect
  · intro sound
    obtain ⟨id, member⟩ := List.exists_mem_of_ne_nil _ sound.some_criterion
    have known : ∃ id ∈ finding.criterionIds, (getOwn index.criteria id).isSome :=
      ⟨id, member, index.criteria_known id (sound.criteria_known id member)⟩
    refine ⟨⟨⟨⟨⟨⟨⟨sound.1, sound.2⟩, sound.3⟩, sound.4⟩, sound.5, sound.6, sound.7⟩, ⟨sound.cites.1, sound.cites.2,
      fun reference cited => ⟨known, sound.cites.4 reference cited⟩⟩, sound.cites.3⟩, sound.9, sound.10⟩, ?_⟩
    exact or_iff_not_imp_left.mpr fun isDefect => sound.located (not_not.mp isDefect)

theorem verdict_coherent (result : CriterionResultV3) :
    result.verdict.coherent (blockingFindings submission result) = true ↔ VerdictSupported submission result := by
  unfold VerdictSupported CriterionVerdict.coherent
  cases result.verdict with
  | PASS => simp only [List.isEmpty_iff, List.eq_nil_iff_forall_not_mem, mem_blocking_findings, Blocks]
  | FAIL => simp only [List.any_eq_true, mem_blocking_findings, Blocks]
  | BLOCKED => simp only [List.any_eq_true, mem_blocking_findings, Blocks]

theorem link_rows_nil (position : Nat) (result : CriterionResultV3) :
    linkRows host index submission position result = [] ↔ ResultLinked index submission result := by
  unfold linkRows ResultLinked
  cases known : getOwn index.criteria result.criterionId with
  | none => simp
  | some criterion =>
    simp only [Option.isNone_some, Bool.false_eq_true, if_false, List.append_eq_nil_iff, row_if_nil, Bool.not_eq_false',
      List.isEmpty_iff, filter_covers, verdict_coherent, List.any_eq_true, Bool.and_eq_true, beq_iff_eq, List.contains_iff_mem,
      Option.isSome_some, forall_true_left]

theorem effect_rows_nil (position : Nat) (finding : FindingV3) :
    effectRows host submission position finding = [] ↔ FindingLinked submission finding := by
  unfold effectRows FindingLinked
  rw [List.append_eq_nil_iff, row_if_nil, row_if_nil, Bool.not_eq_false', List.isEmpty_iff, filter_covers]
  simp only [List.any_eq_true, Bool.and_eq_true, beq_iff_eq, List.contains_iff_mem, Bool.and_eq_false_iff, beq_eq_false_iff_ne,
    List.any_eq_false, not_exists, not_and]
  refine and_congr_right fun _ => or_iff_not_imp_left.trans (imp_congr not_not ?_)
  exact ⟨fun each result member linked => each _ linked result member rfl,
    fun each id linked result member same => each result member (same ▸ linked)⟩

theorem positioned_rows_nil {α : Type} {rows : Nat → α → List MismatchRow} {sound : α → Prop}
    (each : ∀ position item, rows position item = [] ↔ sound item) (items : List α) :
    (items.zipIdx.flatMap fun entry => rows entry.2 entry.1) = [] ↔ ∀ item ∈ items, sound item := by
  simp only [List.flatMap_eq_nil_iff, each]
  refine ⟨fun all item member => ?_, fun all entry member => all _ (List.fst_mem_of_mem_zipIdx member)⟩
  rw [← List.zipIdx_map_fst 0 items] at member
  obtain ⟨entry, inside, rfl⟩ := List.mem_map.mp member
  exact all entry inside

theorem admission_rows_nil : admissionRows host index submission = [] ↔ Coherent index submission := by
  simp only [admissionRows, List.append_eq_nil_iff, row_if_nil, bne_eq_false_iff_eq, exact_unchanged,
    positioned_rows_nil (result_rows_nil index submission host), positioned_rows_nil (finding_rows_nil index submission host),
    positioned_rows_nil (link_rows_nil index submission host), positioned_rows_nil (effect_rows_nil submission host)]
  exact ⟨fun ⟨⟨⟨⟨⟨schema, once, perm⟩, results⟩, findings⟩, links⟩, effects⟩ =>
      ⟨schema, once, perm, results, findings, links, effects⟩,
    fun coherent => ⟨⟨⟨⟨⟨coherent.1, coherent.2, coherent.3⟩, coherent.4⟩, coherent.5⟩, coherent.6⟩, coherent.7⟩⟩

end Sound

end PiAutopilot.Validation
