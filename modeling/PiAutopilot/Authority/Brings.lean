import PiAutopilot.Authority.Admission
import PiAutopilot.Lib.Fallible

set_option autoImplicit false

namespace PiAutopilot.Authority

open Lib Protocol

-- The fact that an accepted finding becomes: a blocking one comes with its corrector.
inductive FindingFact (finding : Finding) : FactBody → Prop where
  | nonblocking (isNonblocking : blockingKind finding.kind = false) : FindingFact finding (.findingAccepted (.nonblocking finding))
  | blocking (correction : CorrectionAssignment) (isBlocking : blockingKind finding.kind = true) :
      FindingFact finding (.findingAccepted (.blockingWithCorrection correction finding))

inductive SubmittedFact (stimulus : SubmissionReady) : FactBody → Prop where
  | plan (payload : AcceptPlan) (fact : PlanRootAccepted) (submitted : stimulus.submissionPayload = .acceptPlan payload) :
      SubmittedFact stimulus (.planRootAccepted fact)
  | disposition (disposition : AtomDisposition) (submitted : stimulus.submissionPayload = .dispositionAtom disposition) :
      SubmittedFact stimulus (.atomDispositioned disposition)
  | output (diff : ArtifactRef) (evidence : List ArtifactRef) (submissionId : SubmissionId) (fact : WorkOutputAccepted)
      (submitted : stimulus.submissionPayload = .acceptWorkOutput diff evidence submissionId) :
      SubmittedFact stimulus (.workOutputAccepted fact)
  | finding (finding : Finding) (body : FactBody) (submitted : stimulus.submissionPayload = .acceptFinding finding)
      (becomes : FindingFact finding body) : SubmittedFact stimulus body
  | clearing (payload : FindingCleared) (submitted : stimulus.submissionPayload = .clearFinding payload) :
      SubmittedFact stimulus (.findingCleared payload)
  | candidate (payload : CandidatePayload) (submitted : stimulus.submissionPayload = .acceptCandidate payload) :
      SubmittedFact stimulus (.candidateAccepted (payload.accepted stimulus.planRootId))
  | attestations (payload : FinalAttestationsRecorded)
      (submitted : stimulus.submissionPayload = .recordFinalAttestations payload) :
      SubmittedFact stimulus (.finalAttestationsRecorded payload)

inductive ObservedFact (stimulus : CommandObservationReceived) : FactBody → Prop where
  | route (route : RouteVerification) (fact : RouteVerificationObserved)
      (observed : stimulus.observationPayload = .routeVerified route) :
      ObservedFact stimulus (.routeVerificationObserved fact)
  | evidence (evidence : EvidenceFact) (observed : stimulus.observationPayload = .evidenceObserved evidence) :
      ObservedFact stimulus (.evidenceObserved evidence)
  | finding (finding : Finding) (body : FactBody) (observed : stimulus.observationPayload = .validationFinding finding)
      (becomes : FindingFact finding body) : ObservedFact stimulus body
  | candidate (payload : CandidatePayload) (planRootId : PlanRootId)
      (observed : stimulus.observationPayload = .candidateIntegrated payload planRootId) :
      ObservedFact stimulus (.candidateAccepted (payload.accepted planRootId))
  | conflict (artifact : ArtifactRef) (owner : WorkItemId) (planRootId : PlanRootId) (subject : ArtifactRoot) (body : FactBody)
      (observed : stimulus.observationPayload = .integrationConflict artifact owner planRootId subject)
      (becomes : FindingFact (conflictFinding stimulus artifact owner subject) body) : ObservedFact stimulus body
  | publication (payload : PublicationObserved) (observed : stimulus.observationPayload = .publicationObserved payload) :
      ObservedFact stimulus (.publicationObserved payload)
  | movedHead (payload : PublicationObserved) (plan : CurrentPlanState) (candidate : CurrentCandidateState) (body : FactBody)
      (observed : stimulus.observationPayload = .publicationObserved payload) (moved : payload.status = .headMoved)
      (becomes : FindingFact (movedHeadFinding stimulus plan candidate) body) : ObservedFact stimulus body

-- The facts that admission can make of a stimulus.
inductive Brings : Stimulus → FactBody → Prop where
  | request (stimulus : BoundaryRequestReceived) :
      Brings (.boundaryRequestReceived stimulus) (requestFact stimulus.requestPayload)
  | submission (stimulus : SubmissionReady) (body : FactBody) (submitted : SubmittedFact stimulus body) :
      Brings (.submissionReady stimulus) body
  | observation (stimulus : CommandObservationReceived) (body : FactBody) (observed : ObservedFact stimulus body) :
      Brings (.commandObservationReceived stimulus) body

section Brings

variable [Hashing] {state : RunState}
  {actionId : ActionId} {finding : Finding} {pages : List IndexPage} {allowed : FactBody → Prop}
  {stimulus : CommandObservationReceived}

theorem blocking_correction_brings {blocking : BlockingFinding} (isBlocking : blockingKind finding.kind = true) :
    SucceedsOnly (fun fact => FindingFact finding fact.body) (blockingCorrection state actionId pages finding blocking) := by
  rw [blockingCorrection]
  split
  · exact succeeds_only_error
  · dsimp only
    split
    · exact succeeds_only_error
    · exact (succeeds_only_ok).mpr (.blocking _ isBlocking)
    · exact succeeds_only_error

theorem correction_fact_brings :
    SucceedsOnly (fun fact => FindingFact finding fact.body) (correctionFact state actionId pages finding) := by
  cases finding with
  | planningGap gap =>
    rw [correctionFact]
    split
    · exact succeeds_only_error
    · exact (succeeds_only_ok).mpr (.nonblocking rfl)
  | advisory finding => exact (succeeds_only_ok).mpr (.nonblocking rfl)
  | integrity finding => exact blocking_correction_brings rfl
  | definitionOfDone finding => exact blocking_correction_brings rfl

theorem submission_fact_brings {stimulus : SubmissionReady} :
    SucceedsOnly (fun fact => SubmittedFact stimulus fact.body) (submissionFact state stimulus) := by
  rw [submissionFact]
  split
  · rename_i payload submitted
    exact (succeeds_only_ok).mpr (.plan payload _ submitted)
  · rename_i disposition submitted
    exact (succeeds_only_ok).mpr (.disposition disposition submitted)
  · rename_i diff evidence submissionId submitted
    exact (succeeds_only_ok).mpr (.output diff evidence submissionId _ submitted)
  · rename_i finding submitted
    exact fun fact found => .finding finding _ submitted (correction_fact_brings fact found)
  · rename_i payload submitted
    exact (succeeds_only_ok).mpr (.clearing payload submitted)
  · exact succeeds_only_error
  · rename_i payload submitted
    split
    · exact succeeds_only_error
    · exact (succeeds_only_ok).mpr (.candidate payload submitted)
  · rename_i payload submitted
    exact (succeeds_only_ok).mpr (.attestations payload submitted)

-- Every fact of the list is one the stimulus can bring.
def OnlyFacts (allowed : FactBody → Prop) (result : AdmissionResult) : Prop :=
  SucceedsOnly (fun facts => ∀ fact ∈ facts, allowed fact.body) result

omit [Hashing] in
theorem only_fact {fact : DomainFact} (held : allowed fact.body) : OnlyFacts allowed (.ok [fact]) :=
  (succeeds_only_ok).mpr fun other member => by rwa [List.mem_singleton.mp member]

omit [Hashing] in
theorem only_fact_bind {result : Except Feedback DomainFact}
    (held : SucceedsOnly (fun fact => allowed fact.body) result) : OnlyFacts allowed (result >>= fun fact => pure [fact]) :=
  succeeds_only_bind held fun fact allowedFact => only_fact allowedFact

variable {state : RunState}

theorem publication_facts_bring {payload : PublicationObserved}
    (observed : stimulus.observationPayload = .publicationObserved payload) :
    OnlyFacts (ObservedFact stimulus) (publicationFacts state stimulus payload) := by
  rw [publicationFacts]
  split
  · exact succeeds_only_error
  · dsimp only
    split
    · exact only_fact (.publication payload observed)
    · rename_i moved
      split
      · rename_i plan candidate _ _
        refine succeeds_only_bind (correction_fact_brings) fun correction becomes => ?_
        refine (succeeds_only_ok).mpr fun fact member => ?_
        rcases List.mem_cons.mp member with rfl | later
        · exact .publication payload observed
        · rw [List.mem_singleton.mp later]
          exact .movedHead payload plan candidate _ observed moved becomes
      · exact succeeds_only_error

theorem observation_facts_bring : OnlyFacts (ObservedFact stimulus) (observationFacts state stimulus) := by
  rw [observationFacts]
  split
  · rename_i route observed
    exact only_fact (.route route _ observed)
  · rename_i evidence observed
    exact only_fact (.evidence evidence observed)
  · rename_i finding observed
    exact only_fact_bind fun fact found =>
      .finding finding _ observed (correction_fact_brings fact found)
  · rename_i payload planRootId observed
    split
    · exact succeeds_only_error
    · exact only_fact (.candidate payload planRootId observed)
  · rename_i artifact owner planRootId subject observed
    exact only_fact_bind fun fact found =>
      .conflict artifact owner planRootId subject _ observed (correction_fact_brings fact found)
  · rename_i payload observed
    exact publication_facts_bring observed
  · exact (succeeds_only_ok).mpr fun fact member => by cases member

theorem admission_brings {stimulus : Stimulus} : OnlyFacts (Brings stimulus) (dispatchAdmission state stimulus) := by
  cases stimulus with
  | boundaryRequestReceived stimulus =>
    refine succeeds_only_bind (fun _ _ => trivial) fun _ _ => ?_
    exact only_fact (.request stimulus)
  | submissionReady stimulus =>
    refine succeeds_only_bind (fun _ _ => trivial) fun _ _ => ?_
    refine succeeds_only_bind (fun _ _ => trivial) fun _ _ => ?_
    exact only_fact_bind fun fact found => .submission stimulus _ (submission_fact_brings fact found)
  | commandObservationReceived stimulus =>
    refine succeeds_only_bind (fun _ _ => trivial) fun _ _ => ?_
    refine succeeds_only_bind (fun _ _ => trivial) fun _ _ => ?_
    split
    · exact fun facts found fact member =>
        .observation stimulus _ (observation_facts_bring facts found fact member)
    · exact succeeds_only_error
  | runReplayCompleted stimulus =>
    refine succeeds_only_bind (fun _ _ => trivial) fun _ _ => ?_
    split
    · exact (succeeds_only_ok).mpr fun fact member => by cases member
    · exact succeeds_only_error
  | operatorSuspendRequested stimulus =>
    refine succeeds_only_bind (fun _ _ => trivial) fun _ _ => ?_
    split
    · exact (succeeds_only_ok).mpr fun fact member => by cases member
    · exact succeeds_only_error
  | operatorResumeRequested stimulus =>
    refine succeeds_only_bind (fun _ _ => trivial) fun _ _ => ?_
    split
    · exact succeeds_only_error
    · split
      · exact (succeeds_only_ok).mpr fun fact member => by cases member
      · exact succeeds_only_error

end Brings

end PiAutopilot.Authority
