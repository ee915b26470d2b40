import PiAutopilot.Planning.LateWave

set_option autoImplicit false

/-! # The cap over all planning waves

Open slots are counted from the attempts of one wave.  They bound the attempts of all waves as long as no second wave
starts while one is in flight. -/

namespace PiAutopilot.Planning

open Lib

def inFlight (refs : PlanningRefs) : List AttemptRef :=
  refs.issued.filter fun issued => !acceptedExact issued refs && !terminalFailureExact issued refs

inductive PlanningEvent where
  | issue (actionId : Text → Text) (runRevision : Nat)
  | acknowledge (ack : PlanningLaunchAckRef)
  | accept (attempt : AttemptRef)
  | fail (failure : PlanningTerminalFailureRef)
  | activate (activationRef : Text)

section Run

variable (package : Package) (manifest : PlanningManifest) (cap : Nat)

-- A result is taken only from a child that is not terminal, and a child with a result is no failure.
def afterEvent (refs : PlanningRefs) : PlanningEvent → Option PlanningRefs
  | .issue actionId runRevision =>
    match nextPlanningWave package manifest refs cap with
    | .launch _ assignments => some { refs with issued := refs.issued ++ assignments.map fun assignment =>
      { assignmentId := assignment.assignmentId, actionId := actionId assignment.assignmentId, runRevision } }
    | _ => none
  | .acknowledge ack => some { refs with launchAcks := refs.launchAcks ++ [ack] }
  | .accept attempt =>
    if refs.issued.contains attempt && !terminalFailureExact attempt refs then some { refs with accepted := refs.accepted ++ [attempt] }
    else none
  | .fail failure =>
    if refs.issued.contains failure.toAttemptRef && !acceptedExact failure.toAttemptRef refs then
      some { refs with terminalFailures := refs.terminalFailures ++ [failure] }
    else none
  | .activate activationRef => some { refs with activationRefs := refs.activationRefs ++ [activationRef] }

def runEvents (events : List PlanningEvent) : Option PlanningRefs :=
  events.foldlM (afterEvent package manifest cap) ⟨[], [], [], [], []⟩

def waveIds (wave : PlanningWaveDeclaration) : List Text := (waveAssignments manifest wave).map (·.assignmentId)

/-- A wave that becomes active is not declared before a wave in flight, and that wave does not depend on it. -/
def Orderly (refs : PlanningRefs) : PlanningEvent → Prop
  | .activate activationRef => ∀ before wave after, manifest.waves = before ++ wave :: after →
      (∃ attempt ∈ inFlight refs, attempt.assignmentId ∈ waveIds manifest wave) →
      ∀ other ∈ manifest.waves, other.activationRef = some activationRef → waveIsInactive other refs = true →
        ¬ AllAccepted manifest other refs → other ∉ before ∧ other.id ∉ wave.dependencies
  | _ => True

def OrderlyRun (events : List PlanningEvent) : Prop :=
  ∀ done event rest refs, events = done ++ event :: rest → runEvents package manifest cap done = some refs →
    Orderly manifest refs event

variable {manifest} {attempt : AttemptRef} {refs : PlanningRefs} {other : PlanningWaveDeclaration}

theorem mem_in_flight :
    attempt ∈ inFlight refs ↔ attempt ∈ refs.issued ∧ attempt ∉ refs.accepted ∧ terminalFailureExact attempt refs = false := by
  simp [inFlight, acceptedExact]

structure FliesIn (manifest : PlanningManifest) (refs : PlanningRefs) (wave : PlanningWaveDeclaration) : Prop where
  stops : ∃ before after, StopsAt manifest refs manifest.waves before wave after
  active : waveIsInactive wave refs = false
  attempts : ∀ attempt ∈ inFlight refs, attempt.assignmentId ∈ waveIds manifest wave

structure WithinCap (manifest : PlanningManifest) (cap : Nat) (refs : PlanningRefs) : Prop where
  once : (refs.issued.map AttemptRef.assignmentId).Nodup
  oneWave : inFlight refs ≠ [] → ∃ wave, FliesIn manifest refs wave
  bounded : (inFlight refs).length ≤ min cap manifest.planningWaveCap

theorem issued_once (once : (refs.issued.map AttemptRef.assignmentId).Nodup) {left right : AttemptRef}
    (isLeft : left ∈ refs.issued) (isRight : right ∈ refs.issued) (same : left.assignmentId = right.assignmentId) : left = right :=
  List.inj_on_of_nodup_map once isLeft isRight same

theorem in_flight_incomplete (once : (refs.issued.map AttemptRef.assignmentId).Nodup)
    {wave : PlanningWaveDeclaration} (active : waveIsInactive wave refs = false)
    (flies : attempt ∈ inFlight refs) (inWave : attempt.assignmentId ∈ waveIds manifest wave) :
    barrierStatus manifest wave refs ≠ .complete := by
  rw [Ne, barrier_complete, active]
  rintro (inactive | accepted)
  · cases inactive
  · obtain ⟨assignment, member, same⟩ := List.mem_map.mp inWave
    have isAccepted := accepted assignment member
    rw [assignmentIsAccepted, List.any_eq_true] at isAccepted
    obtain ⟨result, isResult, named⟩ := isAccepted
    rw [Bool.and_eq_true, beq_iff_eq, List.contains_iff_mem] at named
    obtain ⟨issued, notAccepted, _⟩ := (mem_in_flight).mp flies
    rw [issued_once once issued named.2 (same.symm.trans named.1.symm)] at notAccepted
    exact notAccepted isResult

variable {refs later : PlanningRefs} {wave : PlanningWaveDeclaration}

theorem stops_kept (valid : ValidWaves manifest.waves) {before after : List PlanningWaveDeclaration}
    (stops : StopsAt manifest refs manifest.waves before wave after)
    (passed : ∀ other ∈ before, barrierStatus manifest other refs = .complete → barrierStatus manifest other later = .complete)
    (none_ : ∀ other ∈ manifest.waves, other ≠ wave → barrierStatus manifest other later = .complete →
      barrierStatus manifest other refs = .complete)
    (needed : ∀ other, DependsOn manifest.waves wave other → barrierStatus manifest other refs = .complete →
      barrierStatus manifest other later = .complete)
    (incomplete : barrierStatus manifest wave later ≠ .complete) : StopsAt manifest later manifest.waves before wave after := by
  have isWave : wave ∈ manifest.waves := by simp [stops.place]
  have declared : ∀ earlier ∈ before, earlier ∈ manifest.waves := fun earlier member => by simp [stops.place, member]
  refine ⟨stops.place, fun earlier member ready => passed earlier member (stops.passed earlier member ?_), ?_⟩
  · rw [dependencies_complete manifest _ valid (declared earlier member)] at ready ⊢
    intro dependency depends
    refine none_ dependency depends.1 ?_ (ready dependency depends)
    rintro rfl
    exact incomplete (ready dependency depends)
  · have ready := stops.ready
    rw [dependencies_complete manifest _ valid isWave] at ready ⊢
    exact fun dependency depends => needed dependency depends (ready dependency depends)

theorem stops_once {before after otherBefore otherAfter : List PlanningWaveDeclaration}
    (stops : StopsAt manifest refs manifest.waves before wave after)
    (otherStops : StopsAt manifest refs manifest.waves otherBefore other otherAfter)
    (incomplete : barrierStatus manifest wave refs ≠ .complete) (otherIncomplete : barrierStatus manifest other refs ≠ .complete) :
    wave = other := by
  have place := stops.place.symm.trans otherStops.place
  rcases List.append_eq_append_iff.mp place with ⟨middle, isOther, rest⟩ | ⟨middle, isBefore, rest⟩
  · cases middle with
    | nil => exact (List.cons.inj rest).1
    | cons head tail =>
      cases rest
      exact absurd (otherStops.passed wave (by simp [isOther]) stops.ready) incomplete
  · cases middle with
    | nil => exact (List.cons.inj rest).1.symm
    | cons head tail =>
      cases rest
      exact absurd (stops.passed other (by simp [isBefore]) otherStops.ready) otherIncomplete

theorem wave_ids_apart (valid : ValidAssignments manifest) (isWave : wave ∈ manifest.waves)
    (isOther : other ∈ manifest.waves) (differ : other ≠ wave) {assignment : PlanningAgentAssignment}
    (member : assignment ∈ waveAssignments manifest other) : assignment.assignmentId ∉ waveIds manifest wave := by
  intro inWave
  obtain ⟨found, inFound, same⟩ := List.mem_map.mp inWave
  cases List.inj_on_of_nodup_map valid.distinct (List.mem_of_mem_filter inFound) (List.mem_of_mem_filter member) same
  exact valid.apart other isOther wave isWave differ _ member inFound

structure TouchesOnly (manifest : PlanningManifest) (wave : PlanningWaveDeclaration) (refs later : PlanningRefs) : Prop where
  issued : ∀ attempt, attempt.assignmentId ∉ waveIds manifest wave → (attempt ∈ later.issued ↔ attempt ∈ refs.issued)
  accepted : ∀ attempt, attempt.assignmentId ∉ waveIds manifest wave → (attempt ∈ later.accepted ↔ attempt ∈ refs.accepted)
  activations : later.activationRefs = refs.activationRefs

theorem accepted_elsewhere (touches : TouchesOnly manifest wave refs later) {assignmentId : Text}
    (elsewhere : assignmentId ∉ waveIds manifest wave) :
    assignmentIsAccepted assignmentId later = assignmentIsAccepted assignmentId refs := by
  rw [Bool.eq_iff_iff]
  simp only [assignmentIsAccepted, List.any_eq_true, Bool.and_eq_true, beq_iff_eq, List.contains_iff_mem]
  constructor
  · rintro ⟨result, accepted, rfl, issued⟩
    exact ⟨result, (touches.accepted _ elsewhere).mp accepted, rfl, (touches.issued _ elsewhere).mp issued⟩
  · rintro ⟨result, accepted, rfl, issued⟩
    exact ⟨result, (touches.accepted _ elsewhere).mpr accepted, rfl, (touches.issued _ elsewhere).mpr issued⟩

theorem complete_elsewhere (valid : ValidAssignments manifest) (isWave : wave ∈ manifest.waves)
    (touches : TouchesOnly manifest wave refs later) (other : PlanningWaveDeclaration) (isOther : other ∈ manifest.waves)
    (differ : other ≠ wave) :
    barrierStatus manifest other later = .complete ↔ barrierStatus manifest other refs = .complete := by
  have sameActivity : waveIsInactive other later = waveIsInactive other refs := by
    rw [waveIsInactive, waveIsInactive, touches.activations]
  have sameAccepted : ∀ assignment ∈ waveAssignments manifest other,
      assignmentIsAccepted assignment.assignmentId later = assignmentIsAccepted assignment.assignmentId refs :=
    fun assignment member => accepted_elsewhere touches (wave_ids_apart valid isWave isOther differ member)
  rw [barrier_complete, barrier_complete, sameActivity]
  refine or_congr_right (forall₂_congr fun assignment member => ?_)
  rw [sameAccepted assignment member]

theorem flies_kept (validWaves : ValidWaves manifest.waves) (valid : ValidAssignments manifest)
    (flies : FliesIn manifest refs wave) (touches : TouchesOnly manifest wave refs later)
    (once : (later.issued.map AttemptRef.assignmentId).Nodup)
    (attempts : ∀ attempt ∈ inFlight later, attempt.assignmentId ∈ waveIds manifest wave) (some_ : inFlight later ≠ []) :
    FliesIn manifest later wave := by
  obtain ⟨before, after, stops⟩ := flies.stops
  have isWave : wave ∈ manifest.waves := by simp [stops.place]
  have active : waveIsInactive wave later = false := by
    rw [waveIsInactive, touches.activations]
    exact flies.active
  obtain ⟨attempt, inAir⟩ := List.exists_mem_of_ne_nil _ some_
  have incomplete := in_flight_incomplete once active inAir (attempts attempt inAir)
  have same := complete_elsewhere valid isWave touches
  have before_ne : ∀ other ∈ before, other ∈ manifest.waves ∧ other ≠ wave := by
    have distinct := validWaves.distinct.of_map
    rw [stops.place, List.nodup_append] at distinct
    exact fun other member => ⟨by simp [stops.place, member], distinct.2.2 other member wave List.mem_cons_self⟩
  refine ⟨⟨before, after, stops_kept validWaves stops ?_ ?_ ?_ incomplete⟩, active, attempts⟩
  · exact fun other member => (same other (before_ne other member).1 (before_ne other member).2).mpr
  · exact fun other isOther differ => (same other isOther differ).mp
  · rintro other ⟨isOther, named⟩
    refine (same other isOther ?_).mpr
    rintro rfl
    exact (validWaves.known other isOther other.id named).1 rfl

theorem in_flight_le_active (once : (refs.issued.map AttemptRef.assignmentId).Nodup) {active : List PlanningActiveRef}
    {waiting : List Text} (running : barrierStatus manifest wave refs = .running active waiting)
    (attempts : ∀ attempt ∈ inFlight refs, attempt.assignmentId ∈ waveIds manifest wave) : (inFlight refs).length ≤ active.length := by
  have isActive : active = (waveAssignments manifest wave).flatMap fun assignment =>
      activeRefsForAssignment assignment.assignmentId refs := by
    rw [barrierStatus] at running
    split at running
    · cases running
    · dsimp only at running
      split at running
      · cases running
      · split at running
        · cases running
        · injection running with isActive
          exact isActive.symm
  have distinct : (inFlight refs).Nodup := (once.of_map).filter _
  have mapped : (active.map PlanningActiveRef.toAttemptRef).length = active.length := List.length_map _
  rw [← mapped]
  refine distinct.length_le_of_subset fun attempt flies => ?_
  obtain ⟨assignment, member, same⟩ := List.mem_map.mp (attempts attempt flies)
  obtain ⟨issued, passed⟩ := List.mem_filter.mp flies
  rw [isActive]
  refine List.mem_map.mpr ⟨{ attempt with launchAcknowledged := (launchAckTaskId attempt refs).isSome },
    List.mem_flatMap.mpr ⟨assignment, member, List.mem_map.mpr ⟨attempt, List.mem_filter.mpr ⟨issued, ?_⟩, rfl⟩⟩, rfl⟩
  rw [Bool.and_assoc, passed, Bool.and_true, beq_iff_eq]
  exact same.symm

theorem selected_few (valid : ValidAssignments manifest) (waiting : List Text) (slots : Nat) :
    (selectAssignments manifest waiting slots).length ≤ slots := by
  have distinct : ((selectAssignments manifest waiting slots).map (·.assignmentId)).Nodup :=
    (List.filter_sublist.map _).nodup valid.distinct
  rw [← List.length_map (·.assignmentId)]
  refine (distinct.length_le_of_subset fun id member => ?_).trans (List.length_take_le slots waiting)
  obtain ⟨assignment, chosen, rfl⟩ := List.mem_map.mp member
  exact List.contains_iff_mem.mp (List.mem_filter.mp chosen).2

variable {waveId : Text} {assignments : List PlanningAgentAssignment}

theorem launched_flies (within : WithinCap manifest cap refs)
    (launched : nextPlanningWave package manifest refs cap = .launch waveId assignments) :
    ∃ wave active waiting, FliesIn manifest refs wave ∧ barrierStatus manifest wave refs = .running active waiting ∧
      launchWave package manifest cap wave active waiting = .launch waveId assignments := by
  obtain ⟨before, wave, after, active, waiting, stops, running, chosen⟩ := next_wave_launch package manifest refs cap launched
  have incomplete : barrierStatus manifest wave refs ≠ .complete := by
    rw [running]
    nofun
  have isActive : waveIsInactive wave refs = false :=
    Bool.eq_false_iff.mpr fun inactive => incomplete ((barrier_complete manifest).mpr (.inl inactive))
  refine ⟨wave, active, waiting, ⟨⟨before, after, stops⟩, isActive, fun attempt flies => ?_⟩, running, chosen⟩
  obtain ⟨other, otherFlies⟩ := within.oneWave (List.ne_nil_of_mem flies)
  obtain ⟨otherBefore, otherAfter, otherStops⟩ := otherFlies.stops
  have otherIncomplete := in_flight_incomplete within.once otherFlies.active flies (otherFlies.attempts attempt flies)
  rw [stops_once stops otherStops incomplete otherIncomplete]
  exact otherFlies.attempts attempt flies

theorem launch_selects {active : List PlanningActiveRef} {waiting : List Text}
    (chosen : launchWave package manifest cap wave active waiting = .launch waveId assignments) :
    ∃ poolCap, assignments = selectAssignments manifest waiting (min (min cap manifest.planningWaveCap) poolCap - active.length) := by
  rw [launchWave] at chosen
  split at chosen
  · cases chosen
  · rename_i poolCap _
    dsimp only at chosen
    split at chosen
    · cases chosen
    · cases chosen
      exact ⟨poolCap, rfl⟩

theorem launch_once (valid : ValidAssignments manifest) (once : (refs.issued.map AttemptRef.assignmentId).Nodup)
    (launched : nextPlanningWave package manifest refs cap = .launch waveId assignments) :
    (refs.issued.map AttemptRef.assignmentId ++ assignments.map (·.assignmentId)).Nodup ∧ assignments ⊆ manifest.assignments := by
  obtain ⟨_, wave, _, active, waiting, _, running, chosen⟩ := next_wave_launch package manifest refs cap launched
  obtain ⟨_, _, some_, fromWaiting⟩ := launch_wave_ok package manifest cap chosen
  have isUnissued := (barrier_running manifest refs running).resolve_left some_
  obtain ⟨poolCap, rfl⟩ := launch_selects package cap chosen
  refine ⟨List.nodup_append.mpr ⟨once, (List.filter_sublist.map _).nodup valid.distinct, ?_⟩, List.filter_subset_self _⟩
  rintro id before other after rfl
  obtain ⟨attempt, isIssued, rfl⟩ := List.mem_map.mp before
  obtain ⟨assignment, member, same⟩ := List.mem_map.mp after
  exact unissued_fresh (isUnissued ▸ fromWaiting assignment member) attempt isIssued same.symm

def IssuedOnce (manifest : PlanningManifest) (refs : PlanningRefs) : Prop :=
  (refs.issued.map AttemptRef.assignmentId).Nodup ∧ refs.issued.map AttemptRef.assignmentId ⊆ manifest.assignments.map (·.assignmentId)

theorem event_issues_once (valid : ValidAssignments manifest) (once : IssuedOnce manifest refs) {event : PlanningEvent}
    (happened : afterEvent package manifest cap refs event = some later) : IssuedOnce manifest later := by
  cases event with
  | issue =>
    rw [afterEvent] at happened
    split at happened <;> cases happened
    rename_i launched
    obtain ⟨distinct, declared⟩ := launch_once package cap valid once.1 launched
    simp only [IssuedOnce, List.map_append, List.map_map]
    exact ⟨distinct, List.append_subset.mpr ⟨once.2, List.map_subset _ declared⟩⟩
  | acknowledge | activate =>
    cases happened
    exact once
  | accept | fail =>
    rw [afterEvent] at happened
    split at happened <;> cases happened
    exact once

variable (validWaves : ValidWaves manifest.waves) (valid : ValidAssignments manifest) (within : WithinCap manifest cap refs)

include validWaves valid within

theorem issue_within {actionId : Text → Text} {runRevision : Nat}
    (issued : afterEvent package manifest cap refs (.issue actionId runRevision) = some later) : WithinCap manifest cap later := by
  rw [afterEvent] at issued
  split at issued
  · rename_i waveId assignments launched
    obtain ⟨wave, active, waiting, flies, running, chosen⟩ := launched_flies package cap within launched
    obtain ⟨_, _, some_, fromWaiting⟩ := launch_wave_ok package manifest cap chosen
    have isUnissued := (barrier_running manifest refs running).resolve_left some_
    have fromWave : ∀ assignment ∈ assignments, assignment.assignmentId ∈ waveIds manifest wave := by
      intro assignment member
      have unissuedId := fromWaiting assignment member
      rw [isUnissued] at unissuedId
      exact (List.filter_sublist.map _).subset unissuedId
    obtain ⟨poolCap, isSelected⟩ := launch_selects package cap chosen
    cases issued
    have once : ((refs.issued ++ assignments.map fun assignment =>
        ({ assignmentId := assignment.assignmentId, actionId := actionId assignment.assignmentId, runRevision } : AttemptRef)).map
          AttemptRef.assignmentId).Nodup := by
      rw [List.map_append, List.map_map]
      exact (launch_once package cap valid within.once launched).1
    have attempts : ∀ attempt ∈ inFlight { refs with issued := refs.issued ++ assignments.map fun assignment =>
        { assignmentId := assignment.assignmentId, actionId := actionId assignment.assignmentId, runRevision } },
        attempt.assignmentId ∈ waveIds manifest wave := by
      intro attempt flying
      rw [inFlight, List.filter_append, List.mem_append] at flying
      rcases flying with early | new
      · exact flies.attempts attempt early
      · obtain ⟨assignment, member, rfl⟩ := List.mem_map.mp (List.mem_of_mem_filter new)
        exact fromWave assignment member
    have touches : TouchesOnly manifest wave refs { refs with issued := refs.issued ++ assignments.map fun assignment =>
        { assignmentId := assignment.assignmentId, actionId := actionId assignment.assignmentId, runRevision } } := by
      refine ⟨fun attempt elsewhere => ?_, fun _ _ => Iff.rfl, rfl⟩
      rw [List.mem_append, or_iff_left]
      intro new
      obtain ⟨assignment, member, rfl⟩ := List.mem_map.mp new
      exact elsewhere (fromWave assignment member)
    refine ⟨once, fun flying => ⟨wave, flies_kept validWaves valid flies touches once attempts flying⟩, ?_⟩
    have known := in_flight_le_active within.once running flies.attempts
    have bounded := within.bounded
    have few := selected_few valid waiting (min (min cap manifest.planningWaveCap) poolCap - active.length)
    rw [← isSelected] at few
    have split : (inFlight { refs with issued := refs.issued ++ assignments.map fun assignment =>
        { assignmentId := assignment.assignmentId, actionId := actionId assignment.assignmentId, runRevision } }).length ≤
          (inFlight refs).length + assignments.length := by
      rw [inFlight, List.filter_append, List.length_append]
      exact Nat.add_le_add_left ((List.length_filter_le _ _).trans_eq (List.length_map _)) _
    omega
  · cases issued

theorem shrink_within (issued : later.issued = refs.issued) (activations : later.activationRefs = refs.activationRefs)
    (fewer : (inFlight later).Sublist (inFlight refs))
    (accepted : ∀ attempt, attempt ∈ later.accepted ↔ attempt ∈ refs.accepted ∨ attempt ∈ later.accepted ∧ attempt ∈ inFlight refs) :
    WithinCap manifest cap later := by
  have once : (later.issued.map AttemptRef.assignmentId).Nodup := issued ▸ within.once
  refine ⟨once, fun flying => ?_, fewer.length_le.trans within.bounded⟩
  obtain ⟨attempt, member⟩ := List.exists_mem_of_ne_nil _ flying
  obtain ⟨wave, flies⟩ := within.oneWave (List.ne_nil_of_mem (fewer.subset member))
  have attempts : ∀ attempt ∈ inFlight later, attempt.assignmentId ∈ waveIds manifest wave := fun attempt member =>
    flies.attempts attempt (fewer.subset member)
  have touches : TouchesOnly manifest wave refs later := by
    refine ⟨fun attempt _ => by rw [issued], fun attempt elsewhere => ?_, activations⟩
    rw [accepted, or_iff_left]
    exact fun ended => elsewhere (flies.attempts attempt ended.2)
  exact ⟨wave, flies_kept validWaves valid flies touches once attempts flying⟩

theorem accept_within
    (accepted : afterEvent package manifest cap refs (.accept attempt) = some later) : WithinCap manifest cap later := by
  rw [afterEvent] at accepted
  split at accepted
  · rename_i running
    rw [Bool.and_eq_true, List.contains_iff_mem, Bool.not_eq_true'] at running
    cases accepted
    refine shrink_within cap validWaves valid within rfl rfl ?_ fun other => ?_
    · refine List.monotone_filter_right _ fun other flying => ?_
      simp only [acceptedExact, List.contains_append, Bool.not_or, Bool.and_eq_true] at flying ⊢
      exact ⟨flying.1.1, flying.2⟩
    · rw [mem_in_flight]
      simp only [List.mem_append, List.mem_singleton]
      constructor
      · rintro (before | rfl)
        · exact .inl before
        · by_cases before : other ∈ refs.accepted
          · exact .inl before
          · exact .inr ⟨.inr rfl, running.1, before, running.2⟩
      · rintro (before | ⟨after, _⟩)
        · exact .inl before
        · exact after
  · cases accepted

theorem fail_within {failure : PlanningTerminalFailureRef}
    (failed : afterEvent package manifest cap refs (.fail failure) = some later) : WithinCap manifest cap later := by
  rw [afterEvent] at failed
  split at failed
  · cases failed
    refine shrink_within cap validWaves valid within rfl rfl ?_ fun other => ⟨.inl, fun either => either.elim id And.left⟩
    refine List.monotone_filter_right _ fun other flying => ?_
    simp only [terminalFailureExact, List.any_append, Bool.not_or, Bool.and_eq_true] at flying ⊢
    exact ⟨flying.1, flying.2.1⟩
  · cases failed

omit valid in
theorem activate_within {activationRef : Text} (orderly : Orderly manifest refs (.activate activationRef)) :
    WithinCap manifest cap { refs with activationRefs := refs.activationRefs ++ [activationRef] } := by
  refine ⟨within.once, fun flying => ?_, within.bounded⟩
  obtain ⟨wave, flies⟩ := within.oneWave flying
  obtain ⟨before, after, stops⟩ := flies.stops
  obtain ⟨attempt, inAir⟩ := List.exists_mem_of_ne_nil _ flying
  have undisturbed := orderly before wave after stops.place ⟨attempt, inAir, flies.attempts attempt inAir⟩
  have stillInactive : ∀ other : PlanningWaveDeclaration,
      waveIsInactive other { refs with activationRefs := refs.activationRefs ++ [activationRef] } = true →
        waveIsInactive other refs = true := by
    intro other
    rw [waveIsInactive, waveIsInactive]
    split
    · exact id
    · simp only [List.contains_append, Bool.not_or, Bool.and_eq_true]
      exact And.left
  -- A wave that was complete stays so unless it has become active.
  have stays : ∀ other ∈ manifest.waves, other ∈ before ∨ other.id ∈ wave.dependencies → barrierStatus manifest other refs = .complete →
      barrierStatus manifest other { refs with activationRefs := refs.activationRefs ++ [activationRef] } = .complete := by
    intro other isOther place complete
    rw [barrier_complete] at complete ⊢
    rcases complete with inactive | accepted
    · by_cases accepted : AllAccepted manifest other refs
      · exact .inr accepted
      · left
        rw [waveIsInactive] at inactive ⊢
        split at inactive
        · cases inactive
        · rename_i own isOwn
          have differ : own ≠ activationRef := by
            rintro rfl
            have apart := undisturbed other isOther isOwn (by rw [waveIsInactive, isOwn]; exact inactive) accepted
            exact place.elim apart.1 apart.2
          simpa [differ] using inactive
    · exact .inr accepted
  have active : waveIsInactive wave { refs with activationRefs := refs.activationRefs ++ [activationRef] } = false :=
    Bool.eq_false_iff.mpr fun inactive => Bool.eq_false_iff.mp flies.active (stillInactive wave inactive)
  refine ⟨wave, ⟨before, after, stops_kept validWaves stops ?_ ?_ ?_ ?_⟩, active, flies.attempts⟩
  · exact fun other member => stays other (by simp [stops.place, member]) (.inl member)
  · intro other _ _ complete
    rw [barrier_complete] at complete ⊢
    exact complete.imp_left (stillInactive other)
  · rintro other ⟨isOther, named⟩
    exact stays other isOther (.inr named)
  · refine in_flight_incomplete ?_ active inAir (flies.attempts attempt inAir)
    exact within.once

theorem event_within {event : PlanningEvent} (orderly : Orderly manifest refs event)
    (happened : afterEvent package manifest cap refs event = some later) : WithinCap manifest cap later := by
  cases event with
  | issue actionId runRevision => exact issue_within package cap validWaves valid within happened
  | acknowledge ack =>
    cases happened
    exact shrink_within cap validWaves valid within rfl rfl (List.Sublist.refl _) fun _ => ⟨.inl, fun either => either.elim id And.left⟩
  | accept attempt => exact accept_within package cap validWaves valid within happened
  | fail failure => exact fail_within package cap validWaves valid within happened
  | activate activationRef =>
    cases happened
    exact activate_within cap validWaves within orderly

end Run

/-- In whatever order results and activations come, an assignment is issued at most once and only if it is declared. -/
theorem assignments_issued_once (package : Package) (workstream : Text) (policy : PlanningPolicy) (manifest : PlanningManifest)
    (made : PlanningManifest.fromPolicy package workstream policy = .ok manifest) (cap : Nat) (events : List PlanningEvent)
    (refs : PlanningRefs) (ran : runEvents package manifest cap events = some refs) :
    IssuedOnce manifest refs ∧ refs.issued.length ≤ manifest.assignments.length := by
  have once : IssuedOnce manifest refs := by
    induction events using List.reverseRecOn generalizing refs with
    | nil =>
      cases ran
      exact ⟨List.nodup_nil, List.nil_subset _⟩
    | append_singleton events event ih =>
      rw [runEvents, List.foldlM_append] at ran
      obtain ⟨before, sofar, happened⟩ := Option.bind_eq_some_iff.mp ran
      exact event_issues_once package cap (valid_assignments package workstream made) (ih before sofar) (by simpa using happened)
  exact ⟨once, by simpa using once.1.length_le_of_subset once.2⟩

/-- In every run whose activations are orderly, what is in flight over all waves stays within the cap. -/
theorem in_flight_within_cap (package : Package) (text workstream : Text) (policy : PlanningPolicy) (manifest : PlanningManifest)
    (parsed : PlanningPolicy.parse text = .ok policy) (made : PlanningManifest.fromPolicy package workstream policy = .ok manifest)
    (cap : Nat) (events : List PlanningEvent) (orderly : OrderlyRun package manifest cap events) (refs : PlanningRefs)
    (ran : runEvents package manifest cap events = some refs) : (inFlight refs).length ≤ min cap manifest.planningWaveCap := by
  obtain ⟨validWaves, _⟩ := parsed_policy parsed
  obtain ⟨waves, _, _⟩ := from_policy_ok package workstream made
  rw [← waves] at validWaves
  have valid := valid_assignments package workstream made
  suffices within : WithinCap manifest cap refs from within.bounded
  induction events using List.reverseRecOn generalizing refs with
  | nil =>
    cases ran
    exact ⟨List.nodup_nil, fun flying => absurd rfl flying, Nat.zero_le _⟩
  | append_singleton events event ih =>
    rw [runEvents, List.foldlM_append] at ran
    obtain ⟨before, sofar, happened⟩ := Option.bind_eq_some_iff.mp ran
    have within := ih (fun done next rest state split => orderly done next (rest ++ [event]) state (by simp [split])) before sofar
    exact event_within package cap validWaves valid within (orderly events event [] before rfl sofar) (by simpa using happened)

def conditionalWave : PlanningWaveDeclaration := { firstWave with id := ['c'], activationRef := some ['x'] }

def plainWave : PlanningWaveDeclaration := { firstWave with id := ['p'], ordinals := some [1, 2] }

def conditionalText : Text :=
  sampleText ["planning_wave \"c\" role=\"plan-reviewer\" ordinals=\"3\" activation_ref=\"x\"",
    "planning_wave \"p\" role=\"plan-reviewer\" ordinals=\"1,2\""]

theorem conditional_text_parses : PlanningPolicy.parse conditionalText = .ok (samplePolicy [conditionalWave, plainWave]) := by
  decide +kernel

theorem conditional_manifest_made : PlanningManifest.fromPolicy samplePackage ['s'] (samplePolicy [conditionalWave, plainWave]) =
    .ok (sampleManifest [3, 1, 2] [conditionalWave, plainWave]) := by decide +kernel

def sampleAttempt (ordinal : Nat) : AttemptRef := ⟨(sampleAssignment ordinal).assignmentId, ['a'], 0⟩

theorem first_issue_within : ∃ refs, runEvents samplePackage (sampleManifest [3, 1, 2] [conditionalWave, plainWave]) 1
    [.issue (fun _ => ['a']) 0] = some refs ∧ inFlight refs = [sampleAttempt 1] ∧ (inFlight refs).length ≤ 1 := by
  have ran : runEvents samplePackage (sampleManifest [3, 1, 2] [conditionalWave, plainWave]) 1 [.issue (fun _ => ['a']) 0] =
      some ⟨[sampleAttempt 1], [], [], [], []⟩ := by decide +kernel
  refine ⟨_, ran, by decide +kernel, in_flight_within_cap samplePackage _ _ _ _ conditional_text_parses conditional_manifest_made 1
    [.issue (fun _ => ['a']) 0] ?_ _ ran⟩
  intro done event rest refs split _
  cases done with
  | nil =>
    cases split
    trivial
  | cons head tail => simp at split

theorem first_assignment_issued_once :
    IssuedOnce (sampleManifest [3, 1, 2] [conditionalWave, plainWave]) ⟨[sampleAttempt 1], [], [], [], []⟩ :=
  (assignments_issued_once samplePackage _ _ _ conditional_manifest_made 1 [.issue (fun _ => ['a']) 0] _ (by decide +kernel)).1

/-- The wave declared first becomes active while an attempt of the second is in flight, and is launched beside it. -/
theorem activation_exceeds_cap : PlanningPolicy.parse conditionalText = .ok (samplePolicy [conditionalWave, plainWave]) ∧
      PlanningManifest.fromPolicy samplePackage ['s'] (samplePolicy [conditionalWave, plainWave]) =
        .ok (sampleManifest [3, 1, 2] [conditionalWave, plainWave]) ∧
      ∃ refs, runEvents samplePackage (sampleManifest [3, 1, 2] [conditionalWave, plainWave]) 1
          [.issue (fun _ => ['a']) 0, .activate ['x'], .issue (fun _ => ['a']) 0] = some refs ∧
        inFlight refs = [sampleAttempt 1, sampleAttempt 3] ∧
        min 1 (sampleManifest [3, 1, 2] [conditionalWave, plainWave]).planningWaveCap < (inFlight refs).length :=
  ⟨conditional_text_parses, conditional_manifest_made, ⟨[sampleAttempt 1, sampleAttempt 3], [], [], [], [['x']]⟩,
    by decide +kernel, by decide +kernel, by decide +kernel⟩

end PiAutopilot.Planning
