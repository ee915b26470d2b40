import PiAutopilot.Planning.WaveOrder

set_option autoImplicit false

/-! # Waves declared after what requires them -/

namespace PiAutopilot.Planning

open Lib

section TooLate

variable (manifest : PlanningManifest) (wave later : PlanningWaveDeclaration)

def acceptedBut : PlanningRefs :=
  let accepted := (manifest.assignments.filter fun assignment =>
    !(waveAssignments manifest wave).contains assignment && !(waveAssignments manifest later).contains assignment).map fun assignment =>
      { assignmentId := assignment.assignmentId, actionId := [], runRevision := 0 }
  { issued := accepted, launchAcks := [], accepted, terminalFailures := []
    activationRefs := manifest.waves.filterMap (·.activationRef) }

theorem accepted_but (valid : ValidAssignments manifest) {assignment : PlanningAgentAssignment}
    (member : assignment ∈ manifest.assignments) :
    assignmentIsAccepted assignment.assignmentId (acceptedBut manifest wave later) = true ↔
      assignment ∉ waveAssignments manifest wave ∧ assignment ∉ waveAssignments manifest later := by
  rw [assignmentIsAccepted, List.any_eq_true]
  constructor
  · rintro ⟨accepted, listed, named⟩
    rw [Bool.and_eq_true, beq_iff_eq] at named
    obtain ⟨other, otherListed, rfl⟩ := List.mem_map.mp listed
    obtain ⟨otherMember, apart⟩ := List.mem_filter.mp otherListed
    cases List.inj_on_of_nodup_map valid.distinct otherMember member named.1
    simpa using apart
  · intro apart
    have listed : { assignmentId := assignment.assignmentId, actionId := [], runRevision := 0 } ∈
        (acceptedBut manifest wave later).accepted :=
      List.mem_map.mpr ⟨assignment, List.mem_filter.mpr ⟨member, by simpa using apart⟩, rfl⟩
    have issued : (acceptedBut manifest wave later).issued = (acceptedBut manifest wave later).accepted := rfl
    exact ⟨_, listed, by rw [issued]; simpa using listed⟩

variable {other : PlanningWaveDeclaration} {package : Package}

theorem accepted_but_active (member : other ∈ manifest.waves) : waveIsInactive other (acceptedBut manifest wave later) = false := by
  unfold waveIsInactive
  split
  · rfl
  · rename_i activationRef conditional
    rw [Bool.not_eq_false', List.contains_iff_mem]
    exact List.mem_filterMap.mpr ⟨other, member, conditional⟩

theorem others_complete (valid : ValidAssignments manifest) (waveMember : wave ∈ manifest.waves) (laterMember : later ∈ manifest.waves) (member : other ∈ manifest.waves) (notWave : other ≠ wave) (notLater : other ≠ later) :
    barrierStatus manifest other (acceptedBut manifest wave later) = .complete := by
  rw [barrier_complete]
  right
  intro assignment inOther
  rw [accepted_but manifest wave later valid (List.mem_of_mem_filter inOther)]
  exact ⟨valid.apart other member wave waveMember notWave assignment inOther,
    valid.apart other member later laterMember notLater assignment inOther⟩

theorem accepted_but_idle (assignmentId : Text) : activeRefsForAssignment assignmentId (acceptedBut manifest wave later) = [] := by
  rw [activeRefsForAssignment, List.map_eq_nil_iff, List.filter_eq_nil_iff]
  intro issued issuedMember
  have accepted : issued ∈ (acceptedBut manifest wave later).accepted := issuedMember
  simp [acceptedExact, accepted]

theorem wave_unissued (valid : ValidAssignments manifest) : unissued (waveAssignments manifest wave) (acceptedBut manifest wave later) =
      (waveAssignments manifest wave).map (·.assignmentId) := by
  rw [unissued]
  congr 1
  rw [List.filter_eq_self]
  intro assignment member
  have rejected : assignmentIsAccepted assignment.assignmentId (acceptedBut manifest wave later) = false := by
    rw [Bool.eq_false_iff, ne_eq, accepted_but manifest wave later valid (List.mem_of_mem_filter member)]
    exact fun apart => apart.1 member
  rw [rejected, assignmentIsActive, accepted_but_idle]
  rfl

theorem wave_running (valid : ValidAssignments manifest) (waveMember : wave ∈ manifest.waves)
    (nonempty : waveAssignments manifest wave ≠ []) :
    barrierStatus manifest wave (acceptedBut manifest wave later) = .running [] ((waveAssignments manifest wave).map (·.assignmentId)) := by
  have counted : ¬ (waveAssignments manifest wave).countP
      (fun assignment => assignmentIsAccepted assignment.assignmentId (acceptedBut manifest wave later)) =
      (waveAssignments manifest wave).length := by
    intro all
    obtain ⟨first, member⟩ := List.exists_mem_of_ne_nil _ nonempty
    have accepted := List.countP_eq_length.mp all first member
    rw [accepted_but manifest wave later valid (List.mem_of_mem_filter member)] at accepted
    exact accepted.1 member
  have unfailed : (waveAssignments manifest wave).flatMap
      (fun assignment => assignmentFailures assignment.assignmentId (acceptedBut manifest wave later)) = [] := by
    simp [assignmentFailures, acceptedBut]
  unfold barrierStatus
  rw [accepted_but_active manifest wave later waveMember]
  rw [if_neg counted, unfailed]
  simp only [accepted_but_idle, wave_unissued manifest wave later valid]
  simp

theorem passed_over {refs : PlanningRefs} {cap : Nat} {before rest : List PlanningWaveDeclaration}
    (complete : ∀ earlier ∈ before, barrierStatus manifest earlier refs = .complete) :
    nextWaveOf package manifest refs cap (before ++ rest) = nextWaveOf package manifest refs cap rest := by
  induction before with
  | nil => rfl
  | cons first before ih =>
    rw [List.cons_append, nextWaveOf, complete first List.mem_cons_self]
    have passed := ih fun earlier member => complete earlier (List.mem_cons_of_mem _ member)
    split <;> exact passed

theorem launch_first {cap slots : Nat} (nonempty : waveAssignments manifest wave ≠ []) (positive : 1 ≤ cap)
    (waveCap : 1 ≤ manifest.planningWaveCap) (capacity : package.concurrencyForRole wave.role = .ok (slots + 1)) :
    ∃ assignments, launchWave package manifest cap wave [] ((waveAssignments manifest wave).map (·.assignmentId)) =
      .launch wave.id assignments := by
  unfold launchWave
  rw [capacity]
  simp only
  cases listed : waveAssignments manifest wave with
  | nil => exact absurd listed nonempty
  | cons first rest =>
    obtain ⟨taken, slot⟩ : ∃ taken, min (min cap manifest.planningWaveCap) (slots + 1) - ([] : List PlanningActiveRef).length =
        taken + 1 := ⟨min (min cap manifest.planningWaveCap) (slots + 1) - 1, by simp only [List.length_nil]; omega⟩
    have member : first ∈ manifest.assignments :=
      List.mem_of_mem_filter (listed ▸ List.mem_cons_self : first ∈ waveAssignments manifest wave)
    have chosen : first ∈ selectAssignments manifest ((first :: rest).map (·.assignmentId)) (taken + 1) :=
      List.mem_filter.mpr ⟨member, by simp⟩
    rw [slot, if_neg fun none => List.ne_nil_of_mem chosen (List.isEmpty_iff.mp none)]
    exact ⟨_, rfl⟩

theorem too_late_launches (validWaves : ValidWaves manifest.waves) (valid : ValidAssignments manifest)
    (waveCap : 1 ≤ manifest.planningWaveCap) {before after : List PlanningWaveDeclaration}
    (place : manifest.waves = before ++ wave :: after) (launchable : Launchable package manifest wave) (isLater : later ∈ after)
    (unnamed : later.id ∉ wave.dependencies) :
    ∃ assignments, nextPlanningWave package manifest (acceptedBut manifest wave later) 1 = .launch wave.id assignments := by
  obtain ⟨nonempty, slots, capacity⟩ := launchable
  have waveMember : wave ∈ manifest.waves := by simp [place]
  have laterMember : later ∈ manifest.waves := by simp [place, isLater]
  have apart : ∀ earlier ∈ before, earlier ≠ wave ∧ earlier ≠ later := by
    have distinct := validWaves.distinct.of_map
    rw [place, List.nodup_append] at distinct
    intro earlier inBefore
    exact ⟨fun same => distinct.2.2 earlier inBefore wave List.mem_cons_self same,
      fun same => distinct.2.2 earlier inBefore later (List.mem_cons_of_mem _ isLater) same⟩
  have passed : ∀ earlier ∈ before, barrierStatus manifest earlier (acceptedBut manifest wave later) = .complete :=
    fun earlier inBefore => others_complete manifest wave later valid waveMember laterMember (by simp [place, inBefore])
      (apart earlier inBefore).1 (apart earlier inBefore).2
  have ready : planningWaveDependenciesComplete manifest wave (acceptedBut manifest wave later) = true := by
    rw [dependencies_complete manifest _ validWaves waveMember]
    intro dependency ⟨declared, named⟩
    refine others_complete manifest wave later valid waveMember laterMember declared ?_ ?_
    · rintro rfl
      exact (validWaves.known dependency waveMember dependency.id named).1 rfl
    · rintro rfl
      exact unnamed named
  obtain ⟨assignments, launched⟩ := launch_first manifest wave nonempty (Nat.le_refl 1) waveCap capacity
  refine ⟨assignments, ?_⟩
  rw [nextPlanningWave, place, passed_over manifest passed, nextWaveOf, if_pos ready,
    wave_running manifest wave later valid waveMember nonempty]
  exact launched

end TooLate

/-- For every policy that parses: launches respect the dependencies, whatever the event refs, exactly when each
required wave is declared before the wave that requires it or is named by it. -/
theorem planning_waves_respect_dependencies (package : Package) (text workstream : Text) (policy : PlanningPolicy)
    (manifest : PlanningManifest) (parsed : PlanningPolicy.parse text = .ok policy)
    (made : PlanningManifest.fromPolicy package workstream policy = .ok manifest) :
    (∀ refs cap, LaunchRespects manifest refs (nextPlanningWave package manifest refs cap)) ↔ DeclaredInOrder package manifest := by
  obtain ⟨valid, waveCap⟩ := parsed_policy parsed
  obtain ⟨waves, sameCap, _⟩ := from_policy_ok package workstream made
  rw [← waves] at valid
  rw [← sameCap] at waveCap
  have validAssignments := valid_assignments package workstream made
  constructor
  · intro respects before wave after place launchable later isLater requires nonempty
    by_contra unnamed
    obtain ⟨launched, chosen⟩ := too_late_launches manifest wave later valid validAssignments waveCap place launchable isLater unnamed
    have respected := respects (acceptedBut manifest wave later) 1
    rw [chosen] at respected
    obtain ⟨⟨found, foundMember, named, accepted⟩, _⟩ := respected
    cases List.inj_on_of_nodup_map valid.distinct foundMember (by simp [place] : wave ∈ manifest.waves) named
    have laterMember : later ∈ manifest.waves := by simp [place, isLater]
    obtain ⟨assignment, member⟩ := List.exists_mem_of_ne_nil _ nonempty
    have isAccepted := accepted later requires (accepted_but_active manifest wave later laterMember) assignment member
    rw [accepted_but manifest wave later validAssignments (List.mem_of_mem_filter member)] at isAccepted
    exact isAccepted.2 member
  · exact fun inOrder refs cap => ordered_respects package manifest refs cap valid inOrder

section Sample

def samplePackage : Package where
  terminalProfiles := [{ profileId := ['p'], toolName := "autopilot_submit_review".toList, boundaryId := ['b'],
                         resultContract := ['b'], schemaDigest := ['s'] }]
  concurrencyForRole _ := .ok 1

def sampleRole : Text := "plan-reviewer".toList

def sampleText (waves : List String) : Text :=
  (["assignment_cap default=3", "planning_wave_cap default=1", "planning_launch_attempts max=1",
    "assignment_role \"plan-reviewer\" count=3 mode=\"m\" boundary=\"b\""] ++ waves).flatMap fun line => line.toList ++ ['\n']

def samplePolicy (waves : List PlanningWaveDeclaration) : PlanningPolicy where
  assignmentCap := 3
  planningWaveCap := 1
  planningMaxAttempts := 1
  roles := [{ role := sampleRole, count := 3, mode := ['m'], boundaryId := ['b'], atomNamespace := none }]
  waves

def sampleAssignment (ordinal : Nat) : PlanningAgentAssignment where
  assignmentId := "planning-".toList ++ ['s', '-'] ++ sampleRole ++ ['-'] ++ twoDigits ordinal
  role := sampleRole
  mode := ['m']
  boundaryId := some ['b']
  terminalRoute := some { profileId := ['p'], toolName := "autopilot_submit_review".toList, boundaryId := ['b'],
                          resultContract := ['b'], schemaDigest := ['s'], version := "v1-legacy".toList }
  ordinal
  atomIdPrefix := none

def sampleManifest (ordinals : List Nat) (waves : List PlanningWaveDeclaration) : PlanningManifest where
  workstream := ['s']
  planningWaveCap := 1
  planningMaxAttempts := 1
  assignments := ordinals.map sampleAssignment
  waves

def firstWave : PlanningWaveDeclaration where
  id := ['d']
  role := sampleRole
  dependencies := []
  ordinals := some [3]
  activationRef := none
  canonicalOutput := false

def secondWave : PlanningWaveDeclaration where
  id := ['e']
  role := sampleRole
  dependencies := [['d']]
  ordinals := some [1, 2]
  activationRef := none
  canonicalOutput := false

def orderedText : Text :=
  sampleText ["planning_wave \"d\" role=\"plan-reviewer\" ordinals=\"3\"",
    "planning_wave \"e\" role=\"plan-reviewer\" ordinals=\"1,2\" depends=\"d\""]

theorem ordered_text_parses : PlanningPolicy.parse orderedText = .ok (samplePolicy [firstWave, secondWave]) := by decide +kernel

theorem ordered_manifest_made : PlanningManifest.fromPolicy samplePackage ['s'] (samplePolicy [firstWave, secondWave]) =
    .ok (sampleManifest [3, 1, 2] [firstWave, secondWave]) := by decide +kernel

theorem ordered_policy_respects : ∃ policy manifest, PlanningPolicy.parse orderedText = .ok policy ∧
      PlanningManifest.fromPolicy samplePackage ['s'] policy = .ok manifest ∧
      ∀ refs cap, LaunchRespects manifest refs (nextPlanningWave samplePackage manifest refs cap) := by
  refine ⟨_, _, ordered_text_parses, ordered_manifest_made,
    (planning_waves_respect_dependencies samplePackage _ _ _ _ ordered_text_parses ordered_manifest_made).mpr ?_⟩
  intro before wave after place _ later isLater requires
  -- Only the first wave has a later one, and it requires none.
  have placed : [firstWave, secondWave] = before ++ wave :: after := place
  cases before with
  | nil =>
    cases placed
    obtain ⟨_, direct, _⟩ := Relation.TransGen.head'_iff.mp requires
    cases direct.2
  | cons head before =>
    cases before with
    | nil =>
      cases placed
      cases isLater
    | cons next before =>
      simp at placed

def lateFirst : PlanningWaveDeclaration := { firstWave with id := ['w'], dependencies := [['m']], ordinals := some [1] }

def skipped : PlanningWaveDeclaration :=
  { firstWave with id := ['m'], dependencies := [['d']], ordinals := some [2], activationRef := some ['x'] }

/-- The wave is declared first; what it requires stands behind a conditional wave that is not active. -/
theorem inactive_wave_breaks_chain : ∃ policy manifest, PlanningPolicy.parse (sampleText [
        "planning_wave \"w\" role=\"plan-reviewer\" ordinals=\"1\" depends=\"m\"",
        "planning_wave \"m\" role=\"plan-reviewer\" ordinals=\"2\" depends=\"d\" activation_ref=\"x\"",
        "planning_wave \"d\" role=\"plan-reviewer\" ordinals=\"3\""]) = .ok policy ∧
      PlanningManifest.fromPolicy samplePackage ['s'] policy = .ok manifest ∧
      nextPlanningWave samplePackage manifest ⟨[], [], [], [], []⟩ 1 = .launch ['w'] [sampleAssignment 1] ∧
      ¬ LaunchRespects manifest ⟨[], [], [], [], []⟩ (nextPlanningWave samplePackage manifest ⟨[], [], [], [], []⟩ 1) := by
  have launched : nextPlanningWave samplePackage (sampleManifest [1, 2, 3] [lateFirst, skipped, firstWave]) ⟨[], [], [], [], []⟩ 1 =
      .launch ['w'] [sampleAssignment 1] := by decide +kernel
  refine ⟨samplePolicy [lateFirst, skipped, firstWave], sampleManifest [1, 2, 3] [lateFirst, skipped, firstWave],
    by decide +kernel, by decide +kernel, launched, ?_⟩
  rintro ⟨⟨wave, member, named, accepted⟩, _⟩
  have isFirst : wave = lateFirst := by
    rcases List.mem_cons.mp member with rfl | later
    · rfl
    · rcases List.mem_cons.mp later with rfl | last
      · cases named
      · cases List.mem_singleton.mp last
        cases named
  rw [isFirst] at accepted
  have throughSkipped : Requires [lateFirst, skipped, firstWave] lateFirst firstWave :=
    .tail (.single (⟨by simp, by simp [lateFirst, skipped]⟩ : DependsOn _ lateFirst skipped)) ⟨by simp, by simp [skipped, firstWave]⟩
  have isAccepted := accepted firstWave throughSkipped rfl (sampleAssignment 3) (by decide +kernel)
  cases isAccepted

end Sample

end PiAutopilot.Planning
