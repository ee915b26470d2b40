import PiAutopilot.Planning.LateWave

set_option autoImplicit false

/-! # The scheduler neither finishes early nor waits for nothing -/

namespace PiAutopilot.Planning

open Lib

section Progress

variable (package : Package) (manifest : PlanningManifest) (refs : PlanningRefs) (cap : Nat)
  {active : List PlanningActiveRef} {waiting : List Text} {wave : PlanningWaveDeclaration}

theorem launch_wave_not_complete : launchWave package manifest cap wave active waiting ≠ .complete := by
  rw [launchWave]
  split
  · nofun
  · dsimp only
    split
    · nofun
    · nofun

theorem next_wave_complete (waves : List PlanningWaveDeclaration) : nextWaveOf package manifest refs cap waves = .complete ↔
      ∀ wave ∈ waves, planningWaveDependenciesComplete manifest wave refs = true → barrierStatus manifest wave refs = .complete := by
  induction waves with
  | nil => exact ⟨fun _ _ member => absurd member List.not_mem_nil, fun _ => rfl⟩
  | cons first rest ih =>
    rw [nextWaveOf, List.forall_mem_cons]
    by_cases ready : planningWaveDependenciesComplete manifest first refs = true
    · rw [if_pos ready]
      cases status : barrierStatus manifest first refs with
      | complete => simp only [ih, implies_true, true_and]
      | blocked failures =>
        constructor
        · intro isComplete
          cases isComplete
        · rintro ⟨complete, _⟩
          cases complete ready
      | running active waiting =>
        refine ⟨fun complete => absurd complete (launch_wave_not_complete package manifest cap), ?_⟩
        rintro ⟨complete, _⟩
        cases complete ready
    · rw [if_neg ready, ih]
      exact ⟨fun complete => ⟨fun isReady => absurd isReady ready, complete⟩, And.right⟩

theorem every_wave_complete (valid : ValidWaves manifest.waves)
    (passed : ∀ wave ∈ manifest.waves, planningWaveDependenciesComplete manifest wave refs = true →
      barrierStatus manifest wave refs = .complete) :
    ∀ wave ∈ manifest.waves, barrierStatus manifest wave refs = .complete := by
  obtain ⟨rank, falls⟩ := valid.ranked
  intro wave member
  induction ranked : rank wave.id using Nat.strong_induction_on generalizing wave with
  | _ bound ih =>
    refine passed wave member ((dependencies_complete manifest refs valid member).mpr ?_)
    rintro dependency ⟨declared, named⟩
    exact ih (rank dependency.id) (ranked ▸ falls wave member _ named) dependency declared rfl

theorem next_planning_wave_complete (valid : ValidWaves manifest.waves) :
    nextPlanningWave package manifest refs cap = .complete ↔ ∀ wave ∈ manifest.waves, barrierStatus manifest wave refs = .complete := by
  rw [nextPlanningWave, next_wave_complete]
  exact ⟨every_wave_complete manifest refs valid, fun complete wave member _ => complete wave member⟩

theorem next_wave_waiting {waves : List PlanningWaveDeclaration} {waveId : Text}
    (waits : nextWaveOf package manifest refs cap waves = .waitingOnInFlight waveId active) :
    ∃ wave ∈ waves, ∃ running waiting, barrierStatus manifest wave refs = .running running waiting ∧
      launchWave package manifest cap wave running waiting = .waitingOnInFlight waveId active := by
  induction waves with
  | nil => cases waits
  | cons first rest ih =>
    rw [nextWaveOf] at waits
    have later : nextWaveOf package manifest refs cap rest = .waitingOnInFlight waveId active →
        ∃ wave ∈ first :: rest, ∃ running waiting, barrierStatus manifest wave refs = .running running waiting ∧
          launchWave package manifest cap wave running waiting = .waitingOnInFlight waveId active := by
      intro waitsLater
      obtain ⟨wave, member, found⟩ := ih waitsLater
      exact ⟨wave, List.mem_cons_of_mem _ member, found⟩
    split at waits
    · split at waits
      · exact later waits
      · cases waits
      · rename_i running waiting status
        exact ⟨first, List.mem_cons_self, running, waiting, status, waits⟩
    · exact later waits

theorem idle_wave_waits (running : barrierStatus manifest wave refs = .running [] waiting) :
    ∃ assignment ∈ manifest.assignments, assignment.assignmentId ∈ waiting.head? := by
  have incomplete : ¬ AllAccepted manifest wave refs := by
    intro accepted
    rw [(barrier_complete manifest).mpr (.inr accepted)] at running
    cases running
  rw [barrierStatus] at running
  split at running
  · cases running
  · dsimp only at running
    split at running
    · cases running
    · split at running
      · cases running
      · rename_i unblocked
        injection running with idle isWaiting
        have unfailed : (waveAssignments manifest wave).flatMap (fun assignment => assignmentFailures assignment.assignmentId refs) = [] := by
          rw [idle, List.isEmpty_nil, Bool.and_true, Bool.not_eq_true', Bool.not_eq_false, List.isEmpty_iff] at unblocked
          exact unblocked
        rw [unfailed, List.isEmpty_nil, if_pos rfl] at isWaiting
        obtain ⟨assignment, member, unaccepted⟩ : ∃ assignment ∈ waveAssignments manifest wave,
            assignmentIsAccepted assignment.assignmentId refs = false := by
          simpa [AllAccepted] using incomplete
        rw [List.flatMap_eq_nil_iff] at idle unfailed
        have open_ : assignment.assignmentId ∈ unissued (waveAssignments manifest wave) refs := by
          refine List.mem_map.mpr ⟨assignment, List.mem_filter.mpr ⟨member, ?_⟩, rfl⟩
          rw [unaccepted, assignmentIsActive, idle assignment member, unfailed assignment member]
          rfl
        rw [isWaiting] at open_
        obtain ⟨first, rest, rfl⟩ := List.exists_cons_of_ne_nil (List.ne_nil_of_mem open_)
        have firstOpen : first ∈ unissued (waveAssignments manifest wave) refs := isWaiting ▸ List.mem_cons_self
        obtain ⟨chosen, isChosen, rfl⟩ := List.mem_map.mp firstOpen
        exact ⟨chosen, List.mem_of_mem_filter (List.mem_of_mem_filter isChosen), rfl⟩

theorem waiting_has_active {slots : Text → Nat} (capacity : ∀ role, package.concurrencyForRole role = .ok (slots role + 1))
    (positive : 1 ≤ cap) (waveCap : 1 ≤ manifest.planningWaveCap) (waveId : Text) (active : List PlanningActiveRef)
    (waits : nextPlanningWave package manifest refs cap = .waitingOnInFlight waveId active) : active ≠ [] := by
  obtain ⟨wave, _, running, waiting, status, launched⟩ := next_wave_waiting package manifest refs cap waits
  rw [launchWave, capacity] at launched
  dsimp only at launched
  split at launched
  · rename_i none_
    cases launched
    rintro rfl
    obtain ⟨assignment, member, isFirst⟩ := idle_wave_waits manifest refs status
    obtain ⟨taken, slot⟩ : ∃ taken, min (min cap manifest.planningWaveCap) (slots wave.role + 1) - ([] : List PlanningActiveRef).length =
        taken + 1 := ⟨min (min cap manifest.planningWaveCap) (slots wave.role + 1) - 1, by simp only [List.length_nil]; omega⟩
    rw [slot, List.isEmpty_iff, selectAssignments, List.filter_eq_nil_iff] at none_
    cases waiting with
    | nil => cases isFirst
    | cons first rest =>
      cases isFirst
      exact none_ assignment member (by simp)
  · cases launched

end Progress

end PiAutopilot.Planning
