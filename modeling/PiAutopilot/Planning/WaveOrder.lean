import Mathlib.Logic.Relation
import PiAutopilot.Planning.Waves

set_option autoImplicit false

/-! # Planning waves and their dependencies -/

namespace PiAutopilot.Planning

open Lib

variable (waves : List PlanningWaveDeclaration)

def DependsOn (wave dependency : PlanningWaveDeclaration) : Prop := dependency ∈ waves ∧ dependency.id ∈ wave.dependencies

abbrev Requires : PlanningWaveDeclaration → PlanningWaveDeclaration → Prop := Relation.TransGen (DependsOn waves)

def AllAccepted (manifest : PlanningManifest) (wave : PlanningWaveDeclaration) (refs : PlanningRefs) : Prop :=
  ∀ assignment ∈ waveAssignments manifest wave, assignmentIsAccepted assignment.assignmentId refs = true

def LaunchRespects (manifest : PlanningManifest) (refs : PlanningRefs) : PlanningWaveOutcome → Prop
  | .launch waveId assignments =>
    (∃ wave ∈ manifest.waves, wave.id = waveId ∧ ∀ earlier, Requires manifest.waves wave earlier →
      waveIsInactive earlier refs = false → AllAccepted manifest earlier refs) ∧
    ∀ assignment ∈ assignments, ∀ issued ∈ refs.issued, issued.assignmentId ≠ assignment.assignmentId
  | _ => True

variable (package : Package) (manifest : PlanningManifest)

def Launchable (wave : PlanningWaveDeclaration) : Prop :=
  waveAssignments manifest wave ≠ [] ∧ ∃ slots, package.concurrencyForRole wave.role = .ok (slots + 1)

def DeclaredInOrder : Prop :=
  ∀ before wave after, manifest.waves = before ++ wave :: after → Launchable package manifest wave →
    ∀ later ∈ after, Requires manifest.waves wave later → waveAssignments manifest later ≠ [] → later.id ∈ wave.dependencies

structure ValidWaves (waves : List PlanningWaveDeclaration) : Prop where
  distinct : (waves.map (·.id)).Nodup
  known : ∀ wave ∈ waves, ∀ dependency ∈ wave.dependencies, dependency ≠ wave.id ∧ dependency ∈ waves.map (·.id)
  ranked : ∃ rank : Text → Nat, ∀ wave ∈ waves, ∀ dependency ∈ wave.dependencies, rank dependency < rank wave.id

variable {wave : PlanningWaveDeclaration} {roles : List PlanningAssignmentRole} {policy : PlanningPolicy}
  {assignments out : List PlanningAgentAssignment} {byRole : ByRole} {refs : PlanningRefs}

theorem wave_of_some {id : Text} (found : waveOf waves id = some wave) : wave ∈ waves ∧ wave.id = id := by
  have named := List.find?_some found
  exact ⟨List.mem_of_find?_eq_some found, beq_iff_eq.mp named⟩

theorem wave_of_declared (distinct : (waves.map (·.id)).Nodup) (member : wave ∈ waves) : waveOf waves wave.id = some wave := by
  cases found : waveOf waves wave.id with
  | none =>
    rw [waveOf, List.find?_eq_none] at found
    exact absurd (beq_self_eq_true wave.id) (found wave member)
  | some other =>
    obtain ⟨otherMember, same⟩ := wave_of_some waves found
    rw [List.inj_on_of_nodup_map distinct otherMember member same]

-- The walk of the source keeps its path for the error text only.
theorem visit_walks (cycleAt : Text → PlanningError) (fuel : Nat) (stack visited : List Text)
    (id : Text) (after : List Text) (ran : visitPlanningWaveDependency waves fuel stack visited id = .ok after) :
    visit (dependenciesByWave waves) cycleAt fuel stack visited id = .ok after := by
  induction fuel generalizing stack visited id after with
  | zero => cases ran
  | succ fuel ih =>
    rw [visitPlanningWaveDependency] at ran
    rw [visit]
    split at ran
    · rename_i seen
      rw [if_pos seen]
      exact ran
    · rename_i unseen
      rw [if_neg unseen]
      obtain ⟨fresh, ran⟩ := refused_ok ran
      rw [if_neg fresh]
      obtain ⟨dependencies, listed, continued⟩ := bind_ok ran
      obtain ⟨deeper, walked, returned⟩ := bind_ok continued
      exact bind_eq_ok listed (bind_eq_ok (foldlM_agrees _ _ (ih (id :: stack)) visited deeper walked) returned)

theorem acyclic_ranked (distinct : (waves.map (·.id)).Nodup) (acyclic : validatePlanningWaveAcyclic waves = .ok ()) :
    ∃ rank : Text → Nat, ∀ wave ∈ waves, ∀ dependency ∈ wave.dependencies, rank dependency < rank wave.id := by
  obtain ⟨done, ran, _⟩ := bind_ok acyclic
  have ranAlike : visitAll (dependenciesByWave waves) PlanningError.badDeclaration (waves.length + 1) (waves.map (·.id)) = .ok done :=
    foldlM_agrees _ _ (visit_walks waves _ _ []) [] done ran
  have walked := visit_all_walked ranAlike
  obtain ⟨rank, ranks⟩ := topological_ranks walked.ordered
  refine ⟨rank, fun wave member dependency named => ?_⟩
  obtain ⟨next, listed, falls⟩ := ranks.falls wave.id (walked.left _ (List.mem_map_of_mem member))
  rw [dependenciesByWave, wave_of_declared waves distinct member] at listed
  cases listed
  exact (falls dependency named).2

theorem valid_waves {waves : List PlanningWaveDeclaration}
    (validated : validatePlanningWaves roles waves = .ok ()) : ValidWaves waves := by
  obtain ⟨names, noted, validated⟩ := bind_ok validated
  obtain ⟨listed, distinct, _⟩ := note_all_ok noted
  obtain ⟨_, checked, acyclic⟩ := bind_ok validated
  refine ⟨distinct, fun wave member dependency named => ?_, acyclic_ranked waves distinct acyclic⟩
  have passed := (check_all_ok).mp ((check_all_ok).mp checked wave member) dependency named
  obtain ⟨_, apart, known⟩ := bind_ok passed
  rw [refuse_if_ok, beq_eq_false_iff_ne] at apart
  rw [refuse_if_ok, Bool.not_eq_false', List.contains_iff_mem, listed, List.mem_reverse] at known
  exact ⟨apart, known⟩

theorem parsed_policy {text : Text} (parsed : PlanningPolicy.parse text = .ok policy) :
    ValidWaves policy.waves ∧ 1 ≤ policy.planningWaveCap := by
  obtain ⟨declarations, _, parsed⟩ := bind_ok parsed
  obtain ⟨roles, _, parsed⟩ := bind_ok parsed
  obtain ⟨waveCap, _, parsed⟩ := bind_ok parsed
  obtain ⟨_, positive, parsed⟩ := bind_ok parsed
  obtain ⟨attempts, _, parsed⟩ := bind_ok parsed
  obtain ⟨_, _, parsed⟩ := bind_ok parsed
  obtain ⟨waves, _, parsed⟩ := bind_ok parsed
  obtain ⟨_, validated, parsed⟩ := bind_ok parsed
  cases parsed
  rw [refuse_if_ok, beq_eq_false_iff_ne] at positive
  exact ⟨valid_waves validated, Nat.one_le_iff_ne_zero.mpr positive⟩

def emittedBy (byRole : ByRole) (wave : PlanningWaveDeclaration) : List PlanningAgentAssignment :=
  ((getOwn byRole wave.role).getD []).filter fun assignment => waveIncludesOrdinal wave assignment.ordinal

variable (workstream : Text)

theorem assignment_of_role {row : PlanningAssignmentRole} {index : Nat}
    {assignment : PlanningAgentAssignment} (made : assignmentOf package workstream row index = .ok assignment) :
    assignment.role = row.role := by
  obtain ⟨route, _, made⟩ := bind_ok made
  cases made
  rfl

theorem by_role_role (made : assignmentsByRole package workstream roles = .ok byRole) {role : Text}
    (listed : getOwn byRole role = some assignments) : ∀ assignment ∈ assignments, assignment.role = role := by
  have kept := foldlM_keeps
    (fun (_ : List PlanningAssignmentRole) (byRole : ByRole) => ∀ role assignments, getOwn byRole role = some assignments →
      ∀ assignment ∈ assignments, assignment.role = role) ?_ roles [] [] byRole (by simp [getOwn]) made
  · exact kept role assignments listed
  · intro _ before row after holds stepped role assignments listed
    obtain ⟨added, mapped, stepped⟩ := bind_ok stepped
    cases stepped
    rw [get_own_set_own] at listed
    split at listed
    · rename_i same
      cases listed
      intro assignment member
      obtain ⟨index, _, made⟩ := mapM_ok_source mapped assignment member
      rw [same]
      exact assignment_of_role package workstream made
    · exact holds role assignments listed

theorem emit_ok {items after : List PlanningAgentAssignment} (emitted : items.foldlM emit out = .ok after)
    (distinct : (out.map (·.assignmentId)).Nodup) : after = out ++ items ∧ (after.map (·.assignmentId)).Nodup := by
  have kept := foldlM_keeps
    (fun (log current : List PlanningAgentAssignment) => current = out ++ log ∧ (current.map (·.assignmentId)).Nodup)
    ?_ items [] out after ⟨by simp, distinct⟩ emitted
  · simpa using kept
  · rintro log current item next ⟨same, currentDistinct⟩ stepped
    obtain ⟨_, fresh, stepped⟩ := bind_ok stepped
    cases stepped
    rw [refuse_if_ok, Bool.eq_false_iff, ne_eq, List.contains_iff_mem] at fresh
    refine ⟨by rw [same, List.append_assoc], ?_⟩
    rw [List.map_append, List.nodup_append]
    refine ⟨currentDistinct, List.nodup_singleton _, ?_⟩
    intro left leftMember right rightMember same
    rw [same, List.mem_singleton.mp rightMember] at leftMember
    exact fresh leftMember

theorem emitted_waves {waves : List PlanningWaveDeclaration} (emitted : waves.foldlM (emitWave byRole) [] = .ok out) :
    out = waves.flatMap (emittedBy byRole) ∧ (out.map (·.assignmentId)).Nodup := by
  have kept := foldlM_keeps (fun (log : List PlanningWaveDeclaration) (out : List PlanningAgentAssignment) =>
      out = log.flatMap (emittedBy byRole) ∧ (out.map (·.assignmentId)).Nodup) ?_ waves [] [] out (by simp) emitted
  · simpa using kept
  · rintro log before wave after ⟨same, distinct⟩ stepped
    unfold emitWave at stepped
    cases listed : getOwn byRole wave.role with
    | none =>
      rw [listed] at stepped
      cases stepped
    | some assignments =>
      rw [listed] at stepped
      obtain ⟨grown, grownDistinct⟩ := emit_ok stepped distinct
      refine ⟨?_, grownDistinct⟩
      rw [grown, same, List.flatMap_append, List.flatMap_singleton, emittedBy, listed, Option.getD_some]

theorem from_policy_ok {manifest : PlanningManifest} (made : PlanningManifest.fromPolicy package workstream policy = .ok manifest) :
    manifest.waves = policy.waves ∧ manifest.planningWaveCap = policy.planningWaveCap ∧
      assignmentsForPolicy package workstream policy = .ok manifest.assignments := by
  obtain ⟨assignments, listed, made⟩ := bind_ok made
  cases made
  exact ⟨rfl, rfl, listed⟩

structure ValidAssignments (manifest : PlanningManifest) : Prop where
  distinct : (manifest.assignments.map (·.assignmentId)).Nodup
  apart : ∀ wave ∈ manifest.waves, ∀ other ∈ manifest.waves, wave ≠ other →
    ∀ assignment ∈ waveAssignments manifest wave, assignment ∉ waveAssignments manifest other

theorem valid_assignments {manifest : PlanningManifest}
    (made : PlanningManifest.fromPolicy package workstream policy = .ok manifest) : ValidAssignments manifest := by
  obtain ⟨waves, _, listed⟩ := from_policy_ok package workstream made
  obtain ⟨byRole, roles, listed⟩ := bind_ok listed
  obtain ⟨out, emitted, listed⟩ := bind_ok listed
  obtain ⟨_, _, listed⟩ := bind_ok listed
  obtain ⟨_, _, listed⟩ := bind_ok listed
  cases listed
  rw [← waves] at emitted
  obtain ⟨same, distinct⟩ := emitted_waves emitted
  have emits : ∀ wave assignment, assignment ∈ manifest.assignments → assignment.role = wave.role →
      waveIncludesOrdinal wave assignment.ordinal = true → assignment ∈ emittedBy byRole wave := by
    intro wave assignment member role included
    rw [same] at member
    obtain ⟨emitter, _, byEmitter⟩ := List.mem_flatMap.mp member
    obtain ⟨inRole, _⟩ := List.mem_filter.mp byEmitter
    cases listed : getOwn byRole emitter.role with
    | none =>
      rw [listed] at inRole
      cases inRole
    | some listedAssignments =>
      rw [listed] at inRole
      have sameRole := by_role_role package workstream roles listed assignment inRole
      refine List.mem_filter.mpr ⟨?_, included⟩
      rw [← role, sameRole, listed]
      exact inRole
  refine ⟨distinct, fun wave waveMember other otherMember differ assignment inWave inOther => ?_⟩
  obtain ⟨member, fits⟩ := List.mem_filter.mp inWave
  obtain ⟨_, otherFits⟩ := List.mem_filter.mp inOther
  rw [Bool.and_eq_true, beq_iff_eq] at fits otherFits
  have symm : Std.Symm (Function.onFun List.Disjoint (emittedBy byRole)) := ⟨fun _ _ apart => List.Disjoint.symm apart⟩
  have once : (manifest.waves.flatMap (emittedBy byRole)).Nodup := same ▸ distinct.of_map
  have disjoint := (List.nodup_flatMap.mp once).2.forall waveMember otherMember differ
  exact disjoint (emits wave assignment member fits.1 fits.2) (emits other assignment member otherFits.1 otherFits.2)

theorem barrier_complete :
    barrierStatus manifest wave refs = .complete ↔ waveIsInactive wave refs = true ∨ AllAccepted manifest wave refs := by
  unfold barrierStatus
  by_cases inactive : waveIsInactive wave refs = true
  · rw [if_pos inactive]
    exact ⟨fun _ => .inl inactive, fun _ => rfl⟩
  · rw [if_neg inactive]
    have counted : (waveAssignments manifest wave).countP (fun assignment => assignmentIsAccepted assignment.assignmentId refs) =
        (waveAssignments manifest wave).length ↔ AllAccepted manifest wave refs := List.countP_eq_length
    by_cases accepted : AllAccepted manifest wave refs
    · simp only
      rw [if_pos (counted.mpr accepted)]
      exact ⟨fun _ => .inr accepted, fun _ => rfl⟩
    · simp only
      rw [if_neg fun all => accepted (counted.mp all)]
      constructor
      · intro complete
        split at complete <;> cases complete
      · rintro (isInactive | isAccepted)
        · exact absurd isInactive inactive
        · exact absurd isAccepted accepted

theorem unissued_fresh {assignmentId : Text}
    (waiting : assignmentId ∈ unissued assignments refs) : ∀ issued ∈ refs.issued, issued.assignmentId ≠ assignmentId := by
  obtain ⟨assignment, member, rfl⟩ := List.mem_map.mp waiting
  obtain ⟨_, open_⟩ := List.mem_filter.mp member
  rw [Bool.and_eq_true, Bool.and_eq_true, Bool.not_eq_true', assignmentIsActive, Bool.not_not] at open_
  obtain ⟨⟨unaccepted, inactive⟩, unfailed⟩ := open_
  rw [List.isEmpty_iff, activeRefsForAssignment, List.map_eq_nil_iff, List.filter_eq_nil_iff] at inactive
  rw [List.isEmpty_iff, assignmentFailures, List.filter_eq_nil_iff] at unfailed
  rw [assignmentIsAccepted, List.any_eq_false] at unaccepted
  intro issued issuedMember same
  have notAccepted : issued ∉ refs.accepted := by
    intro accepted
    exact unaccepted issued accepted (by simp [same, issuedMember])
  by_cases failed : terminalFailureExact issued refs = true
  · rw [terminalFailureExact, List.any_eq_true] at failed
    obtain ⟨failure, failureMember, failedHere⟩ := failed
    cases beq_iff_eq.mp failedHere
    exact unfailed failure failureMember (by simp [same, issuedMember, notAccepted])
  · exact inactive issued issuedMember (by simp [same, acceptedExact, notAccepted, failed])

section Launch

variable (package : Package) (manifest : PlanningManifest) (refs : PlanningRefs) (cap : Nat)
  {active : List PlanningActiveRef} {assignments : List PlanningAgentAssignment} {waiting : List Text}
  {wave : PlanningWaveDeclaration} {waveId : Text}

theorem launch_wave_ok (launched : launchWave package manifest cap wave active waiting = .launch waveId assignments) :
    wave.id = waveId ∧ (∃ slots, package.concurrencyForRole wave.role = .ok (slots + 1)) ∧ waiting ≠ [] ∧
      ∀ assignment ∈ assignments, assignment.assignmentId ∈ waiting := by
  unfold launchWave at launched
  cases capacity : package.concurrencyForRole wave.role with
  | error failed =>
    rw [capacity] at launched
    cases launched
  | ok poolCap =>
    rw [capacity] at launched
    simp only at launched
    split at launched
    · cases launched
    · rename_i some_
      cases launched
      have chosen : ∀ assignment ∈ selectAssignments manifest waiting (min (min cap manifest.planningWaveCap) poolCap - active.length),
          assignment.assignmentId ∈ waiting.take (min (min cap manifest.planningWaveCap) poolCap - active.length) := by
        intro assignment member
        exact List.contains_iff_mem.mp (List.mem_filter.mp member).2
      rw [List.isEmpty_iff] at some_
      obtain ⟨first, firstMember⟩ := List.exists_mem_of_ne_nil _ some_
      have firstChosen := chosen first firstMember
      refine ⟨rfl, ?_, List.ne_nil_of_mem (List.mem_of_mem_take firstChosen), fun assignment member =>
        List.mem_of_mem_take (chosen assignment member)⟩
      cases poolCap with
      | zero => simp at firstChosen
      | succ slots => exact ⟨slots, rfl⟩

structure StopsAt (waves before : List PlanningWaveDeclaration) (wave : PlanningWaveDeclaration)
    (after : List PlanningWaveDeclaration) : Prop where
  place : waves = before ++ wave :: after
  passed : ∀ earlier ∈ before, planningWaveDependenciesComplete manifest earlier refs = true →
    barrierStatus manifest earlier refs = .complete
  ready : planningWaveDependenciesComplete manifest wave refs = true

omit package cap in
theorem stops_later {first : PlanningWaveDeclaration} {waves before : List PlanningWaveDeclaration}
    {after : List PlanningWaveDeclaration} (stops : StopsAt manifest refs waves before wave after)
    (passed : planningWaveDependenciesComplete manifest first refs = true → barrierStatus manifest first refs = .complete) :
    StopsAt manifest refs (first :: waves) (first :: before) wave after := by
  refine ⟨by rw [stops.place]; rfl, fun earlier member => ?_, stops.ready⟩
  rcases List.mem_cons.mp member with rfl | inBefore
  · exact passed
  · exact stops.passed earlier inBefore

theorem next_wave_launch {waves : List PlanningWaveDeclaration}
    (launched : nextWaveOf package manifest refs cap waves = .launch waveId assignments) :
    ∃ before wave after active waiting, StopsAt manifest refs waves before wave after ∧
      barrierStatus manifest wave refs = .running active waiting ∧
      launchWave package manifest cap wave active waiting = .launch waveId assignments := by
  induction waves with
  | nil => cases launched
  | cons first rest ih =>
    rw [nextWaveOf] at launched
    split at launched
    · rename_i ready
      split at launched
      · rename_i complete
        obtain ⟨before, wave, after, active, waiting, stops, ran⟩ := ih launched
        exact ⟨first :: before, wave, after, active, waiting, stops_later manifest refs stops fun _ => complete, ran⟩
      · cases launched
      · rename_i active waiting running
        exact ⟨[], first, rest, active, waiting, ⟨rfl, by simp, ready⟩, running, launched⟩
    · rename_i waits
      obtain ⟨before, wave, after, active, waiting, stops, ran⟩ := ih launched
      exact ⟨first :: before, wave, after, active, waiting, stops_later manifest refs stops fun ready => absurd ready waits, ran⟩

omit package cap in
theorem barrier_running (running : barrierStatus manifest wave refs = .running active waiting) :
    waiting = [] ∨ waiting = unissued (waveAssignments manifest wave) refs := by
  unfold barrierStatus at running
  split at running
  · cases running
  · simp only at running
    split at running
    · cases running
    · split at running
      · cases running
      · cases running
        split
        · exact .inr rfl
        · exact .inl rfl

omit package cap in
theorem dependencies_complete (valid : ValidWaves manifest.waves) (member : wave ∈ manifest.waves) :
    planningWaveDependenciesComplete manifest wave refs = true ↔
      ∀ dependency, DependsOn manifest.waves wave dependency → barrierStatus manifest dependency refs = .complete := by
  rw [planningWaveDependenciesComplete, List.all_eq_true]
  constructor
  · intro complete dependency ⟨declared, named⟩
    have found := complete dependency.id named
    rw [wave_of_declared manifest.waves valid.distinct declared] at found
    exact beq_iff_eq.mp found
  · intro complete id named
    obtain ⟨dependency, declared, rfl⟩ := List.mem_map.mp (valid.known wave member id named).2
    rw [wave_of_declared manifest.waves valid.distinct declared]
    exact beq_iff_eq.mpr (complete dependency ⟨declared, named⟩)

omit package refs cap in
theorem required_declared {earlier : PlanningWaveDeclaration} (requires : Requires manifest.waves wave earlier) :
    earlier ∈ manifest.waves := by
  cases requires with
  | single direct => exact direct.1
  | tail _ direct => exact direct.1

omit package cap in
theorem required_complete (valid : ValidWaves manifest.waves) (before after : List PlanningWaveDeclaration)
    (wave : PlanningWaveDeclaration) (stops : StopsAt manifest refs manifest.waves before wave after)
    (inOrder : ∀ later ∈ after, Requires manifest.waves wave later → waveAssignments manifest later ≠ [] → later.id ∈ wave.dependencies)
    (earlier : PlanningWaveDeclaration) (requires : Requires manifest.waves wave earlier) :
    barrierStatus manifest earlier refs = .complete := by
  obtain ⟨rank, falls⟩ := valid.ranked
  have waveMember : wave ∈ manifest.waves := by simp [stops.place]
  have below : ∀ other, Requires manifest.waves wave other → rank other.id < rank wave.id := by
    intro other required
    induction required with
    | single direct => exact falls wave waveMember _ direct.2
    | tail path direct ih => exact (falls _ (required_declared manifest path) _ direct.2).trans ih
  -- The rank falls from a wave to what it depends on.
  induction ranked : rank earlier.id using Nat.strong_induction_on generalizing earlier with
  | _ bound ih =>
    have declared := required_declared manifest requires
    have place := declared
    rw [stops.place, List.mem_append, List.mem_cons] at place
    rcases place with inBefore | rfl | inAfter
    · refine stops.passed earlier inBefore ((dependencies_complete manifest refs valid declared).mpr ?_)
      intro dependency direct
      refine ih (rank dependency.id) ?_ dependency (requires.tail direct) rfl
      rw [← ranked]
      exact falls earlier declared _ direct.2
    · exact absurd (below earlier requires) (Nat.lt_irrefl _)
    · by_cases empty : waveAssignments manifest earlier = []
      · rw [barrier_complete]
        right
        intro assignment member
        rw [empty] at member
        cases member
      · exact (dependencies_complete manifest refs valid waveMember).mp stops.ready earlier
          ⟨declared, inOrder earlier inAfter requires empty⟩

theorem ordered_respects (valid : ValidWaves manifest.waves) (inOrder : DeclaredInOrder package manifest) :
    LaunchRespects manifest refs (nextPlanningWave package manifest refs cap) := by
  cases launched : nextPlanningWave package manifest refs cap with
  | launch waveId assignments =>
    obtain ⟨before, wave, after, active, waiting, stops, running, chosen⟩ := next_wave_launch package manifest refs cap launched
    obtain ⟨named, capacity, some_, fresh⟩ := launch_wave_ok package manifest cap chosen
    have isUnissued := (barrier_running manifest refs running).resolve_left some_
    have launchable : Launchable package manifest wave := by
      refine ⟨fun empty => some_ ?_, capacity⟩
      rw [isUnissued, empty]
      rfl
    refine ⟨⟨wave, by simp [stops.place], named, fun earlier requires active => ?_⟩, fun assignment member => ?_⟩
    · have complete := required_complete manifest refs valid before after wave stops
        (inOrder before wave after stops.place launchable) earlier requires
      rw [barrier_complete, active] at complete
      exact complete.resolve_left Bool.false_ne_true
    · have fromWaiting := fresh assignment member
      rw [isUnissued] at fromWaiting
      exact unissued_fresh fromWaiting
  | waitingOnInFlight waveId active => trivial
  | complete => trivial
  | blocked wave => trivial
  | capacityUnknown failed => trivial

end Launch

end PiAutopilot.Planning
