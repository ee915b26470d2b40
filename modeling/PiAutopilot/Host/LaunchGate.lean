import PiAutopilot.Host.Reopen

set_option autoImplicit false

/-! # Launches and blocked requests around one gate -/

namespace PiAutopilot.Host

open Lib

inductive Phase where
  /-- The hold is taken; the flights that were running then have not all settled. -/
  | waiting (flights : List Nat)
  /-- The admission is held: launch acknowledgements are replayed, Core is asked. -/
  | held
  /-- Core answered RETRY and the response is being written. -/
  | retrying
  /-- Core accepted, and its gate was applied. -/
  | accepted
  /-- Something failed and the connection was closed. -/
  | faulted
  /-- The RETRY response has been completely written. -/
  | retried
deriving DecidableEq

structure Scheduling where
  coordinator : Coordinator
  requests : List (Nat × Phase)
  nextFlight : Nat
  /-- A hold has been kept by `retainFailClosedHold` or made permanent. -/
  pinned : Bool
deriving DecidableEq

inductive Event where
  | launch
  | settle (flight : Nat)
  | spawned (action : BackgroundAction) (task : BgTaskSnapshot) (io : Except String Unit)
  | call (call : Call) (io : Except String Unit)
  | acquire (request : Nat)
  | drained (request : Nat)
  | fault (request : Nat)
  | retry (request : Nat)
  | accept (request : Nat) (directive : BlockedGateDirective) (io : Except String Unit)
  | written (request : Nat)
  | retain
  | finishActivation (records : List BlockedGateDirective)

namespace Scheduling

variable (state : Scheduling)

def gate : LaunchGate := state.coordinator.launchGate

def withGate (gate : LaunchGate) : Scheduling := { state with coordinator := { state.coordinator with launchGate := gate } }

def withPhase (request : Nat) (phase : Phase) : Scheduling := { state with requests := setOwn state.requests request phase }

def withCoordinator (coordinator : Coordinator) : Scheduling :=
  { state with coordinator, pinned := state.pinned || coordinator.launchGate.hold == .permanent }

def retain : Scheduling := { state.withGate state.gate.retainFailClosedHold with pinned := true }

section Step

variable [HostJson]

def step (state : Scheduling) : Event → Option Scheduling
  | .launch =>
    match state.gate.enterLaunch state.nextFlight with
    | .ok gate => some { state.withGate gate with nextFlight := state.nextFlight + 1 }
    | .error _ => some state
  | .settle flight => if flight ∈ state.gate.flights then some (state.withGate (state.gate.settle flight)) else none
  | .spawned action task io =>
    match state.coordinator.registerSuccessfulRun action task io with
    | (coordinator, .ok ()) => some (state.withCoordinator coordinator)
    | (coordinator, .error _) => some (state.withCoordinator coordinator).retain
  | .call .reopen _ => none
  | .call call io => some (state.withCoordinator (state.coordinator.call io call))
  | .acquire request =>
    if getOwn state.requests request = none then
      some ((state.withGate state.gate.acquireBlockedAdmission).withPhase request (.waiting state.gate.flights))
    else none
  | .drained request =>
    match getOwn state.requests request with
    | some (.waiting flights) =>
      if ∀ flight ∈ flights, flight ∉ state.gate.flights then some (state.withPhase request .held) else none
    | _ => none
  | .fault request =>
    match getOwn state.requests request with
    | some .held | some .retrying | some .accepted => some (state.withPhase request .faulted)
    | _ => none
  | .retry request =>
    match getOwn state.requests request with
    | some .held => some (state.withPhase request .retrying)
    | _ => none
  | .accept request directive io =>
    match getOwn state.requests request with
    | some .held =>
      match state.coordinator.promoteBlockedGate directive io with
      | (coordinator, .ok ()) => some ((state.withCoordinator coordinator).withPhase request .accepted)
      | (coordinator, .error _) => some ((state.withCoordinator coordinator).withPhase request .faulted)
    | _ => none
  | .written request =>
    match getOwn state.requests request with
    | some .retrying => some ((state.withGate state.gate.releaseBlockedAdmissionOnRetry).withPhase request .retried)
    | _ => none
  | .retain => some state.retain
  | .finishActivation records =>
    match state.coordinator.finishActivation records with
    | .ok coordinator => some { state with coordinator }
    | .error _ => none

def start (coordinator : Coordinator) : Scheduling :=
  { coordinator, requests := [], nextFlight := 0, pinned := coordinator.launchGate.hold == .permanent }

end Step

variable (state : Scheduling)

def Undecided (request : Nat) : Prop :=
  ∃ phase, getOwn state.requests request = some phase ∧ phase ≠ .retried ∧ ∀ flights, phase ≠ .waiting flights

/-- While a request is undecided no launch is in flight and none can start; a hold that was kept or
made permanent is closed. -/
structure GateKept (state : Scheduling) : Prop where
  undecided : ∀ request, state.Undecided request → state.gate.flights = [] ∧ ∃ closed, state.gate.assertOpen = .error closed
  pinned : state.pinned = true → state.gate.hold ≠ .opened

/-- A RETRY that would open the gate is written only when no other request holds it and no hold is to stay. -/
def Orderly : Event → Prop
  | .written request => state.gate.hold = .permanent ∨ (state.pinned = false ∧
      ∀ other phase, other ≠ request → getOwn state.requests other = some phase → phase = .retried)
  | _ => True

inductive Reached [HostJson] : Scheduling → Prop where
  | opened (file : List Char) (coordinator : Coordinator) (opened : Coordinator.open file = .ok coordinator) :
      Reached (start coordinator)
  | step (state after : Scheduling) (event : Event) (before : Reached state) (orderly : state.Orderly event)
      (stepped : state.step event = some after) : Reached after

structure Kept (state : Scheduling) : Prop where
  holding : ∀ request phase, getOwn state.requests request = some phase → phase ≠ .retried → state.gate.hold ≠ .opened
  waiting : ∀ request flights, getOwn state.requests request = some (.waiting flights) → ∀ flight ∈ state.gate.flights, flight ∈ flights
  drained : ∀ request, state.Undecided request → state.gate.flights = []
  pinned : state.pinned = true → state.gate.hold ≠ .opened

theorem kept_gate (kept : Kept state) : GateKept state := by
  refine ⟨fun request undecided => ⟨kept.drained request undecided, ?_⟩, kept.pinned⟩
  obtain ⟨phase, found, unwritten, _⟩ := undecided
  have closed := kept.holding request phase found unwritten
  have refused : (state.gate.activationHold || state.gate.hold != .opened) = true := by
    rw [bne_iff_ne.mpr closed, Bool.or_true]
  exact ⟨_, by rw [LaunchGate.assertOpen, refuseIf, if_pos refused]⟩

theorem kept_tightened {state after : Scheduling} (kept : Kept state) (requests : after.requests = state.requests)
    (hold : after.gate.hold = state.gate.hold ∨ after.gate.hold ≠ .opened)
    (flights : ∀ flight ∈ after.gate.flights, flight ∈ state.gate.flights)
    (pinned : after.pinned = true → after.gate.hold ≠ .opened) : Kept after := by
  have closed : state.gate.hold ≠ .opened → after.gate.hold ≠ .opened := by
    intro before
    rcases hold with same | closed
    · rw [same]
      exact before
    · exact closed
  refine ⟨?_, ?_, ?_, pinned⟩
  · intro request phase found unwritten
    rw [requests] at found
    exact closed (kept.holding request phase found unwritten)
  · intro request captured found flight running
    rw [requests] at found
    exact kept.waiting request captured found flight (flights flight running)
  · rintro request ⟨phase, found, undecided⟩
    rw [requests] at found
    have none := kept.drained request ⟨phase, found, undecided⟩
    refine List.eq_nil_iff_forall_not_mem.mpr fun flight running => ?_
    have earlier := flights flight running
    rw [none] at earlier
    cases earlier

variable {request : Nat} {gate : LaunchGate}

theorem kept_moved (kept : Kept state) {before phase : Phase}
    (found : getOwn state.requests request = some before) (unwritten : before ≠ .retried)
    (settled : (∀ flights, before ≠ .waiting flights) ∨ state.gate.flights = [])
    (further : ∀ flights, phase ≠ .waiting flights) : Kept (state.withPhase request phase) := by
  have closed := kept.holding request before found unwritten
  have empty : state.gate.flights = [] := by
    rcases settled with past | none
    · exact kept.drained request ⟨before, found, unwritten, past⟩
    · exact none
  have phases : ∀ other otherPhase, getOwn (state.withPhase request phase).requests other = some otherPhase →
      (other = request ∧ otherPhase = phase) ∨ getOwn state.requests other = some otherPhase := by
    intro other otherPhase otherFound
    have set : getOwn (setOwn state.requests request phase) other = some otherPhase := otherFound
    rw [get_own_set_own] at set
    by_cases same : other = request
    · rw [if_pos same] at set
      exact .inl ⟨same, (Option.some.inj set).symm⟩
    · rw [if_neg same] at set
      exact .inr set
  refine ⟨fun _ _ _ _ => closed, ?_, fun _ _ => empty, kept.pinned⟩
  intro other flights otherFound flight running
  rcases phases other _ otherFound with ⟨_, same⟩ | earlier
  · exact absurd same.symm (further flights)
  · exact kept.waiting other flights earlier flight running

def Tightens (before after : LaunchGate) : Prop := after = before ∨ after = { before with hold := .permanent }

theorem kept_called (kept : Kept state) {coordinator : Coordinator}
    (tightens : Tightens state.gate coordinator.launchGate) : Kept (state.withCoordinator coordinator) := by
  have pinned : (state.withCoordinator coordinator).pinned = true → coordinator.launchGate.hold ≠ .opened := by
    intro noted
    rcases Bool.or_eq_true _ _ |>.mp noted with before | permanent
    · rcases tightens with same | same
      · rw [same]
        exact kept.pinned before
      · rw [same]
        exact Hold.noConfusion
    · rw [eq_of_beq permanent]
      exact Hold.noConfusion
  rcases tightens with same | same
  · refine kept_tightened kept rfl (.inl ?_) (fun flight running => ?_) pinned
    · exact congrArg LaunchGate.hold same
    · have earlier : flight ∈ coordinator.launchGate.flights := running
      rw [same] at earlier
      exact earlier
  · refine kept_tightened kept rfl (.inr ?_) (fun flight running => ?_) pinned
    · show coordinator.launchGate.hold ≠ .opened
      rw [same]
      exact Hold.noConfusion
    · have earlier : flight ∈ coordinator.launchGate.flights := running
      rw [same] at earlier
      exact earlier

theorem retained_closed : gate.retainFailClosedHold.hold ≠ .opened := by
  unfold LaunchGate.retainFailClosedHold
  split
  · exact Hold.noConfusion
  · assumption

theorem kept_retained (kept : Kept state) : Kept state.retain := by
  refine kept_tightened kept rfl (.inr (retained_closed)) (fun flight running => ?_) fun _ =>
    retained_closed
  have earlier : flight ∈ state.gate.retainFailClosedHold.flights := running
  unfold LaunchGate.retainFailClosedHold at earlier
  split at earlier <;> exact earlier

theorem kept_launched (kept : Kept state) (entered : state.gate.enterLaunch state.nextFlight = .ok gate) :
    Kept { state.withGate gate with nextFlight := state.nextFlight + 1 } := by
  obtain ⟨_, isOpen, entered⟩ := bind_ok entered
  rw [LaunchGate.assertOpen, refuse_if_ok, Bool.or_eq_false_iff, bne_eq_false_iff_eq] at isOpen
  cases entered
  have free : ∀ request phase, getOwn state.requests request = some phase → phase = .retried := by
    intro request phase found
    by_contra unwritten
    exact kept.holding request phase found unwritten isOpen.2
  refine ⟨?_, ?_, ?_, ?_⟩
  · intro request phase found unwritten
    exact absurd (free request phase found) unwritten
  · intro request flights found
    cases free request _ found
  · rintro request ⟨phase, found, unwritten, _⟩
    exact absurd (free request phase found) unwritten
  · intro pinned
    exact absurd isOpen.2 (kept.pinned pinned)

theorem kept_acquired (kept : Kept state) :
    Kept ((state.withGate state.gate.acquireBlockedAdmission).withPhase request (.waiting state.gate.flights)) := by
  have closed : state.gate.acquireBlockedAdmission.hold ≠ .opened := by
    unfold LaunchGate.acquireBlockedAdmission
    split
    · exact Hold.noConfusion
    · assumption
  have flights : state.gate.acquireBlockedAdmission.flights = state.gate.flights := by
    unfold LaunchGate.acquireBlockedAdmission
    split <;> rfl
  refine ⟨fun _ _ _ _ => closed, ?_, ?_, fun _ => closed⟩
  · intro other captured found flight running
    have set : getOwn (setOwn state.requests request (.waiting state.gate.flights)) other = some (.waiting captured) := found
    have earlier : flight ∈ state.gate.acquireBlockedAdmission.flights := running
    rw [flights] at earlier
    rw [get_own_set_own] at set
    by_cases same : other = request
    · rw [if_pos same] at set
      cases set
      exact earlier
    · rw [if_neg same] at set
      exact kept.waiting other captured set flight earlier
  · rintro other ⟨phase, found, unwritten, past⟩
    have set : getOwn (setOwn state.requests request (.waiting state.gate.flights)) other = some phase := found
    show state.gate.acquireBlockedAdmission.flights = []
    rw [flights]
    rw [get_own_set_own] at set
    by_cases same : other = request
    · rw [if_pos same] at set
      cases set
      exact absurd rfl (past _)
    · rw [if_neg same] at set
      exact kept.drained other ⟨phase, set, unwritten, past⟩

theorem kept_written (kept : Kept state) (orderly : state.Orderly (.written request)) :
    Kept ((state.withGate state.gate.releaseBlockedAdmissionOnRetry).withPhase request .retried) := by
  have phases : ∀ other phase,
      getOwn ((state.withGate state.gate.releaseBlockedAdmissionOnRetry).withPhase request .retried).requests other = some phase →
      phase ≠ .retried → other ≠ request ∧ getOwn state.requests other = some phase := by
    intro other phase found unwritten
    have set : getOwn (setOwn state.requests request .retried) other = some phase := found
    rw [get_own_set_own] at set
    by_cases same : other = request
    · rw [if_pos same] at set
      exact absurd (Option.some.inj set).symm unwritten
    · rw [if_neg same] at set
      exact ⟨same, set⟩
  rcases orderly with permanent | ⟨unpinned, alone⟩
  · -- A permanent hold is not released.
    have same : state.gate.releaseBlockedAdmissionOnRetry = state.gate := by
      unfold LaunchGate.releaseBlockedAdmissionOnRetry
      rw [if_neg (by rw [permanent]; exact Hold.noConfusion)]
    rw [same] at phases ⊢
    refine ⟨?_, ?_, ?_, kept.pinned⟩
    · intro other phase found unwritten
      exact kept.holding other phase (phases other phase found unwritten).2 unwritten
    · intro other flights found
      exact kept.waiting other flights (phases other _ found Phase.noConfusion).2
    · rintro other ⟨phase, found, unwritten, past⟩
      exact kept.drained other ⟨phase, (phases other phase found unwritten).2, unwritten, past⟩
  · have free : ∀ other phase,
        getOwn ((state.withGate state.gate.releaseBlockedAdmissionOnRetry).withPhase request .retried).requests other = some phase →
        phase = .retried := by
      intro other phase found
      by_contra unwritten
      obtain ⟨apart, earlier⟩ := phases other phase found unwritten
      exact unwritten (alone other phase apart earlier)
    refine ⟨?_, ?_, ?_, ?_⟩
    · intro other phase found unwritten
      exact absurd (free other phase found) unwritten
    · intro other flights found
      cases free other _ found
    · rintro other ⟨phase, found, unwritten, _⟩
      exact absurd (free other phase found) unwritten
    · intro pinned
      have noted : state.pinned = true := pinned
      rw [unpinned] at noted
      cases noted

section Keeping

variable [HostJson] (coordinator : Coordinator)

theorem perform_gate (decision : Except String (Option Ledger.Entry)) (io : Except String Unit) :
    (coordinator.perform decision io).1.launchGate = coordinator.launchGate := by
  match decision with
  | .error _ => rfl
  | .ok none => rfl
  | .ok (some entry) =>
    simp only [Coordinator.perform, Coordinator.commit]
    split
    · rfl
    · split <;> rfl

theorem register_gate (action : BackgroundAction) (task : BgTaskSnapshot) (io : Except String Unit) :
    Tightens coordinator.launchGate (coordinator.registerSuccessfulRun action task io).1.launchGate := by
  unfold Coordinator.registerSuccessfulRun
  split
  · exact .inl rfl
  · exact .inl rfl
  · simp only
    split
    · exact .inr rfl
    · exact .inl rfl

theorem promote_gate (directive : BlockedGateDirective) (io : Except String Unit) :
    Tightens coordinator.launchGate (coordinator.promoteBlockedGate directive io).1.launchGate := by
  have same := perform_gate coordinator (coordinator.ledger.promoteBlockedGate directive) io
  unfold Coordinator.promoteBlockedGate
  split
  · rename_i after failed performed
    rw [performed] at same
    exact .inl same
  · rename_i after performed
    rw [performed] at same
    exact .inr (by rw [← same])

theorem call_gate {call : Call} (io : Except String Unit) (live : call ≠ .reopen) :
    Tightens coordinator.launchGate (coordinator.call io call).launchGate := by
  cases call with
  | registerSuccessfulRun action task => exact register_gate coordinator action task io
  | promoteBlockedGate directive => exact promote_gate coordinator directive io
  | reopen => exact absurd rfl live
  | _ => exact .inl (perform_gate coordinator _ io)

theorem kept_step {state after : Scheduling} {event : Event} (kept : Kept state) (orderly : state.Orderly event)
    (stepped : state.step event = some after) : Kept after := by
  cases event with
  | launch =>
    simp only [step] at stepped
    split at stepped
    · rename_i gate entered
      cases stepped
      exact kept_launched state kept entered
    · cases stepped
      exact kept
  | settle flight =>
    simp only [step] at stepped
    split at stepped
    · cases stepped
      exact kept_tightened kept rfl (.inl rfl) (fun other running => List.mem_of_mem_filter running) kept.pinned
    · cases stepped
  | spawned action task io =>
    have tightens := register_gate state.coordinator action task io
    simp only [step] at stepped
    split at stepped
    · rename_i coordinator registered
      cases stepped
      rw [registered] at tightens
      exact kept_called state kept tightens
    · rename_i coordinator failed registered
      cases stepped
      rw [registered] at tightens
      exact kept_retained _ (kept_called state kept tightens)
  | call call io =>
    by_cases live : call = .reopen
    · subst live
      cases stepped
    · have tightens := call_gate state.coordinator io live
      have ran : some (state.withCoordinator (state.coordinator.call io call)) = some after := by
        cases call <;> first | exact stepped | exact absurd rfl live
      cases ran
      exact kept_called state kept tightens
  | acquire request =>
    simp only [step] at stepped
    split at stepped
    · cases stepped
      exact kept_acquired state kept
    · cases stepped
  | drained request =>
    simp only [step] at stepped
    split at stepped
    · rename_i flights found
      split at stepped
      · rename_i gone
        cases stepped
        refine kept_moved state kept found Phase.noConfusion (.inr ?_) fun _ => Phase.noConfusion
        refine List.eq_nil_iff_forall_not_mem.mpr fun flight running => ?_
        exact gone flight (kept.waiting request flights found flight running) running
      · cases stepped
    · cases stepped
  | fault request =>
    simp only [step] at stepped
    split at stepped
    all_goals first
      | (rename_i found
         cases stepped
         exact kept_moved state kept found Phase.noConfusion (.inl fun _ => Phase.noConfusion)
           fun _ => Phase.noConfusion)
      | cases stepped
  | retry request =>
    simp only [step] at stepped
    split at stepped
    · rename_i found
      cases stepped
      exact kept_moved state kept found Phase.noConfusion (.inl fun _ => Phase.noConfusion) fun _ => Phase.noConfusion
    · cases stepped
  | accept request directive io =>
    have tightens := promote_gate state.coordinator directive io
    simp only [step] at stepped
    split at stepped
    · rename_i found
      split at stepped
      · rename_i coordinator promoted
        cases stepped
        rw [promoted] at tightens
        exact kept_moved _ (kept_called state kept tightens) found Phase.noConfusion
          (.inl fun _ => Phase.noConfusion) fun _ => Phase.noConfusion
      · rename_i coordinator failed promoted
        cases stepped
        rw [promoted] at tightens
        exact kept_moved _ (kept_called state kept tightens) found Phase.noConfusion
          (.inl fun _ => Phase.noConfusion) fun _ => Phase.noConfusion
    · cases stepped
  | written request =>
    simp only [step] at stepped
    split at stepped
    · cases stepped
      exact kept_written state kept orderly
    · cases stepped
  | retain =>
    cases stepped
    exact kept_retained state kept
  | finishActivation records =>
    simp only [step] at stepped
    split at stepped
    · rename_i coordinator finished
      cases stepped
      obtain ⟨_, _, finished⟩ := bind_ok finished
      cases finished
      exact kept_tightened kept rfl (.inl rfl) (fun _ running => running) kept.pinned
    · cases stepped

theorem reached_kept {state : Scheduling} (reached : Reached state) : Kept state := by
  induction reached with
  | opened file coordinator opened =>
    refine ⟨?_, ?_, ?_, ?_⟩
    · intro request phase found
      cases found
    · intro request flights found
      cases found
    · rintro request ⟨phase, found, _⟩
      cases found
    · intro pinned
      have permanent : coordinator.launchGate.hold = .permanent := eq_of_beq pinned
      show coordinator.launchGate.hold ≠ .opened
      rw [permanent]
      exact Hold.noConfusion
  | step state after event before orderly stepped ih => exact kept_step ih orderly stepped

/-- In every orderly run, the launch gate stays closed for each undecided request. -/
theorem launch_gate_kept (state : Scheduling) (reached : Reached state) : GateKept state := kept_gate state (reached_kept reached)

end Keeping

section Sample

attribute [local instance] sampleHostJson

theorem retried_request_keeps_gate :
    ∃ state, [Event.finishActivation [], .launch, .acquire 0, .settle 0, .drained 0, .retry 0, .written 0].foldlM step
      (start sampleStart) = some state ∧ GateKept state := by
  refine ⟨_, rfl, launch_gate_kept _ ?_⟩
  have begun : Reached (start sampleStart) := .opened [] sampleStart rfl
  have activated := Reached.step _ _ (.finishActivation []) begun trivial rfl
  have launched := Reached.step _ _ .launch activated trivial rfl
  have acquired := Reached.step _ _ (.acquire 0) launched trivial rfl
  have settled := Reached.step _ _ (.settle 0) acquired trivial rfl
  have drained := Reached.step _ _ (.drained 0) settled trivial rfl
  have answered := Reached.step _ _ (.retry 0) drained trivial rfl
  refine Reached.step _ _ (.written 0) answered (.inr ⟨rfl, ?_⟩) rfl
  intro other phase apart found
  have set : getOwn [(0, Phase.retrying)] other = some phase := found
  rw [getOwn, List.lookup_cons, beq_false_of_ne apart] at set
  cases set

/-- Two requests are held; the RETRY of the first opens the gate of the second. -/
theorem retry_opens_other_admission :
    ∃ state, [Event.finishActivation [], .acquire 0, .drained 0, .acquire 1, .drained 1, .retry 0, .written 0].foldlM step
      (start sampleStart) = some state ∧ state.Undecided 1 ∧ state.gate.assertOpen = .ok () ∧ ¬ GateKept state := by
  refine ⟨_, rfl, ⟨.held, rfl, Phase.noConfusion, fun _ => Phase.noConfusion⟩, rfl, fun kept => ?_⟩
  obtain ⟨_, closed, refused⟩ := kept.undecided 1 ⟨.held, rfl, Phase.noConfusion, fun _ => Phase.noConfusion⟩
  cases refused

end Sample

end Scheduling

end PiAutopilot.Host
