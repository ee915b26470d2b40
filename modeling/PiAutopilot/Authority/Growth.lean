import PiAutopilot.Authority.CorrectionRun
import PiAutopilot.Authority.RunInvariant

set_option autoImplicit false

/-! # What a run has recorded stays recorded -/

namespace PiAutopilot.Authority

open Lib Protocol

-- The value before the part that later records fill in.
def IndexValue.opened : IndexValue → IndexValue
  | .work entry => .work { entry with acceptedOutput := none }
  | .plan entry => .plan { entry with supersededBy := none }
  | .finding entry => .finding { entry with resolution := none, status := .open }
  | .publication entry =>
    .publication { entry with observedHead := none, publicationTreeAttestation := none, status := .intended }
  | .command entry => .command { entry with observation := none, status := .issued }
  | value => value

def IndexValue.isFinal : IndexValue → Bool
  | .work entry => entry.acceptedOutput.isSome
  | .plan entry => entry.supersededBy.isSome
  | .finding entry => entry.status = .cleared
  | .publication entry => entry.status ≠ .intended
  | .command entry => entry.status = .settled
  | _ => true

structure Ripens (value later : IndexValue) : Prop where
  same : later.opened = value.opened
  kept : value.isFinal = true → later = value

def Grows (contents maps : Contents) : Prop :=
  ∀ name key value, contents name key = some value → ∃ later, maps name key = some later ∧ Ripens value later

theorem grows_known {contents maps : Contents} (grown : Grows contents maps) {name : IndexName} {key : Key}
    (known : (contents name key).isSome) : (maps name key).isSome := by
  obtain ⟨value, stored⟩ := Option.isSome_iff_exists.mp known
  obtain ⟨later, found, _⟩ := grown name key value stored
  rw [found]
  rfl

theorem grows_refl (contents : Contents) : Grows contents contents := fun _ _ value stored => ⟨value, stored, rfl, fun _ => rfl⟩

section Growth

variable [Hashing] {start contents maps : Contents} {name : IndexName} {identity : JsString} {next : IndexValue}

theorem grows_write (grown : Grows start contents)
    (ripe : ∀ prior, contents name (indexKey name identity) = some prior → next.opened = prior.opened ∧ prior.isFinal = false) :
    Grows start (putAt contents name identity next) := by
  intro name' key value stored
  obtain ⟨later, found, ripens⟩ := grown name' key value stored
  by_cases sameName : name' = name
  · subst sameName
    rw [putAt, put_same]
    by_cases sameKey : key = indexKey name' identity
    · subst sameKey
      obtain ⟨opened, pending⟩ := ripe later found
      refine ⟨next, Function.update_self .., opened.trans ripens.same, fun final => ?_⟩
      rw [ripens.kept final, final] at pending
      cases pending
    · exact ⟨later, by rwa [Function.update_of_ne sameKey], ripens⟩
  · exact ⟨later, by rwa [putAt, put_other sameName], ripens⟩

theorem grows_insert (absent : contents name (indexKey name identity) = none) (grown : Grows start contents) :
    Grows start (putAt contents name identity next) :=
  grows_write grown fun prior stored => by simp [absent] at stored

theorem grows_replace {prior : IndexValue} (stored : contents name (indexKey name identity) = some prior)
    (same : next.opened = prior.opened) (pending : prior.isFinal = false) (grown : Grows start contents) :
    Grows start (putAt contents name identity next) :=
  grows_write grown fun other found => by
    rw [stored] at found
    cases found
    exact ⟨same, pending⟩

-- A fact writes under a new key or fills in what was open.
theorem fact_step_grows {state after : RunState} {runId : RunId} {body : FactBody}
    (step : FactStep state contents runId body after maps) (grown : Grows start contents) : Grows start maps := by
  cases step with
  | requirementsBound | atomInventorySealed | routeVerificationObserved | finalAttestationsRecorded => exact grown
  | atomDeclared _ _ _ _ _ absent | workDeclared _ _ _ _ absent | nonblockingFindingAccepted _ _ _ _ absent
  | evidenceObserved _ _ _ absent | candidateAccepted _ _ absent | publicationIntended _ _ _ _ absent
  | atomDispositioned _ _ _ _ _ _ _ _ _ _ _ absent | dependencyDeclared _ _ _ _ _ _ _ _ _ _ absent
  | planRootAccepted _ _ _ _ _ _ _ absent => exact grows_insert absent grown
  | workOutputAccepted _ _ _ stored _ pending absent =>
    exact grows_insert (by rwa [putAt, put_other (by decide)])
      (grows_replace stored rfl (by simp [IndexValue.isFinal, pending]) grown)
  | blockingFindingAccepted _ _ _ _ _ _ _ _ _ _ workAbsent findingAbsent =>
    exact grows_insert (by rwa [putAt, put_other (by decide)]) (grows_insert workAbsent grown)
  | planRootSuperseded _ _ _ _ _ _ _ stored current =>
    exact grows_replace stored rfl (by simp [IndexValue.isFinal, current]) grown
  | findingCleared _ _ stored isOpen => exact grows_replace stored rfl (by simp [IndexValue.isFinal, isOpen]) grown
  | publicationObserved _ _ _ _ _ _ _ _ _ _ _ stored intended =>
    exact grows_replace stored rfl (by simp [IndexValue.isFinal, intended]) grown

theorem grows_preserved : Preserved fun _ contents => Grows start contents where
  fact _ _ _ _ _ _ grown step := fact_step_grows step grown
  issue _ _ _ grown absent := grows_insert absent grown
  settle _ _ _ _ _ grown stored issued _ := grows_replace stored rfl (by simp [IndexValue.isFinal, issued]) grown
  act _ _ _ _ _ grown absent := grows_insert absent grown
  envelope _ _ _ _ _ grown := grown

/-- Nothing recorded is taken back: what a lookup proves stored is found by every later lookup, unchanged but for
the part that was still open, and unchanged altogether once that part was filled in. -/
theorem entries_only_ripen (collisionFree : CollisionFree IndexValue) (genesis : RunGenesis) (records later : List JournalRecord)
    (state after : RunState) (accepted : foldMany (initialState genesis) records = .ok state)
    (continued : foldMany state later = .ok after) (name : IndexName) (key : Key) (pages laterPages : List IndexPage)
    (value : IndexValue) (found : Option IndexValue) (witness laterWitness : SparseWitness IndexValue)
    (stored : lookupIndex (state.indexes name) key pages = .proved (some value) witness)
    (looked : lookupIndex (after.indexes name) key laterPages = .proved found laterWitness) :
    ∃ next, found = some next ∧ Ripens value next := by
  obtain ⟨contents, reads, _⟩ := run_keeps grows_preserved collisionFree (grows_refl _) accepted
  obtain ⟨maps, readsAfter, grown⟩ : ∃ maps, Reads after maps ∧ Grows contents maps := by
    refine foldlM_keeps (fun _ after => ∃ maps, Reads after maps ∧ Grows contents maps) ?_ later [] state after
      ⟨contents, reads, grows_refl contents⟩ continued
    rintro _ before record next ⟨maps, readsBefore, grown⟩ folded
    obtain ⟨_, maps', step, readsNext⟩ := fold_step collisionFree readsBefore folded
    exact ⟨maps', readsNext, record_step_keeps grows_preserved step grown⟩
  obtain ⟨next, kept, ripens⟩ := grown name key value (lookup_reads collisionFree reads stored).symm
  exact ⟨next, (lookup_reads collisionFree readsAfter looked).trans kept, ripens⟩

end Growth

section Sample

attribute [local instance] sampleWorld

theorem leading_work_kept : ∃ next, entryOf followedBook .work (workEntry ⟨none, leadingWork⟩).1 = some next ∧
    Ripens (.work ⟨none, leadingWork⟩) next := by
  obtain ⟨first, _, leads⟩ := led_records
  obtain ⟨second, _, follows⟩ := followed_records
  exact entries_only_ripen sample_collision_free sampleGenesis [first] [second] led.run followed.run
    (by rw [← opened_run]; simp [foldMany, leads]) (by simp [foldMany, follows]) .work (workEntry ⟨none, leadingWork⟩).1 [] []
    (.work ⟨none, leadingWork⟩) _ _ _ (on_book_lookup led.state ledBook (tidy_orderly _ (by decide +kernel)))
    (on_book_lookup followed.state followedBook (tidy_orderly _ (by decide +kernel)))

end Sample

end PiAutopilot.Authority
