import PiAutopilot.Lib.Checks

set_option autoImplicit false

namespace PiAutopilot.Closure

open Lib

inductive FindingEffect where
  | forwardBlocking
  | closureBlocking
  | advisory
deriving DecidableEq

def FindingEffect.material : FindingEffect → Bool
  | .forwardBlocking | .closureBlocking => true
  | .advisory => false

structure MaterialFinding where
  normalized : String
  effect : FindingEffect
  evidenceMarker : String

structure CriterionObservation where
  criterionId : String
  findings : List MaterialFinding

structure FindingLedgerEntry where
  criterionId : String
  finding : MaterialFinding

structure DeepValidationBundle where
  snapshotCommit : String
  criteria : List CriterionObservation
  ledger : List FindingLedgerEntry

inductive ClosureError where
  | missingCriterion (id : String)
  | duplicateCriterion (id : String)

def CriterionObservation.entries (observation : CriterionObservation) : List FindingLedgerEntry :=
  observation.findings.map fun finding => ⟨observation.criterionId, finding⟩

-- Of a criterion only the id is read.
def DeepValidationBundle.build (snapshotCommit : String) (criteria : List String) (observations : List CriterionObservation) :
    Except ClosureError DeepValidationBundle := do
  let _ ← noteAll (fun _ => .ok ()) id ClosureError.duplicateCriterion (fun _ => .ok ()) criteria
  checkAll (fun observation : CriterionObservation =>
    refuseIf (observation.criterionId ∉ criteria) (.missingCriterion observation.criterionId)) observations
  match (sortedSet criteria).find? fun id => id ∉ observations.map CriterionObservation.criterionId with
  | some id => .error (.missingCriterion id)
  | none => .ok ⟨snapshotCommit, observations, observations.flatMap CriterionObservation.entries⟩

variable (bundle : DeepValidationBundle)

def DeepValidationBundle.materialFindings : List MaterialFinding :=
  (bundle.ledger.map FindingLedgerEntry.finding).filter fun finding => finding.effect.material

structure RepairPolicy where
  maxAttempts : UInt8
  tier2AfterSurvivals : UInt8

structure Survival where
  count : UInt8
  marker : String

abbrev Survivors := String → Option Survival

structure RepairLedger where
  policy : RepairPolicy
  rounds : UInt8
  survivors : Survivors

def RepairLedger.new (policy : RepairPolicy) : RepairLedger := ⟨policy, 0, fun _ => none⟩

inductive RecoveryRoute where
  | tier1
  | tier2
  | tier3
deriving DecidableEq

inductive OperatorDecision where
  | supplyCapability
  | chooseAfterExhaustion
  | reissueDecision
deriving DecidableEq

inductive Failure where
  | recoverable (route : RecoveryRoute)
  | paused (needs : OperatorDecision)
deriving DecidableEq

inductive RepairRouting where
  | proceed
  | closed
  | failure (failure : Failure)
deriving DecidableEq

-- The source tells an unchanged marker from a changed one, and counts on in both cases.
def nextCount (prior : Option Survival) : UInt8 :=
  match prior with
  | some prior => prior.count + 1
  | none => 1

def noteSurvivor (survivors : Survivors) (finding : MaterialFinding) : Survivors :=
  Function.update survivors finding.normalized (some ⟨nextCount (survivors finding.normalized), finding.evidenceMarker⟩)

def noteSurvivors (threshold : UInt8) : Survivors → List MaterialFinding → Survivors × RepairRouting
  | survivors, [] => (survivors, .proceed)
  | survivors, finding :: rest =>
    if threshold ≤ nextCount (survivors finding.normalized) then
      (noteSurvivor survivors finding, .failure (.recoverable .tier2))
    else noteSurvivors threshold (noteSurvivor survivors finding) rest

def RepairLedger.recordFixAttempt (ledger : RepairLedger) : RepairLedger × RepairRouting :=
  if bundle.materialFindings = [] then (ledger, .closed)
  else if ledger.policy.maxAttempts ≤ ledger.rounds then (ledger, .failure (.paused .chooseAfterExhaustion))
  else
    let noted := noteSurvivors ledger.policy.tier2AfterSurvivals ledger.survivors bundle.materialFindings
    (⟨ledger.policy, ledger.rounds + 1, noted.1⟩, noted.2)

def textsOf (findings : List MaterialFinding) : List String := findings.map MaterialFinding.normalized

def survivals (survivors : Survivors) (text : String) : Nat := ((survivors text).map fun survival => survival.count.toNat).getD 0

-- The texts of the bundle are distinct, and none but the last of them reaches the threshold.
structure CountsOnce (ledger : RepairLedger) : Prop where
  distinct : (textsOf bundle.materialFindings).Nodup
  below : ∀ text ∈ (textsOf bundle.materialFindings).dropLast,
    survivals ledger.survivors text + 1 < ledger.policy.tier2AfterSurvivals.toNat

variable (policy : RepairPolicy) (bundles : List DeepValidationBundle)

inductive Recorded : List DeepValidationBundle → RepairLedger → Prop where
  | new : Recorded [] (.new policy)
  | record (bundles : List DeepValidationBundle) (ledger : RepairLedger) (bundle : DeepValidationBundle)
      (recorded : Recorded bundles ledger) (once : CountsOnce bundle ledger) :
      Recorded (bundles ++ [bundle]) (ledger.recordFixAttempt bundle).1

def nonClean : List DeepValidationBundle := bundles.filter fun bundle => bundle.materialFindings ≠ []

-- In how many of the bundles a finding with this text is present.
def presence (text : String) : Nat := bundles.countP fun bundle => text ∈ textsOf bundle.materialFindings

def Survives : Prop :=
  ∃ text ∈ textsOf bundle.materialFindings, policy.tier2AfterSurvivals.toNat ≤ presence (nonClean (bundles ++ [bundle])) text

structure CountsSurvivals (routing : RepairRouting) : Prop where
  closes : routing = .closed ↔ bundle.materialFindings = []
  escalates : bundle.materialFindings ≠ [] → (nonClean bundles).length < policy.maxAttempts.toNat →
    (routing = .failure (.recoverable .tier2) ↔ Survives bundle policy bundles) ∧
      (routing = .proceed ↔ ¬ Survives bundle policy bundles)
  pauses : bundle.materialFindings ≠ [] → policy.maxAttempts.toNat ≤ (nonClean bundles).length →
    routing = .failure (.paused .chooseAfterExhaustion)

theorem next_count (survivors : Survivors) (text : String) (room : survivals survivors text < 255) :
    (nextCount (survivors text)).toNat = survivals survivors text + 1 := by
  rw [survivals] at room ⊢
  generalize survivors text = held at room ⊢
  cases held with
  | none => rfl
  | some prior =>
    replace room : prior.count.toNat < 255 := room
    show (prior.count + 1).toNat = prior.count.toNat + 1
    rw [UInt8.toNat_add, UInt8.toNat_one]
    omega

theorem note_survivor_counts (survivors : Survivors) (finding : MaterialFinding) (text : String)
    (room : ∀ text, survivals survivors text < 255) :
    survivals (noteSurvivor survivors finding) text = survivals survivors text + if text = finding.normalized then 1 else 0 := by
  by_cases same : text = finding.normalized
  · rw [survivals, noteSurvivor, same, Function.update_self, if_pos rfl]
    exact next_count survivors _ (room _)
  · rw [survivals, noteSurvivor, Function.update_of_ne same, if_neg same]
    rfl

def Reaches (threshold : UInt8) (survivors : Survivors) (findings : List MaterialFinding) : Prop :=
  ∃ text ∈ textsOf findings, threshold.toNat ≤ survivals survivors text + 1

-- The loop is left before its end only at the last finding, so that every finding is counted.
theorem note_survivors_counts (threshold : UInt8) (findings : List MaterialFinding) (survivors : Survivors)
    (distinct : (textsOf findings).Nodup) (room : ∀ text, survivals survivors text < 255)
    (below : ∀ text ∈ (textsOf findings).dropLast, survivals survivors text + 1 < threshold.toNat) :
    (∀ text, survivals (noteSurvivors threshold survivors findings).1 text =
        survivals survivors text + if text ∈ textsOf findings then 1 else 0) ∧
      (Reaches threshold survivors findings ∧ (noteSurvivors threshold survivors findings).2 = .failure (.recoverable .tier2) ∨
        ¬ Reaches threshold survivors findings ∧ (noteSurvivors threshold survivors findings).2 = .proceed) := by
  induction findings generalizing survivors with
  | nil => simp [noteSurvivors, textsOf, Reaches]
  | cons finding rest ih =>
    have noted (text : String) := note_survivor_counts survivors finding text room
    obtain ⟨apart, distinctRest⟩ := List.nodup_cons.mp distinct
    simp only [noteSurvivors, UInt8.le_iff_toNat_le, next_count survivors _ (room _)]
    by_cases reached : threshold.toNat ≤ survivals survivors finding.normalized + 1
    · rw [if_pos reached]
      cases rest with
      | nil => exact ⟨by simpa [textsOf] using noted, Or.inl ⟨⟨finding.normalized, List.mem_cons_self, reached⟩, rfl⟩⟩
      | cons other others =>
        have early := below finding.normalized (by simp [textsOf])
        omega
    · rw [if_neg reached]
      have kept (text : String) (later : text ∈ textsOf rest) :
          survivals (noteSurvivor survivors finding) text = survivals survivors text := by
        rw [noted, if_neg fun same : text = finding.normalized => apart (same ▸ later), Nat.add_zero]
      obtain ⟨counted, routed⟩ := ih (noteSurvivor survivors finding) distinctRest (fun text => by
          have small := threshold.toNat_lt
          have before := room text
          rw [noted]
          split
          · rename_i same
            rw [same]
            omega
          · omega)
        (fun text later => by
          rw [kept text (List.dropLast_subset _ later)]
          refine below text ?_
          cases rest with
          | nil => cases later
          | cons other others => exact List.mem_cons_of_mem _ later)
      have same : Reaches threshold (noteSurvivor survivors finding) rest ↔ Reaches threshold survivors (finding :: rest) := by
        refine ⟨fun ⟨text, later, high⟩ => ⟨text, List.mem_cons_of_mem _ later, kept text later ▸ high⟩, ?_⟩
        rintro ⟨text, listed, high⟩
        rcases List.mem_cons.mp listed with rfl | later
        · exact absurd high reached
        · exact ⟨text, later, (kept text later).symm ▸ high⟩
      rw [same] at routed
      refine ⟨fun text => ?_, routed⟩
      rw [counted, noted]
      by_cases head : text = finding.normalized
      · simpa [head, textsOf] using apart
      · simp [head, textsOf]

-- What the ledger holds after bundles that count once.
structure Counted (ledger : RepairLedger) : Prop where
  samePolicy : ledger.policy = policy
  rounds : ledger.rounds.toNat = min (nonClean bundles).length policy.maxAttempts.toNat
  survivals : ∀ text, survivals ledger.survivors text = presence ((nonClean bundles).take policy.maxAttempts.toNat) text

theorem counted_step (ledger : RepairLedger) (counted : Counted policy bundles ledger) (once : CountsOnce bundle ledger) :
    Counted policy (bundles ++ [bundle]) (ledger.recordFixAttempt bundle).1 ∧
      CountsSurvivals bundle policy bundles (ledger.recordFixAttempt bundle).2 := by
  obtain ⟨rfl, rounds, held⟩ := counted
  rw [RepairLedger.recordFixAttempt]
  by_cases clean : bundle.materialFindings = []
  · have same : nonClean (bundles ++ [bundle]) = nonClean bundles := by simp [nonClean, clean]
    rw [if_pos clean]
    exact ⟨⟨rfl, same.symm ▸ rounds, same.symm ▸ held⟩, by simp [clean], by simp [clean], by simp [clean]⟩
  · have grown : nonClean (bundles ++ [bundle]) = nonClean bundles ++ [bundle] := by simp [nonClean, clean]
    rw [if_neg clean]
    by_cases exhausted : ledger.policy.maxAttempts ≤ ledger.rounds
    · rw [if_pos exhausted]
      rw [UInt8.le_iff_toNat_le] at exhausted
      refine ⟨⟨rfl, ?_, fun text => ?_⟩, by simp [clean], fun _ early => absurd early (by omega), fun _ _ => rfl⟩
      · rw [grown, rounds, List.length_append]
        omega
      · rw [grown, List.take_append_of_le_length (by omega)]
        exact held text
    · rw [if_neg exhausted]
      rw [UInt8.le_iff_toNat_le] at exhausted
      have small := ledger.policy.maxAttempts.toNat_lt
      have early : (nonClean bundles).length < ledger.policy.maxAttempts.toNat := by omega
      rw [List.take_of_length_le early.le] at held
      have room (text : String) : survivals ledger.survivors text < 255 := by
        have few : presence (nonClean bundles) text ≤ _ := List.countP_le_length
        rw [held]
        omega
      obtain ⟨noted, routed⟩ := note_survivors_counts _ _ ledger.survivors once.distinct room once.below
      have present (text : String) : presence (nonClean bundles ++ [bundle]) text =
          presence (nonClean bundles) text + if text ∈ textsOf bundle.materialFindings then 1 else 0 := by
        simp [presence, List.countP_append, List.countP_singleton]
      have survives : Reaches ledger.policy.tier2AfterSurvivals ledger.survivors bundle.materialFindings ↔
          Survives bundle ledger.policy bundles := by
        refine exists_congr fun text => and_congr_right fun listed => ?_
        rw [grown, present, held, if_pos listed]
      rw [survives] at routed
      refine ⟨⟨rfl, ?_, fun text => ?_⟩, ?_⟩
      · rw [grown, List.length_append, UInt8.toNat_add, UInt8.toNat_one, List.length_singleton]
        omega
      · rw [grown, List.take_of_length_le (by simpa using Nat.succ_le_of_lt early), noted, present, held]
      · rcases routed with ⟨high, routing⟩ | ⟨low, routing⟩
        · exact ⟨by simp [routing, clean], by simp [routing, high], fun _ late => absurd early (by omega)⟩
        · exact ⟨by simp [routing, clean], by simp [routing, low], fun _ late => absurd early (by omega)⟩

-- One text under two criteria: the first bundle with it is escalated as if two had it.
def twiceFound : CriterionObservation × CriterionObservation :=
  (⟨"a", [⟨"text", .closureBlocking, ""⟩]⟩, ⟨"b", [⟨"text", .closureBlocking, ""⟩]⟩)

end PiAutopilot.Closure
