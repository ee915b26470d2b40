import Mathlib.Data.List.Basic

set_option autoImplicit false

namespace PiAutopilot.Adapters

variable {Commit Tree : Type}

-- A ref is at a commit or unborn.
structure PublishIntent (Commit Tree : Type) where
  expected : Option Commit
  desiredHead : Commit
  candidateTree : Tree
  attestedTree : Tree

-- How a look at the ref ends: with its value, with exit code 1 and no output, or in any other way.
inductive RefRead where
  | answered
  | exitedOne
  | failed

-- What the git invocations and the other writers of the ref do during one call; `rev-parse` of a commit's own id
-- answers that id, so the lookups of the desired head say its tree or fail.
structure Script (Commit Tree : Type) where
  repositoryBound : Bool
  desiredTree : Option Tree
  first : List (Option Commit)
  before : RefRead
  second : List (Option Commit)
  updated : Bool
  third : List (Option Commit)
  after : RefRead

-- The ref, every value it has had during the call and the moves that the call itself made.
structure World (Commit : Type) where
  ref : Option Commit
  seen : List (Option Commit)
  moves : List (Option Commit × Option Commit)

variable {world : World Commit}

def World.others (world : World Commit) (writes : List (Option Commit)) : World Commit :=
  { world with ref := writes.getLast?.getD world.ref, seen := world.seen ++ writes }

theorem others_ref (held : world.ref ∈ world.seen) (writes : List (Option Commit)) :
    (world.others writes).ref ∈ (world.others writes).seen := by
  rw [World.others, List.mem_append]
  cases last : writes.getLast? with
  | none => exact .inl held
  | some value => exact .inr (List.mem_of_getLast? last)

def RefRead.ref (world : World Commit) : RefRead → Option (Option Commit)
  | .answered => some world.ref
  | .exitedOne => some none
  | .failed => none

inductive PublicationStatus where
  | desiredHead
  | headMoved

inductive Observation (Commit : Type) where
  | retry (code message : String)
  | ok (observedHead : Option Commit) (status : PublicationStatus)

variable (intent : PublishIntent Commit Tree) (script : Script Commit Tree) (ref : Option Commit)

def Told (world : World Commit) (head : Option Commit) : PublicationStatus → Prop
  | .desiredHead => head ∈ world.seen ∧ head = some intent.desiredHead
  | .headMoved => head ∈ world.seen ∧ head ≠ intent.expected ∧ head ≠ some intent.desiredHead

structure Truthful (result : World Commit × Observation Commit) : Prop where
  moves : ∀ move ∈ result.1.moves, move = (intent.expected, some intent.desiredHead)
  observed : ∀ head status, result.2 = .ok head status → Told intent result.1 head status

theorem truthful_ok (moved : ∀ move ∈ world.moves, move = (intent.expected, some intent.desiredHead)) (head : Option Commit)
    (status : PublicationStatus) : Truthful intent (world, .ok head status) ↔ Told intent world head status :=
  ⟨fun truthful => truthful.observed _ _ rfl, fun told => ⟨moved, fun _ _ same => by cases same; exact told⟩⟩

def opening : World Commit := World.others ⟨ref, [ref], []⟩ script.first

theorem opening_ref : (opening script ref).ref ∈ (opening script ref).seen := others_ref (List.mem_singleton_self ref) _

theorem opening_moves : ∀ move ∈ (opening script ref).moves, move = (intent.expected, some intent.desiredHead) :=
  fun _ member => nomatch member

theorem truthful_retry (code message : String) : Truthful intent (opening script ref, .retry code message) :=
  ⟨opening_moves intent script ref, fun _ _ same => nomatch same⟩

variable [DecidableEq Commit]

-- `update-ref` with an old value compares and swaps.
def World.updateRef (world : World Commit) (desired : Commit) (old : Option Commit) : World Commit :=
  if world.ref = old then ⟨some desired, world.seen ++ [some desired], world.moves ++ [(world.ref, some desired)]⟩ else world

def closing : World Commit :=
  let world := (opening script ref).others script.second
  World.others (if script.updated then world.updateRef intent.desiredHead intent.expected else world) script.third

theorem closing_ref : (closing intent script ref).ref ∈ (closing intent script ref).seen := by
  have middle := others_ref (opening_ref script ref) script.second
  refine others_ref ?_ _
  rw [World.updateRef]
  split_ifs
  · simp
  · exact middle
  · exact middle

theorem closing_moves : ∀ move ∈ (closing intent script ref).moves, move = (intent.expected, some intent.desiredHead) := by
  simp only [closing, World.others, World.updateRef, opening]
  split_ifs <;> simp_all

variable [DecidableEq Tree]

def publish : World Commit × Observation Commit :=
  if script.repositoryBound = false then
    (opening script ref, .retry "git.repository-unbound" "repository capability unbound")
  else if script.desiredTree ≠ some intent.candidateTree ∨ some intent.attestedTree ≠ script.desiredTree then
    (opening script ref, .retry "git.publish-tree" "desired commit/tree/attestation mismatch")
  else
    match script.before.ref (opening script ref) with
    | none => (opening script ref, .retry "git.ref-unavailable" "publication ref unavailable")
    | some before =>
      if before = some intent.desiredHead then (opening script ref, .ok before .desiredHead)
      else if before ≠ intent.expected then (opening script ref, .ok before .headMoved)
      else
        -- The answer of `update-ref` is not looked at, and a failed look at the ref counts as an unborn one.
        let after := (script.after.ref (closing intent script ref)).join
        (closing intent script ref, .ok after (if after = some intent.desiredHead then .desiredHead else .headMoved))

-- Where the call gets past its checks, a first look that ends with code 1 says so of a ref that was unborn or should
-- be; after an update the last look finds the ref off the expected head, or fails on one that was unborn and should not be.
def Heard : Prop :=
  script.repositoryBound = true → script.desiredTree = some intent.candidateTree → intent.attestedTree = intent.candidateTree →
    (script.before = .exitedOne → intent.expected ≠ none → none ∈ (opening script ref).seen) ∧
    (script.before.ref (opening script ref) = some intent.expected → intent.expected ≠ some intent.desiredHead →
      match script.after with
      | .answered => (closing intent script ref).ref ≠ intent.expected
      | _ => intent.expected ≠ none ∧ none ∈ (closing intent script ref).seen)

theorem publish_truthful_iff : Truthful intent (publish intent script ref) ↔ Heard intent script ref := by
  have atOpening := opening_ref script ref
  have atClosing := closing_ref intent script ref
  have opened := truthful_ok intent (opening_moves intent script ref)
  have closed := truthful_ok intent (closing_moves intent script ref)
  rw [publish, Heard]
  split_ifs with unbound mismatch
  · simp [truthful_retry, unbound]
  · simp only [truthful_retry, true_iff]
    grind
  cases before : script.before <;> simp only [RefRead.ref]
  · grind [Told, RefRead.ref]
  · grind [Told, RefRead.ref]
  · simp [truthful_retry]

-- `update-ref` does not start: the ref stays at the expected head, which is then reported as a head that moved.
theorem publish_update_unstarted : ¬ Truthful (⟨some 1, 2, 7, 7⟩ : PublishIntent Nat Nat)
    (publish ⟨some 1, 2, 7, 7⟩ ⟨true, some 7, [], .answered, [], false, [], .answered⟩ (some 1)) := fun truthful =>
  (truthful.observed (some 1) .headMoved rfl).2.1 rfl

end PiAutopilot.Adapters
