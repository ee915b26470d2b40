import PiAutopilot.Lib.KeySort
import PiAutopilot.Lib.SparseTree
import PiAutopilot.Protocol.Identifiers

set_option autoImplicit false

namespace PiAutopilot.Authority

open Lib Protocol

inductive IndexName where
  | actions
  | atoms
  | candidates
  | commands
  | dependencies
  | dispositions
  | evidence
  | findings
  | plans
  | publications
  | submissions
  | work
  deriving DecidableEq, Repr

def IndexName.label : IndexName → String
  | .actions => "actions"
  | .atoms => "atoms"
  | .candidates => "candidates"
  | .commands => "commands"
  | .dependencies => "dependencies"
  | .dispositions => "dispositions"
  | .evidence => "evidence"
  | .findings => "findings"
  | .plans => "plans"
  | .publications => "publications"
  | .submissions => "submissions"
  | .work => "work"

-- The digests of canonical encodings that the sparse index is built from.
class SparseHashing where
  sparseEmptyLeafDigest : Digest
  sparsePresentLeafDigest : Key → Digest → Digest
  sparseNodeDigest : Digest → Digest → Digest

class ValueHashing (V : Type) where
  indexValueDigest : V → Digest

export SparseHashing (sparseEmptyLeafDigest sparsePresentLeafDigest sparseNodeDigest)
export ValueHashing (indexValueDigest)

def maxHotIndexValues : Nat := 32
def sparseProofDepth : Nat := 256

structure SparseWitness (V : Type) where
  key : Key
  siblings : List Digest
  value : Option V

structure ResolvedIndexPage (V : Type) where
  index : IndexName
  root : Digest
  witnesses : List (SparseWitness V)

structure IndexMutation where
  index : IndexName
  key : Key
  nextValueDigest : Option Digest
  priorValueDigest : Option Digest
  siblings : List Digest
  deriving DecidableEq

structure AuthenticatedIndexState (V : Type) where
  name : IndexName
  root : Digest
  count : DecimalNatural
  hotComplete : Bool
  hot : List (Key × V)

inductive IndexLookup (V : Type) where
  | proved (value : Option V) (witness : SparseWitness V)
  | unproven (diagnostic : JsString)

inductive MutationPreparation (V : Type) where
  | prepared (mutation : IndexMutation) (prior : Option V)
  | unproven (diagnostic : JsString)

inductive MutationApplication (V : Type) where
  | applied (state : AuthenticatedIndexState V)
  | rejected (diagnostic : JsString)

section Index

variable [SparseHashing] {V : Type} [ValueHashing V]

def emptyLeaf : Digest := sparseEmptyLeafDigest

def defaultHash (level : Nat) : Digest := defaultRoot sparseNodeDigest emptyLeaf level

def emptyRoot : Digest := defaultHash sparseProofDepth

structure DigestEntry where
  key : Key
  valueDigest : Digest

def leavesFor (entries : List DigestEntry) : List (List Bool × Digest) :=
  entries.foldl
    (fun leaves entry => setOwn leaves (keyBits entry.key) (sparsePresentLeafDigest entry.key entry.valueDigest)) []

def levelsFor (entries : List DigestEntry) (level : Nat) : List (List Bool × Digest) :=
  levelMap sparseNodeDigest emptyLeaf (leavesFor entries) level

def witnessFor (entries : List DigestEntry) (key : Key) (value : Option V) : SparseWitness V where
  key := key
  siblings := (List.range sparseProofDepth).map fun level =>
    (getOwn (levelsFor entries level) (siblingOf (keyBits key) level)).getD (defaultHash level)
  value := value

def leafDigest (key : Key) : Option Digest → Digest
  | none => emptyLeaf
  | some valueDigest => sparsePresentLeafDigest key valueDigest

def sparseRoot (key : Key) (valueDigest : Option Digest) (siblings : List Digest) : Option Digest :=
  if siblings.length ≠ sparseProofDepth then none
  else some (climb sparseNodeDigest (keyBits key).reverse siblings (leafDigest key valueDigest))

def initialAuthenticatedIndex (name : IndexName) : AuthenticatedIndexState V where
  name := name
  root := emptyRoot
  count := DecimalNatural.ofNat 0
  hotComplete := true
  hot := []

def witnessRoot (witness : SparseWitness V) : Option Digest :=
  sparseRoot witness.key (witness.value.map indexValueDigest) witness.siblings

variable (state : AuthenticatedIndexState V) (key : Key)

def hotEntries : List DigestEntry := state.hot.map fun entry => ⟨entry.1, indexValueDigest entry.2⟩

def lookupPages (state : AuthenticatedIndexState V) (key : Key) : List (ResolvedIndexPage V) → Option (SparseWitness V)
  | [] => none
  | page :: rest =>
    if page.index ≠ state.name ∨ page.root ≠ state.root ∨ page.witnesses.length > maxHotIndexValues then
      lookupPages state key rest
    else
      match page.witnesses.find? fun entry => entry.key = key with
      | none => lookupPages state key rest
      | some witness => if witnessRoot witness = some state.root then some witness else lookupPages state key rest

def lookupHot : Option (SparseWitness V) :=
  match state.hot.find? fun entry => entry.1 = key with
  | none => none
  | some entry =>
    let witness := witnessFor (hotEntries state) key (some entry.2)
    if witnessRoot witness = some state.root then some witness else none

def lookupAbsent : Option (SparseWitness V) :=
  let witness : SparseWitness V := witnessFor (hotEntries state) key none
  if witnessRoot witness = some state.root then some witness else none

def lookupIndex (pages : List (ResolvedIndexPage V)) : IndexLookup V :=
  let fromHot := if state.hotComplete then (lookupHot state key).or (lookupAbsent state key) else none
  match fromHot.or (lookupPages state key pages) with
  | some witness => .proved witness.value witness
  | none =>
    .unproven (js "missing authenticated " ++ js state.name.label ++ js " page for key " ++ key.text ++
      js "; absence is unproven")

def prepareIndexMutation (next : Option V) (pages : List (ResolvedIndexPage V)) : MutationPreparation V :=
  match lookupIndex state key pages with
  | .unproven diagnostic => .unproven diagnostic
  | .proved value witness =>
    .prepared
      { index := state.name
        key := key
        nextValueDigest := next.map indexValueDigest
        priorValueDigest := value.map indexValueDigest
        siblings := witness.siblings } value

def subtractOne (value : DecimalNatural) : Option DecimalNatural :=
  if compareDecimalNatural value (.ofNat 0) = .equal then none else loweredByOne value

def mutatedCount (count : DecimalNatural) (prior next : Option V) : Option DecimalNatural :=
  if prior.isNone && next.isSome then some (addDecimalNatural count (.ofNat 1))
  else if prior.isSome && next.isNone then subtractOne count
  else some count

def retainedHot (hot : List (Key × V)) (key : Key) (next : Option V) : List (Key × V) :=
  sortByKey ((hot.filter fun entry => entry.1 ≠ key) ++ (next.map fun value => (key, value)).toList)

def applyIndexMutation (mutation : IndexMutation) (prior next : Option V) : MutationApplication V :=
  if mutation.index ≠ state.name ∨ mutation.siblings.length ≠ sparseProofDepth then
    .rejected (js "index mutation names the wrong index or proof depth")
  else
    let priorDigest := prior.map indexValueDigest
    let nextDigest := next.map indexValueDigest
    if mutation.priorValueDigest ≠ priorDigest ∨ mutation.nextValueDigest ≠ nextDigest then
      .rejected (js "index mutation value digests do not match semantic values")
    else
      match sparseRoot mutation.key nextDigest mutation.siblings with
      | none => .rejected (js "index mutation proof does not bind the current root")
      | some newRoot =>
        if sparseRoot mutation.key priorDigest mutation.siblings ≠ some state.root then
          .rejected (js "index mutation proof does not bind the current root")
        else
          match mutatedCount state.count prior next with
          | none => .rejected (js "index count cannot underflow")
          | some count =>
            let retained := retainedHot state.hot mutation.key next
            let complete := compareDecimalNatural count (.ofNat maxHotIndexValues) ≠ .greater
            .applied
              { name := state.name
                root := newRoot
                count := count
                hotComplete := complete
                hot := if complete then retained else retained.drop (retained.length - maxHotIndexValues) }

end Index

end PiAutopilot.Authority
