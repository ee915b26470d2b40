import PiAutopilot.EventLog.State
import PiAutopilot.Lib.PrefixCode
import PiAutopilot.Lib.Sha2

set_option autoImplicit false

namespace PiAutopilot.EventLog

open Lib

-- The keys of a B-tree map in the order it is walked.
structure Keys {Key : Type} (text : Key → String) (counts : KeyCounts Key) where
  keys : List Key
  ascending : keys.Pairwise fun left right => text left < text right
  listed : ∀ key, key ∈ keys ↔ (counts key).isSome = true
  few : keys.length < 2 ^ 64
  short : ∀ key ∈ keys, (text key).toByteArray.size < 2 ^ 64

structure Stored (state : State) where
  kinds : Keys EventKind.text state.kinds
  refs : Keys Ref.text state.refs
  few : state.issues.length < 2 ^ 64

def StateIssueKind.code : StateIssueKind → UInt8
  | .sequenceGap => 1
  | .sequenceRegression => 2
  | .sequenceOverflow => 3
  | .revisionMismatch => 4
  | .counterOverflow => 5

def StateIssue.encode (issue : StateIssue) : Bytes :=
  bigEndian64 issue.atSequence ++ issue.kind.code :: (bigEndian64 issue.expected ++ bigEndian64 issue.actual)

def pushStr (value : String) : Bytes := bigEndian64 (UInt64.ofNat value.toByteArray.size) ++ value.toByteArray.data.toList

def encodeEntry {Key : Type} (text : Key → String) (entry : Key × UInt64) : Bytes := pushStr (text entry.1) ++ bigEndian64 entry.2

def Keys.entries {Key : Type} {text : Key → String} {counts : KeyCounts Key} (listed : Keys text counts) : List (Key × UInt64) :=
  listed.keys.map fun key => (key, (counts key).getD 0)

def encode {state : State} (stored : Stored state) : Bytes :=
  bigEndian64 state.sequence ++ (bigEndian64 state.revision ++ (bigEndian64 state.rows ++ (bigEndian64 state.accepted ++
    (bigEndian64 state.rejected ++ (counted (encodeEntry EventKind.text) stored.kinds.entries ++
      (counted (encodeEntry Ref.text) stored.refs.entries ++ counted StateIssue.encode state.issues))))))

def hexDigit (digit : Nat) : Char := "0123456789abcdef".toList.getD digit '0'

def hex (bytes : Bytes) : String :=
  String.ofList (bytes.flatMap fun byte => [hexDigit (byte.toNat / 16), hexDigit (byte.toNat % 16)])

def stateHash {state : State} (stored : Stored state) : String := hex (Sha2.sha256 (encode stored))

structure StateCache where
  sequence : UInt64
  stateHash : String

structure CacheImage where
  state : State
  stored : Stored state
  cache : StateCache

inductive LogEffect where
  | append (row : EventRow)
  | store (image : CacheImage)

def cacheImage {state : State} (stored : Stored state) : LogEffect := .store ⟨state, stored, state.sequence, stateHash stored⟩

inductive ReplayUse where
  | full
  | cache
deriving DecidableEq

structure Replay where
  state : State
  used : ReplayUse

section Replays

-- The derived equality of states.
variable [DecidableEq State]

-- Where the folded prefix is the image's state, its hash is the one already compared.
def verifiedReplay (events : List EventRow) (image : CacheImage) : Option State :=
  if image.state.sequence ≠ image.cache.sequence then none
  else if stateHash image.stored ≠ image.cache.stateHash then none
  else if events.length < image.state.rows.toNat then none
  else if foldEvents (events.take image.state.rows.toNat) ≠ image.state ∨ stateHash image.stored ≠ image.cache.stateHash then none
  else some ((events.drop image.state.rows.toNat).foldl apply image.state)

def replay (events : List EventRow) (cache : Option CacheImage) : Replay :=
  match cache.bind (verifiedReplay events) with
  | some state => ⟨state, .cache⟩
  | none => ⟨foldEvents events, .full⟩

theorem verified_replay_folds {events : List EventRow} {image : CacheImage} {state : State}
    (verified : verifiedReplay events image = some state) : state = foldEvents events := by
  rw [verifiedReplay] at verified
  split at verified
  · cases verified
  split at verified
  · cases verified
  split at verified
  · cases verified
  split at verified
  · cases verified
  rename_i _ _ _ same
  rw [not_or, not_not] at same
  cases verified
  calc (events.drop image.state.rows.toNat).foldl apply image.state
      = (events.drop image.state.rows.toNat).foldl apply (foldEvents (events.take image.state.rows.toNat)) := by rw [same.1]
    _ = foldEvents events := by rw [foldEvents, ← List.foldl_append, List.take_append_drop, foldEvents]

end Replays

theorem push_str_inj {left right : String} {leftRest rightRest : Bytes} (leftShort : left.toByteArray.size < 2 ^ 64)
    (rightShort : right.toByteArray.size < 2 ^ 64) (same : pushStr left ++ leftRest = pushStr right ++ rightRest) :
    left = right ∧ leftRest = rightRest := by
  obtain ⟨sizes, rest⟩ := big_endian64_inj same
  have numbers := congrArg UInt64.toNat sizes
  rw [UInt64.toNat_ofNat_of_lt' leftShort, UInt64.toNat_ofNat_of_lt' rightShort] at numbers
  obtain ⟨bytes, ends⟩ := List.append_inj rest numbers
  exact ⟨String.toByteArray_inj.mp (ByteArray.ext (Array.toList_inj.mp bytes)), ends⟩

theorem issue_reads_off : ReadsOff (fun _ => True) StateIssue.encode := by
  intro left right leftRest rightRest _ _ same
  obtain ⟨sameSequence, rest⟩ := big_endian64_inj same
  obtain ⟨code, rest⟩ := List.cons.inj rest
  obtain ⟨sameExpected, rest⟩ := big_endian64_inj rest
  obtain ⟨sameActual, rest⟩ := big_endian64_inj rest
  have sameKind : left.kind = right.kind := by
    revert code
    cases left.kind <;> cases right.kind <;> decide
  cases left
  cases right
  simp_all

section Tables

variable {Key : Type} {text : Key → String} (injective : Function.Injective text)
include injective

theorem entry_reads_off : ReadsOff (fun entry => (text entry.1).toByteArray.size < 2 ^ 64) (encodeEntry text) := by
  intro left right leftRest rightRest leftShort rightShort same
  rw [encodeEntry, encodeEntry, List.append_assoc, List.append_assoc] at same
  obtain ⟨sameText, rest⟩ := push_str_inj leftShort rightShort same
  obtain ⟨sameCount, ends⟩ := big_endian64_inj rest
  exact ⟨Prod.ext (injective sameText) sameCount, ends⟩

theorem table_read_off {left right : KeyCounts Key} (leftKeys : Keys text left) (rightKeys : Keys text right)
    {leftRest rightRest : Bytes} (same : counted (encodeEntry text) leftKeys.entries ++ leftRest =
      counted (encodeEntry text) rightKeys.entries ++ rightRest) : left = right ∧ leftRest = rightRest := by
  have short : ∀ {counts : KeyCounts Key} (listed : Keys text counts), ∀ entry ∈ listed.entries,
      (text entry.1).toByteArray.size < 2 ^ 64 := by
    intro counts listed entry member
    obtain ⟨key, isKey, rfl⟩ := List.mem_map.mp member
    exact listed.short key isKey
  obtain ⟨entries, rest⟩ := counted_read_off (entry_reads_off injective) (short leftKeys) (short rightKeys)
    (by simpa [Keys.entries] using leftKeys.few) (by simpa [Keys.entries] using rightKeys.few) same
  have sameKeys : leftKeys.keys = rightKeys.keys := by
    simpa [Keys.entries, Function.comp_def] using congrArg (List.map Prod.fst) entries
  refine ⟨funext fun key => ?_, rest⟩
  by_cases member : key ∈ leftKeys.keys
  · obtain ⟨leftCount, leftHeld⟩ := Option.isSome_iff_exists.mp ((leftKeys.listed key).mp member)
    obtain ⟨rightCount, rightHeld⟩ := Option.isSome_iff_exists.mp ((rightKeys.listed key).mp (sameKeys ▸ member))
    rw [Keys.entries, Keys.entries, ← sameKeys] at entries
    have counts := List.map_inj_left.mp entries key member
    simpa [leftHeld, rightHeld] using counts
  · have leftAbsent := mt (leftKeys.listed key).mpr member
    have rightAbsent := mt (rightKeys.listed key).mpr (sameKeys ▸ member)
    rw [Option.not_isSome_iff_eq_none] at leftAbsent rightAbsent
    rw [leftAbsent, rightAbsent]

end Tables

theorem kind_text_injective : Function.Injective EventKind.text := by
  rintro ⟨left⟩ ⟨right⟩ rfl
  rfl

theorem ref_text_injective : Function.Injective Ref.text := by
  rintro ⟨left⟩ ⟨right⟩ rfl
  rfl

theorem encode_injective {left right : State} (leftStored : Stored left) (rightStored : Stored right)
    (same : encode leftStored = encode rightStored) : left = right := by
  obtain ⟨sequence, rest⟩ := big_endian64_inj same
  obtain ⟨revision, rest⟩ := big_endian64_inj rest
  obtain ⟨rows, rest⟩ := big_endian64_inj rest
  obtain ⟨accepted, rest⟩ := big_endian64_inj rest
  obtain ⟨rejected, rest⟩ := big_endian64_inj rest
  obtain ⟨kinds, rest⟩ := table_read_off kind_text_injective leftStored.kinds rightStored.kinds rest
  obtain ⟨refs, rest⟩ := table_read_off ref_text_injective leftStored.refs rightStored.refs rest
  rw [← List.append_nil (counted _ left.issues), ← List.append_nil (counted _ right.issues)] at rest
  obtain ⟨issues, _⟩ := counted_read_off issue_reads_off (fun _ _ => trivial) (fun _ _ => trivial) leftStored.few rightStored.few rest
  cases left
  cases right
  simp_all

theorem hex_injective : Function.Injective hex := by
  have digits : ∀ left < 16, ∀ right < 16, hexDigit left = hexDigit right → left = right := by decide
  intro left
  induction left with
  | nil =>
    intro right same
    cases right with
    | nil => rfl
    | cons byte bytes => simp [hex] at same
  | cons byte bytes ih =>
    intro right same
    cases right with
    | nil => simp [hex] at same
    | cons other others =>
      have bound := byte.toNat_lt
      have otherBound := other.toNat_lt
      simp only [hex, List.flatMap_cons, List.cons_append, List.nil_append, String.ofList_inj, List.cons.injEq] at same
      have high := digits _ (by omega) _ (by omega) same.1
      have low := digits _ (by omega) _ (by omega) same.2.1
      rw [ih (String.ofList_inj.mpr same.2.2), UInt8.toNat_inj.mp (show byte.toNat = other.toNat by omega)]

theorem replay_ignores_cache [DecidableEq State] : (∀ events cache, (replay events cache).state = foldEvents events) ∧
      ∀ (left right : State) (leftStored : Stored left) (rightStored : Stored right),
        (encode leftStored = encode rightStored → left = right) ∧
          ((Sha2.sha256 (encode leftStored) = Sha2.sha256 (encode rightStored) → encode leftStored = encode rightStored) →
            stateHash leftStored = stateHash rightStored → left = right) := by
  refine ⟨?_, ?_⟩
  · intro events cache
    rw [replay]
    cases found : cache.bind (verifiedReplay events) with
    | none => rfl
    | some state =>
      obtain ⟨image, _, verified⟩ := Option.bind_eq_some_iff.mp found
      exact verified_replay_folds verified
  · intro left right leftStored rightStored
    refine ⟨encode_injective leftStored rightStored, ?_⟩
    intro noCollision sameHash
    exact encode_injective leftStored rightStored (noCollision (hex_injective sameHash))

end PiAutopilot.EventLog
