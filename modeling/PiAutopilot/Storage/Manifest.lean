import Mathlib.Data.List.TakeWhile
import PiAutopilot.Lib.Fallible
import PiAutopilot.Lib.Frames
import PiAutopilot.Lib.PathStack
import PiAutopilot.Protocol.Decimal

set_option autoImplicit false

/-! # The entries of a tree manifest

A manifest lists a tree with every directory before what it holds.  Its reader keeps a stack of directories instead of
all the directories it has met. -/

namespace PiAutopilot.Storage

open Lib Protocol

structure CasError where
  code : String
  recovery : String
  operation : String
  message : String
deriving DecidableEq

structure BlobRef where
  byteLength : JsString
  digest : JsString
deriving DecidableEq

inductive EntryContent where
  | directory
  | file (blob : BlobRef)
  | symlink (target : JsString)
deriving DecidableEq

structure TreeEntry where
  content : EntryContent
  mode : Nat
  path : JsString
deriving DecidableEq

def casU64Max : Nat := 18446744073709551615

def casU64Width : Nat := 20

def formatCasU64 (value : Nat) : Option JsString :=
  if casU64Max < value then none
  else some (List.replicate (casU64Width - (naturalText value).length) 48 ++ naturalText value)

def parseCasU64 (value : JsString) : Option Nat :=
  if value.length ≠ casU64Width then none
  else if !value.all isDigitUnit then none
  else if decimalValue value ≤ casU64Max ∧ formatCasU64 (decimalValue value) = some value then some (decimalValue value)
  else none

def slash : UInt16 := 47

variable (path : JsString)

def validManifestPath (allowRoot : Bool) : Bool :=
  if path = [] then allowRoot
  else if startsWith path [slash] || includes path (js "\\") || includes path [0] then false
  else (path.splitOn slash).all fun part => part ≠ [] && part ≠ js "." && part ≠ js ".."

def validateEntry (entry : TreeEntry) : Option String :=
  if 0o7777 < entry.mode then some "tree entry mode must be an integer from 0000 through 07777"
  else if !validManifestPath entry.path (entry.content = .directory) then
    some "tree entry path must be a normalized relative slash path"
  else if entry.path = [] ∧ entry.content ≠ .directory then some "only the root directory may use the empty path"
  else
    match entry.content with
    | .file blob =>
      if parseCasU64 blob.byteLength = none then some "blob byteLength must be zero-padded unsigned-u64 decimal text"
      else none
    | _ => none

/-- The canonical decoder of one entry, with the diagnostic of a refusal. -/
abbrev EntryCodec := Bytes → Except String TreeEntry

def decodeTreeEntry (codec : EntryCodec) (bytes : Bytes) : Except CasError TreeEntry :=
  match codec bytes with
  | .error diagnostic => .error ⟨"manifest-corrupt", "fatal", "decode-tree-entry", diagnostic⟩
  | .ok entry =>
    match validateEntry entry with
    | some invalid => .error ⟨"manifest-corrupt", "fatal", "decode-tree-entry", invalid⟩
    | none => .ok entry

def compareText (left right : JsString) : Int :=
  if left < right then -1 else if right < left then 1 else 0

def pathParts : List JsString :=
  if path = [] then [] else path.splitOn slash

-- Once the shared parts agree, the lengths that are left differ by as much as the whole lengths.
def compareParts : List JsString → List JsString → Int
  | left :: lefts, right :: rights =>
    if compareText left right ≠ 0 then compareText left right else compareParts lefts rights
  | lefts, rights => lefts.length - rights.length

def compareManifestPaths (left right : JsString) : Int := compareParts (pathParts left) (pathParts right)

def parentPath : JsString := ((path.reverse.dropWhile (· ≠ slash)).drop 1).reverse

theorem compare_parts_pos {left right : List JsString} : 0 < compareParts left right ↔ right < left := by
  induction left generalizing right with
  | nil =>
    cases right with
    | nil => simp [compareParts]
    | cons part parts =>
      simp only [compareParts, List.length_nil, List.length_cons, List.not_lt_nil, iff_false]
      omega
  | cons part parts ih =>
    cases right with
    | nil =>
      simp only [compareParts, List.length_nil, List.length_cons, List.nil_lt_cons, iff_true]
      omega
    | cons other others =>
      rw [compareParts, List.cons_lt_cons_iff, ← ih, compareText]
      rcases lt_trichotomy part other with less | rfl | greater
      · simp [less, less.not_gt, less.ne']
      · simp
      · simp [greater, greater.not_gt]

theorem path_parts_injective : Function.Injective pathParts := by
  intro left right same
  have joined : ∀ path, [slash].intercalate (pathParts path) = path := by
    intro path
    rw [pathParts]
    split
    · rename_i isRoot
      rw [isRoot]
      rfl
    · exact List.intercalate_splitOn slash
  rw [← joined left, same, joined right]

theorem parent_path_cases : (parentPath path = [] ∧ slash ∉ path) ∨ ∃ name, path = parentPath path ++ slash :: name ∧ slash ∉ name := by
  have split := List.takeWhile_append_dropWhile (p := fun unit => decide (unit ≠ slash)) (l := path.reverse)
  have before : slash ∉ path.reverse.takeWhile (· ≠ slash) := fun member => by
    simpa using List.mem_takeWhile_imp member
  cases found : path.reverse.dropWhile (· ≠ slash) with
  | nil =>
    left
    rw [found, List.append_nil] at split
    refine ⟨by rw [parentPath, found]; rfl, fun member => before ?_⟩
    rw [split]
    exact List.mem_reverse.mpr member
  | cons unit units =>
    right
    have isSlash : unit = slash := by
      have stopped := List.head?_dropWhile_not (fun unit => decide (unit ≠ slash)) path.reverse
      rw [found] at stopped
      simpa using stopped
    subst isSlash
    refine ⟨(path.reverse.takeWhile (· ≠ slash)).reverse, ?_, fun member => before (List.mem_reverse.mp member)⟩
    have whole := congrArg List.reverse split
    rw [found, List.reverse_append, List.reverse_cons, List.reverse_reverse, List.append_assoc] at whole
    rw [parentPath, found]
    exact whole.symm

theorem path_parts_child {allowRoot : Bool} (valid : validManifestPath path allowRoot = true) (filled : path ≠ []) :
    ∃ name, pathParts path = pathParts (parentPath path) ++ [name] := by
  rw [validManifestPath, if_neg filled] at valid
  split at valid
  · cases valid
  · rename_i plain
    rcases parent_path_cases path with ⟨top, noSlash⟩ | ⟨name, split, noSlash⟩
    · refine ⟨path, ?_⟩
      rw [top, pathParts, if_neg filled, List.splitOn_eq_singleton noSlash]
      rfl
    · have named : parentPath path ≠ [] := by
        intro top
        rw [top] at split
        rw [split] at plain
        simp [startsWith] at plain
      refine ⟨name, ?_⟩
      rw [pathParts, if_neg filled, pathParts, if_neg named]
      conv_lhs => rw [split]
      have parts : (parentPath path ++ slash :: name).splitOn slash = (parentPath path).splitOn slash ++ name.splitOn slash :=
        List.splitOnP_append_cons _ _ (beq_self_eq_true slash)
      rw [parts, List.splitOn_eq_singleton noSlash]

structure Topology where
  previousPath : Option JsString
  entryIndex : Nat
  -- The last directory pushed comes first.
  directoryStack : List JsString

def Topology.start : Topology := ⟨none, 0, []⟩

def walkError (message : String) : CasError := ⟨"manifest-corrupt", "fatal", "walk-tree", message⟩

def admitEntry (topology : Topology) (entry : TreeEntry) : Except CasError Topology :=
  if (topology.entryIndex = 0 ∧ (entry.content ≠ .directory ∨ entry.path ≠ [])) ∨
      (0 < topology.entryIndex ∧ entry.path = []) ∨
      (∃ previous ∈ topology.previousPath, compareManifestPaths entry.path previous ≤ 0) then
    .error (walkError "manifest must start with one root directory and remain strictly path-sorted")
  else if entry.path = [] then .ok ⟨some entry.path, topology.entryIndex + 1, [] :: topology.directoryStack⟩
  else
    let remaining := topology.directoryStack.dropWhile (· ≠ parentPath entry.path)
    if remaining.head? ≠ some (parentPath entry.path) then
      .error (walkError "every tree entry parent must be an earlier directory entry")
    else
      .ok ⟨some entry.path, topology.entryIndex + 1,
        if entry.content = .directory then entry.path :: remaining else remaining⟩

structure Follows (before : List TreeEntry) (entry : TreeEntry) : Prop where
  root : before = [] → entry.content = .directory ∧ entry.path = []
  named : before ≠ [] → entry.path ≠ []
  above : ∀ earlier ∈ before, 0 < compareManifestPaths entry.path earlier.path
  parent : entry.path ≠ [] → ∃ earlier ∈ before, earlier.content = .directory ∧ earlier.path = parentPath entry.path

structure TreeOrdered (entries : List TreeEntry) : Prop where
  root : ∃ first rest, entries = first :: rest ∧ first.content = .directory ∧ first.path = []
  ascending : entries.Pairwise fun earlier later => 0 < compareManifestPaths later.path earlier.path
  parents : ∀ before entry after, entries = before ++ entry :: after → entry.path ≠ [] →
    ∃ earlier ∈ before, earlier.content = .directory ∧ earlier.path = parentPath entry.path

variable (entries : List TreeEntry) (entry : TreeEntry)

def directoryPaths : List JsString := (entries.filter fun entry => entry.content = .directory).map TreeEntry.path

structure Remembers (before : List TreeEntry) (last : TreeEntry) (topology : Topology) : Prop where
  index : topology.entryIndex = before.length + 1
  previous : topology.previousPath = some last.path
  highest : ∀ entry ∈ before ++ [last], pathParts entry.path ≤ pathParts last.path
  stack : OpenDirectories pathParts (directoryPaths (before ++ [last])) last.path topology.directoryStack

theorem mem_directory_paths {path : JsString} :
    path ∈ directoryPaths entries ↔ ∃ entry ∈ entries, entry.content = .directory ∧ entry.path = path := by
  simp [directoryPaths, and_assoc]

theorem directory_paths_snoc : directoryPaths (entries ++ [entry]) =
      if entry.content = .directory then directoryPaths entries ++ [entry.path] else directoryPaths entries := by
  by_cases isDirectory : entry.content = .directory
  · simp [directoryPaths, isDirectory]
  · simp [directoryPaths, isDirectory]

theorem popped_to_iff {stack : List JsString} {parent : JsString} :
    (stack.dropWhile (· ≠ parent)).head? = some parent ↔ parent ∈ stack := by
  induction stack with
  | nil => simp
  | cons directory rest ih =>
    by_cases same : directory = parent
    · simp [same]
    · rw [List.dropWhile_cons_of_pos (by simpa using same), ih]
      simp [Ne.symm same]

theorem admit_first {next : Topology} :
    admitEntry .start entry = .ok next ↔ (entry.content = .directory ∧ entry.path = []) ∧ next = ⟨some entry.path, 1, [[]]⟩ := by
  by_cases isRoot : entry.content = .directory ∧ entry.path = []
  · simp [admitEntry, Topology.start, isRoot, eq_comm]
  · have refused : entry.content ≠ .directory ∨ entry.path ≠ [] := not_and_or.mp isRoot
    simp [admitEntry, Topology.start, isRoot, refused]

theorem first_remembered (isRoot : entry.content = .directory ∧ entry.path = []) : Remembers [] entry ⟨some entry.path, 1, [[]]⟩ := by
  refine ⟨rfl, rfl, by simp, ⟨fun directory => ?_, List.pairwise_singleton _ _⟩⟩
  simp only [directoryPaths, isRoot.1, isRoot.2, List.nil_append, List.filter_cons, decide_true, if_true, List.filter_nil,
    List.map_cons, List.map_nil, List.mem_singleton]
  constructor
  · rintro rfl
    exact ⟨rfl, List.prefix_rfl⟩
  · exact And.left

section Step

variable {before : List TreeEntry} {last entry : TreeEntry} {topology : Topology} (remembers : Remembers before last topology)

include remembers

theorem above_all (above : pathParts last.path < pathParts entry.path) :
    ∀ earlier ∈ before ++ [last], pathParts earlier.path < pathParts entry.path :=
  fun earlier member => (remembers.highest earlier member).trans_lt above

theorem parent_stacked_iff {allowRoot : Bool} (valid : validManifestPath entry.path allowRoot = true) (filled : entry.path ≠ [])
    (above : pathParts last.path < pathParts entry.path) :
    parentPath entry.path ∈ topology.directoryStack ↔
      ∃ earlier ∈ before ++ [last], earlier.content = .directory ∧ earlier.path = parentPath entry.path := by
  obtain ⟨name, child⟩ := path_parts_child _ valid filled
  rw [← mem_directory_paths]
  constructor
  · exact fun stacked => ((remembers.stack.mem _).mp stacked).1
  · intro known
    obtain ⟨earlier, member, _, samePath⟩ := (mem_directory_paths _).mp known
    exact open_parent remembers.stack known (samePath ▸ remembers.highest earlier member) above child

theorem admit_next {allowRoot : Bool} (valid : validManifestPath entry.path allowRoot = true) :
    (∃ next, admitEntry topology entry = .ok next) ↔ Follows (before ++ [last]) entry := by
  have someBefore : before ++ [last] ≠ [] := by simp
  have highest : 0 < compareManifestPaths entry.path last.path ↔ pathParts last.path < pathParts entry.path := compare_parts_pos
  rw [admitEntry, remembers.index, remembers.previous]
  by_cases filled : entry.path = []
  · rw [if_pos (.inr (.inl ⟨Nat.succ_pos _, filled⟩))]
    exact ⟨nofun, fun follows => absurd filled (follows.named someBefore)⟩
  · by_cases above : pathParts last.path < pathParts entry.path
    · have every := above_all remembers above
      have ordered := highest.mpr above
      rw [if_neg (by simp [filled, ordered]), if_neg filled]
      have stacked := (popped_to_iff).trans (parent_stacked_iff remembers valid filled above)
      rw [ite_not]
      split
      · rename_i popped
        have parent := stacked.mp popped
        exact ⟨fun _ => ⟨fun none => absurd none someBefore, fun _ => filled,
          fun earlier member => (compare_parts_pos).mpr (every earlier member), fun _ => parent⟩, fun _ => ⟨_, rfl⟩⟩
      · rename_i orphan
        exact ⟨nofun, fun follows => absurd (stacked.mpr (follows.parent filled)) orphan⟩
    · have unordered := mt highest.mp above
      rw [if_pos (.inr (.inr ⟨_, rfl, not_lt.mp unordered⟩))]
      exact ⟨nofun, fun follows => absurd (follows.above last (by simp)) unordered⟩

theorem next_remembered (allowRoot : Bool)
    (valid : validManifestPath entry.path allowRoot = true) (next : Topology) (admitted : admitEntry topology entry = .ok next) :
    Remembers (before ++ [last]) entry next := by
  have follows := (admit_next remembers valid).mp ⟨next, admitted⟩
  have filled := follows.named (by simp)
  have above : pathParts last.path < pathParts entry.path := (compare_parts_pos).mp (follows.above last (by simp))
  have every := above_all remembers above
  have fresh : entry.path ∉ directoryPaths (before ++ [last]) := by
    intro known
    obtain ⟨earlier, member, _, samePath⟩ := (mem_directory_paths _).mp known
    exact absurd (samePath ▸ every earlier member) (lt_irrefl _)
  obtain ⟨name, child⟩ := path_parts_child _ valid filled
  have popped := open_popped path_parts_injective remembers.stack
    ((parent_stacked_iff remembers valid filled above).mpr (follows.parent filled))
  rw [admitEntry] at admitted
  split at admitted
  · cases admitted
  · dsimp only at admitted
    split at admitted
    · cases admitted
    · cases admitted
      refine ⟨by simp [remembers.index], rfl, fun earlier member => ?_, ?_⟩
      · rcases List.mem_append.mp member with early | isLast
        · exact (every earlier early).le
        · rw [List.mem_singleton.mp isLast]
      · rw [directory_paths_snoc]
        by_cases isDirectory : entry.content = .directory
        · simp only [isDirectory, if_true]
          exact open_directory path_parts_injective popped child fresh
        · simp only [isDirectory, if_false]
          exact open_file path_parts_injective popped child fresh

end Step

theorem tree_ordered_snoc (before : List TreeEntry) (entry : TreeEntry) :
    TreeOrdered (before ++ [entry]) ↔ (before = [] ∨ TreeOrdered before) ∧ Follows before entry := by
  constructor
  · intro ordered
    obtain ⟨first, rest, same, isRoot⟩ := ordered.root
    have ascending := List.pairwise_append.mp ordered.ascending
    have above : ∀ earlier ∈ before, 0 < compareManifestPaths entry.path earlier.path := fun earlier member =>
      ascending.2.2 earlier member entry List.mem_cons_self
    cases before with
    | nil =>
      cases same
      exact ⟨.inl rfl, fun _ => isRoot, fun none => absurd rfl none, nofun, fun filled => absurd isRoot.2 filled⟩
    | cons head tail =>
      cases same
      refine ⟨.inr ⟨⟨_, _, rfl, isRoot⟩, ascending.1, fun start next after split => ?_⟩, nofun, fun _ isEmpty => ?_, above, ?_⟩
      · exact ordered.parents start next (after ++ [entry]) (by rw [split, List.append_assoc, List.cons_append])
      · have higher := (compare_parts_pos).mp (above first List.mem_cons_self)
        rw [isEmpty] at higher
        exact absurd higher (List.not_lt_nil _)
      · exact ordered.parents (first :: tail) entry [] rfl
  · rintro ⟨sofar, follows⟩
    rcases sofar with rfl | ordered
    · have isRoot := follows.root rfl
      refine ⟨⟨entry, [], rfl, isRoot⟩, List.pairwise_singleton _ _, fun start next after split filled => ?_⟩
      obtain ⟨rfl, rfl, rfl⟩ : start = [] ∧ next = entry ∧ after = [] := by
        cases start with
        | nil =>
          cases split
          exact ⟨rfl, rfl, rfl⟩
        | cons head tail => simp at split
      exact absurd isRoot.2 filled
    · obtain ⟨first, rest, rfl, isRoot⟩ := ordered.root
      refine ⟨⟨first, rest ++ [entry], rfl, isRoot⟩, ?_, fun start next after split filled => ?_⟩
      · refine List.pairwise_append.mpr ⟨ordered.ascending, List.pairwise_singleton _ _, fun earlier member later isEntry => ?_⟩
        rw [List.mem_singleton.mp isEntry]
        exact follows.above earlier member
      · rcases List.eq_nil_or_concat after with rfl | ⟨front, final, rfl⟩
        · obtain ⟨rfl, same⟩ := List.append_inj' split rfl
          cases same
          exact follows.parent filled
        · rw [List.concat_eq_append, ← List.cons_append, ← List.append_assoc] at split
          obtain ⟨same, _⟩ := List.append_inj' split rfl
          exact ordered.parents start next front same filled

abbrev admitAll (entries : List TreeEntry) : Except CasError Topology := entries.foldlM admitEntry .start

def PathsValid (entries : List TreeEntry) : Prop :=
  ∀ entry ∈ entries, validManifestPath entry.path (entry.content = .directory) = true

theorem admitted_remembers (before : List TreeEntry) (last : TreeEntry) (valid : PathsValid (before ++ [last]))
    (topology : Topology) (admitted : admitAll (before ++ [last]) = .ok topology) : Remembers before last topology := by
  induction before using List.reverseRecOn generalizing last topology with
  | nil =>
    obtain ⟨isRoot, rfl⟩ := (admit_first last).mp (by simpa [admitAll] using admitted)
    exact first_remembered last isRoot
  | append_singleton before entry ih =>
    obtain ⟨middle, sofar, step⟩ := (foldlM_snoc).mp admitted
    have validBefore : PathsValid (before ++ [entry]) := fun e member => valid e (List.mem_append_left _ member)
    exact next_remembered (ih entry validBefore middle sofar) _ (valid last (by simp)) topology step

theorem admit_all_ok {entries : List TreeEntry} (valid : PathsValid entries) :
    (∃ topology, admitAll entries = .ok topology) ↔ entries = [] ∨ TreeOrdered entries := by
  induction entries using List.reverseRecOn with
  | nil => exact ⟨fun _ => .inl rfl, fun _ => ⟨_, rfl⟩⟩
  | append_singleton before entry ih =>
    have validBefore : PathsValid before := fun e member => valid e (List.mem_append_left _ member)
    have step : ∀ topology, admitAll before = .ok topology → ((∃ next, admitEntry topology entry = .ok next) ↔ Follows before entry) := by
      intro topology sofar
      rcases List.eq_nil_or_concat before with rfl | ⟨front, last, rfl⟩
      · cases sofar
        simp only [admit_first]
        refine ⟨fun ⟨_, isRoot, _⟩ => ?_, fun follows => ⟨_, follows.root rfl, rfl⟩⟩
        exact ⟨fun _ => isRoot, fun none => absurd rfl none, nofun, fun filled => absurd isRoot.2 filled⟩
      · rw [List.concat_eq_append] at sofar validBefore ⊢
        exact admit_next (admitted_remembers front last validBefore topology sofar) (valid entry (by simp))
    rw [tree_ordered_snoc, ← ih validBefore]
    simp only [admitAll, foldlM_snoc, List.append_eq_nil_iff, List.cons_ne_nil, and_false, false_or]
    constructor
    · rintro ⟨next, topology, sofar, admitted⟩
      exact ⟨⟨topology, sofar⟩, (step topology sofar).mp ⟨next, admitted⟩⟩
    · rintro ⟨⟨topology, sofar⟩, follows⟩
      obtain ⟨next, admitted⟩ := (step topology sofar).mpr follows
      exact ⟨next, topology, sofar, admitted⟩

section Ancestors

variable {entries : List TreeEntry} (ordered : TreeOrdered entries) (valid : PathsValid entries)

include ordered in
theorem ordered_paths_distinct : (entries.map TreeEntry.path).Nodup := by
  rw [List.Nodup, List.pairwise_map]
  refine ordered.ascending.imp fun {earlier later} above samePath => ?_
  have higher := (compare_parts_pos).mp above
  rw [samePath] at higher
  exact lt_irrefl _ higher

include ordered valid in
theorem ancestor_listed (entry : TreeEntry) (member : entry ∈ entries) (ancestor : List JsString)
    (above : ancestor <+: pathParts entry.path) (proper : ancestor ≠ pathParts entry.path) :
    ∃ holder ∈ entries, holder.content = .directory ∧ pathParts holder.path = ancestor := by
  induction size : (pathParts entry.path).length generalizing entry with
  | zero =>
    rw [List.length_eq_zero_iff.mp size] at above proper
    exact absurd (List.prefix_nil.mp above) proper
  | succ depth ih =>
    have filled : entry.path ≠ [] := by
      intro isRoot
      simp [isRoot, pathParts] at size
    obtain ⟨name, child⟩ := path_parts_child _ (valid entry member) filled
    obtain ⟨before, after, split⟩ := List.append_of_mem member
    obtain ⟨parent, isBefore, isDirectory, isParent⟩ := ordered.parents before entry after split filled
    have listed : parent ∈ entries := split ▸ List.mem_append_left _ isBefore
    rw [child] at above proper size
    rw [← isParent] at above proper size
    by_cases same : ancestor = pathParts parent.path
    · exact ⟨parent, listed, isDirectory, same.symm⟩
    · exact ih parent listed ((List.prefix_concat_iff.mp above).resolve_left proper) same (by simpa using size)

include ordered valid in
theorem ancestor_is_directory {entry other : TreeEntry} (member : entry ∈ entries) (listed : other ∈ entries)
    (above : pathParts other.path <+: pathParts entry.path) (proper : other.path ≠ entry.path) : other.content = .directory := by
  obtain ⟨holder, isHolder, isDirectory, samePath⟩ :=
    ancestor_listed ordered valid entry member _ above fun same => proper (path_parts_injective same)
  have same := List.inj_on_of_nodup_map (ordered_paths_distinct ordered) isHolder listed (path_parts_injective samePath)
  exact same ▸ isDirectory

end Ancestors

end PiAutopilot.Storage
