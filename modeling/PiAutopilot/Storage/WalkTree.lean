import PiAutopilot.Storage.Manifest

set_option autoImplicit false

/-! # Reading a tree manifest by pages

Every page reads the manifest from its start again, and checks what it reads; only the entries after the cursor are
returned. -/

namespace PiAutopilot.Storage

open Lib Protocol

def treeManifestMagic : Bytes := "PI-AUTOPILOT-TREE-MANIFEST-V1\n".toList.map fun char => UInt8.ofNat char.toNat

def maxWalkPageSize : Nat := 1024

def maxTreeEntryPayloadBytes : Nat := 1024 * 1024

def cursorStart (root : JsString) : JsString := js "tree-cursor-v1:" ++ root.drop 7 ++ js ":"

def treeCursor (root : JsString) (offset : Nat) : Option JsString := (formatCasU64 offset).map fun text => cursorStart root ++ text

def parseTreeCursor (root cursor : JsString) : Option Nat :=
  if startsWith cursor (cursorStart root) then parseCasU64 (cursor.drop (cursorStart root).length) else none

structure WalkTreePage where
  entries : List TreeEntry
  nextCursor : Option JsString
deriving DecidableEq

/-- The verified bytes of a stored manifest; a file's size fits 64 bits. -/
structure ManifestFile where
  bytes : Bytes
  sized : bytes.length ≤ casU64Max

section Walk

variable (codec : EntryCodec) (requested pageSize : Nat)

-- The bytes from the offset on are what is left of the file, so a frame is cut short when they are.
def walkLoop (rest : Bytes) (offset : Nat) (topology : Topology) (entries : List TreeEntry) : Except CasError (Nat × List TreeEntry) :=
  match rest with
  | [] => .ok (offset, entries)
  | first :: second :: third :: fourth :: tail =>
    let payloadLength := readBigEndian [first, second, third, fourth]
    let last := offset + 4 + payloadLength
    if maxTreeEntryPayloadBytes < payloadLength then
      .error (walkError "tree entry exceeds the bounded manifest-v1 entry envelope")
    else if tail.length < payloadLength then .error (walkError "tree entry payload is truncated")
    else if offset < requested ∧ requested < last then
      .error ⟨"invalid-cursor", "feedback", "walk-tree", "cursor does not point to a tree entry boundary"⟩
    else
      match decodeTreeEntry codec (tail.take payloadLength) with
      | .error failed => .error failed
      | .ok entry =>
        match admitEntry topology entry with
        | .error failed => .error failed
        | .ok admitted =>
          let collected := if requested ≤ offset ∧ entries.length < pageSize then entries ++ [entry] else entries
          if collected.length = pageSize then .ok (last, collected)
          else walkLoop (tail.drop payloadLength) last admitted collected
  | _ => .error (walkError "tree entry header is truncated")
termination_by rest.length
decreasing_by
  simp only [List.length_drop, List.length_cons]
  omega

variable (root : JsString) (file : ManifestFile) (cursor : Option JsString)

def requestedOffset : Option Nat :=
  match cursor with
  | none => some treeManifestMagic.length
  | some text => parseTreeCursor root text

def walkTree : Except CasError WalkTreePage :=
  if pageSize = 0 ∨ maxWalkPageSize < pageSize then
    .error ⟨"invalid-argument", "feedback", "walk-tree", "root must be canonical and pageSize must be 1 through 1024; " ++
      "narrow the page instead of requesting an unbounded listing"⟩
  else
    let outside : CasError :=
      ⟨"invalid-cursor", "feedback", "walk-tree", "cursor is not bound to this tree or is outside the manifest"⟩
    match requestedOffset root cursor with
    | none => .error outside
    | some requested =>
      if requested < treeManifestMagic.length ∨ file.bytes.length < requested then .error outside
      else if file.bytes.take treeManifestMagic.length ≠ treeManifestMagic then
        .error (walkError "tree manifest magic/version is invalid")
      else
        match walkLoop codec requested pageSize (file.bytes.drop treeManifestMagic.length) treeManifestMagic.length .start [] with
        | .error failed => .error failed
        | .ok (offset, entries) =>
          if offset < requested then
            .error ⟨"invalid-cursor", "feedback", "walk-tree", "cursor is not a reachable entry boundary"⟩
          else if offset < file.bytes.length then
            match treeCursor root offset with
            | none => .error (walkError "next manifest offset exceeds unsigned-u64 cursor domain")
            | some next => .ok ⟨entries, some next⟩
          else .ok ⟨entries, none⟩

end Walk

abbrev Item := Bytes × TreeEntry

def ReadsAs (codec : EntryCodec) (item : Item) : Prop :=
  item.1.length ≤ maxTreeEntryPayloadBytes ∧ decodeTreeEntry codec item.1 = .ok item.2

abbrev itemBytes (items : List Item) : Bytes := frames (items.map Prod.fst)

abbrev itemEntries (items : List Item) : List TreeEntry := items.map Prod.snd

variable {codec : EntryCodec}

theorem reads_as_fits {items : List Item} (reads : ∀ item ∈ items, ReadsAs codec item) :
    ∀ payload ∈ items.map Prod.fst, payload.length < 2 ^ 32 := by
  intro payload member
  obtain ⟨item, isItem, rfl⟩ := List.mem_map.mp member
  exact (reads item isItem).1.trans_lt (by decide)

theorem same_payloads (left right : List Item) (readsLeft : ∀ item ∈ left, ReadsAs codec item)
    (readsRight : ∀ item ∈ right, ReadsAs codec item) (same : left.map Prod.fst = right.map Prod.fst) : left = right := by
  induction left generalizing right with
  | nil => exact (List.map_eq_nil_iff.mp same.symm).symm
  | cons item items ih =>
    cases right with
    | nil => cases same
    | cons other others =>
      obtain ⟨samePayload, sameRest⟩ := List.cons.inj same
      have sameEntry : item.2 = other.2 := by
        have decoded := (readsLeft item List.mem_cons_self).2
        rw [samePayload, (readsRight other List.mem_cons_self).2] at decoded
        exact (Except.ok.inj decoded).symm
      rw [Prod.ext samePayload sameEntry, ih others (fun item member => readsLeft item (List.mem_cons_of_mem _ member))
        (fun item member => readsRight item (List.mem_cons_of_mem _ member)) sameRest]

theorem decoded_path_valid {payload : Bytes} {entry : TreeEntry}
    (decoded : decodeTreeEntry codec payload = .ok entry) : validManifestPath entry.path (entry.content = .directory) = true := by
  rw [decodeTreeEntry] at decoded
  split at decoded
  · cases decoded
  · split at decoded
    · cases decoded
    · rename_i accepted
      cases decoded
      rw [validateEntry] at accepted
      split at accepted
      · cases accepted
      · split at accepted
        · cases accepted
        · rename_i valid
          simpa using valid

theorem reads_as_valid {items : List Item} (reads : ∀ item ∈ items, ReadsAs codec item) : PathsValid (itemEntries items) := by
  intro entry member
  obtain ⟨item, isItem, rfl⟩ := List.mem_map.mp member
  exact decoded_path_valid (reads item isItem).2

section Loop

variable {codec : EntryCodec} {requested pageSize : Nat}

theorem walk_loop_frame {payload rest : Bytes} (small : payload.length ≤ maxTreeEntryPayloadBytes) (offset : Nat)
    (topology : Topology) (entries : List TreeEntry) :
    walkLoop codec requested pageSize (frame payload ++ rest) offset topology entries =
      if offset < requested ∧ requested < offset + (frame payload).length then
        .error ⟨"invalid-cursor", "feedback", "walk-tree", "cursor does not point to a tree entry boundary"⟩
      else
        match decodeTreeEntry codec payload with
        | .error failed => .error failed
        | .ok entry =>
          match admitEntry topology entry with
          | .error failed => .error failed
          | .ok admitted =>
            let collected := if requested ≤ offset ∧ entries.length < pageSize then entries ++ [entry] else entries
            if collected.length = pageSize then .ok (offset + (frame payload).length, collected)
            else walkLoop codec requested pageSize rest (offset + (frame payload).length) admitted collected := by
  have fits : payload.length < 2 ^ 32 := small.trans_lt (by decide)
  have length := read_big_endian32 fits
  have whole : ¬ payload.length + rest.length < payload.length := by omega
  simp only [frame_length]
  rw [frame, bigEndian32, List.append_assoc, List.cons_append, List.cons_append, List.cons_append, List.cons_append,
    List.nil_append, walkLoop]
  rw [bigEndian32] at length
  simp only [length, if_neg (not_lt.mpr small), if_neg whole, List.take_left, List.drop_left, List.length_append, Nat.add_assoc]

variable {topology : Topology} {entries : List TreeEntry} {bytes : Bytes} {offset : Nat} {result : Nat × List TreeEntry}

theorem walk_loop_starts (walked : walkLoop codec requested pageSize bytes offset topology entries = .ok result) :
    (bytes = [] ∧ result = (offset, entries)) ∨
      ∃ payload rest, bytes = frame payload ++ rest ∧ payload.length ≤ maxTreeEntryPayloadBytes := by
  rw [walkLoop.eq_def] at walked
  split at walked
  · cases walked
    exact .inl ⟨rfl, rfl⟩
  · rename_i first second third fourth tail
    obtain ⟨small, walked⟩ := refused_ok walked
    obtain ⟨whole, walked⟩ := refused_ok walked
    right
    refine ⟨tail.take (readBigEndian [first, second, third, fourth]), tail.drop (readBigEndian [first, second, third, fourth]), ?_, ?_⟩
    · rw [frame, List.length_take_of_le (not_lt.mp whole), big_endian32_read, List.append_assoc, List.take_append_drop]
      rfl
    · rw [List.length_take_of_le (not_lt.mp whole)]
      exact not_lt.mp small
  · cases walked

theorem walk_loop_step {item : Item} {rest : Bytes} (reads : ReadsAs codec item) {next : Topology}
    (admitted : admitEntry topology item.2 = .ok next)
    (boundary : offset < requested → offset + (frame item.1).length ≤ requested) :
    walkLoop codec requested pageSize (frame item.1 ++ rest) offset topology entries =
      let collected := if requested ≤ offset ∧ entries.length < pageSize then entries ++ [item.2] else entries
      if collected.length = pageSize then .ok (offset + (frame item.1).length, collected)
      else walkLoop codec requested pageSize rest (offset + (frame item.1).length) next collected := by
  have inside : ¬ (offset < requested ∧ requested < offset + (frame item.1).length) := fun ⟨before, after⟩ =>
    absurd (boundary before) (not_le.mpr after)
  rw [walk_loop_frame reads.1, if_neg inside, reads.2]
  dsimp only
  rw [admitted]

theorem walk_loop_reads (walked : walkLoop codec requested pageSize bytes offset topology entries = .ok result) :
    (bytes = [] ∧ result = (offset, entries)) ∨
      ∃ item rest next, bytes = frame item.1 ++ rest ∧ ReadsAs codec item ∧ admitEntry topology item.2 = .ok next ∧
        (offset < requested → offset + (frame item.1).length ≤ requested) := by
  rcases walk_loop_starts walked with done | ⟨payload, rest, rfl, small⟩
  · exact .inl done
  · right
    rw [walk_loop_frame small] at walked
    obtain ⟨boundary, walked⟩ := refused_ok walked
    split at walked
    · cases walked
    · rename_i entry decoded
      split at walked
      · cases walked
      · rename_i next admitted
        exact ⟨(payload, entry), rest, next, rfl, ⟨small, decoded⟩, admitted, fun before => not_lt.mp fun after => boundary ⟨before, after⟩⟩

theorem skip_items (items : List Item) (middle : Bytes) (reads : ∀ item ∈ items, ReadsAs codec item) (offset : Nat)
    (topology next : Topology) (admitted : (itemEntries items).foldlM admitEntry topology = .ok next)
    (boundary : offset + (itemBytes items).length = requested) (positive : 0 < pageSize) :
    walkLoop codec requested pageSize (itemBytes items ++ middle) offset topology [] =
      walkLoop codec requested pageSize middle requested next [] := by
  induction items generalizing offset topology with
  | nil =>
    cases admitted
    rw [← boundary]
    rfl
  | cons item items ih =>
    obtain ⟨entered, first, rest⟩ := bind_ok admitted
    simp only [itemBytes, List.map_cons, frames_cons, List.length_append, ← Nat.add_assoc] at boundary
    have before : ¬ requested ≤ offset := by
      rw [← boundary, frame_length]
      omega
    rw [itemBytes, List.map_cons, frames_cons, List.append_assoc, walk_loop_step (reads item List.mem_cons_self) first fun _ => by omega]
    simp only [before, false_and, if_false, List.length_nil, if_neg positive.ne]
    exact ih (fun item member => reads item (List.mem_cons_of_mem _ member)) _ _ rest boundary

theorem collect_items (items : List Item) (reads : ∀ item ∈ items, ReadsAs codec item) (offset : Nat)
    (topology next : Topology) (admitted : (itemEntries items).foldlM admitEntry topology = .ok next)
    (entries : List TreeEntry) (reached : requested ≤ offset) (room : entries.length < pageSize) :
    walkLoop codec requested pageSize (itemBytes items) offset topology entries =
      .ok (offset + (itemBytes (items.take (pageSize - entries.length))).length,
        entries ++ itemEntries (items.take (pageSize - entries.length))) := by
  induction items generalizing offset topology entries with
  | nil =>
    rw [itemBytes, List.map_nil, frames_nil, walkLoop]
    simp [itemEntries, itemBytes]
  | cons item items ih =>
    obtain ⟨entered, first, rest⟩ := bind_ok admitted
    obtain ⟨left, size⟩ : ∃ left, pageSize - entries.length = left + 1 := ⟨pageSize - entries.length - 1, by omega⟩
    rw [itemBytes, List.map_cons, frames_cons, walk_loop_step (reads item List.mem_cons_self) first fun _ => by omega]
    simp only [reached, room, and_self, if_true, List.length_append, List.length_singleton, size, List.take_succ_cons,
      itemBytes, itemEntries, List.map_cons, frames_cons, ← Nat.add_assoc]
    by_cases full : entries.length + 1 = pageSize
    · obtain rfl : left = 0 := by omega
      simp [full]
    · have inner := ih (fun item member => reads item (List.mem_cons_of_mem _ member)) (offset + (frame item.1).length)
        entered rest (entries ++ [item.2]) (by omega) (by simp; omega)
      have lessRoom : pageSize - (entries ++ [item.2]).length = left := by simp; omega
      rw [lessRoom] at inner
      rw [if_neg full, inner, List.append_assoc]
      rfl

theorem skip_ok (bytes : Bytes) (offset : Nat) (topology : Topology) (final : Nat) (out : List TreeEntry)
    (walked : walkLoop codec requested pageSize bytes offset topology [] = .ok (final, out)) (below : offset ≤ requested)
    (reached : requested ≤ final) (positive : 0 < pageSize) :
    ∃ items middle next, bytes = itemBytes items ++ middle ∧ (∀ item ∈ items, ReadsAs codec item) ∧
      (itemEntries items).foldlM admitEntry topology = .ok next ∧ offset + (itemBytes items).length = requested ∧
      walkLoop codec requested pageSize middle requested next [] = .ok (final, out) := by
  induction size : bytes.length using Nat.strong_induction_on generalizing bytes offset topology with
  | _ size ih =>
    subst size
    rcases eq_or_lt_of_le below with rfl | before
    · exact ⟨[], bytes, topology, rfl, nofun, rfl, rfl, walked⟩
    · rcases walk_loop_reads walked with ⟨_, same⟩ | ⟨item, rest, entered, rfl, reads, first, boundary⟩
      · cases same
        omega
      · rw [walk_loop_step reads first boundary] at walked
        simp only [before.not_ge, false_and, if_false, List.length_nil, if_neg positive.ne] at walked
        have shorter : rest.length < (frame item.1 ++ rest).length := by
          rw [List.length_append, frame_length]
          omega
        obtain ⟨items, middle, next, rfl, readsRest, admitted, there, later⟩ := ih rest.length shorter rest _ _ walked (boundary before) rfl
        refine ⟨item :: items, middle, next, ?_, List.forall_mem_cons.mpr ⟨reads, readsRest⟩, ?_, ?_, later⟩
        · simp [itemBytes]
        · exact bind_eq_ok first admitted
        · simp only [itemBytes, List.map_cons, frames_cons, List.length_append, ← Nat.add_assoc]
          exact there

theorem collect_ok (bytes : Bytes) (offset : Nat) (topology : Topology) (entries : List TreeEntry) (final : Nat)
    (out : List TreeEntry) (walked : walkLoop codec requested pageSize bytes offset topology entries = .ok (final, out))
    (reached : requested ≤ offset) (room : entries.length < pageSize) :
    ∃ items remaining next, bytes = itemBytes items ++ remaining ∧ (∀ item ∈ items, ReadsAs codec item) ∧
      (itemEntries items).foldlM admitEntry topology = .ok next ∧ final = offset + (itemBytes items).length ∧
      out = entries ++ itemEntries items := by
  induction size : bytes.length using Nat.strong_induction_on generalizing bytes offset topology entries with
  | _ size ih =>
    subst size
    rcases walk_loop_reads walked with ⟨rfl, same⟩ | ⟨item, rest, entered, rfl, reads, first, boundary⟩
    · cases same
      exact ⟨[], [], topology, rfl, nofun, rfl, rfl, (List.append_nil _).symm⟩
    · rw [walk_loop_step reads first boundary] at walked
      simp only [reached, room, and_self, if_true] at walked
      split at walked
      · cases walked
        refine ⟨[item], rest, entered, ?_, List.forall_mem_singleton.mpr reads, bind_eq_ok first rfl, ?_, rfl⟩
        · simp [itemBytes]
        · simp [itemBytes]
      · rename_i more
        have shorter : rest.length < (frame item.1 ++ rest).length := by
          rw [List.length_append, frame_length]
          omega
        have roomLeft : (entries ++ [item.2]).length < pageSize := by
          rw [List.length_append, List.length_singleton] at more ⊢
          omega
        obtain ⟨items, remaining, next, rfl, readsRest, admitted, rfl, rfl⟩ :=
          ih rest.length shorter rest _ _ _ walked (by omega) roomLeft rfl
        refine ⟨item :: items, remaining, next, ?_, List.forall_mem_cons.mpr ⟨reads, readsRest⟩, bind_eq_ok first admitted, ?_, ?_⟩
        · simp [itemBytes]
        · simp [itemBytes, Nat.add_assoc]
        · simp [itemEntries]

end Loop

theorem natural_text_length {value : Nat} (small : value ≤ casU64Max) : (naturalText value).length ≤ casU64Width := by
  rw [naturalText]
  split
  · decide
  · rw [List.length_map, List.length_reverse, Nat.digits_length_le_iff (by decide)]
    exact small.trans_lt (by decide)

theorem zeros_decimal_value (zeros : Nat) (text : JsString) : decimalValue (List.replicate zeros 48 ++ text) = decimalValue text := by
  rw [decimalValue, decimalValue]
  induction zeros with
  | zero => rfl
  | succ zeros ih => exact ih

theorem parse_formatted_u64 {value : Nat} {text : JsString} (formatted : formatCasU64 value = some text) :
    parseCasU64 text = some value := by
  have kept := formatted
  rw [formatCasU64] at formatted
  split at formatted
  · cases formatted
  · rename_i small
    have fits := natural_text_length (not_lt.mp small)
    obtain ⟨digits, same, _⟩ := natural_text_digits value
    cases formatted
    have length : (List.replicate (casU64Width - (naturalText value).length) (48 : UInt16) ++ naturalText value).length = casU64Width := by
      rw [List.length_append, List.length_replicate]
      omega
    have allDigits : (List.replicate (casU64Width - (naturalText value).length) (48 : UInt16) ++ naturalText value).all
        isDigitUnit = true := by
      rw [List.all_append, Bool.and_eq_true, List.all_replicate]
      exact ⟨by split <;> decide, List.all_eq_true.mpr digits⟩
    rw [parseCasU64, if_neg (not_not.mpr length), allDigits, zeros_decimal_value, same, if_neg (by simp), if_pos ⟨not_lt.mp small, kept⟩]

theorem requested_of_cursor (root : JsString) (offset : Nat) (cursor : JsString) (formatted : treeCursor root offset = some cursor) :
    requestedOffset root (some cursor) = some offset := by
  obtain ⟨text, isText, rfl⟩ := Option.map_eq_some_iff.mp formatted
  have starts : startsWith (cursorStart root ++ text) (cursorStart root) = true := List.isPrefixOf_iff_prefix.mpr (List.prefix_append _ _)
  rw [requestedOffset, parseTreeCursor, if_pos starts, List.drop_left]
  exact parse_formatted_u64 isText

/-- A cursor of a tree names one offset, and an offset has one cursor: no other text is accepted. -/
theorem tree_cursor_canonical (root cursor : JsString) (offset : Nat) :
    parseTreeCursor root cursor = some offset ↔ treeCursor root offset = some cursor := by
  refine ⟨fun parsed => ?_, requested_of_cursor root offset cursor⟩
  rw [parseTreeCursor] at parsed
  split at parsed
  · rename_i starts
    obtain ⟨text, rfl⟩ := List.isPrefixOf_iff_prefix.mp starts
    rw [List.drop_left, parseCasU64] at parsed
    split_ifs at parsed with _ _ canonical
    cases parsed
    rw [treeCursor, canonical.2]
    rfl
  · cases parsed

theorem tree_cursor_some {root : JsString} {offset : Nat} (small : offset ≤ casU64Max) : ∃ cursor, treeCursor root offset = some cursor := by
  rw [treeCursor, formatCasU64, if_neg (not_lt.mpr small)]
  exact ⟨_, rfl⟩

section Pages

variable {codec : EntryCodec} {root : JsString} {file : ManifestFile} {cursor : Option JsString} {pageSize : Nat}

structure ReadTo (codec : EntryCodec) (file : ManifestFile) (items : List Item) (remaining : Bytes) : Prop where
  bytes : file.bytes = treeManifestMagic ++ (itemBytes items ++ remaining)
  reads : ∀ item ∈ items, ReadsAs codec item
  admitted : ∃ topology, admitAll (itemEntries items) = .ok topology

def itemsEnd (items : List Item) : Nat := treeManifestMagic.length + (itemBytes items).length

theorem walk_tree_ok {page : WalkTreePage} (walked : walkTree codec pageSize root file cursor = .ok page) :
    ∃ skipped taken remaining, ReadTo codec file (skipped ++ taken) remaining ∧
      requestedOffset root cursor = some (itemsEnd skipped) ∧ page.entries = itemEntries taken ∧
      (remaining = [] ∧ page.nextCursor = none ∨
        ∃ next, treeCursor root (itemsEnd (skipped ++ taken)) = some next ∧ page.nextCursor = some next) := by
  obtain ⟨sized, walked⟩ := refused_ok walked
  split at walked
  · cases walked
  · rename_i requested asked
    obtain ⟨inside, walked⟩ := refused_ok walked
    obtain ⟨magic, walked⟩ := refused_ok walked
    split at walked
    · cases walked
    · rename_i offset out looped
      obtain ⟨reached, walked⟩ := refused_ok walked
      have positive : 0 < pageSize := by omega
      obtain ⟨skipped, middle, next, first, readsSkipped, admittedSkipped, boundary, later⟩ :=
        skip_ok _ _ _ _ _ looped (by omega) (not_lt.mp reached) positive
      obtain ⟨taken, remaining, after, rfl, readsTaken, admittedTaken, ends, collected⟩ := collect_ok _ _ _ _ _ _ later le_rfl positive
      have split := List.take_append_drop treeManifestMagic.length file.bytes
      rw [not_not.mp magic, first] at split
      have place : itemsEnd (skipped ++ taken) = offset := by
        simp [itemsEnd, itemBytes, ends, ← boundary, Nat.add_assoc]
      have whole : file.bytes.length = offset + remaining.length := by
        rw [← split, ← place]
        simp [itemsEnd, itemBytes, Nat.add_assoc]
      refine ⟨skipped, taken, remaining, ⟨?_, ?_, after, ?_⟩, ?_, ?_⟩
      · rw [← split]
        simp [itemBytes]
      · exact List.forall_mem_append.mpr ⟨readsSkipped, readsTaken⟩
      · rw [itemEntries, List.map_append, admitAll, List.foldlM_append]
        exact bind_eq_ok admittedSkipped admittedTaken
      · rw [asked, ← boundary]
        rfl
      · rw [place]
        split at walked
        · split at walked
          · cases walked
          · rename_i cursorText formatted
            cases walked
            exact ⟨collected, .inr ⟨cursorText, formatted, rfl⟩⟩
        · rename_i noMore
          cases walked
          exact ⟨collected, .inl ⟨List.length_eq_zero_iff.mp (by omega), rfl⟩⟩

theorem walk_tree_page {before after : List Item} (reads : ReadTo codec file (before ++ after) [])
    (asked : requestedOffset root cursor = some (itemsEnd before)) (positive : 0 < pageSize)
    (bounded : pageSize ≤ maxWalkPageSize) :
    ∃ next, walkTree codec pageSize root file cursor = .ok ⟨itemEntries (after.take pageSize), next⟩ ∧
      (after.drop pageSize = [] → next = none) ∧
      (after.drop pageSize ≠ [] →
        ∃ text, next = some text ∧ requestedOffset root (some text) = some (itemsEnd (before ++ after.take pageSize))) := by
  obtain ⟨last, admitted⟩ := reads.admitted
  rw [itemEntries, List.map_append, admitAll, List.foldlM_append] at admitted
  obtain ⟨middle, admittedBefore, admittedAfter⟩ := bind_ok admitted
  have readsBefore : ∀ item ∈ before, ReadsAs codec item := fun item member => reads.reads item (List.mem_append_left _ member)
  have readsAfter : ∀ item ∈ after, ReadsAs codec item := fun item member => reads.reads item (List.mem_append_right _ member)
  have bytes : file.bytes = treeManifestMagic ++ (itemBytes before ++ itemBytes after) := by
    rw [reads.bytes]
    simp [itemBytes]
  have length : file.bytes.length = itemsEnd before + (itemBytes after).length := by
    rw [bytes]
    simp [itemsEnd, Nat.add_assoc]
  have place : itemsEnd (before ++ after.take pageSize) = itemsEnd before + (itemBytes (after.take pageSize)).length := by
    simp [itemsEnd, itemBytes, Nat.add_assoc]
  have cut : (itemBytes after).length = (itemBytes (after.take pageSize)).length + (itemBytes (after.drop pageSize)).length := by
    rw [← List.length_append, itemBytes, ← frames_append, ← List.map_append, List.take_append_drop]
  have looped : walkLoop codec (itemsEnd before) pageSize (file.bytes.drop treeManifestMagic.length)
      treeManifestMagic.length .start [] = .ok (itemsEnd (before ++ after.take pageSize), itemEntries (after.take pageSize)) := by
    rw [bytes]
    refine (skip_items before _ readsBefore _ _ middle admittedBefore rfl positive).trans ?_
    rw [collect_items after readsAfter _ _ last admittedAfter [] le_rfl positive, place]
    rfl
  have starts : file.bytes.take treeManifestMagic.length = treeManifestMagic := by rw [bytes, List.take_left]
  have inside : ¬ (itemsEnd before < treeManifestMagic.length ∨ file.bytes.length < itemsEnd before) := by
    rw [length, itemsEnd]
    omega
  have ahead : ¬ itemsEnd (before ++ after.take pageSize) < itemsEnd before := by
    omega
  have sized : ¬ (pageSize = 0 ∨ maxWalkPageSize < pageSize) := by omega
  by_cases done : after.drop pageSize = []
  · refine ⟨none, ?_, fun _ => rfl, fun more => absurd done more⟩
    have end_ : ¬ itemsEnd (before ++ after.take pageSize) < file.bytes.length := by
      rw [place, length, cut, done]
      simp [itemBytes]
    simp only [walkTree, if_neg sized, asked, if_neg inside, if_neg (not_not.mpr starts), looped, if_neg ahead, if_neg end_]
  · have more : itemsEnd (before ++ after.take pageSize) < file.bytes.length := by
      obtain ⟨item, items, isMore⟩ := List.exists_cons_of_ne_nil done
      rw [place, length, cut, isMore]
      simp [itemBytes]
    obtain ⟨text, formatted⟩ := tree_cursor_some (more.le.trans file.sized)
    refine ⟨some text, ?_, fun none => absurd none done, fun _ => ⟨text, rfl, requested_of_cursor _ _ _ formatted⟩⟩
    simp only [walkTree, if_neg sized, asked, if_neg inside, if_neg (not_not.mpr starts), looped, if_neg ahead, if_pos more, formatted]

end Pages

abbrev PageSize := { size : Nat // 0 < size ∧ size ≤ maxWalkPageSize }

section Traversal

variable (codec : EntryCodec) (root : JsString) (file : ManifestFile)

/-- The entries of all pages, each of its own size; nothing when the sizes are used up before the last page. -/
def traverse : List PageSize → Option JsString → Except CasError (Option (List TreeEntry))
  | [], _ => .ok none
  | size :: sizes, cursor =>
    match walkTree codec size.1 root file cursor with
    | .error failed => .error failed
    | .ok page =>
      match page.nextCursor with
      | none => .ok (some page.entries)
      | some next => (traverse sizes (some next)).map fun rest => rest.map (page.entries ++ ·)

variable {codec root file}

theorem traverse_from {sizes : List PageSize} (cursor : Option JsString) (before after : List Item)
    (reads : ReadTo codec file (before ++ after) []) (asked : requestedOffset root cursor = some (itemsEnd before))
    (enough : after.length < sizes.length) : traverse codec root file sizes cursor = .ok (some (itemEntries after)) := by
  induction sizes generalizing cursor before after with
  | nil => exact absurd enough (Nat.not_lt_zero _)
  | cons size sizes ih =>
    obtain ⟨next, page, last, further⟩ := walk_tree_page reads asked size.2.1 size.2.2
    rw [traverse, page]
    by_cases done : after.drop size.1 = []
    · cases last done
      have whole := List.take_append_drop size.1 after
      rw [done, List.append_nil] at whole
      rw [whole]
    · obtain ⟨text, rfl, askedNext⟩ := further done
      have cut : (before ++ after.take size.1) ++ after.drop size.1 = before ++ after := by
        rw [List.append_assoc, List.take_append_drop]
      have fewer : (after.drop size.1).length < sizes.length := by
        have some_ := List.length_pos_iff.mpr done
        rw [List.length_drop] at some_ ⊢
        rw [List.length_cons] at enough
        omega
      have rest := ih (some text) (before ++ after.take size.1) (after.drop size.1) (cut ▸ reads) askedNext fewer
      dsimp only
      rw [rest]
      simp [Except.map, itemEntries]

theorem traverse_reads_all (sizes : List PageSize) (cursor : Option JsString) (entries : List TreeEntry)
    (traversed : traverse codec root file sizes cursor = .ok (some entries)) : ∃ items, ReadTo codec file items [] := by
  induction sizes generalizing cursor entries with
  | nil => cases traversed
  | cons size sizes ih =>
    rw [traverse] at traversed
    split at traversed
    · cases traversed
    · rename_i page walked
      split at traversed
      · rename_i lastPage
        obtain ⟨skipped, taken, remaining, reads, _, _, ⟨rfl, _⟩ | ⟨next, _, isNext⟩⟩ := walk_tree_ok walked
        · exact ⟨_, reads⟩
        · rw [lastPage] at isNext
          cases isNext
      · obtain ⟨rest, later, combined⟩ := map_ok traversed
        cases rest with
        | none => cases combined
        | some rest => exact ih _ rest later

theorem items_fit (items : List Item) (reads : ReadTo codec file items []) : items.length ≤ file.bytes.length := by
  rw [reads.bytes, List.length_append, List.append_nil]
  have least := length_le_frames (items.map Prod.fst)
  rw [List.length_map] at least
  exact least.trans (Nat.le_add_left _ _)

def Lists (codec : EntryCodec) (file : ManifestFile) (entries : List TreeEntry) : Prop :=
  ∃ items, file.bytes = treeManifestMagic ++ itemBytes items ∧ (∀ item ∈ items, ReadsAs codec item) ∧ itemEntries items = entries

theorem traverse_ok {sizes : List PageSize} (enough : file.bytes.length < sizes.length) {entries : List TreeEntry} :
    traverse codec root file sizes none = .ok (some entries) ↔ Lists codec file entries ∧ (entries = [] ∨ TreeOrdered entries) := by
  constructor
  · intro traversed
    obtain ⟨items, reads⟩ := traverse_reads_all sizes none entries traversed
    have whole : traverse codec root file sizes none = .ok (some (itemEntries items)) :=
      traverse_from none [] items reads rfl ((items_fit items reads).trans_lt enough)
    rw [whole] at traversed
    cases traversed
    exact ⟨⟨items, by rw [reads.bytes, List.append_nil], reads.reads, rfl⟩, (admit_all_ok (reads_as_valid reads.reads)).mp reads.admitted⟩
  · rintro ⟨⟨items, bytes, reads, rfl⟩, ordered⟩
    have readsAll : ReadTo codec file items [] := ⟨by rw [bytes, List.append_nil], reads, (admit_all_ok (reads_as_valid reads)).mpr ordered⟩
    exact traverse_from none [] items readsAll rfl ((items_fit items readsAll).trans_lt enough)

end Traversal

structure Write where
  target : List JsString
  content : EntryContent

structure Materialized where
  writes : List Write
  rootMode : Option Nat

/-- What the system answers to a write after the earlier ones. -/
abbrev Perform := List Write → Write → Option CasError

def materializeError (message : String) : CasError := ⟨"manifest-corrupt", "fatal", "materialize-tree", message⟩

def writeOf (entry : TreeEntry) : Write := ⟨entry.path.splitOn slash, entry.content⟩

-- A write that fails is kept among the writes: it was tried.
def materializeEntries (perform : Perform) : List TreeEntry → Materialized → Materialized × Option CasError
  | [], state => (state, none)
  | entry :: rest, state =>
    if entry.path = [] then
      if entry.content ≠ .directory then (state, some (materializeError "root tree entry is not a directory"))
      else materializeEntries perform rest { state with rootMode := some entry.mode }
    else
      let tried := { state with writes := state.writes ++ [writeOf entry] }
      match perform state.writes (writeOf entry) with
      | some failed => (tried, some failed)
      | none => materializeEntries perform rest tried

section Materialize

variable (perform : Perform) (codec : EntryCodec) (root : JsString) (file : ManifestFile)

def materializePages : Nat → Option JsString → Materialized → Materialized × Option CasError
  | 0, _, state => (state, none)
  | pages + 1, cursor, state =>
    match walkTree codec maxWalkPageSize root file cursor with
    | .error failed => (state, some failed)
    | .ok page =>
      match materializeEntries perform page.entries state with
      | (written, some failed) => (written, some failed)
      | (written, none) =>
        match page.nextCursor with
        | some next => materializePages pages (some next) written
        | none =>
          if written.rootMode = none then (written, some (materializeError "tree manifest omitted its root directory"))
          else (written, none)

/-- Every page but the last returns an entry, so there are no more pages than bytes. -/
def materializeTree : Materialized × Option CasError :=
  materializePages perform codec root file (file.bytes.length + 1) none ⟨[], none⟩

def NeverThroughLink (writes : List Write) : Prop :=
  writes.Pairwise fun earlier later => earlier.target <+: later.target → earlier.target ≠ later.target →
    earlier.content = .directory

def writesOf (entries : List TreeEntry) : List Write := (entries.filter fun entry => entry.path ≠ []).map writeOf

theorem tree_ordered_writes {entries : List TreeEntry} (valid : PathsValid entries) (ordered : entries = [] ∨ TreeOrdered entries) :
    NeverThroughLink (writesOf entries) := by
  rcases ordered with rfl | ordered
  · exact List.Pairwise.nil
  · rw [NeverThroughLink, writesOf, List.pairwise_map]
    have everyPair : ∀ earlier ∈ entries.filter fun entry => entry.path ≠ [], ∀ later ∈ entries.filter fun entry => entry.path ≠ [],
          (writeOf earlier).target <+: (writeOf later).target → (writeOf earlier).target ≠ (writeOf later).target →
            (writeOf earlier).content = .directory := by
      intro earlier isEarlier later isLater above proper
      obtain ⟨listedEarlier, filledEarlier⟩ := List.mem_filter.mp isEarlier
      obtain ⟨listedLater, filledLater⟩ := List.mem_filter.mp isLater
      have parts : ∀ entry : TreeEntry, entry.path ≠ [] → (writeOf entry).target = pathParts entry.path := fun entry filled =>
        (if_neg filled).symm
      rw [parts earlier (of_decide_eq_true filledEarlier), parts later (of_decide_eq_true filledLater)] at above proper
      exact ancestor_is_directory ordered valid listedLater listedEarlier above fun same =>
        proper (congrArg pathParts same)
    exact List.pairwise_of_forall_mem_list everyPair

theorem materialize_entries_writes {entries : List TreeEntry} (state : Materialized) :
    ∃ tried, (materializeEntries perform entries state).1.writes = state.writes ++ tried ∧ tried <+: writesOf entries ∧
      ((materializeEntries perform entries state).2 = none → tried = writesOf entries) := by
  induction entries generalizing state with
  | nil => exact ⟨[], (List.append_nil _).symm, List.prefix_rfl, fun _ => rfl⟩
  | cons entry rest ih =>
    rw [materializeEntries]
    by_cases isRoot : entry.path = []
    · have skipped : writesOf (entry :: rest) = writesOf rest := by simp [writesOf, isRoot]
      rw [if_pos isRoot, skipped]
      split
      · exact ⟨[], (List.append_nil _).symm, List.nil_prefix, nofun⟩
      · exact ih _
    · have added : writesOf (entry :: rest) = writeOf entry :: writesOf rest := by simp [writesOf, isRoot]
      rw [if_neg isRoot, added]
      split
      · exact ⟨[writeOf entry], rfl, List.cons_prefix_cons.mpr ⟨rfl, List.nil_prefix⟩, nofun⟩
      · obtain ⟨tried, writes, within, whole⟩ := ih { state with writes := state.writes ++ [writeOf entry] }
        refine ⟨writeOf entry :: tried, ?_, List.cons_prefix_cons.mpr ⟨rfl, within⟩, fun passed => by rw [whole passed]⟩
        rw [writes, List.append_assoc]
        rfl

theorem materialize_pages_safe (pages : Nat) (cursor : Option JsString) (before : List Item) (remaining : Bytes)
    (reads : ReadTo codec file before remaining) (asked : requestedOffset root cursor = some (itemsEnd before))
    (state : Materialized) (written : state.writes = writesOf (itemEntries before)) :
    NeverThroughLink (materializePages perform codec root file pages cursor state).1.writes := by
  have safe : ∀ items left, ReadTo codec file items left → NeverThroughLink (writesOf (itemEntries items)) := by
    intro items left readsItems
    have valid := reads_as_valid readsItems.reads
    exact tree_ordered_writes valid ((admit_all_ok valid).mp readsItems.admitted)
  induction pages generalizing cursor before remaining state with
  | zero =>
    rw [materializePages, written]
    exact safe _ _ reads
  | succ pages ih =>
    rw [materializePages]
    split
    · rw [written]
      exact safe _ _ reads
    · rename_i page walked
      obtain ⟨skipped, taken, left, readsPage, askedPage, entries, ending⟩ := walk_tree_ok walked
      -- The page has skipped what the pages before it returned.
      obtain rfl : before = skipped := by
        have readsSkipped : ∀ item ∈ skipped, ReadsAs codec item := fun item member =>
          readsPage.reads item (List.mem_append_left _ member)
        have sameEnd := (asked.symm.trans askedPage)
        rw [Option.some_inj, itemsEnd, itemsEnd, Nat.add_left_cancel_iff] at sameEnd
        have sameBytes := List.append_cancel_left (reads.bytes.symm.trans readsPage.bytes)
        rw [itemBytes, itemBytes, List.map_append, frames_append, List.append_assoc] at sameBytes
        exact same_payloads _ _ reads.reads readsSkipped (frames_append_inj _ _ _ _ (reads_as_fits reads.reads)
          (reads_as_fits readsSkipped) sameBytes sameEnd)
      obtain ⟨tried, writes, within, whole⟩ := materialize_entries_writes perform state
      have all : writesOf (itemEntries (before ++ taken)) = writesOf (itemEntries before) ++ writesOf page.entries := by
        rw [entries, itemEntries, List.map_append, writesOf, List.filter_append, List.map_append]
        rfl
      have safePage := safe _ _ readsPage
      rw [all] at safePage
      have safeTried : NeverThroughLink (state.writes ++ tried) := by
        rw [written]
        exact safePage.sublist ((List.prefix_append_right_inj _).mpr within).sublist
      rw [← writes] at safeTried
      split
      · rename_i after failed stopped
        rw [stopped] at safeTried
        exact safeTried
      · rename_i after passed
        rw [passed] at safeTried writes whole
        split
        · rename_i next isNext
          rcases ending with ⟨_, noNext⟩ | ⟨text, formatted, isText⟩
          · rw [noNext] at isNext
            cases isNext
          · rw [isNext] at isText
            cases isText
            refine ih (some next) (before ++ taken) left readsPage (requested_of_cursor _ _ _ formatted) after ?_
            rw [writes, whole rfl, written, all]
        · split
          · exact safeTried
          · exact safeTried

theorem materialize_tree_safe : NeverThroughLink (materializeTree perform codec root file).1.writes := by
  by_cases starts : treeManifestMagic <+: file.bytes
  · obtain ⟨rest, bytes⟩ := starts
    exact materialize_pages_safe perform codec root file _ none [] rest ⟨bytes.symm, nofun, _, rfl⟩ rfl _ rfl
  · rw [materializeTree, materializePages]
    split
    · exact List.Pairwise.nil
    · rename_i page walked
      obtain ⟨skipped, taken, remaining, reads, _⟩ := walk_tree_ok walked
      exact absurd ⟨_, reads.bytes.symm⟩ starts

end Materialize

section Exact

variable (codec : EntryCodec) (root : JsString) (file : ManifestFile)

/-- Reading all pages succeeds exactly on manifests in tree order, and then gives the entries; above an entry there are
only directories, and no write goes through a link. -/
structure TopologyExact : Prop where
  succeeds : ∀ sizes : List PageSize, file.bytes.length < sizes.length → ∀ entries,
    traverse codec root file sizes none = .ok (some entries) ↔ Lists codec file entries ∧ TreeOrdered entries
  ancestors : ∀ entries, Lists codec file entries → TreeOrdered entries → ∀ entry ∈ entries, ∀ other ∈ entries,
    pathParts other.path <+: pathParts entry.path → other.path ≠ entry.path → other.content = .directory
  writes : ∀ perform, NeverThroughLink (materializeTree perform codec root file).1.writes

theorem lists_nil_iff : Lists codec file [] ↔ file.bytes = treeManifestMagic := by
  constructor
  · rintro ⟨items, bytes, _, none⟩
    rw [bytes, List.map_eq_nil_iff.mp none]
    rfl
  · intro bytes
    exact ⟨[], bytes, nofun, rfl⟩

theorem tree_ordered_filled {entries : List TreeEntry} (ordered : TreeOrdered entries) : entries ≠ [] := by
  obtain ⟨first, rest, rfl, _⟩ := ordered.root
  exact List.cons_ne_nil _ _

theorem topology_exact_iff : TopologyExact codec root file ↔ file.bytes ≠ treeManifestMagic := by
  constructor
  · intro exact_ isMagic
    have sizes : file.bytes.length < (List.replicate (file.bytes.length + 1) (⟨1, by decide⟩ : PageSize)).length := by simp
    have ordered := (exact_.succeeds _ sizes []).mp ((traverse_ok sizes).mpr ⟨(lists_nil_iff codec file).mpr isMagic, .inl rfl⟩)
    exact tree_ordered_filled ordered.2 rfl
  · intro filled
    refine ⟨fun sizes enough entries => ?_, ?_, fun perform => materialize_tree_safe perform codec root file⟩
    · rw [traverse_ok enough]
      constructor
      · rintro ⟨lists, rfl | ordered⟩
        · exact absurd ((lists_nil_iff codec file).mp lists) filled
        · exact ⟨lists, ordered⟩
      · exact fun ⟨lists, ordered⟩ => ⟨lists, .inr ordered⟩
    · rintro entries ⟨items, _, reads, rfl⟩ ordered entry member other listed above proper
      exact ancestor_is_directory ordered (reads_as_valid reads) member listed above proper

end Exact

def bareManifest : ManifestFile := ⟨treeManifestMagic, by decide⟩

/-- A manifest without any entry is read to its end, although it has no root directory. -/
theorem bare_magic_accepted : traverse (fun _ => .error "") [] bareManifest [⟨1, by decide⟩] none = .ok (some []) ∧ ¬ TreeOrdered [] := by
  refine ⟨?_, fun ordered => tree_ordered_filled ordered rfl⟩
  have page : walkTree (fun _ => .error "") 1 [] bareManifest none = .ok ⟨[], none⟩ := by
    simp [walkTree, requestedOffset, bareManifest, walkLoop, maxWalkPageSize]
  rw [traverse, page]

end PiAutopilot.Storage
