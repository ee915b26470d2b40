import PiAutopilot.Receipts.Completion

set_option autoImplicit false

/-! # Consuming one receipt -/

namespace PiAutopilot.Receipts

open EventLog Lib Delivery

section Consume

variable [ReceiptJson] (host : ReceiptHost) {receipt : SubmitReceipt} {rows : Rows}

omit [ReceiptJson] in
theorem exactly_consumed_none (lacks duplicate drift : String) (expected : List Ref)
    (absent : consumedRef receipt ∉ carried rows) : exactlyConsumed lacks duplicate drift rows receipt expected = .ok false := by
  have none : rows.filter (consumesRow receipt) = [] := by
    rw [List.filter_eq_nil_iff]
    intro row member consumes
    rw [consumesRow, Bool.and_eq_true, decide_eq_true_iff] at consumes
    exact absent (List.mem_flatMap.mpr ⟨row, member, consumes.2⟩)
  rw [exactlyConsumed, none]
  rw [if_neg]
  rw [has_exact_ref]
  exact absent

omit [ReceiptJson] in
theorem is_consumed_none (family : Option Family) (expected : List Ref)
    (absent : consumedRef receipt ∉ carried rows) : isConsumed family rows receipt expected = .ok false := by
  have none := fun lacks duplicate drift => exactly_consumed_none lacks duplicate drift expected absent
  rcases family with _ | family
  · have missing : hasExactRef rows (consumedRef receipt).text = false := by
      rw [Bool.eq_false_iff, Ne, has_exact_ref]
      exact absent
    rw [isConsumed, missing]
  · cases family with
    | planning => exact bind_eq_ok (none _ _ _) rfl
    | delivery => exact none _ _ _
    | validation => exact none _ _ _

structure Found (files : ReceiptFiles) (binding : ReceiptBinding) (rows : Rows) (path : String) (receipt : SubmitReceipt)
    (event : SubmitReceiptEventRef) (transition : Option (Family × SealedTransition)) (consumed : Bool) : Prop where
  located : submitReceiptPath host binding = .ok path
  file : files path = some receipt
  identity : completionIdentity host binding receipt = true
  sealed_ : sealedOf host binding receipt = .ok transition
  rooted : verifyRootedSubmitReceipt host rows receipt = .ok event
  continues : host.continuation receipt binding = .ok ()
  asked : isConsumed (familyOf binding.resultContract) rows receipt
    (consumptionRefs host binding receipt event transition) = .ok consumed

theorem consume_ok {files : ReceiptFiles} {binding : ReceiptBinding} {appended : Rows} :
    consume host files binding rows = .ok (receipt, appended) ↔ ∃ path event transition consumed,
      Found host files binding rows path receipt event transition consumed ∧
        appended = if consumed then [] else [⟨consumedKind, consumptionRefs host binding receipt event transition⟩] := by
  constructor
  · intro ran
    obtain ⟨path, isPath, ran⟩ := bind_ok ran
    obtain ⟨read, isRead, ran⟩ := bind_ok ran
    obtain ⟨_, passed, ran⟩ := bind_ok ran
    obtain ⟨transition, isSealed, ran⟩ := bind_ok ran
    obtain ⟨event, isRooted, ran⟩ := bind_ok ran
    obtain ⟨_, continues, ran⟩ := bind_ok ran
    obtain ⟨consumed, asked, returned⟩ := bind_ok ran
    have file : files path = some read := by
      rw [fileAt] at isRead
      split at isRead
      · cases isRead
      · rename_i other isOther
        rw [isOther, Except.ok.inj isRead]
    have identity : completionIdentity host binding read = true := by
      by_contra failed
      rw [refuseIf, if_pos (by simpa using failed)] at passed
      cases passed
    cases returned
    exact ⟨path, event, transition, consumed, ⟨isPath, file, identity, isSealed, isRooted, continues, asked⟩, rfl⟩
  · rintro ⟨path, event, transition, consumed, found, rfl⟩
    have read : fileAt files path = .ok receipt := by rw [fileAt, found.file]
    have passed : refuseIf (!completionIdentity host binding receipt) "receipt identity/transition mismatch" = .ok () := by
      rw [found.identity]
      rfl
    exact bind_eq_ok found.located (bind_eq_ok read (bind_eq_ok passed (bind_eq_ok found.sealed_ (bind_eq_ok found.rooted
      (bind_eq_ok found.continues (bind_eq_ok found.asked rfl))))))

end Consume

end PiAutopilot.Receipts
