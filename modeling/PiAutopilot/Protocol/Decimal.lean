import PiAutopilot.Protocol.Print

set_option autoImplicit false

namespace PiAutopilot.Protocol

structure DecimalNatural where
  text : JsString
  valid : textMatchesFormat text .decimalNatural = true
  deriving DecidableEq

def decimalNatural (text : JsString) : Option DecimalNatural :=
  if valid : textMatchesFormat text .decimalNatural = true then some ⟨text, valid⟩ else none

variable (natural : DecimalNatural)

def DecimalNatural.value : Nat := decimalValue natural.text

inductive DecimalOrder where
  | less
  | equal
  | greater
  deriving DecidableEq, Repr

variable (left right : DecimalNatural)

def compareDecimalNatural : DecimalOrder :=
  if left.text.length < right.text.length then .less
  else if left.text.length > right.text.length then .greater
  else if left.text < right.text then .less
  else if left.text > right.text then .greater
  else .equal

-- The digit loops run from the right, so they are recursions over the reversed text.
def carryOne : JsString → JsString
  | [] => [49]
  | digit :: rest =>
    if digit.toNat - 48 = 9 then 48 :: carryOne rest else digitUnit (digit.toNat - 48 + 1) :: rest

def incrementDecimalNatural (value : DecimalNatural) : DecimalNatural :=
  (decimalNatural (carryOne value.text.reverse).reverse).getD value

def borrowOne : JsString → JsString
  | [] => []
  | digit :: rest =>
    if digit.toNat - 48 = 0 then 57 :: borrowOne rest else digitUnit (digit.toNat - 48 - 1) :: rest

def dropLeadingZeros : JsString → JsString
  | [] => []
  | [digit] => [digit]
  | digit :: following :: rest =>
    if digit = 48 then dropLeadingZeros (following :: rest) else digit :: following :: rest

def loweredByOne (value : DecimalNatural) : Option DecimalNatural :=
  decimalNatural (dropLeadingZeros (borrowOne value.text.reverse).reverse)

def decrementDecimalNatural (value : DecimalNatural) : Option DecimalNatural :=
  if value.text = js "0" then none else loweredByOne value

def addCarry (carry : Nat) : JsString → JsString
  | [] => if carry > 0 then [digitUnit (carry % 10)] else []
  | digit :: rest =>
    let sum := digit.toNat - 48 + carry
    digitUnit (sum % 10) :: addCarry (sum / 10) rest

def addReversed (carry : Nat) : JsString → JsString → JsString
  | [], right => addCarry carry right
  | left :: leftRest, [] => addCarry carry (left :: leftRest)
  | left :: leftRest, right :: rightRest =>
    let sum := left.toNat - 48 + (right.toNat - 48) + carry
    digitUnit (sum % 10) :: addReversed (sum / 10) leftRest rightRest

def addDecimalNatural : DecimalNatural := (decimalNatural (addReversed 0 left.text.reverse right.text.reverse).reverse).getD left

variable (value : Nat)

-- The digits of a number from the right, none for zero.
def lowDigits : JsString := (Nat.digits 10 value).map digitUnit

theorem low_digits_zero : lowDigits 0 = [] := rfl

theorem low_digits_pos (positive : 0 < value) : lowDigits value = digitUnit (value % 10) :: lowDigits (value / 10) := by
  rw [lowDigits, Nat.digits_def' (by omega) positive]
  rfl

theorem natural_text_reverse : (naturalText value).reverse = digitUnit (value % 10) :: lowDigits (value / 10) := by
  by_cases zero : value = 0
  · subst zero
    rfl
  · rw [← low_digits_pos value (by omega), naturalText, if_neg zero, ← List.map_reverse, List.reverse_reverse]
    rfl

theorem digit_unit_minus {digit : Nat} (small : digit < 10) : (digitUnit digit).toNat - 48 = digit := by
  have value := (digit_unit_value small).1
  omega

theorem digits_well_formed {text : JsString} (isDigits : IsDigits text) : isWellFormedUnicode text = true := by
  rw [is_well_formed_unicode_iff]
  left
  induction text with
  | nil => exact .nil
  | cons unit rest ih =>
    have digit := isDigits unit (by simp)
    simp only [isDigitUnit, isDigitCode, Bool.and_eq_true, decide_eq_true_eq] at digit
    refine .scalar unit rest ?_ ?_ (ih fun unit member => isDigits unit (List.mem_cons_of_mem _ member))
    · simp only [isHighSurrogate, Bool.and_eq_false_iff, decide_eq_false_iff_not]
      omega
    · simp only [isLowSurrogate, Bool.and_eq_false_iff, decide_eq_false_iff_not]
      omega

theorem natural_text_valid : textMatchesFormat (naturalText value) .decimalNatural = true := by
  have wellFormed := digits_well_formed (natural_text_digits value).1
  simp only [textMatchesFormat, wellFormed, Bool.not_true, Bool.false_eq_true, if_false]
  rcases natural_text_head with zero | ⟨first, rest, text, low, high, isDigits⟩
  · rw [zero]
    decide
  · rw [text, isDecimalNatural]
    split
    · rfl
    · have inRange : (first.toNat < 49 || first.toNat > 57) = false := by
        simp only [Bool.or_eq_false_iff, decide_eq_false_iff_not]
        omega
      simp only [inRange]
      exact List.all_eq_true.mpr isDigits

theorem decimal_natural_text : decimalNatural (naturalText value) = some ⟨naturalText value, natural_text_valid value⟩ := by
  rw [decimalNatural, dif_pos (natural_text_valid value)]

def DecimalNatural.ofNat : DecimalNatural := ⟨naturalText value, natural_text_valid value⟩

theorem digit_unit_code {unit : UInt16} (digit : isDigitUnit unit = true) : digitUnit (unit.toNat - 48) = unit ∧ unit.toNat - 48 < 10 := by
  simp only [isDigitUnit, isDigitCode, Bool.and_eq_true, decide_eq_true_eq] at digit
  have small : unit.toNat - 48 < 10 := by omega
  refine ⟨UInt16.toNat_inj.mp ?_, small⟩
  rw [(digit_unit_value small).1]
  omega

theorem natural_text_of_digits {first : UInt16} {rest : JsString} (low : 49 ≤ first.toNat) (high : first.toNat ≤ 57)
    (isDigits : IsDigits rest) : naturalText (decimalValue (first :: rest)) = first :: rest := by
  have all : IsDigits (first :: rest) := by
    refine List.forall_mem_cons.mpr ⟨?_, isDigits⟩
    simp only [isDigitUnit, isDigitCode, Bool.and_eq_true, decide_eq_true_eq]
    omega
  let digits : List Nat := ((first :: rest).map fun unit => unit.toNat - 48).reverse
  have spelled : digits.reverse.map digitUnit = first :: rest := by
    rw [List.reverse_reverse, List.map_map]
    have same : (first :: rest).map (digitUnit ∘ fun unit => unit.toNat - 48) = (first :: rest).map id :=
      List.map_congr_left fun unit member => (digit_unit_code (all unit member)).1
    rw [same, List.map_id]
  have small : ∀ digit ∈ digits, digit < 10 := by
    intro digit member
    obtain ⟨unit, unitIn, rfl⟩ := List.mem_map.mp (List.mem_reverse.mp member)
    exact (digit_unit_code (all unit unitIn)).2
  have lead : ∀ nonempty : digits ≠ [], digits.getLast nonempty ≠ 0 := by
    simp only [digits, List.map_cons, List.reverse_cons, List.getLast_append_singleton]
    omega
  have value : decimalValue (first :: rest) = Nat.ofDigits 10 digits := by
    rw [← spelled, decimal_value_digits small]
  have canonical : Nat.digits 10 (decimalValue (first :: rest)) = digits := by
    rw [value, Nat.digits_ofDigits 10 (by omega) digits small lead]
  have positive : decimalValue (first :: rest) ≠ 0 := by
    intro zero
    rw [zero] at canonical
    simp [digits] at canonical
  rw [naturalText, if_neg positive, canonical, spelled]

theorem decimal_text : natural.text = naturalText natural.value := by
  obtain ⟨text, valid⟩ := natural
  simp only [textMatchesFormat] at valid
  by_cases zero : text = js "0"
  · subst zero
    exact (by decide : js "0" = naturalText (decimalValue (js "0")))
  · cases text with
    | nil =>
      exact absurd valid (by decide)
    | cons first rest =>
      have accepted : isDecimalNatural (first :: rest) = true := by
        by_contra rejected
        simp [rejected] at valid
      have notZero : (first :: rest == js "0") = false := by simpa using zero
      simp only [isDecimalNatural, notZero, Bool.false_eq_true, if_false] at accepted
      by_cases outside : (first.toNat < 49 || first.toNat > 57) = true
      · simp [outside] at accepted
      · simp only [outside, if_false, Bool.false_eq_true] at accepted
        simp only [Bool.or_eq_true, decide_eq_true_eq, not_or, not_lt] at outside
        exact (natural_text_of_digits outside.1 outside.2 (List.all_eq_true.mp accepted)).symm

@[simp] theorem value_of_nat : (DecimalNatural.ofNat value).value = value := (natural_text_digits value).2.1

@[simp] theorem of_nat_value : DecimalNatural.ofNat natural.value = natural := by
  obtain ⟨text, valid⟩ := natural
  simp only [DecimalNatural.ofNat, DecimalNatural.mk.injEq]
  exact (decimal_text ⟨text, valid⟩).symm

theorem decimal_value_injective (same : left.value = right.value) : left = right := by
  rw [← of_nat_value left, same, of_nat_value]

theorem carry_one_low_digits : carryOne (lowDigits value) = lowDigits (value + 1) := by
  induction value using Nat.strongRecOn with
  | ind value ih =>
    by_cases zero : value = 0
    · subst zero
      rfl
    · rw [low_digits_pos value (by omega), carryOne, digit_unit_minus (Nat.mod_lt _ (by omega)), low_digits_pos (value + 1) (by omega)]
      by_cases nine : value % 10 = 9
      · rw [if_pos nine, ih (value / 10) (by omega)]
        have units : (value + 1) % 10 = 0 := by omega
        have tens : (value + 1) / 10 = value / 10 + 1 := by omega
        rw [units, tens]
        rfl
      · rw [if_neg nine]
        have units : (value + 1) % 10 = value % 10 + 1 := by omega
        have tens : (value + 1) / 10 = value / 10 := by omega
        rw [units, tens]

theorem carried_decodes : decimalNatural (carryOne natural.text.reverse).reverse = some (DecimalNatural.ofNat (natural.value + 1)) := by
  have carried : carryOne natural.text.reverse = (naturalText (natural.value + 1)).reverse := by
    rw [decimal_text natural, natural_text_reverse, natural_text_reverse, carryOne,
      digit_unit_minus (Nat.mod_lt _ (by omega)), carry_one_low_digits]
    by_cases nine : natural.value % 10 = 9
    · rw [if_pos nine]
      have units : (natural.value + 1) % 10 = 0 := by omega
      have tens : (natural.value + 1) / 10 = natural.value / 10 + 1 := by omega
      rw [units, tens]
      rfl
    · rw [if_neg nine]
      have units : (natural.value + 1) % 10 = natural.value % 10 + 1 := by omega
      have tens : (natural.value + 1) / 10 = natural.value / 10 := by omega
      rw [units, tens]
  rw [carried, List.reverse_reverse, decimal_natural_text]
  rfl

theorem increment_of_nat : incrementDecimalNatural natural = .ofNat (natural.value + 1) := by
  rw [incrementDecimalNatural, carried_decodes]
  rfl

theorem increment_value : (incrementDecimalNatural natural).value = natural.value + 1 := by
  rw [increment_of_nat, value_of_nat]

theorem borrow_one_low_digits (positive : 0 < value) :
    ∃ zeros, borrowOne (lowDigits value) = lowDigits (value - 1) ++ List.replicate zeros 48 ∧ (value = 1 → 0 < zeros) := by
  induction value using Nat.strongRecOn with
  | ind value ih =>
    rw [low_digits_pos value positive, borrowOne, digit_unit_minus (Nat.mod_lt _ (by omega))]
    by_cases zero : value % 10 = 0
    · obtain ⟨zeros, borrowed, _⟩ := ih (value / 10) (by omega) (by omega)
      refine ⟨zeros, ?_, by omega⟩
      have units : (value - 1) % 10 = 9 := by omega
      have tens : (value - 1) / 10 = value / 10 - 1 := by omega
      rw [if_pos zero, borrowed, low_digits_pos (value - 1) (by omega), units, tens]
      rfl
    · rw [if_neg zero]
      by_cases one : value = 1
      · subst one
        exact ⟨1, rfl, by omega⟩
      · refine ⟨0, ?_, by omega⟩
        have units : (value - 1) % 10 = value % 10 - 1 := by omega
        have tens : (value - 1) / 10 = value / 10 := by omega
        rw [low_digits_pos (value - 1) (by omega), units, tens, List.replicate_zero, List.append_nil]

theorem drop_leading_zeros_natural (value : Nat) {zeros : Nat} :
    dropLeadingZeros (List.replicate zeros 48 ++ naturalText value) = naturalText value := by
  induction zeros with
  | zero =>
    rw [List.replicate_zero, List.nil_append]
    rcases natural_text_head with zero | ⟨first, rest, text, low, _, _⟩
    · rw [zero]
      rfl
    · rw [text]
      have notZero : first ≠ 48 := by
        rintro rfl
        exact absurd low (by decide)
      cases rest with
      | nil => rfl
      | cons following others => rw [dropLeadingZeros, if_neg notZero]
  | succ zeros ih =>
    rw [List.replicate_succ, List.cons_append]
    cases remaining : List.replicate zeros 48 ++ naturalText value with
    | nil =>
      have nonempty := (natural_text_digits value).2.2
      exact absurd (List.append_eq_nil_iff.mp remaining).2 nonempty
    | cons following others =>
      rw [dropLeadingZeros, if_pos rfl, ← remaining, ih]

theorem low_digits_reverse (positive : 0 < value) : (lowDigits value).reverse = naturalText value := by
  rw [← List.reverse_reverse (naturalText value), natural_text_reverse, ← low_digits_pos value positive]

theorem lowered_by_one_value (positive : 0 < natural.value) : loweredByOne natural = some (DecimalNatural.ofNat (natural.value - 1)) := by
  have digits : natural.text.reverse = lowDigits natural.value := by
    rw [decimal_text natural, natural_text_reverse, ← low_digits_pos natural.value positive]
  obtain ⟨zeros, borrowed, one⟩ := borrow_one_low_digits natural.value positive
  have stripped : dropLeadingZeros (borrowOne natural.text.reverse).reverse = naturalText (natural.value - 1) := by
    rw [digits, borrowed, List.reverse_append, List.reverse_replicate]
    by_cases zero : natural.value - 1 = 0
    · obtain ⟨fewer, rfl⟩ : ∃ fewer, zeros = fewer + 1 := ⟨zeros - 1, by have := one (by omega); omega⟩
      rw [zero, low_digits_zero, List.reverse_nil, List.append_nil, List.replicate_succ']
      exact drop_leading_zeros_natural 0
    · rw [low_digits_reverse _ (by omega)]
      exact drop_leading_zeros_natural _
  rw [loweredByOne, stripped, decimal_natural_text]
  rfl

theorem text_zero_iff : natural.text = js "0" ↔ natural.value = 0 := by
  constructor
  · intro zero
    rw [DecimalNatural.value, zero]
    rfl
  · intro zero
    rw [decimal_text natural, zero]
    rfl

theorem decrement_value : decrementDecimalNatural natural =
      if natural.value = 0 then none else some (DecimalNatural.ofNat (natural.value - 1)) := by
  by_cases zero : natural.value = 0
  · rw [decrementDecimalNatural, if_pos ((text_zero_iff natural).mpr zero), if_pos zero]
  · rw [decrementDecimalNatural, if_neg fun text => zero ((text_zero_iff natural).mp text), if_neg zero,
      lowered_by_one_value natural (by omega)]

theorem add_carry_low_digits (value carry : Nat) (small : carry ≤ 1) : addCarry carry (lowDigits value) = lowDigits (value + carry) := by
  induction value using Nat.strongRecOn generalizing carry with
  | ind value ih =>
    by_cases zero : value = 0
    · subst zero
      rcases Nat.le_one_iff_eq_zero_or_eq_one.mp small with rfl | rfl
      · rfl
      · rfl
    · rw [low_digits_pos value (by omega), addCarry, digit_unit_minus (Nat.mod_lt _ (by omega)),
        ih (value / 10) (by omega) _ (by omega), low_digits_pos (value + carry) (by omega)]
      have units : (value % 10 + carry) % 10 = (value + carry) % 10 := by omega
      have tens : value / 10 + (value % 10 + carry) / 10 = (value + carry) / 10 := by omega
      rw [units, tens]

theorem add_reversed_low_digits (left right carry : Nat) (small : carry ≤ 1) :
    addReversed carry (lowDigits left) (lowDigits right) = lowDigits (left + right + carry) := by
  induction left using Nat.strongRecOn generalizing right carry with
  | ind left ih =>
    by_cases leftZero : left = 0
    · subst leftZero
      rw [low_digits_zero, addReversed, add_carry_low_digits right carry small, Nat.zero_add]
    by_cases rightZero : right = 0
    · subst rightZero
      rw [low_digits_zero, low_digits_pos left (by omega), addReversed, ← low_digits_pos left (by omega),
        add_carry_low_digits left carry small, Nat.add_zero]
    · rw [low_digits_pos left (by omega), low_digits_pos right (by omega), addReversed,
        digit_unit_minus (Nat.mod_lt _ (by omega)), digit_unit_minus (Nat.mod_lt _ (by omega)),
        ih (left / 10) (by omega) _ _ (by omega), low_digits_pos (left + right + carry) (by omega)]
      have units : (left % 10 + right % 10 + carry) % 10 = (left + right + carry) % 10 := by omega
      have tens : left / 10 + right / 10 + (left % 10 + right % 10 + carry) / 10 = (left + right + carry) / 10 := by omega
      rw [units, tens]

theorem added_decodes : decimalNatural (addReversed 0 left.text.reverse right.text.reverse).reverse =
    some (DecimalNatural.ofNat (left.value + right.value)) := by
  have added : addReversed 0 left.text.reverse right.text.reverse = (naturalText (left.value + right.value)).reverse := by
    rw [decimal_text left, decimal_text right, natural_text_reverse, natural_text_reverse, natural_text_reverse, addReversed,
      digit_unit_minus (Nat.mod_lt _ (by omega)), digit_unit_minus (Nat.mod_lt _ (by omega)),
      add_reversed_low_digits _ _ _ (by omega)]
    have units : (left.value % 10 + right.value % 10 + 0) % 10 = (left.value + right.value) % 10 := by omega
    have tens : left.value / 10 + right.value / 10 + (left.value % 10 + right.value % 10 + 0) / 10 =
        (left.value + right.value) / 10 := by omega
    rw [units, tens]
  rw [added, List.reverse_reverse, decimal_natural_text]
  rfl

theorem add_of_nat : addDecimalNatural left right = .ofNat (left.value + right.value) := by
  rw [addDecimalNatural, added_decodes]
  rfl

theorem add_value : (addDecimalNatural left right).value = left.value + right.value := by
  rw [add_of_nat, value_of_nat]

theorem decimal_value_cons (first : UInt16) (rest : JsString) :
    decimalValue (first :: rest) = (first.toNat - 48) * 10 ^ rest.length + decimalValue rest := by
  have general : ∀ start : Nat, rest.foldl (fun value unit => value * 10 + (unit.toNat - 48)) start =
      start * 10 ^ rest.length + decimalValue rest := by
    induction rest with
    | nil => simp [decimalValue]
    | cons unit rest ih =>
      intro start
      have value : decimalValue (unit :: rest) = (0 * 10 + (unit.toNat - 48)) * 10 ^ rest.length + decimalValue rest :=
        ih (0 * 10 + (unit.toNat - 48))
      rw [List.foldl_cons, ih, value, List.length_cons]
      ring
  rw [decimalValue, List.foldl_cons, general]
  simp

theorem decimal_value_bound {text : JsString} (isDigits : IsDigits text) : decimalValue text < 10 ^ text.length := by
  induction text with
  | nil => simp [decimalValue]
  | cons first rest ih =>
    have tail := ih fun unit member => isDigits unit (List.mem_cons_of_mem _ member)
    have digit : first.toNat - 48 ≤ 9 := by
      have := (digit_unit_code (isDigits first (by simp))).2
      omega
    have scaled := Nat.mul_le_mul_right (10 ^ rest.length) digit
    rw [decimal_value_cons, List.length_cons]
    omega

theorem decimal_text_digits : IsDigits natural.text := by
  rw [decimal_text natural]
  exact (natural_text_digits natural.value).1

theorem decimal_length_bound (long : 1 < natural.text.length) : 10 ^ (natural.text.length - 1) ≤ natural.value := by
  rw [decimal_text natural] at long ⊢
  rcases natural_text_head with zero | ⟨first, rest, text, low, _, _⟩
  · rw [zero] at long
    exact absurd long (by decide)
  · have value : natural.value = (first.toNat - 48) * 10 ^ rest.length + decimalValue rest := by
      rw [← decimal_value_cons, ← text, ← decimal_text natural]
      rfl
    have scaled := Nat.mul_le_mul_right (10 ^ rest.length) (show 1 ≤ first.toNat - 48 by omega)
    rw [text, List.length_cons, Nat.add_sub_cancel]
    omega

theorem same_length_lt_iff {left : JsString} (right : JsString) (leftDigits : IsDigits left) (rightDigits : IsDigits right)
    (sameLength : left.length = right.length) : left < right ↔ decimalValue left < decimalValue right := by
  induction left generalizing right with
  | nil =>
    obtain rfl : right = [] := List.length_eq_zero_iff.mp sameLength.symm
    simp
  | cons first rest ih =>
    cases right with
    | nil => cases sameLength
    | cons other others =>
      have restLength : rest.length = others.length := Nat.succ.inj sameLength
      have restDigits : IsDigits rest := fun unit member => leftDigits unit (List.mem_cons_of_mem _ member)
      have othersDigits : IsDigits others := fun unit member => rightDigits unit (List.mem_cons_of_mem _ member)
      have restBound := decimal_value_bound restDigits
      have othersBound := decimal_value_bound othersDigits
      have firstCode := leftDigits first (by simp)
      have otherCode := rightDigits other (by simp)
      simp only [isDigitUnit, isDigitCode, Bool.and_eq_true, decide_eq_true_eq] at firstCode otherCode
      rw [List.cons_lt_cons_iff, ih others restDigits othersDigits restLength, decimal_value_cons, decimal_value_cons,
        restLength, UInt16.lt_iff_toNat_lt, ← UInt16.toNat_inj]
      rw [restLength] at restBound
      rcases Nat.lt_trichotomy first.toNat other.toNat with less | same | greater
      · have scaled := Nat.mul_le_mul_right (10 ^ others.length) (show first.toNat - 48 + 1 ≤ other.toNat - 48 by omega)
        rw [Nat.add_mul] at scaled
        omega
      · rw [same]
        omega
      · have scaled := Nat.mul_le_mul_right (10 ^ others.length) (show other.toNat - 48 + 1 ≤ first.toNat - 48 by omega)
        rw [Nat.add_mul] at scaled
        omega

theorem shorter_is_less (shorter : left.text.length < right.text.length) : left.value < right.value := by
  have leftBound := decimal_value_bound (decimal_text_digits left)
  have leftLength : 0 < left.text.length := by
    rw [decimal_text left]
    exact List.length_pos_iff.mpr (natural_text_digits left.value).2.2
  have rightBound := decimal_length_bound right (by omega)
  have widths : 10 ^ left.text.length ≤ 10 ^ (right.text.length - 1) := Nat.pow_le_pow_right (by omega) (by omega)
  exact Nat.lt_of_lt_of_le (Nat.lt_of_lt_of_le leftBound widths) rightBound

theorem compare_decimal_natural : compareDecimalNatural left right =
      if left.value < right.value then .less else if left.value = right.value then .equal else .greater := by
  rcases Nat.lt_trichotomy left.text.length right.text.length with shorter | sameLength | longer
  · have less := shorter_is_less left right shorter
    rw [compareDecimalNatural, if_pos shorter, if_pos less]
  · have leftRight : left.text < right.text ↔ left.value < right.value :=
      same_length_lt_iff right.text (decimal_text_digits left) (decimal_text_digits right) sameLength
    have rightLeft : right.text < left.text ↔ right.value < left.value :=
      same_length_lt_iff left.text (decimal_text_digits right) (decimal_text_digits left) sameLength.symm
    rw [compareDecimalNatural, if_neg (by omega), if_neg (by omega)]
    simp only [GT.gt, leftRight, rightLeft]
    rcases Nat.lt_trichotomy left.value right.value with less | same | greater
    · rw [if_pos less, if_pos less]
    · rw [if_neg (by omega), if_neg (by omega), if_neg (by omega), if_pos same]
    · rw [if_neg (by omega), if_pos greater, if_neg (by omega), if_neg (by omega)]
  · have greater := shorter_is_less right left longer
    rw [compareDecimalNatural, if_neg (by omega), if_pos longer, if_neg (by omega), if_neg (by omega)]

end PiAutopilot.Protocol
