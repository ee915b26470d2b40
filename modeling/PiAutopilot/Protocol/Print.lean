import PiAutopilot.Lib.KeySort
import PiAutopilot.Lib.Assoc
import PiAutopilot.Protocol.Text

set_option autoImplicit false

namespace PiAutopilot.Protocol

open Lib

-- `Array.prototype.sort` without a comparator orders strings by code unit.
instance : LinearOrder JsString where
  le_refl := List.le_refl
  le_trans _ _ _ := List.le_trans
  le_antisymm _ _ := List.le_antisymm
  le_total := List.le_total
  lt_iff_le_not_ge left right :=
    ⟨fun less => ⟨List.le_of_lt less, List.not_le.mpr less⟩, fun strict => List.not_le.mp strict.2⟩
  toDecidableLE := inferInstance
  toDecidableLT := inferInstance
  toDecidableEq := inferInstance
  compare left right := compareOfLessAndEq left right
  compare_eq_compareOfLessAndEq _ _ := rfl

def digitUnit (digit : Nat) : UInt16 := UInt16.ofNat (48 + digit)

def naturalText (value : Nat) : JsString :=
  if value = 0 then js "0" else (Nat.digits 10 value).reverse.map digitUnit

def hexUnit (digit : Nat) : UInt16 := UInt16.ofNat (if digit < 10 then 48 + digit else 87 + digit)

def isDigitUnit (unit : UInt16) : Bool := isDigitCode unit.toNat

-- `Number(text)` on decimal integers in the safe range is exact; `-0` is negative zero.
def decimalValue (digits : JsString) : Nat := digits.foldl (fun value unit => value * 10 + (unit.toNat - 48)) 0

def IsDigits (text : JsString) : Prop := ∀ unit ∈ text, isDigitUnit unit = true

theorem digit_unit_value {digit : Nat} (small : digit < 10) :
    (digitUnit digit).toNat = 48 + digit ∧ isDigitUnit (digitUnit digit) = true := by
  have every : ∀ digit < 10, (digitUnit digit).toNat = 48 + digit ∧ isDigitUnit (digitUnit digit) = true := by decide
  exact every digit small

theorem decimal_value_digits {digits : List Nat} (small : ∀ digit ∈ digits, digit < 10) :
    decimalValue (digits.reverse.map digitUnit) = Nat.ofDigits 10 digits := by
  induction digits with
  | nil => rfl
  | cons digit rest ih =>
    have tail := ih fun digit member => small digit (List.mem_cons_of_mem _ member)
    have value := (digit_unit_value (small digit (by simp))).1
    simp only [decimalValue, List.map_reverse, List.foldl_reverse] at tail ⊢
    rw [List.map_cons, List.foldr_cons, tail, Nat.ofDigits_cons]
    omega

theorem natural_text_digits (value : Nat) :
    IsDigits (naturalText value) ∧ decimalValue (naturalText value) = value ∧ naturalText value ≠ [] := by
  by_cases zero : value = 0
  · subst zero
    exact ⟨List.all_eq_true.mp (by decide), by decide, by decide⟩
  · have small : ∀ digit ∈ Nat.digits 10 value, digit < 10 := fun digit member => Nat.digits_lt_base (by omega) member
    rw [naturalText, if_neg zero]
    refine ⟨?_, ?_, ?_⟩
    · intro unit member
      obtain ⟨digit, digitIn, rfl⟩ := List.mem_map.mp member
      exact (digit_unit_value (small digit (List.mem_reverse.mp digitIn))).2
    · rw [decimal_value_digits small, Nat.ofDigits_digits]
    · simpa [Nat.digits_eq_nil_iff_eq_zero] using zero

theorem natural_text_head {value : Nat} : naturalText value = js "0" ∨
      ∃ first rest, naturalText value = first :: rest ∧ 49 ≤ first.toNat ∧ first.toNat ≤ 57 ∧ IsDigits rest := by
  by_cases zero : value = 0
  · exact .inl (by rw [naturalText, if_pos zero])
  · right
    have digits : Nat.digits 10 value ≠ [] := Nat.digits_ne_nil_iff_ne_zero.mpr zero
    have lead := Nat.getLast_digit_ne_zero 10 zero
    have small : (Nat.digits 10 value).getLast digits < 10 := Nat.digits_lt_base (by omega) (List.getLast_mem digits)
    have split : naturalText value =
        digitUnit ((Nat.digits 10 value).getLast digits) :: (Nat.digits 10 value).dropLast.reverse.map digitUnit := by
      rw [naturalText, if_neg zero]
      conv_lhs => rw [← List.dropLast_append_getLast digits]
      simp
    obtain ⟨unitValue, _⟩ := digit_unit_value small
    refine ⟨_, _, split, by omega, by omega, fun unit member => ?_⟩
    exact (natural_text_digits value).1 unit (by rw [split]; exact List.mem_cons_of_mem _ member)

end PiAutopilot.Protocol
