import PiAutopilot.Protocol.Decimal
import Mathlib.Data.List.Lex
import Mathlib.Data.Fintype.Vector
import Mathlib.Order.Fin.Basic

set_option autoImplicit false

namespace PiAutopilot.Protocol

-- A text of the given format as a canonical decoder returns it: decoding UTF-8
-- leaves no unpaired surrogate behind.
structure FormattedText (format : TextFormat) where
  text : JsString
  valid : textMatchesFormat text format = true
  decoded : replaceUnpaired text = text
  deriving DecidableEq

abbrev Identifier := FormattedText .identifier

theorem formatted_text_ext {format : TextFormat} {left right : FormattedText format} (same : left.text = right.text) : left = right := by
  obtain ⟨leftText, _, _⟩ := left
  obtain ⟨rightText, _, _⟩ := right
  simp only [FormattedText.mk.injEq]
  exact same

instance hexNonzero : NeZero 16 := ⟨by decide⟩

-- The text sha256:<hex>, with as many hex digits as the hash writes. SHA-256
-- writes 64 of them; no hash is injective on pairs of 64-digit digests, so the
-- length is left open for the digests that only ever get compared.
structure Digest where
  hex : List (Fin 16)
  deriving DecidableEq

def Digest.text (digest : Digest) : JsString := js "sha256:" ++ digest.hex.map fun digit => hexUnit digit.val

-- A digest used as an index key: its 64 digits are the path into the tree.
structure Key where
  hex : List (Fin 16)
  full : hex.length = 64
  deriving DecidableEq

def Key.text (key : Key) : JsString := js "sha256:" ++ key.hex.map fun digit => hexUnit digit.val

theorem key_ext (left : Key) {right : Key} (same : left.hex = right.hex) : left = right := by
  obtain ⟨leftHex, leftFull⟩ := left
  obtain ⟨rightHex, rightFull⟩ := right
  simp only [Key.mk.injEq]
  exact same

-- Digest texts are compared as strings, which on hex digits is digit by digit.
instance : LinearOrder Key := LinearOrder.lift' Key.hex key_ext

instance unitCountable : Countable UInt16 :=
  Function.Injective.countable (f := UInt16.toNat) fun _ _ same => UInt16.toNat_inj.mp same

instance {format : TextFormat} : Countable (FormattedText format) :=
  Function.Injective.countable (f := FormattedText.text) fun left right same => formatted_text_ext same

instance : Countable DecimalNatural :=
  Function.Injective.countable (f := DecimalNatural.value) fun left right same => decimal_value_injective left right same

def Key.digits (key : Key) : List.Vector (Fin 16) 64 := ⟨key.hex, key.full⟩

instance : Finite Key :=
  Finite.of_injective Key.digits fun left right same => key_ext left (congrArg Subtype.val same)

def hexBits (digit : Fin 16) : List Bool := [digit.val &&& 8 != 0, digit.val &&& 4 != 0, digit.val &&& 2 != 0, digit.val &&& 1 != 0]

def keyBits (key : Key) : List Bool := key.hex.flatMap hexBits

theorem hex_bits_injective (left right : Fin 16) (same : hexBits left = hexBits right) : left = right := by
  revert left right
  decide

theorem hex_digits_length (digits : List (Fin 16)) : (digits.flatMap hexBits).length = 4 * digits.length := by
  induction digits with
  | nil => rfl
  | cons digit rest ih =>
    rw [List.flatMap_cons, List.length_append, ih]
    simp only [hexBits, List.length_cons, List.length_nil]
    omega

theorem hex_digits_injective (left right : List (Fin 16)) (same : left.flatMap hexBits = right.flatMap hexBits) : left = right := by
  induction left generalizing right with
  | nil =>
    have length := congrArg List.length same
    rw [hex_digits_length, hex_digits_length, List.length_nil] at length
    exact (List.length_eq_zero_iff.mp (by omega)).symm
  | cons digit rest ih =>
    cases right with
    | nil =>
      have length := congrArg List.length same
      rw [hex_digits_length] at length
      simp at length
    | cons other others =>
      obtain ⟨first, tail⟩ := List.append_inj same rfl
      rw [hex_bits_injective digit other first, ih others tail]

instance : Countable Digest :=
  Function.Injective.countable (f := Digest.hex) fun left right same => by
    cases left
    cases right
    exact congrArg Digest.mk same

-- A digest function without collisions on any countable type.
noncomputable def freshDigest {α : Type} [Countable α] (value : α) : Digest :=
  ⟨List.replicate (Classical.choose (exists_injective_nat α) value) 0⟩

theorem fresh_digest_injective {α : Type} [Countable α] : Function.Injective (freshDigest : α → Digest) := by
  intro left right same
  have length := congrArg (fun digest => digest.hex.length) same
  simp only [freshDigest, List.length_replicate] at length
  exact Classical.choose_spec (exists_injective_nat α) length

def IdentifierUnits (text : JsString) : Prop := (text.all fun unit => isIdentifierCode unit.toNat) = true

theorem identifier_code_small {code : Nat} (inside : isIdentifierCode code = true) : code < 128 := by
  simp only [isIdentifierCode, isDigitCode, Bool.or_eq_true, Bool.and_eq_true, decide_eq_true_eq, beq_iff_eq] at inside
  omega

theorem identifier_units_well_formed {text : JsString} (units : IdentifierUnits text) : WellFormed text := by
  induction text with
  | nil => exact .nil
  | cons unit rest ih =>
    rw [IdentifierUnits, List.all_cons, Bool.and_eq_true] at units
    have small := identifier_code_small units.1
    refine .scalar unit rest ?_ ?_ (ih units.2)
    · rw [isHighSurrogate, Bool.and_eq_false_iff]
      left
      exact decide_eq_false (by omega)
    · rw [isLowSurrogate, Bool.and_eq_false_iff]
      left
      exact decide_eq_false (by omega)

theorem identifier_valid {text : JsString} (filled : text ≠ []) (units : IdentifierUnits text) :
    textMatchesFormat text .identifier = true := by
  have wellFormed : isWellFormedUnicode text = true := (is_well_formed_unicode_iff text).mpr (Or.inl (identifier_units_well_formed units))
  have notEmpty : text.isEmpty = false := by
    rw [List.isEmpty_eq_false_iff]
    exact filled
  have allUnits : (text.all fun unit => isIdentifierCode unit.toNat) = true := units
  simp only [textMatchesFormat, wellFormed, Bool.not_true, Bool.false_eq_true, if_false, isIdentifier, notEmpty, Bool.not_false,
    allUnits, Bool.and_self]

def identifierOf (text : JsString) (filled : text ≠ []) (units : IdentifierUnits text) : Identifier where
  text := text
  valid := identifier_valid filled units
  decoded := replace_unpaired_fixed text (identifier_units_well_formed units)

theorem identifier_units {identifier : Identifier} : IdentifierUnits identifier.text := by
  have valid := identifier.valid
  simp only [textMatchesFormat, isIdentifier] at valid
  split at valid
  · cases valid
  · exact (Bool.and_eq_true_iff.mp valid).2

theorem identifier_units_append {left right : JsString} (leftUnits : IdentifierUnits left) (rightUnits : IdentifierUnits right) :
    IdentifierUnits (left ++ right) := by
  rw [IdentifierUnits, List.all_append, Bool.and_eq_true]
  exact ⟨leftUnits, rightUnits⟩

theorem hex_text_units {hex : List (Fin 16)} : IdentifierUnits (hex.map fun digit => hexUnit digit.val) := by
  have everyDigit : ∀ digit : Fin 16, isIdentifierCode (hexUnit digit.val).toNat = true := by decide
  rw [IdentifierUnits, List.all_map, List.all_eq_true]
  intro digit _
  exact everyDigit digit

theorem key_bits_length (key : Key) : (keyBits key).length = 256 := by
  rw [keyBits, hex_digits_length, key.full]

theorem key_bits_injective : Function.Injective keyBits :=
  fun left right same => key_ext left (hex_digits_injective left.hex right.hex same)

end PiAutopilot.Protocol
