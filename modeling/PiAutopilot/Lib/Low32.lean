import Mathlib.Tactic

set_option autoImplicit false

-- Bitwise operators on numbers that act on the lowest thirty-two bits: each result is a signed number, except for
-- the unsigned shift. What such a result stands for is its word.
namespace PiAutopilot.Lib.Low32

def word (value : Int) : BitVec 32 := BitVec.ofInt 32 value

def shiftRight (value : Int) (count : Nat) : Int := (word value >>> (count % 32)).toNat

def shiftLeft (value : Int) (count : Nat) : Int := (word value <<< (count % 32)).toInt

def or (left right : Int) : Int := (word left ||| word right).toInt

def xor (left right : Int) : Int := (word left ^^^ word right).toInt

def and (left right : Int) : Int := (word left &&& word right).toInt

def not (value : Int) : Int := (~~~word value).toInt

@[simp] theorem word_to_int {value : BitVec 32} : word value.toInt = value := BitVec.ofInt_toInt

@[simp] theorem word_to_nat {value : BitVec 32} : word (value.toNat : Int) = value := by
  rw [word, BitVec.ofInt_natCast, BitVec.ofNat_toNat, BitVec.setWidth_eq]

@[simp] theorem word_add (left right : Int) : word (left + right) = word left + word right := BitVec.ofInt_add left right

@[simp] theorem word_shift_right (value : Int) (count : Nat) : word (shiftRight value count) = word value >>> (count % 32) := word_to_nat

@[simp] theorem word_shift_left (value : Int) (count : Nat) : word (shiftLeft value count) = word value <<< (count % 32) := word_to_int

@[simp] theorem word_or (left right : Int) : word (or left right) = word left ||| word right := word_to_int

@[simp] theorem word_xor (left right : Int) : word (xor left right) = word left ^^^ word right := word_to_int

@[simp] theorem word_and (left right : Int) : word (and left right) = word left &&& word right := word_to_int

@[simp] theorem word_not (value : Int) : word (not value) = ~~~word value := word_to_int

-- The byte that a number leaves in an array of unsigned bytes.
def storedByte (value : Int) : UInt8 := UInt8.ofNat (value % 256).toNat

theorem stored_low_byte (value : Int) : storedByte (and value 0xff) = UInt8.ofNat (word value).toNat := by
  have bits : word value &&& word 0xff = BitVec.ofNat 32 ((word value).toNat % 256) := by
    apply BitVec.eq_of_toNat_eq
    change _ &&& (2 ^ 8 - 1) = _
    rw [Nat.and_two_pow_sub_one_eq_mod, BitVec.toNat_ofNat]
    omega
  have masked : and value 0xff = (((word value).toNat % 256 : Nat) : Int) := by
    rw [and, bits, BitVec.toInt_eq_toNat_of_lt]
    · rw [BitVec.toNat_ofNat]
      omega
    · rw [BitVec.toNat_ofNat]
      omega
  apply UInt8.toNat_inj.mp
  rw [storedByte, UInt8.toNat_ofNat', UInt8.toNat_ofNat']
  omega

theorem stored_byte {value : Int} {count : Nat} (small : count < 32) :
    storedByte (and (shiftRight value count) 0xff) = UInt8.ofNat ((word value).toNat / 2 ^ count) := by
  rw [stored_low_byte, word_shift_right, Nat.mod_eq_of_lt small, BitVec.toNat_ushiftRight, Nat.shiftRight_eq_div_pow]

end PiAutopilot.Lib.Low32
