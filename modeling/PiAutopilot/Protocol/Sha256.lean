import PiAutopilot.Lib.Low32
import PiAutopilot.Lib.Sha2

set_option autoImplicit false

namespace PiAutopilot.Protocol

open Lib Lib.Low32
open Lib.Sha2 (Eight Word)

def sha256Constants : List Int :=
  [0x428a2f98, 0x71374491, 0xb5c0fbcf, 0xe9b5dba5, 0x3956c25b, 0x59f111f1, 0x923f82a4, 0xab1c5ed5,
   0xd807aa98, 0x12835b01, 0x243185be, 0x550c7dc3, 0x72be5d74, 0x80deb1fe, 0x9bdc06a7, 0xc19bf174,
   0xe49b69c1, 0xefbe4786, 0x0fc19dc6, 0x240ca1cc, 0x2de92c6f, 0x4a7484aa, 0x5cb0a9dc, 0x76f988da,
   0x983e5152, 0xa831c66d, 0xb00327c8, 0xbf597fc7, 0xc6e00bf3, 0xd5a79147, 0x06ca6351, 0x14292967,
   0x27b70a85, 0x2e1b2138, 0x4d2c6dfc, 0x53380d13, 0x650a7354, 0x766a0abb, 0x81c2c92e, 0x92722c85,
   0xa2bfe8a1, 0xa81a664b, 0xc24b8b70, 0xc76c51a3, 0xd192e819, 0xd6990624, 0xf40e3585, 0x106aa070,
   0x19a4c116, 0x1e376c08, 0x2748774c, 0x34b0bcb5, 0x391c0cb3, 0x4ed8aa4a, 0x5b9cca4f, 0x682e6ff3,
   0x748f82ee, 0x78a5636f, 0x84c87814, 0x8cc70208, 0x90befffa, 0xa4506ceb, 0xbef9a3f7, 0xc67178f2]

def rotateRight (value : Int) (count : Nat) : Int := Low32.or (shiftRight value count) (shiftLeft value (32 - count))

def storeBigEndian (bytes : Bytes) (base : Nat) (value : Int) : Bytes :=
  (((bytes.set base (storedByte (Low32.and (shiftRight value 24) 0xff))).set
    (base + 1) (storedByte (Low32.and (shiftRight value 16) 0xff))).set
    (base + 2) (storedByte (Low32.and (shiftRight value 8) 0xff))).set
    (base + 3) (storedByte (Low32.and value 0xff))

-- A number is an exact integer here: none exceeds 2^53 while the input is shorter than 2^50 bytes.
def paddedInput (input : Bytes) : Bytes :=
  let bitLength : Int := input.length * 8
  let paddedLength := (input.length + 9 + 63) / 64 * 64
  let padded := (input ++ List.replicate (paddedLength - input.length) 0).set input.length 0x80
  let highBits := bitLength / 0x100000000
  let lowBits := shiftRight bitLength 0
  storeBigEndian (storeBigEndian padded (paddedLength - 8) highBits) (paddedLength - 4) lowBits

-- An array of unsigned words: a store keeps a number's word and a load reads it as a natural number.
def wordAt (words : List Word) (index : Nat) : Int := (words.getD index 0).toNat

def byteAt (bytes : Bytes) (index : Nat) : Int := (bytes.getD index 0).toNat

variable (padded : Bytes) (words : List Word) (offset : Nat)

def loadWord (words : List Word) (index : Nat) : List Word :=
  let base := offset + index * 4
  let b0 := byteAt padded base
  let b1 := byteAt padded (base + 1)
  let b2 := byteAt padded (base + 2)
  let b3 := byteAt padded (base + 3)
  words.set index
    (word (shiftRight (Low32.or (Low32.or (Low32.or (shiftLeft b0 24) (shiftLeft b1 16)) (shiftLeft b2 8)) b3) 0))

def extendWord (index : Nat) : List Word :=
  let prior15 := wordAt words (index - 15)
  let prior2 := wordAt words (index - 2)
  let s0 := Low32.xor (Low32.xor (rotateRight prior15 7) (rotateRight prior15 18)) (shiftRight prior15 3)
  let s1 := Low32.xor (Low32.xor (rotateRight prior2 17) (rotateRight prior2 19)) (shiftRight prior2 10)
  words.set index (word (shiftRight (wordAt words (index - 16) + s0 + wordAt words (index - 7) + s1) 0))

def compressionRound (state : Eight Int) (index : Nat) : Eight Int :=
  let ⟨a, b, c, d, e, f, g, h⟩ := state
  let sum1 := Low32.xor (Low32.xor (rotateRight e 6) (rotateRight e 11)) (rotateRight e 25)
  let choice := Low32.xor (Low32.and e f) (Low32.and (Low32.not e) g)
  let temporary1 := shiftRight (h + sum1 + choice + sha256Constants.getD index 0 + wordAt words index) 0
  let sum0 := Low32.xor (Low32.xor (rotateRight a 2) (rotateRight a 13)) (rotateRight a 22)
  let majority := Low32.xor (Low32.xor (Low32.and a b) (Low32.and a c)) (Low32.and b c)
  let temporary2 := shiftRight (sum0 + majority) 0
  ⟨shiftRight (temporary1 + temporary2) 0, a, b, c, shiftRight (d + temporary1) 0, e, f, g⟩

def addToHash (hash state : Eight Int) : Eight Int :=
  ⟨shiftRight (hash.a + state.a) 0, shiftRight (hash.b + state.b) 0, shiftRight (hash.c + state.c) 0,
    shiftRight (hash.d + state.d) 0, shiftRight (hash.e + state.e) 0, shiftRight (hash.f + state.f) 0,
    shiftRight (hash.g + state.g) 0, shiftRight (hash.h + state.h) 0⟩

def scheduleWords (words : List Word) : List Word :=
  (List.range' 16 48).foldl extendWord ((List.range' 0 16).foldl (loadWord padded offset) words)

-- The word array outlives the block: the next block overwrites it.
def hashBlock (before : List Word × Eight Int) (offset : Nat) : List Word × Eight Int :=
  let words := scheduleWords padded offset before.1
  (words, addToHash before.2 ((List.range 64).foldl (compressionRound words) before.2))

def initialHashWords : Eight Int := ⟨0x6a09e667, 0xbb67ae85, 0x3c6ef372, 0xa54ff53a, 0x510e527f, 0x9b05688c, 0x1f83d9ab, 0x5be0cd19⟩

def sha256Bytes (input : Bytes) : Bytes :=
  let padded := paddedInput input
  let final := (List.range' 0 (padded.length / 64) 64).foldl (hashBlock padded) (List.replicate 64 0, initialHashWords)
  (List.range' 0 8).foldl (fun output index => storeBigEndian output (index * 4) (final.2.toList.getD index 0))
    (List.replicate 32 0)

theorem constants_standard : sha256Constants.map word = Sha2.roundConstants := by decide +kernel

theorem initial_hash_standard : initialHashWords.map word = Sha2.initialHash := by decide +kernel

theorem constant_word (index : Nat) : word (sha256Constants.getD index 0) = Sha2.roundConstants.getD index 0 := by
  rw [← constants_standard, List.getD_eq_getElem?_getD, List.getD_eq_getElem?_getD, List.getElem?_map]
  cases sha256Constants[index]? with
  | none => rfl
  | some constant => rfl

theorem rotate_right_word (value : Int) (count : Nat) (positive : 0 < count) (small : count < 32) :
    word (rotateRight value count) = (word value).rotateRight count := by
  rw [rotateRight, word_or, word_shift_right, word_shift_left, BitVec.rotateRight_def, Nat.mod_eq_of_lt small,
    Nat.mod_eq_of_lt (by omega : 32 - count < 32)]

@[simp] theorem word_of_word_at (index : Nat) : word (wordAt words index) = words.getD index 0 := word_to_nat

theorem round_word (state : Eight Int) (index : Nat) : (compressionRound words state index).map word =
      Sha2.round (Sha2.roundConstants.getD index 0) (words.getD index 0) (state.map word) := by
  simp [compressionRound, Sha2.round, Eight.map, rotate_right_word, Sha2.bigSigma0, Sha2.bigSigma1, Sha2.choose, Sha2.majority,
    constant_word, -List.getD_eq_getElem?_getD]

theorem rounds_word {scheduled : Nat → Word} {indexes : List Nat}
    (filled : ∀ index ∈ indexes, words.getD index 0 = scheduled index) (state : Eight Int) :
    (indexes.foldl (compressionRound words) state).map word =
      indexes.foldl (fun state t => Sha2.round (Sha2.roundConstants.getD t 0) (scheduled t) state) (state.map word) := by
  induction indexes generalizing state with
  | nil => rfl
  | cons index rest ih =>
    rw [List.foldl_cons, List.foldl_cons, ih fun later member => filled later (List.mem_cons_of_mem _ member), round_word,
      filled index List.mem_cons_self]

theorem or_above {high : Nat} {low count : Nat} (below : low < 2 ^ count) : high * 2 ^ count ||| low = high * 2 ^ count + low := by
  rw [Nat.mul_comm, ← Nat.two_pow_add_eq_or_of_lt below]

theorem word_byte (byte : UInt8) : word (byte.toNat : Int) = BitVec.ofNat 32 byte.toNat := BitVec.ofInt_natCast 32 byte.toNat

theorem joined_bytes (b0 b1 b2 b3 : UInt8) :
    word (Low32.or (Low32.or (Low32.or (shiftLeft b0.toNat 24) (shiftLeft b1.toNat 16)) (shiftLeft b2.toNat 8)) b3.toNat) =
      BitVec.ofNat 32 (readBigEndian [b0, b1, b2, b3]) := by
  have small0 := b0.toNat_lt
  have small1 := b1.toNat_lt
  have small2 := b2.toNat_lt
  have small3 := b3.toNat_lt
  apply BitVec.eq_of_toNat_eq
  simp only [word_or, word_shift_left, word_byte, BitVec.toNat_or, BitVec.toNat_shiftLeft, BitVec.toNat_ofNat, Nat.shiftLeft_eq,
    readBigEndian, List.foldl_cons, List.foldl_nil]
  have joined : b0.toNat * 2 ^ 24 ||| b1.toNat * 2 ^ 16 ||| b2.toNat * 2 ^ 8 ||| b3.toNat =
      ((b0.toNat * 256 + b1.toNat) * 256 + b2.toNat) * 256 + b3.toNat := by
    rw [or_above (by omega), show b0.toNat * 2 ^ 24 + b1.toNat * 2 ^ 16 = (b0.toNat * 256 + b1.toNat) * 2 ^ 16 by omega,
      or_above (by omega),
      show (b0.toNat * 256 + b1.toNat) * 2 ^ 16 + b2.toNat * 2 ^ 8 = ((b0.toNat * 256 + b1.toNat) * 256 + b2.toNat) * 2 ^ 8 by omega,
      or_above (by omega)]
    omega
  have fits : ∀ byte shift, byte < 256 → shift ≤ 24 → byte % 2 ^ 32 * 2 ^ (shift % 32) % 2 ^ 32 = byte * 2 ^ shift := by
    intro byte shift small within
    have power : 2 ^ shift ≤ 2 ^ 24 := Nat.pow_le_pow_right (by decide) within
    have product := Nat.mul_le_mul (Nat.le_of_lt_succ small) power
    rw [Nat.mod_eq_of_lt (by omega : shift < 32), Nat.mod_eq_of_lt (by omega : byte < 2 ^ 32), Nat.mod_eq_of_lt (by omega)]
  rw [fits _ 24 small0 (by decide), fits _ 16 small1 (by decide), fits _ 8 small2 (by decide),
    Nat.mod_eq_of_lt (by omega : b3.toNat < 2 ^ 32), joined]
  omega

theorem take_four {bytes : Bytes} {start : Nat} (inside : start + 4 ≤ bytes.length) : (bytes.drop start).take 4 =
      [bytes.getD start 0, bytes.getD (start + 1) 0, bytes.getD (start + 2) 0, bytes.getD (start + 3) 0] := by
  have long : 4 ≤ (bytes.drop start).length := by
    rw [List.length_drop]
    omega
  have entries : ∀ i, bytes.getD (start + i) 0 = (bytes.drop start).getD i 0 := by
    intro i
    rw [List.getD_eq_getElem?_getD, List.getD_eq_getElem?_getD, List.getElem?_drop]
  have first := entries 0
  rw [Nat.add_zero] at first
  rw [first, entries 1, entries 2, entries 3]
  match bytes.drop start, long with
  | b0 :: b1 :: b2 :: b3 :: rest, _ => rfl

theorem load_word (words : List Word) (index : Nat) (inside : offset + index * 4 + 4 ≤ padded.length) :
    loadWord padded offset words index = words.set index (Sha2.blockWord padded offset index) := by
  rw [Sha2.blockWord, take_four inside, ← joined_bytes, loadWord]
  rw [word_shift_right]
  rfl

structure Filled (scheduled : Nat → Word) (words : List Word) (count : Nat) : Prop where
  size : words.length = 64
  holds : ∀ index, index < count → words.getD index 0 = scheduled index

theorem fill_next {scheduled : Nat → Word} {words : List Word} {count : Nat} (filled : Filled scheduled words count)
    (within : count < 64) : Filled scheduled (words.set count (scheduled count)) (count + 1) where
  size := by rw [List.length_set, filled.size]
  holds := by
    intro index below
    rw [List.getD_eq_getElem?_getD, List.getElem?_set]
    by_cases last : count = index
    · subst last
      rw [if_pos rfl, if_pos (by rw [filled.size]; exact within)]
      rfl
    · rw [if_neg last]
      exact filled.holds index (by omega)

theorem fill_loop (scheduled : Nat → Word) (fill : List Word → Nat → List Word) (count start : Nat) (within : start + count ≤ 64)
    (fills : ∀ words index, start ≤ index → index < start + count → Filled scheduled words index →
      fill words index = words.set index (scheduled index))
    (words : List Word) (filled : Filled scheduled words start) :
    Filled scheduled ((List.range' start count).foldl fill words) (start + count) := by
  induction count generalizing start words with
  | zero => exact filled
  | succ count ih =>
    rw [List.range'_succ, List.foldl_cons, fills words start le_rfl (by omega) filled]
    have rest := ih (start + 1) (by omega) (fun words index low high => fills words index (by omega) (by omega)) _
      (fill_next filled (by omega))
    rwa [Nat.add_assoc, Nat.add_comm 1] at rest

theorem extend_word {block : Nat → Word} {words : List Word} {index : Nat} (late : 16 ≤ index)
    (filled : Filled (Sha2.schedule block) words index) :
    extendWord words index = words.set index (Sha2.schedule block index) := by
  have expand : Sha2.schedule block index = Sha2.smallSigma1 (Sha2.schedule block (index - 2)) + Sha2.schedule block (index - 7) +
      Sha2.smallSigma0 (Sha2.schedule block (index - 15)) + Sha2.schedule block (index - 16) := by
    rw [Sha2.schedule, if_neg (by omega)]
  rw [extendWord, expand, ← filled.holds (index - 2) (by omega), ← filled.holds (index - 7) (by omega),
    ← filled.holds (index - 15) (by omega), ← filled.holds (index - 16) (by omega)]
  simp only [word_shift_right, word_add, word_xor, rotate_right_word, word_of_word_at, Sha2.smallSigma0, Sha2.smallSigma1,
    Nat.reduceMod, Nat.ofNat_pos, Nat.reduceLT, BitVec.ushiftRight_zero]
  ac_rfl

theorem schedule_words (inside : offset + 64 ≤ padded.length) (words : List Word)
    (sized : words.length = 64) : Filled (Sha2.schedule (Sha2.blockWord padded offset)) (scheduleWords padded offset words) 64 := by
  have loaded := fill_loop (Sha2.schedule (Sha2.blockWord padded offset)) (loadWord padded offset) 16 0 (by decide)
    (fun words index _ early _ => by
      rw [load_word padded offset words index (by omega), Sha2.schedule, if_pos (by omega)])
    words ⟨sized, fun index below => absurd below (Nat.not_lt_zero _)⟩
  exact fill_loop _ extendWord 48 16 (by decide) (fun words index late _ filled => extend_word late filled) _ loaded

theorem hash_block_word {before : List Word × Eight Int} (sized : before.1.length = 64) {offset : Nat}
    (inside : offset + 64 ≤ padded.length) :
    (hashBlock padded before offset).1.length = 64 ∧
      (hashBlock padded before offset).2.map word = Sha2.compress (before.2.map word) (Sha2.blockWord padded offset) := by
  have words := schedule_words padded offset inside before.1 sized
  have rounds := rounds_word _ (fun index member => words.holds index (List.mem_range.mp member)) before.2
  rw [hashBlock, Sha2.compress, ← rounds]
  dsimp only
  refine ⟨words.size, ?_⟩
  simp [addToHash, Sha2.addWords, Eight.map]

theorem hash_blocks_word (offsets : List Nat) (inside : ∀ offset ∈ offsets, offset + 64 ≤ padded.length)
    (before : List Word × Eight Int) (sized : before.1.length = 64) :
    (offsets.foldl (hashBlock padded) before).2.map word =
      offsets.foldl (fun hash offset => Sha2.compress hash (Sha2.blockWord padded offset)) (before.2.map word) := by
  induction offsets generalizing before with
  | nil => rfl
  | cons offset rest ih =>
    obtain ⟨nextSized, compressed⟩ := hash_block_word padded sized (inside offset List.mem_cons_self)
    rw [List.foldl_cons, List.foldl_cons, ih (fun later member => inside later (List.mem_cons_of_mem _ member)) _ nextSized, compressed]

theorem store_big_endian {front rest : Bytes} {base : Nat} (atEnd : base = front.length) {value : Int} :
    storeBigEndian (front ++ 0 :: 0 :: 0 :: 0 :: rest) base value = front ++ (bigEndian32 (word value).toNat ++ rest) := by
  subst atEnd
  have place : ∀ (bytes : Bytes) (index : Nat) (byte : UInt8), (front ++ bytes).set (front.length + index) byte =
      front ++ bytes.set index byte := by
    intro bytes index byte
    rw [List.set_append_right _ _ (Nat.le_add_right _ _), Nat.add_sub_cancel_left]
  have first := fun bytes byte => place bytes 0 byte
  rw [Nat.add_zero] at first
  rw [storeBigEndian, stored_byte (by decide), stored_byte (by decide), stored_byte (by decide),
    stored_low_byte, first, place, place, place]
  rfl

theorem big_endian_nat (value : Nat) : bigEndian32 (word value).toNat = bigEndian32 value := by
  rw [word, BitVec.ofInt_natCast, BitVec.toNat_ofNat]
  simp only [bigEndian32, List.cons.injEq, ← UInt8.toNat_inj, UInt8.toNat_ofNat', and_true]
  omega

theorem padded_input (input : Bytes) : paddedInput input = Sha2.pad input := by
  have length : (input.length + 9 + 63) / 64 * 64 = (input.length + (Sha2.zeroCount input.length + 1)) + 8 := by
    rw [Sha2.zeroCount]
    omega
  have marked : (input ++ List.replicate ((input.length + 9 + 63) / 64 * 64 - input.length) 0).set input.length 0x80 =
      (input ++ 0x80 :: List.replicate (Sha2.zeroCount input.length) 0) ++ [0, 0, 0, 0, 0, 0, 0, 0] := by
    rw [length, Nat.add_assoc, Nat.add_sub_cancel_left, Nat.add_right_comm, List.replicate_succ, List.replicate_add,
      List.set_append_right _ _ le_rfl, Nat.sub_self, List.set_cons_zero, List.append_assoc]
    rfl
  have size : (input ++ 0x80 :: List.replicate (Sha2.zeroCount input.length) 0).length =
      input.length + (Sha2.zeroCount input.length + 1) := by
    simp
  have bits : (input.length : Int) * 8 = (8 * input.length : Nat) := by
    omega
  have high : (input.length : Int) * 8 / 0x100000000 = (8 * input.length / 2 ^ 32 : Nat) := by
    omega
  rw [paddedInput, marked, store_big_endian (by rw [size, length, Nat.add_sub_cancel]), ← List.append_assoc,
    store_big_endian (by rw [List.length_append, size, length]; rfl), high, bits, word_shift_right, Nat.zero_mod,
    BitVec.ushiftRight_zero, big_endian_nat, big_endian_nat, Sha2.pad, List.append_nil, List.append_assoc, List.append_assoc,
    List.cons_append]

theorem store_words (values stored : List Int) (front : Bytes) (placed : stored.length * 4 = front.length) :
    (List.range' stored.length values.length).foldl
        (fun output index => storeBigEndian output (index * 4) ((stored ++ values).getD index 0))
        (front ++ List.replicate (values.length * 4) 0) =
      front ++ values.flatMap fun value => bigEndian32 (word value).toNat := by
  induction values generalizing stored front with
  | nil => rfl
  | cons value rest ih =>
    have current : (stored ++ value :: rest).getD stored.length 0 = value := by
      simp
    have next := ih (stored ++ [value]) (front ++ bigEndian32 (word value).toNat) (by simp [← placed, bigEndian32, Nat.add_mul])
    rw [List.append_assoc, List.length_append, List.length_singleton, List.append_assoc] at next
    have zeros : List.replicate ((rest.length + 1) * 4) (0 : UInt8) = 0 :: 0 :: 0 :: 0 :: List.replicate (rest.length * 4) 0 := by
      rw [Nat.add_mul]
      rfl
    rw [List.length_cons, List.range'_succ, List.foldl_cons, current, zeros, store_big_endian placed]
    exact next.trans (List.append_assoc _ _ _)

theorem store_hash (state : Eight Int) :
    (List.range' 0 8).foldl (fun output index => storeBigEndian output (index * 4) (state.toList.getD index 0))
        (List.replicate 32 0) = (state.map word).toList.flatMap fun value => bigEndian32 value.toNat := by
  have eight : state.toList.length = 8 := rfl
  have words : (state.map word).toList = state.toList.map word := rfl
  have stored := store_words state.toList [] [] rfl
  exact stored

theorem sha256_bytes_standard (input : Bytes) : sha256Bytes input = Sha2.sha256 input := by
  have inside : ∀ offset ∈ List.range' 0 ((Sha2.pad input).length / 64) 64, offset + 64 ≤ (Sha2.pad input).length := by
    intro offset member
    obtain ⟨block, below, rfl⟩ := List.mem_range'.mp member
    omega
  have hashed := hash_blocks_word _ _ inside (List.replicate 64 0, initialHashWords) List.length_replicate
  rw [initial_hash_standard] at hashed
  rw [Sha2.sha256, Sha2.hashBlocks, ← hashed, ← store_hash, sha256Bytes, padded_input]

end PiAutopilot.Protocol
