import Mathlib.Data.Nat.NthRoot.Defs
import PiAutopilot.Lib.Bytes

set_option autoImplicit false

-- SHA-256 for messages of whole bytes, as FIPS 180-4 defines it.
namespace PiAutopilot.Lib.Sha2

abbrev Word := BitVec 32

structure Eight (α : Type) where
  a : α
  b : α
  c : α
  d : α
  e : α
  f : α
  g : α
  h : α
  deriving DecidableEq

def Eight.map {α β : Type} (f : α → β) (state : Eight α) : Eight β :=
  ⟨f state.a, f state.b, f state.c, f state.d, f state.e, f state.f, f state.g, f state.h⟩

def Eight.toList {α : Type} (state : Eight α) : List α := [state.a, state.b, state.c, state.d, state.e, state.f, state.g, state.h]

-- The first sixty-four primes. The constants are the first thirty-two bits of the fractional parts of their cube roots.
def primes : List Nat :=
  [2, 3, 5, 7, 11, 13, 17, 19, 23, 29, 31, 37, 41, 43, 47, 53, 59, 61, 67, 71, 73, 79,
   83, 89, 97, 101, 103, 107, 109, 113, 127, 131, 137, 139, 149, 151, 157, 163, 167, 173, 179, 181, 191, 193,
   197, 199, 211, 223, 227, 229, 233, 239, 241, 251, 257, 263, 269, 271, 277, 281, 283, 293, 307, 311]

def roundConstants : List Word := primes.map fun prime => BitVec.ofNat 32 (Nat.nthRoot 3 (prime * 2 ^ 96))

def rootWord (prime : Nat) : Word := BitVec.ofNat 32 (Nat.nthRoot 2 (prime * 2 ^ 64))

def initialHash : Eight Word := Eight.map rootWord ⟨2, 3, 5, 7, 11, 13, 17, 19⟩

def choose (x y z : Word) : Word := (x &&& y) ^^^ (~~~x &&& z)

def majority (x y z : Word) : Word := (x &&& y) ^^^ (x &&& z) ^^^ (y &&& z)

def bigSigma0 (x : Word) : Word := x.rotateRight 2 ^^^ x.rotateRight 13 ^^^ x.rotateRight 22

def bigSigma1 (x : Word) : Word := x.rotateRight 6 ^^^ x.rotateRight 11 ^^^ x.rotateRight 25

def smallSigma0 (x : Word) : Word := x.rotateRight 7 ^^^ x.rotateRight 18 ^^^ x >>> 3

def smallSigma1 (x : Word) : Word := x.rotateRight 17 ^^^ x.rotateRight 19 ^^^ x >>> 10

def schedule (block : Nat → Word) (t : Nat) : Word :=
  if t < 16 then block t
  else smallSigma1 (schedule block (t - 2)) + schedule block (t - 7) + smallSigma0 (schedule block (t - 15)) +
    schedule block (t - 16)

def round (constant word : Word) (state : Eight Word) : Eight Word :=
  let t1 := state.h + bigSigma1 state.e + choose state.e state.f state.g + constant + word
  let t2 := bigSigma0 state.a + majority state.a state.b state.c
  ⟨t1 + t2, state.a, state.b, state.c, state.d + t1, state.e, state.f, state.g⟩

def addWords (left right : Eight Word) : Eight Word :=
  ⟨left.a + right.a, left.b + right.b, left.c + right.c, left.d + right.d, left.e + right.e, left.f + right.f,
    left.g + right.g, left.h + right.h⟩

def compress (hash : Eight Word) (block : Nat → Word) : Eight Word :=
  addWords hash ((List.range 64).foldl (fun state t => round (roundConstants.getD t 0) (schedule block t) state) hash)

def zeroCount (length : Nat) : Nat := (119 - length % 64) % 64

def pad (message : Bytes) : Bytes :=
  message ++ 0x80 :: (List.replicate (zeroCount message.length) 0 ++
    (bigEndian32 (8 * message.length / 2 ^ 32) ++ bigEndian32 (8 * message.length)))

def blockWord (bytes : Bytes) (offset t : Nat) : Word := BitVec.ofNat 32 (readBigEndian ((bytes.drop (offset + t * 4)).take 4))

def hashBlocks (padded : Bytes) : Eight Word :=
  (List.range' 0 (padded.length / 64) 64).foldl (fun hash offset => compress hash (blockWord padded offset)) initialHash

def sha256 (message : Bytes) : Bytes := (hashBlocks (pad message)).toList.flatMap fun word => bigEndian32 word.toNat

end PiAutopilot.Lib.Sha2
