import Mathlib.Data.List.Basic

/-! # SHA-256

The hash function on lists of bytes. The rounds are folds over lists, so the digest of
a concrete message computes.
-/

namespace Encoding

namespace Sha256

/-- The round constants. -/
def roundConstants : List UInt32 :=
  [0x428a2f98, 0x71374491, 0xb5c0fbcf, 0xe9b5dba5, 0x3956c25b, 0x59f111f1, 0x923f82a4, 0xab1c5ed5,
    0xd807aa98, 0x12835b01, 0x243185be, 0x550c7dc3, 0x72be5d74, 0x80deb1fe, 0x9bdc06a7, 0xc19bf174,
    0xe49b69c1, 0xefbe4786, 0x0fc19dc6, 0x240ca1cc, 0x2de92c6f, 0x4a7484aa, 0x5cb0a9dc, 0x76f988da,
    0x983e5152, 0xa831c66d, 0xb00327c8, 0xbf597fc7, 0xc6e00bf3, 0xd5a79147, 0x06ca6351, 0x14292967,
    0x27b70a85, 0x2e1b2138, 0x4d2c6dfc, 0x53380d13, 0x650a7354, 0x766a0abb, 0x81c2c92e, 0x92722c85,
    0xa2bfe8a1, 0xa81a664b, 0xc24b8b70, 0xc76c51a3, 0xd192e819, 0xd6990624, 0xf40e3585, 0x106aa070,
    0x19a4c116, 0x1e376c08, 0x2748774c, 0x34b0bcb5, 0x391c0cb3, 0x4ed8aa4a, 0x5b9cca4f, 0x682e6ff3,
    0x748f82ee, 0x78a5636f, 0x84c87814, 0x8cc70208, 0x90befffa, 0xa4506ceb, 0xbef9a3f7, 0xc67178f2]

/-- The working variables. -/
structure Words where
  a : UInt32
  b : UInt32
  c : UInt32
  d : UInt32
  e : UInt32
  f : UInt32
  g : UInt32
  h : UInt32

def initial : Words :=
  ⟨0x6a09e667, 0xbb67ae85, 0x3c6ef372, 0xa54ff53a, 0x510e527f, 0x9b05688c, 0x1f83d9ab, 0x5be0cd19⟩

def rotateRight (x : UInt32) (n : UInt32) : UInt32 := (x >>> n) ||| (x <<< (32 - n))

/-- The length in bits as eight bytes, the highest first. -/
def lengthBytes (length : ℕ) : List UInt8 :=
  (List.range 8).map fun i => UInt8.ofNat ((length * 8) >>> (8 * (7 - i)))

/-- The message, a one bit, zeros, and the length, in whole blocks. -/
def pad (message : List UInt8) : List UInt8 :=
  message ++ 0x80 :: List.replicate ((119 - message.length % 64) % 64) 0 ++
    lengthBytes message.length

def bigEndian (bytes : List UInt8) : UInt32 :=
  bytes.foldl (fun word byte => word <<< 8 ||| byte.toUInt32) 0

/-- Words of four bytes; `fuel` bounds their number. -/
def wordsOf : ℕ → List UInt8 → List UInt32
  | 0, _ => []
  | fuel + 1, bytes => bigEndian (bytes.take 4) :: wordsOf fuel (bytes.drop 4)

/-- Extend the schedule, kept newest word first, by `count` words. -/
def extend : ℕ → List UInt32 → List UInt32
  | 0, schedule => schedule
  | count + 1, schedule =>
      let w15 := schedule.getD 14 0
      let w2 := schedule.getD 1 0
      let s0 := rotateRight w15 7 ^^^ rotateRight w15 18 ^^^ (w15 >>> 3)
      let s1 := rotateRight w2 17 ^^^ rotateRight w2 19 ^^^ (w2 >>> 10)
      extend count ((schedule.getD 15 0 + s0 + schedule.getD 6 0 + s1) :: schedule)

def round (words : Words) (input : UInt32 × UInt32) : Words :=
  let s1 := rotateRight words.e 6 ^^^ rotateRight words.e 11 ^^^ rotateRight words.e 25
  let choice := (words.e &&& words.f) ^^^ (~~~words.e &&& words.g)
  let t1 := words.h + s1 + choice + input.1 + input.2
  let s0 := rotateRight words.a 2 ^^^ rotateRight words.a 13 ^^^ rotateRight words.a 22
  let majority := (words.a &&& words.b) ^^^ (words.a &&& words.c) ^^^ (words.b &&& words.c)
  ⟨t1 + (s0 + majority), words.a, words.b, words.c, words.d + t1, words.e, words.f, words.g⟩

def compress (state : Words) (block : List UInt8) : Words :=
  let schedule := (extend 48 (wordsOf 16 block).reverse).reverse
  let last := (roundConstants.zip schedule).foldl round state
  ⟨state.a + last.a, state.b + last.b, state.c + last.c, state.d + last.d,
    state.e + last.e, state.f + last.f, state.g + last.g, state.h + last.h⟩

/-- Absorb the blocks of 64 bytes; `fuel` bounds their number. -/
def absorb : ℕ → Words → List UInt8 → Words
  | 0, state, _ => state
  | fuel + 1, state, bytes => absorb fuel (compress state (bytes.take 64)) (bytes.drop 64)

def wordBytes (word : UInt32) : List UInt8 :=
  [(word >>> 24).toUInt8, (word >>> 16).toUInt8, (word >>> 8).toUInt8, word.toUInt8]

end Sha256

open Sha256

/-- `hashlib.sha256(message).digest()`. -/
def sha256 (message : List UInt8) : List UInt8 :=
  let padded := pad message
  let state := absorb (padded.length / 64) initial padded
  [state.a, state.b, state.c, state.d, state.e, state.f, state.g, state.h].flatMap wordBytes

example : (sha256 [0x61, 0x62, 0x63]).take 8 = [0xba, 0x78, 0x16, 0xbf, 0x8f, 0x01, 0xcf, 0xea] := by
  decide +kernel

end Encoding
