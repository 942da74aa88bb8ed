namespace WorkflowConditions.Digest

/-!
# SHA-256

The secure hash of a sequence of bytes: blocks of sixteen words are worked into a state
of eight words, one round for every constant.
-/

/-- The state of the hash: eight words. -/
structure State where
  a : UInt32
  b : UInt32
  c : UInt32
  d : UInt32
  e : UInt32
  f : UInt32
  g : UInt32
  h : UInt32
  deriving Repr, DecidableEq

namespace State

/-- First 32 bits of the fractional parts of the square roots of the first eight primes. -/
def start : State :=
  ⟨0x6a09e667, 0xbb67ae85, 0x3c6ef372, 0xa54ff53a,
    0x510e527f, 0x9b05688c, 0x1f83d9ab, 0x5be0cd19⟩

/-- Add two states word by word. -/
def add (x y : State) : State :=
  ⟨x.a + y.a, x.b + y.b, x.c + y.c, x.d + y.d, x.e + y.e, x.f + y.f, x.g + y.g, x.h + y.h⟩

/-- The eight words in order. -/
def words (state : State) : List UInt32 :=
  [state.a, state.b, state.c, state.d, state.e, state.f, state.g, state.h]

end State

/-- First 32 bits of the fractional parts of the cube roots of the first 64 primes. -/
def roundConstants : List UInt32 :=
  [0x428a2f98, 0x71374491, 0xb5c0fbcf, 0xe9b5dba5, 0x3956c25b, 0x59f111f1, 0x923f82a4, 0xab1c5ed5,
   0xd807aa98, 0x12835b01, 0x243185be, 0x550c7dc3, 0x72be5d74, 0x80deb1fe, 0x9bdc06a7, 0xc19bf174,
   0xe49b69c1, 0xefbe4786, 0x0fc19dc6, 0x240ca1cc, 0x2de92c6f, 0x4a7484aa, 0x5cb0a9dc, 0x76f988da,
   0x983e5152, 0xa831c66d, 0xb00327c8, 0xbf597fc7, 0xc6e00bf3, 0xd5a79147, 0x06ca6351, 0x14292967,
   0x27b70a85, 0x2e1b2138, 0x4d2c6dfc, 0x53380d13, 0x650a7354, 0x766a0abb, 0x81c2c92e, 0x92722c85,
   0xa2bfe8a1, 0xa81a664b, 0xc24b8b70, 0xc76c51a3, 0xd192e819, 0xd6990624, 0xf40e3585, 0x106aa070,
   0x19a4c116, 0x1e376c08, 0x2748774c, 0x34b0bcb5, 0x391c0cb3, 0x4ed8aa4a, 0x5b9cca4f, 0x682e6ff3,
   0x748f82ee, 0x78a5636f, 0x84c87814, 0x8cc70208, 0x90befffa, 0xa4506ceb, 0xbef9a3f7, 0xc67178f2]

/-- Rotate a word to the right. -/
def rotateRight
    (word : UInt32)
    (count : UInt32) :
    UInt32 :=
  (word >>> count) ||| (word <<< (32 - count))

/-- The message schedule, newest word first, extended by a number of words. -/
def extend : (count : Nat) → List UInt32 → List UInt32
  | 0, schedule => schedule
  | count + 1, schedule =>
      let back (distance : Nat) : UInt32 := schedule.getD (distance - 1) 0
      let early := back 15
      let late := back 2
      let small := rotateRight early 7 ^^^ rotateRight early 18 ^^^ (early >>> 3)
      let large := rotateRight late 17 ^^^ rotateRight late 19 ^^^ (late >>> 10)
      extend count ((back 16 + small + back 7 + large) :: schedule)

/-- One round. -/
def round
    (state : State)
    (constant word : UInt32) :
    State :=
  let sumE := rotateRight state.e 6 ^^^ rotateRight state.e 11 ^^^ rotateRight state.e 25
  let choice := (state.e &&& state.f) ^^^ (~~~state.e &&& state.g)
  let first := state.h + sumE + choice + constant + word
  let sumA := rotateRight state.a 2 ^^^ rotateRight state.a 13 ^^^ rotateRight state.a 22
  let majority := (state.a &&& state.b) ^^^ (state.a &&& state.c) ^^^ (state.b &&& state.c)
  ⟨first + (sumA + majority), state.a, state.b, state.c,
    state.d + first, state.e, state.f, state.g⟩

/-- Take in one block of sixteen words. -/
def compress
    (state : State)
    (block : List UInt32) :
    State :=
  let schedule := (extend 48 block.reverse).reverse
  let rounds := roundConstants.zip schedule
  state.add (rounds.foldl (fun current pair => round current pair.1 pair.2) state)

/-- The bytes of a number, most significant first. -/
def bigEndian
    (count : Nat)
    (n : Nat) :
    List UInt8 :=
  (List.range count).reverse.map fun index => UInt8.ofNat (n >>> (8 * index))

/-- A message with its padding: one bit, zeros, and the length in bits. -/
def pad (message : List UInt8) : List UInt8 :=
  let zeros := (119 - message.length % 64) % 64
  message ++ [0x80] ++ List.replicate zeros 0 ++ bigEndian 8 (8 * message.length)

/-- Words of four bytes each. -/
def words : List UInt8 → List UInt32
  | a :: b :: c :: d :: rest =>
      ((a.toUInt32 <<< 24) ||| (b.toUInt32 <<< 16) ||| (c.toUInt32 <<< 8) ||| d.toUInt32) ::
        words rest
  | _ => []

/-- Take in a number of blocks of sixteen words. -/
def absorb : (count : Nat) → State → List UInt32 → State
  | 0, state, _ => state
  | count + 1, state, message => absorb count (compress state (message.take 16)) (message.drop 16)

/-- The hash of some bytes, as eight words. -/
def sha256 (message : List UInt8) : List UInt32 :=
  let content := words (pad message)
  (absorb (content.length / 16) .start content).words

/-- Upper-case hexadecimal digits of a word. -/
def hexWord (word : UInt32) : String :=
  let digits := Nat.toDigits 16 word.toNat
  String.ofList ((List.replicate (8 - digits.length) '0' ++ digits).map Char.toUpper)

/-- Upper-case hexadecimal digits of the first word of a text's hash. -/
def fingerprint (text : String) : String :=
  hexWord ((sha256 text.toUTF8.toList).headD 0)

end WorkflowConditions.Digest
