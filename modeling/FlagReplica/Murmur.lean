/-!
# The 32-bit Murmur hash

The third version of the Murmur hash on a sequence of bytes: whole words of four bytes, the least
significant first, are mixed into the state one after the other, then the bytes left over, then the
length, and a last round spreads every bit over the result.
-/

namespace FlagReplica.Murmur

/-- A word turned left by so many bits. -/
def rotate (x : UInt32) (bits : UInt32) : UInt32 := (x <<< bits) ||| (x >>> (32 - bits))

/-- What a word of input contributes to the state. -/
def scramble (k : UInt32) : UInt32 := rotate (k * 0xCC9E2D51) 15 * 0x1B873593

/-- The state after a word of input. -/
def mix (h k : UInt32) : UInt32 := rotate (h ^^^ scramble k) 13 * 5 + 0xE6546B64

/-- Bytes as one word, the first the least significant. -/
def word : List UInt8 → UInt32
  | [] => 0
  | b :: bs => b.toUInt32 ||| (word bs <<< 8)

/-- The state after all bytes. -/
def absorb (h : UInt32) : List UInt8 → UInt32
  | a :: b :: c :: d :: rest => absorb (mix h (word [a, b, c, d])) rest
  | [] => h
  | rest => h ^^^ scramble (word rest)

/-- The last round. -/
def finalize (h : UInt32) : UInt32 :=
  let h := (h ^^^ (h >>> 16)) * 0x85EBCA6B
  let h := (h ^^^ (h >>> 13)) * 0xC2B2AE35
  h ^^^ (h >>> 16)

/-- The hash of some bytes under a seed. -/
def hash (seed : UInt32) (bytes : List UInt8) : UInt32 :=
  finalize (absorb seed bytes ^^^ UInt32.ofNat bytes.length)

example : hash 0 [] = 0 := by decide
example : hash 0 [0x74, 0x65, 0x73, 0x74] = 0xBA6BD213 := by decide

end FlagReplica.Murmur
