import ContractLint.Digest.Md5

/-! # The SHA-256 digest

The 256-bit digest by which uploaded files are recorded.
-/

namespace ContractLint.Digest.Sha256

structure State where
  a : UInt32
  b : UInt32
  c : UInt32
  d : UInt32
  e : UInt32
  f : UInt32
  g : UInt32
  h : UInt32
deriving DecidableEq, Repr

def State.start : State :=
  ⟨0x6a09e667, 0xbb67ae85, 0x3c6ef372, 0xa54ff53a,
   0x510e527f, 0x9b05688c, 0x1f83d9ab, 0x5be0cd19⟩

def constants : List UInt32 := [
    0x428a2f98, 0x71374491, 0xb5c0fbcf, 0xe9b5dba5, 0x3956c25b, 0x59f111f1, 0x923f82a4, 0xab1c5ed5,
    0xd807aa98, 0x12835b01, 0x243185be, 0x550c7dc3, 0x72be5d74, 0x80deb1fe, 0x9bdc06a7, 0xc19bf174,
    0xe49b69c1, 0xefbe4786, 0x0fc19dc6, 0x240ca1cc, 0x2de92c6f, 0x4a7484aa, 0x5cb0a9dc, 0x76f988da,
    0x983e5152, 0xa831c66d, 0xb00327c8, 0xbf597fc7, 0xc6e00bf3, 0xd5a79147, 0x06ca6351, 0x14292967,
    0x27b70a85, 0x2e1b2138, 0x4d2c6dfc, 0x53380d13, 0x650a7354, 0x766a0abb, 0x81c2c92e, 0x92722c85,
    0xa2bfe8a1, 0xa81a664b, 0xc24b8b70, 0xc76c51a3, 0xd192e819, 0xd6990624, 0xf40e3585, 0x106aa070,
    0x19a4c116, 0x1e376c08, 0x2748774c, 0x34b0bcb5, 0x391c0cb3, 0x4ed8aa4a, 0x5b9cca4f, 0x682e6ff3,
    0x748f82ee, 0x78a5636f, 0x84c87814, 0x8cc70208, 0x90befffa, 0xa4506ceb, 0xbef9a3f7, 0xc67178f2]

def rotateRight (x amount : UInt32) : UInt32 := (x >>> amount) ||| (x <<< (32 - amount))

/-- The words of a block, the highest octet first. -/
def blockWords (block : List UInt8) : List UInt32 :=
  (pieces 4 16 block).map fun four =>
    four.foldl (fun word octet => (word <<< 8) ||| octet.toUInt32) 0

/-- One more word of the schedule, of which the words so far are given, last first. -/
def nextWord (done : List UInt32) : UInt32 :=
  let near := done.getD 1 0
  let far := done.getD 14 0
  let small := rotateRight far 7 ^^^ rotateRight far 18 ^^^ (far >>> 3)
  let large := rotateRight near 17 ^^^ rotateRight near 19 ^^^ (near >>> 10)
  done.getD 15 0 + small + done.getD 6 0 + large

/-- The schedule of a block: its sixteen words and the words made from them. -/
def schedule (block : List UInt8) : List UInt32 :=
  ((List.range 48).foldl (fun done _ => nextWord done :: done) (blockWords block).reverse).reverse

def roundStep (s : State) (round : UInt32 × UInt32) : State :=
  let high := rotateRight s.e 6 ^^^ rotateRight s.e 11 ^^^ rotateRight s.e 25
  let choice := (s.e &&& s.f) ^^^ (~~~s.e &&& s.g)
  let first := s.h + high + choice + round.1 + round.2
  let low := rotateRight s.a 2 ^^^ rotateRight s.a 13 ^^^ rotateRight s.a 22
  let majority := (s.a &&& s.b) ^^^ (s.a &&& s.c) ^^^ (s.b &&& s.c)
  ⟨first + low + majority, s.a, s.b, s.c, s.d + first, s.e, s.f, s.g⟩

def absorb (s : State) (block : List UInt8) : State :=
  let t := (constants.zip (schedule block)).foldl roundStep s
  ⟨s.a + t.a, s.b + t.b, s.c + t.c, s.d + t.d, s.e + t.e, s.f + t.f, s.g + t.g, s.h + t.h⟩

def hex (message : List UInt8) : String :=
  let all := padded message ++ (lowOctets (8 * message.length)).reverse
  let s := (pieces 64 all.length all).foldl absorb State.start
  let words := [s.a, s.b, s.c, s.d, s.e, s.f, s.g, s.h]
  String.join ((words.flatMap fun word => (Md5.wordOctets word).reverse).map octetText)

end ContractLint.Digest.Sha256
