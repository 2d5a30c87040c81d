import ContractLint.Text.Quoted

/-! # The MD5 digest

The 128-bit digest from which the identifiers of findings are cut.
-/

namespace ContractLint.Digest

def octetText (octet : UInt8) : String := Text.hexText 2 octet.toNat

/-- The octets of a message followed by the mark of its end and zeros, up to eight octets before a
whole number of blocks. -/
def padded (message : List UInt8) : List UInt8 :=
  let zeros := (119 - message.length % 64) % 64
  message ++ 0x80 :: List.replicate zeros 0

/-- A list cut into pieces of a size; `count` bounds the number of pieces. -/
def pieces {α : Type} (size : Nat) : Nat → List α → List (List α)
  | 0, _ => []
  | count + 1, items =>
    if items.isEmpty then [] else items.take size :: pieces size count (items.drop size)

/-- The octets of a 64-bit number, the lowest first. -/
def lowOctets (n : Nat) : List UInt8 := (List.range 8).map fun i => UInt8.ofNat (n / Nat.pow 256 i)

end ContractLint.Digest

namespace ContractLint.Digest.Md5

structure State where
  a : UInt32
  b : UInt32
  c : UInt32
  d : UInt32
deriving DecidableEq, Repr

def State.start : State := ⟨0x67452301, 0xefcdab89, 0x98badcfe, 0x10325476⟩

def constants : List UInt32 := [
    0xd76aa478, 0xe8c7b756, 0x242070db, 0xc1bdceee, 0xf57c0faf, 0x4787c62a, 0xa8304613, 0xfd469501,
    0x698098d8, 0x8b44f7af, 0xffff5bb1, 0x895cd7be, 0x6b901122, 0xfd987193, 0xa679438e, 0x49b40821,
    0xf61e2562, 0xc040b340, 0x265e5a51, 0xe9b6c7aa, 0xd62f105d, 0x02441453, 0xd8a1e681, 0xe7d3fbc8,
    0x21e1cde6, 0xc33707d6, 0xf4d50d87, 0x455a14ed, 0xa9e3e905, 0xfcefa3f8, 0x676f02d9, 0x8d2a4c8a,
    0xfffa3942, 0x8771f681, 0x6d9d6122, 0xfde5380c, 0xa4beea44, 0x4bdecfa9, 0xf6bb4b60, 0xbebfbc70,
    0x289b7ec6, 0xeaa127fa, 0xd4ef3085, 0x04881d05, 0xd9d4d039, 0xe6db99e5, 0x1fa27cf8, 0xc4ac5665,
    0xf4292244, 0x432aff97, 0xab9423a7, 0xfc93a039, 0x655b59c3, 0x8f0ccc92, 0xffeff47d, 0x85845dd1,
    0x6fa87e4f, 0xfe2ce6e0, 0xa3014314, 0x4e0811a1, 0xf7537e82, 0xbd3af235, 0x2ad7d2bb, 0xeb86d391]

def rotations : List UInt32 :=
  List.flatten ([[7, 12, 17, 22], [5, 9, 14, 20], [4, 11, 16, 23], [6, 10, 15, 21]].map fun four =>
    four ++ four ++ four ++ four)

def rotateLeft (x amount : UInt32) : UInt32 := (x <<< amount) ||| (x >>> (32 - amount))

/-- The mixing function of a round and the word of the block that it takes. -/
def mixing (round : Nat) (s : State) : UInt32 × Nat :=
  if round < 16 then ((s.b &&& s.c) ||| (~~~s.b &&& s.d), round)
  else if round < 32 then ((s.d &&& s.b) ||| (~~~s.d &&& s.c), (5 * round + 1) % 16)
  else if round < 48 then (s.b ^^^ s.c ^^^ s.d, (3 * round + 5) % 16)
  else (s.c ^^^ (s.b ||| ~~~s.d), (7 * round) % 16)

def roundStep (words : List UInt32) (s : State) (round : Nat × UInt32 × UInt32) : State :=
  let (index, constant, amount) := round
  let (mixed, place) := mixing index s
  let sum := mixed + s.a + constant + words.getD place 0
  ⟨s.d, s.b + rotateLeft sum amount, s.b, s.c⟩

/-- The words of a block, the lowest octet first. -/
def blockWords (block : List UInt8) : List UInt32 :=
  (pieces 4 16 block).map fun four =>
    four.foldr (fun octet word => (word <<< 8) ||| octet.toUInt32) 0

def absorb (s : State) (block : List UInt8) : State :=
  let words := blockWords block
  let rounds := (List.range 64).zip (constants.zip rotations)
  let t := rounds.foldl (roundStep words) s
  ⟨s.a + t.a, s.b + t.b, s.c + t.c, s.d + t.d⟩

/-- The octets of a word, the lowest first. -/
def wordOctets (word : UInt32) : List UInt8 :=
  [word.toUInt8, (word >>> 8).toUInt8, (word >>> 16).toUInt8, (word >>> 24).toUInt8]

def hex (message : List UInt8) : String :=
  let all := padded message ++ lowOctets (8 * message.length)
  let s := (pieces 64 all.length all).foldl absorb State.start
  String.join (([s.a, s.b, s.c, s.d].flatMap wordOctets).map octetText)

end ContractLint.Digest.Md5
