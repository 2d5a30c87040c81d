import ContractLint.Text.Blank

/-! # Letter case

Small and title-case forms of a character, and the lower-casing and title-casing of a whole text.
A run `(first, last, step, shift)` says that every `step`-th code point from `first` to `last` has
its other form `shift` places away.

Three rules go beyond a character-by-character map: U+0130 becomes two characters when lowered, a
few ligatures become several letters in title case, and a capital sigma at the end of a word is
lowered to the final sigma. Cased characters take part in the distinction of capital and small
letters; case-ignorable ones (accents, apostrophes, modifier letters) are skipped when a word is
inspected for its case.
-/

namespace ContractLint.Text

/-- The stretches of letters with a case. -/
def casedStretches : List Nat :=
  [65,26,6,26,47,1,10,1,4,1,5,23,1,31,1,195,1,4,4,208,1,36,7,2,30,5,96,1,42,4,2,2,2,4,1,1,6,1,1,3,1,1,1,20,1,83,1,139,
   8,166,1,38,9,41,2839,38,1,1,5,1,2,43,2,3,672,86,2,6,2178,9,7,43,2,3,64,192,64,278,2,6,2,38,2,6,2,8,1,1,1,1,1,1,1,
   31,2,53,1,7,1,1,3,3,1,7,3,4,2,6,4,13,5,3,1,7,116,1,13,1,16,13,101,1,4,1,2,10,1,1,3,5,6,1,1,1,1,1,1,4,1,6,4,1,2,4,5,
   5,4,1,17,32,3,2,817,52,1814,229,6,4,3,2,12,38,1,1,5,1,30994,46,18,30,132,102,3,4,1,59,5,2,1,1,1,5,27,2,1,3,821,43,
   1,13,7,80,20288,7,12,5,1033,26,6,26,1189,80,96,36,4,36,116,11,1,15,1,7,1,2,1,11,1,15,1,7,1,2,451,1,2,3,1,42,1,9,
   1221,51,13,51,2989,64,21856,64,25984,85,1,71,1,2,2,1,2,2,2,4,1,12,1,1,1,7,1,65,1,4,2,8,1,7,1,28,1,4,1,5,1,1,3,7,1,
   340,2,25,1,25,1,31,1,25,1,31,1,25,1,31,1,25,1,31,1,25,1,8,1844,10,1,20,2529,68,2028,26,6,26,6,26]

def ignorableStretchesPart1 : List Nat :=
  [39,1,6,1,11,1,35,1,1,1,71,1,4,1,1,1,4,1,2,2,503,192,4,2,4,1,9,2,1,1,251,7,207,1,5,1,49,45,1,1,1,2,1,2,1,1,44,1,11,
   6,10,11,1,1,35,1,10,21,16,1,101,8,1,10,1,4,33,1,1,1,30,27,91,11,58,11,4,1,2,1,24,24,43,3,44,1,7,2,6,8,41,58,55,1,1,
   1,4,8,4,1,3,7,10,2,13,1,15,1,58,1,4,4,8,1,20,2,26,1,2,2,57,1,4,2,4,2,2,3,3,1,30,2,3,1,11,2,57,1,4,5,1,2,4,1,20,2,
   22,6,1,1,58,1,2,1,1,4,8,1,7,2,11,2,30,1,61,1,12,1,50,1,3,1,55,1,1,3,5,3,1,4,7,2,11,2,29,1,58,1,2,1,6,1,5,2,20,2,28,
   2,57,2,4,4,8,1,20,2,29,1,72,1,7,3,1,1,90,1,2,7,11,9,98,1,2,9,9,1,1,6,74,2,27,1,1,1,1,1,55,14,1,5,1,2,5,11,1,36,9,1,
   102,4,1,6,1,2,2,2,25,2,4,3,16,4,13,1,2,2,6,1,15,1,94,1,608,3,946,3,29,2,30,2,30,2,64,2,1,7,8,1,2,11,3,1,5,1,45,5,
   51,1,65,2,34,1,118,3,4,2,9,1,6,3,219,2,2,1,58,1,1,7,1,1,1,1,2,8,6,10,2,1,39,1,8,31,49,4,48,1,1,5,1,1,5,1,40,9,12,2,
   32,4,2,2,1,3,56,1,1,2,3,1,1,3,58,8,2,2,64,6,82,3,1,13,1,7,4,1,6,1,3,2,50,63,13,1,34,101,445,1,1,3,11,3,13,3,13,3,
   13,2,12,5,8,2]

def ignorableStretchesPart2 : List Nat :=
  [10,1,2,1,2,5,49,5,1,10,1,1,13,1,16,13,51,33,2955,2,113,3,125,1,15,1,96,32,47,1,469,1,36,4,3,5,5,1,93,6,93,3,28438,
   1,1250,6,270,1,98,4,1,10,1,1,28,4,80,2,14,34,78,1,23,3,103,3,3,2,8,1,3,1,4,1,25,2,5,1,151,2,26,18,13,1,38,8,25,11,
   46,3,48,1,2,4,2,2,17,1,21,2,66,6,2,2,2,2,12,1,8,1,35,1,11,1,51,1,1,3,2,2,5,2,1,1,27,1,14,2,5,2,1,1,100,5,9,3,121,1,
   2,1,4,1,20272,1,147,17,573,16,3,1,12,16,34,1,2,1,169,1,7,1,6,1,11,1,35,1,1,1,47,1,45,2,67,1,21,3,513,1,226,1,149,5,
   1029,6,1,42,1,9,582,3,1,2,5,4,40,3,4,1,165,2,573,4,387,2,153,11,49,4,123,1,54,15,41,1,2,2,10,3,49,4,2,2,2,1,4,1,10,
   1,50,3,36,5,1,8,62,1,12,2,52,9,10,4,2,1,95,3,2,1,1,2,6,1,160,1,3,8,21,2,57,2,3,1,37,7,3,5,195,8,2,3,1,1,23,1,84,6,
   1,1,4,2,1,2,238,4,6,2,1,2,27,2,85,8,2,1,1,2,106,1,1,1,2,6,1,1,101,3,2,4,1,5,259,9,1,2,256,2,1,1,4,1,144,4,2,2,4,1,
   32,10,40,6,2,4,8,1,9,6,2,3,46,13,1,2,406,7,1,6,1,1,82,22,2,7,1,2,1,2,122,6,3,1,1,2,1,7,1,1,72,2,3,1,1,1,347,2,5435,
   9,14007,5,59,7,9,4,1035,1,63,17,64,2,1,2,16395,4,1,7,1,2,3230,2,1,4]

def ignorableStretchesPart3 : List Nat :=
  [4700, 46, 2, 23, 544, 3, 9, 16, 2, 7, 30, 4, 148, 3, 1979, 55, 4, 50, 8, 1, 14, 1, 22, 5, 1,
   15, 1360, 7, 1, 17, 2, 7, 1, 2, 1, 5, 261, 14, 368, 1, 61, 4, 1504, 7, 109, 8, 2735, 5,
   789505, 1, 30, 96, 128, 240]

/-- The stretches of characters that a word may hold without bearing on its case. -/
def ignorableStretches : List Nat :=
  ignorableStretchesPart1 ++ ignorableStretchesPart2 ++ ignorableStretchesPart3

/-- Capital, small and title-case letters and the marks that count as such. -/
def isCased (c : Char) : Bool := inStretches false c.toNat casedStretches

/-- Characters that are passed over when the neighbours of a letter are inspected. -/
def isCaseIgnorable (c : Char) : Bool := inStretches false c.toNat ignorableStretches

/-- Code points with a different small form. -/
def lowerRuns : List (Nat × Nat × Nat × Int) :=
  [(0x41,0x5a,1,0x20),(0xc0,0xd6,1,0x20),(0xd8,0xde,1,0x20),(0x100,0x12e,2,1),(0x130,0x130,1,-0xc7),(0x132,0x136,2,1),
   (0x139,0x147,2,1),(0x14a,0x176,2,1),(0x178,0x178,1,-0x79),(0x179,0x17d,2,1),(0x181,0x181,1,0xd2),(0x182,0x184,2,1),
   (0x186,0x186,1,0xce),(0x187,0x187,1,1),(0x189,0x18a,1,0xcd),(0x18b,0x18b,1,1),(0x18e,0x18e,1,0x4f),
   (0x18f,0x18f,1,0xca),(0x190,0x190,1,0xcb),(0x191,0x191,1,1),(0x193,0x193,1,0xcd),(0x194,0x194,1,0xcf),
   (0x196,0x196,1,0xd3),(0x197,0x197,1,0xd1),(0x198,0x198,1,1),(0x19c,0x19c,1,0xd3),(0x19d,0x19d,1,0xd5),
   (0x19f,0x19f,1,0xd6),(0x1a0,0x1a4,2,1),(0x1a6,0x1a6,1,0xda),(0x1a7,0x1a7,1,1),(0x1a9,0x1a9,1,0xda),
   (0x1ac,0x1ac,1,1),(0x1ae,0x1ae,1,0xda),(0x1af,0x1af,1,1),(0x1b1,0x1b2,1,0xd9),(0x1b3,0x1b5,2,1),
   (0x1b7,0x1b7,1,0xdb),(0x1b8,0x1b8,1,1),(0x1bc,0x1bc,1,1),(0x1c4,0x1c4,1,2),(0x1c5,0x1c5,1,1),(0x1c7,0x1c7,1,2),
   (0x1c8,0x1c8,1,1),(0x1ca,0x1ca,1,2),(0x1cb,0x1db,2,1),(0x1de,0x1ee,2,1),(0x1f1,0x1f1,1,2),(0x1f2,0x1f4,2,1),
   (0x1f6,0x1f6,1,-0x61),(0x1f7,0x1f7,1,-0x38),(0x1f8,0x21e,2,1),(0x220,0x220,1,-0x82),(0x222,0x232,2,1),
   (0x23a,0x23a,1,0x2a2b),(0x23b,0x23b,1,1),(0x23d,0x23d,1,-0xa3),(0x23e,0x23e,1,0x2a28),(0x241,0x241,1,1),
   (0x243,0x243,1,-0xc3),(0x244,0x244,1,0x45),(0x245,0x245,1,0x47),(0x246,0x24e,2,1),(0x370,0x372,2,1),
   (0x376,0x376,1,1),(0x37f,0x37f,1,0x74),(0x386,0x386,1,0x26),(0x388,0x38a,1,0x25),(0x38c,0x38c,1,0x40),
   (0x38e,0x38f,1,0x3f),(0x391,0x3a1,1,0x20),(0x3a3,0x3ab,1,0x20),(0x3cf,0x3cf,1,8),(0x3d8,0x3ee,2,1),
   (0x3f4,0x3f4,1,-0x3c),(0x3f7,0x3f7,1,1),(0x3f9,0x3f9,1,-7),(0x3fa,0x3fa,1,1),(0x3fd,0x3ff,1,-0x82),
   (0x400,0x40f,1,0x50),(0x410,0x42f,1,0x20),(0x460,0x480,2,1),(0x48a,0x4be,2,1),(0x4c0,0x4c0,1,0xf),
   (0x4c1,0x4cd,2,1),(0x4d0,0x52e,2,1),(0x531,0x556,1,0x30),(0x10a0,0x10c5,1,0x1c60),(0x10c7,0x10c7,1,0x1c60),
   (0x10cd,0x10cd,1,0x1c60),(0x13a0,0x13ef,1,0x97d0),(0x13f0,0x13f5,1,8),(0x1c90,0x1cba,1,-0xbc0),
   (0x1cbd,0x1cbf,1,-0xbc0),(0x1e00,0x1e94,2,1),(0x1e9e,0x1e9e,1,-0x1dbf),(0x1ea0,0x1efe,2,1),(0x1f08,0x1f0f,1,-8),
   (0x1f18,0x1f1d,1,-8),(0x1f28,0x1f2f,1,-8),(0x1f38,0x1f3f,1,-8),(0x1f48,0x1f4d,1,-8),(0x1f59,0x1f5f,2,-8),
   (0x1f68,0x1f6f,1,-8),(0x1f88,0x1f8f,1,-8),(0x1f98,0x1f9f,1,-8),(0x1fa8,0x1faf,1,-8),(0x1fb8,0x1fb9,1,-8),
   (0x1fba,0x1fbb,1,-0x4a),(0x1fbc,0x1fbc,1,-9),(0x1fc8,0x1fcb,1,-0x56),(0x1fcc,0x1fcc,1,-9),(0x1fd8,0x1fd9,1,-8),
   (0x1fda,0x1fdb,1,-0x64),(0x1fe8,0x1fe9,1,-8),(0x1fea,0x1feb,1,-0x70),(0x1fec,0x1fec,1,-7),(0x1ff8,0x1ff9,1,-0x80),
   (0x1ffa,0x1ffb,1,-0x7e),(0x1ffc,0x1ffc,1,-9),(0x2126,0x2126,1,-0x1d5d),(0x212a,0x212a,1,-0x20bf),
   (0x212b,0x212b,1,-0x2046),(0x2132,0x2132,1,0x1c),(0x2160,0x216f,1,0x10),(0x2183,0x2183,1,1),(0x24b6,0x24cf,1,0x1a),
   (0x2c00,0x2c2f,1,0x30),(0x2c60,0x2c60,1,1),(0x2c62,0x2c62,1,-0x29f7),(0x2c63,0x2c63,1,-0xee6),
   (0x2c64,0x2c64,1,-0x29e7),(0x2c67,0x2c6b,2,1),(0x2c6d,0x2c6d,1,-0x2a1c),(0x2c6e,0x2c6e,1,-0x29fd),
   (0x2c6f,0x2c6f,1,-0x2a1f),(0x2c70,0x2c70,1,-0x2a1e),(0x2c72,0x2c72,1,1),(0x2c75,0x2c75,1,1),
   (0x2c7e,0x2c7f,1,-0x2a3f),(0x2c80,0x2ce2,2,1),(0x2ceb,0x2ced,2,1),(0x2cf2,0x2cf2,1,1),(0xa640,0xa66c,2,1),
   (0xa680,0xa69a,2,1),(0xa722,0xa72e,2,1),(0xa732,0xa76e,2,1),(0xa779,0xa77b,2,1),(0xa77d,0xa77d,1,-0x8a04),
   (0xa77e,0xa786,2,1),(0xa78b,0xa78b,1,1),(0xa78d,0xa78d,1,-0xa528),(0xa790,0xa792,2,1),(0xa796,0xa7a8,2,1),
   (0xa7aa,0xa7aa,1,-0xa544),(0xa7ab,0xa7ab,1,-0xa54f),(0xa7ac,0xa7ac,1,-0xa54b),(0xa7ad,0xa7ad,1,-0xa541),
   (0xa7ae,0xa7ae,1,-0xa544),(0xa7b0,0xa7b0,1,-0xa512),(0xa7b1,0xa7b1,1,-0xa52a),(0xa7b2,0xa7b2,1,-0xa515),
   (0xa7b3,0xa7b3,1,0x3a0),(0xa7b4,0xa7c2,2,1),(0xa7c4,0xa7c4,1,-0x30),(0xa7c5,0xa7c5,1,-0xa543),
   (0xa7c6,0xa7c6,1,-0x8a38),(0xa7c7,0xa7c9,2,1),(0xa7d0,0xa7d0,1,1),(0xa7d6,0xa7d8,2,1),(0xa7f5,0xa7f5,1,1),
   (0xff21,0xff3a,1,0x20),(0x10400,0x10427,1,0x28),(0x104b0,0x104d3,1,0x28),(0x10570,0x1057a,1,0x27),
   (0x1057c,0x1058a,1,0x27),(0x1058c,0x10592,1,0x27),(0x10594,0x10595,1,0x27),(0x10c80,0x10cb2,1,0x40),
   (0x118a0,0x118bf,1,0x20),(0x16e40,0x16e5f,1,0x20),(0x1e900,0x1e921,1,0x22)]

/-- Letters whose title form is not the first letter that they are the small form of. -/
def titleExceptions : List (Nat × Nat) :=
  [(0xb5,0x39c),(0x131,0x49),(0x17f,0x53),(0x1c4,0x1c5),(0x1c6,0x1c5),(0x1c7,0x1c8),(0x1c9,0x1c8),(0x1ca,0x1cb),
   (0x1cc,0x1cb),(0x1f1,0x1f2),(0x1f3,0x1f2),(0x345,0x399),(0x3c2,0x3a3),(0x3d0,0x392),(0x3d1,0x398),(0x3d5,0x3a6),
   (0x3d6,0x3a0),(0x3f0,0x39a),(0x3f1,0x3a1),(0x3f5,0x395),(0x1c80,0x412),(0x1c81,0x414),(0x1c82,0x41e),
   (0x1c83,0x421),(0x1c84,0x422),(0x1c85,0x422),(0x1c86,0x42a),(0x1c87,0x462),(0x1c88,0xa64a),(0x1e9b,0x1e60),
   (0x1fbe,0x399)]

/-- Characters whose title-case form is several characters. -/
def titleExpansions : List (Nat × List Nat) :=
  [(0xdf,[0x53,0x73]),(0x149,[0x2bc,0x4e]),(0x1f0,[0x4a,0x30c]),(0x390,[0x399,0x308,0x301]),
   (0x3b0,[0x3a5,0x308,0x301]),(0x587,[0x535,0x582]),(0x1e96,[0x48,0x331]),(0x1e97,[0x54,0x308]),
   (0x1e98,[0x57,0x30a]),(0x1e99,[0x59,0x30a]),(0x1e9a,[0x41,0x2be]),(0x1f50,[0x3a5,0x313]),
   (0x1f52,[0x3a5,0x313,0x300]),(0x1f54,[0x3a5,0x313,0x301]),(0x1f56,[0x3a5,0x313,0x342]),(0x1fb2,[0x1fba,0x345]),
   (0x1fb4,[0x386,0x345]),(0x1fb6,[0x391,0x342]),(0x1fb7,[0x391,0x342,0x345]),(0x1fc2,[0x1fca,0x345]),
   (0x1fc4,[0x389,0x345]),(0x1fc6,[0x397,0x342]),(0x1fc7,[0x397,0x342,0x345]),(0x1fd2,[0x399,0x308,0x300]),
   (0x1fd3,[0x399,0x308,0x301]),(0x1fd6,[0x399,0x342]),(0x1fd7,[0x399,0x308,0x342]),(0x1fe2,[0x3a5,0x308,0x300]),
   (0x1fe3,[0x3a5,0x308,0x301]),(0x1fe4,[0x3a1,0x313]),(0x1fe6,[0x3a5,0x342]),(0x1fe7,[0x3a5,0x308,0x342]),
   (0x1ff2,[0x1ffa,0x345]),(0x1ff4,[0x38f,0x345]),(0x1ff6,[0x3a9,0x342]),(0x1ff7,[0x3a9,0x342,0x345]),
   (0xfb00,[0x46,0x66]),(0xfb01,[0x46,0x69]),(0xfb02,[0x46,0x6c]),(0xfb03,[0x46,0x66,0x69]),(0xfb04,[0x46,0x66,0x6c]),
   (0xfb05,[0x53,0x74]),(0xfb06,[0x53,0x74]),(0xfb13,[0x544,0x576]),(0xfb14,[0x544,0x565]),(0xfb15,[0x544,0x56b]),
   (0xfb16,[0x54e,0x576]),(0xfb17,[0x544,0x56d])]

/-- Small letters that also stand for one another when case is ignored. -/
def caseTwins : List (Nat × List Nat) :=
  [(0x69,[0x131]),(0x73,[0x17f]),(0xb5,[0x3bc]),(0x131,[0x69]),(0x17f,[0x73]),(0x345,[0x3b9,0x1fbe]),(0x390,[0x1fd3]),
   (0x3b0,[0x1fe3]),(0x3b2,[0x3d0]),(0x3b5,[0x3f5]),(0x3b8,[0x3d1]),(0x3b9,[0x345,0x1fbe]),(0x3ba,[0x3f0]),
   (0x3bc,[0xb5]),(0x3c0,[0x3d6]),(0x3c1,[0x3f1]),(0x3c2,[0x3c3]),(0x3c3,[0x3c2]),(0x3c6,[0x3d5]),(0x3d0,[0x3b2]),
   (0x3d1,[0x3b8]),(0x3d5,[0x3c6]),(0x3d6,[0x3c0]),(0x3f0,[0x3ba]),(0x3f1,[0x3c1]),(0x3f5,[0x3b5]),(0x432,[0x1c80]),
   (0x434,[0x1c81]),(0x43e,[0x1c82]),(0x441,[0x1c83]),(0x442,[0x1c84,0x1c85]),(0x44a,[0x1c86]),(0x463,[0x1c87]),
   (0x1c80,[0x432]),(0x1c81,[0x434]),(0x1c82,[0x43e]),(0x1c83,[0x441]),(0x1c84,[0x442,0x1c85]),
   (0x1c85,[0x442,0x1c84]),(0x1c86,[0x44a]),(0x1c87,[0x463]),(0x1c88,[0xa64b]),(0x1e61,[0x1e9b]),(0x1e9b,[0x1e61]),
   (0x1fbe,[0x345,0x3b9]),(0x1fd3,[0x390]),(0x1fe3,[0x3b0]),(0xa64b,[0x1c88]),(0xfb05,[0xfb06]),(0xfb06,[0xfb05])]

/-- The other form that a list of runs gives a code point, or the code point itself. -/
def shiftBy (code : Nat) : List (Nat × Nat × Nat × Int) → Nat
  | [] => code
  | (first, last, step, shift) :: rest =>
    if code ≤ last then
      if first ≤ code ∧ (code - first) % step = 0 then ((code : Int) + shift).toNat else code
    else shiftBy code rest

/-- The small form of one character, as a single character. -/
def lowerChar (c : Char) : Char :=
  if c.toNat < 128 then c.toLower else Char.ofNat (shiftBy c.toNat lowerRuns)

def shiftedTo (code : Nat) (runs : List (Nat × Nat × Nat × Int)) : List Nat :=
  runs.filterMap fun (first, last, step, shift) =>
    let source := ((code : Int) - shift).toNat
    if first ≤ source ∧ source ≤ last ∧ (source - first) % step = 0 then some source else none

/-- The title form of a code point: but for the exceptions, the first one whose small form it is.
Georgian letters have none. -/
def titleCode (code : Nat) : Nat :=
  match titleExceptions.lookup code with
  | some title => title
  | none =>
    if 0x10d0 ≤ code ∧ code ≤ 0x10ff then code else (shiftedTo code lowerRuns).headD code

def titleChars (c : Char) : List Char :=
  if c.toNat < 128 then [c.toUpper]
  else match titleExpansions.lookup c.toNat with
    | some codes => codes.map Char.ofNat
    | none => [Char.ofNat (titleCode c.toNat)]

def meetsCased : List Char → Bool
  | [] => false
  | c :: rest => if isCaseIgnorable c then meetsCased rest else isCased c

/-- The small form of a character between the characters before it, nearest first, and those after
it: a capital sigma after a letter and before none is the final one. -/
def lowerBetween (before : List Char) (c : Char) (after : List Char) : List Char :=
  if c.toNat = 0x3a3 then
    [if meetsCased before && !meetsCased after then Char.ofNat 0x3c2 else Char.ofNat 0x3c3]
  else if c.toNat = 0x130 then ['i', Char.ofNat 0x307]
  else [lowerChar c]

/-- Lower-cases the characters `rest`, which follow the characters `before`, nearest first. -/
def lowerAfter (before : List Char) : List Char → List Char
  | [] => []
  | c :: rest => lowerBetween before c rest ++ lowerAfter (c :: before) rest

/-- The text with every letter in its small form. -/
def lowerList (cs : List Char) : List Char := lowerAfter [] cs

/-- Title-cases the characters `rest`; `inWord` says whether the character before has a case. -/
def titleAfter (before : List Char) ( inWord : Bool) : List Char → List Char
  | [] => []
  | c :: rest =>
    (if inWord then lowerBetween before c rest else titleChars c) ++
      titleAfter (c :: before) (isCased c) rest

/-- The text with every letter in its small form. -/
def lower (s : String) : String := String.ofList (lowerList s.toList)

/-- The text with the first letter of each run of letters in title case and the others small. -/
def title (s : String) : String := String.ofList (titleAfter [] false s.toList)

/-- Two characters are the same letter when case is ignored. -/
def sameLetter (a b : Char) : Bool :=
  let small := lowerChar a
  let other := lowerChar b
  small == other || ((caseTwins.lookup small.toNat).getD []).contains other.toNat

/-- All characters that are the same letter as this one when case is ignored. -/
def letterForms (c : Char) : List Char :=
  let small := lowerChar c
  let smalls := small.toNat :: (caseTwins.lookup small.toNat).getD []
  (smalls ++ smalls.flatMap fun code => shiftedTo code lowerRuns).map Char.ofNat

end ContractLint.Text
