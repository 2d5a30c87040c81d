import ContractLint.Number.Shortest

/-! # Reading bytes as text

Bytes are read as UTF-8. A sequence that is not well formed is reported with its position, its
length and the reason.
-/

namespace ContractLint.Text.Utf8

/-- Why bytes are no text. -/
inductive Reason where
  | badStart
  | badContinuation
  | unexpectedEnd

def Reason.text : Reason → String
  | badStart => "invalid start byte"
  | badContinuation => "invalid continuation byte"
  | unexpectedEnd => "unexpected end of data"

structure Failure where
  /-- The number of bytes in front of it. -/
  position : Nat
  /-- The number of bytes concerned. -/
  length : Nat
  /-- The first of them. -/
  byte : Nat
  /-- Why they are no text. -/
  reason : Reason

def Failure.message (f : Failure) : String :=
  let place :=
    if f.length = 1 then
      let digits := Nat.toDigits 16 f.byte
      let padded := List.replicate (2 - digits.length) '0' ++ digits
      "byte 0x" ++ String.ofList padded ++ " in position " ++ Number.digitsText f.position
    else
      "bytes in position " ++ Number.digitsText f.position ++ "-"
        ++ Number.digitsText (f.position + f.length - 1)
  "'utf-8' codec can't decode " ++ place ++ ": " ++ f.reason.text

/-- The bits of a first byte and the ranges of the bytes that follow it. -/
def lead? (byte : Nat) : Option (Nat × List (Nat × Nat)) :=
  let any := (0x80, 0xBF)
  if byte < 0x80 then some (byte, [])
  else if byte < 0xC2 then none
  else if byte < 0xE0 then some (byte - 0xC0, [any])
  else if byte = 0xE0 then some (0, [(0xA0, 0xBF), any])
  else if byte = 0xED then some (0xD, [(0x80, 0x9F), any])
  else if byte < 0xF0 then some (byte - 0xE0, [any, any])
  else if byte = 0xF0 then some (0, [(0x90, 0xBF), any, any])
  else if byte < 0xF4 then some (byte - 0xF0, [any, any, any])
  else if byte = 0xF4 then some (4, [(0x80, 0x8F), any, any])
  else none

/-- The number that the bits read so far and further bytes make up; `read` is the number of bytes
already read. A failure comes with the number of bytes that were good. -/
def follow (bits read : Nat) : List (Nat × Nat) → List Nat → Except (Reason × Nat) Nat
  | [], _ => .ok bits
  | _ :: _, [] => .error (.unexpectedEnd, read)
  | (low, high) :: ranges, byte :: rest =>
    if low ≤ byte ∧ byte ≤ high then follow (bits * 64 + (byte - 0x80)) (read + 1) ranges rest
    else .error (.badContinuation, read)

/-- The characters of the bytes after the first `skip` ones, `position` being the number of bytes
in front; `held` holds the characters already read, last first. -/
def decodeFrom (position skip : Nat) (held : List Char) : List Nat → Except Failure (List Char)
  | [] => .ok held.reverse
  | byte :: rest =>
    match skip with
    | more + 1 => decodeFrom (position + 1) more held rest
    | 0 =>
      match lead? byte with
      | none => .error ⟨position, 1, byte, .badStart⟩
      | some (bits, ranges) =>
        match follow bits 1 ranges rest with
        | .error (reason, length) => .error ⟨position, length, byte, reason⟩
        | .ok code => decodeFrom (position + 1) ranges.length (Char.ofNat code :: held) rest

def decode (bytes : List Nat) : Except Failure String :=
  String.ofList <$> decodeFrom 0 0 [] bytes

end ContractLint.Text.Utf8
