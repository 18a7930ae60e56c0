/-!
# UTF-8

Reading bytes as UTF-8, with the fault of the first ill-formed sequence: which bytes it takes, where
they stand, and what is wrong with them. A sequence is cut as early as it can be known to be wrong,
so the faulty bytes are the longest beginning that some character has.
-/

namespace HomeCatalog.Text

/-- What is wrong with a byte sequence. -/
inductive Utf8Problem
  /-- No character begins with this byte. -/
  | start
  /-- The next byte does not go on with the character begun. -/
  | continuation
  /-- The bytes end before the character does. -/
  | ended
deriving DecidableEq, Repr

/-- The wording of a problem. -/
def Utf8Problem.message : Utf8Problem → String
  | .start => "invalid start byte"
  | .continuation => "invalid continuation byte"
  | .ended => "unexpected end of data"

/-- The first ill-formed sequence of some bytes. -/
structure Utf8Fault where
  problem : Utf8Problem
  /-- The number of bytes before the sequence. -/
  position : Nat
  /-- The first byte of the sequence. -/
  first : UInt8
  /-- The number of bytes in the sequence, at least one. -/
  length : Nat
deriving DecidableEq, Repr

/-- The fault in words; a single byte is named and several are counted. -/
def Utf8Fault.message (f : Utf8Fault) : String :=
  if f.length = 1 then
    let digits := Nat.toDigits 16 f.first.toNat
    let byte := String.ofList (List.replicate (2 - digits.length) '0' ++ digits)
    s!"'utf-8' codec can't decode byte 0x{byte} in position {f.position}: {f.problem.message}"
  else
    let last := f.position + f.length - 1
    s!"'utf-8' codec can't decode bytes in position {f.position}-{last}: {f.problem.message}"

/-- A byte that goes on with a character. -/
def isContinuation (b : UInt8) : Bool :=
  0x80 ≤ b && b < 0xC0

/-- Whether `b` may follow the first byte of a character of three bytes: no longer form than needed,
and no surrogate. -/
def followsOfThree (first b : UInt8) : Bool :=
  isContinuation b && (first != 0xE0 || 0xA0 ≤ b) && (first != 0xED || b < 0xA0)

/-- Whether `b` may follow the first byte of a character of four bytes: no longer form than needed,
and no code point above the last. -/
def followsOfFour (first b : UInt8) : Bool :=
  isContinuation b && (first != 0xF0 || 0x90 ≤ b) && (first != 0xF4 || b < 0x90)

/-- The low six bits of a byte. -/
def payload (b : UInt8) : Nat :=
  b.toNat % 64

/-- Read bytes of which `position` have been read already, as the characters `read`, last first. -/
def decodeUtf8From (position : Nat) (read : List Char) : List UInt8 → Except Utf8Fault (List Char)
  | [] => .ok read.reverse
  | b :: rest =>
    if b < 0x80 then decodeUtf8From (position + 1) (Char.ofNat b.toNat :: read) rest
    else if b < 0xC2 then .error ⟨.start, position, b, 1⟩
    else if b < 0xE0 then
      match rest with
      | [] => .error ⟨.ended, position, b, 1⟩
      | b₁ :: rest =>
        if isContinuation b₁ then
          decodeUtf8From (position + 2) (Char.ofNat (b.toNat % 32 * 64 + payload b₁) :: read) rest
        else .error ⟨.continuation, position, b, 1⟩
    else if b < 0xF0 then
      match rest with
      | [] => .error ⟨.ended, position, b, 1⟩
      | [b₁] =>
        if followsOfThree b b₁ then .error ⟨.ended, position, b, 2⟩
        else .error ⟨.continuation, position, b, 1⟩
      | b₁ :: b₂ :: rest =>
        if !followsOfThree b b₁ then .error ⟨.continuation, position, b, 1⟩
        else if !isContinuation b₂ then .error ⟨.continuation, position, b, 2⟩
        else
          let n := b.toNat % 16 * 4096 + payload b₁ * 64 + payload b₂
          decodeUtf8From (position + 3) (Char.ofNat n :: read) rest
    else if b < 0xF5 then
      match rest with
      | [] => .error ⟨.ended, position, b, 1⟩
      | [b₁] =>
        if followsOfFour b b₁ then .error ⟨.ended, position, b, 2⟩
        else .error ⟨.continuation, position, b, 1⟩
      | [b₁, b₂] =>
        if !followsOfFour b b₁ then .error ⟨.continuation, position, b, 1⟩
        else if !isContinuation b₂ then .error ⟨.continuation, position, b, 2⟩
        else .error ⟨.ended, position, b, 3⟩
      | b₁ :: b₂ :: b₃ :: rest =>
        if !followsOfFour b b₁ then .error ⟨.continuation, position, b, 1⟩
        else if !isContinuation b₂ then .error ⟨.continuation, position, b, 2⟩
        else if !isContinuation b₃ then .error ⟨.continuation, position, b, 3⟩
        else
          let n := b.toNat % 8 * 262144 + payload b₁ * 4096 + payload b₂ * 64 + payload b₃
          decodeUtf8From (position + 4) (Char.ofNat n :: read) rest
    else .error ⟨.start, position, b, 1⟩

/-- The characters that bytes hold. -/
def decodeUtf8 (bytes : List UInt8) : Except Utf8Fault (List Char) :=
  decodeUtf8From 0 [] bytes

/-- The characters that bytes hold after an optional byte-order mark, which counts for nothing in
positions. The beginning of a mark alone is an empty text. -/
def decodeMarkedUtf8 : List UInt8 → Except Utf8Fault (List Char)
  | [] => .ok []
  | [0xEF] => .ok []
  | [0xEF, 0xBB] => .ok []
  | 0xEF :: 0xBB :: 0xBF :: rest => decodeUtf8 rest
  | bytes => decodeUtf8 bytes

/-- The bytes of a text. -/
def encodeUtf8 (s : String) : List UInt8 :=
  s.toUTF8.toList

end HomeCatalog.Text
