/-!
# The western code page

The one-byte code page that the platform reads its files in. It agrees with Latin-1 but for the
thirty-two bytes from `0x80`: twenty-seven of these stand for other characters and five for none.
-/

namespace HomeCatalog.Text

/-- The bytes whose character is not the one of the same number. -/
def codePageExtras : List (Nat × Nat) :=
  [(0x80, 0x20AC), (0x82, 0x201A), (0x83, 0x192), (0x84, 0x201E), (0x85, 0x2026), (0x86, 0x2020),
   (0x87, 0x2021), (0x88, 0x2C6), (0x89, 0x2030), (0x8A, 0x160), (0x8B, 0x2039), (0x8C, 0x152),
   (0x8E, 0x17D), (0x91, 0x2018), (0x92, 0x2019), (0x93, 0x201C), (0x94, 0x201D), (0x95, 0x2022),
   (0x96, 0x2013), (0x97, 0x2014), (0x98, 0x2DC), (0x99, 0x2122), (0x9A, 0x161), (0x9B, 0x203A),
   (0x9C, 0x153), (0x9E, 0x17E), (0x9F, 0x178)]

/-- The byte that stands for a character. -/
def codePageByte? (c : Char) : Option UInt8 :=
  let n := c.toNat
  if n < 0x80 || (0xA0 ≤ n && n ≤ 0xFF) then some (UInt8.ofNat n)
  else (codePageExtras.find? fun e => e.2 == n).map fun e => UInt8.ofNat e.1

/-- The character that a byte stands for. -/
def codePageChar? (b : UInt8) : Option Char :=
  let n := b.toNat
  if n < 0x80 || 0xA0 ≤ n then some (Char.ofNat n)
  else (codePageExtras.lookup n).map Char.ofNat

/-- A stretch of a text that the code page cannot hold. -/
structure Unencodable where
  /-- The number of characters before it. -/
  offset : Nat
  /-- The characters without a byte, up to the next one that has one. -/
  run : List Char
deriving DecidableEq, Repr

/-- The bytes of a text, or the first stretch of it that has none. -/
def encodeCodePage (offset : Nat) : List Char → Except Unencodable (List UInt8)
  | [] => .ok []
  | c :: cs =>
    match codePageByte? c with
    | none => .error ⟨offset, c :: cs.takeWhile fun d => (codePageByte? d).isNone⟩
    | some b =>
      match encodeCodePage (offset + 1) cs with
      | .error e => .error e
      | .ok bs => .ok (b :: bs)

/-- The text that bytes stand for. -/
def decodeCodePage (bs : List UInt8) : Option (List Char) :=
  bs.mapM codePageChar?

end HomeCatalog.Text
