import WebExtract.Text.Ascii

/-!
# UTF-8

`utf8` writes characters as bytes, `ofUtf8` reads bytes. Bytes that are no character count as the
replacement character, one for each longest stretch that could begin a character.
-/
namespace WebExtract.Text

def utf8 (cs : List Char) : List UInt8 := cs.flatMap String.utf8EncodeChar

namespace Utf8

/-- A character that has begun: its bits so far, how many bytes are to come, and the bounds of the
next one. -/
structure Begun where
  value : Nat
  more : Nat
  low : Nat
  high : Nat

/-- What a byte begins: what it adds to the text, and the character it begins. -/
def lead (b : Nat) : List Char × Option Begun :=
  if b < 0x80 then ([Char.ofNat b], none)
  else if b < 0xC2 then ([replacement], none)
  else if b < 0xE0 then ([], some ⟨b % 32, 1, 0x80, 0xBF⟩)
  else if b = 0xE0 then ([], some ⟨0, 2, 0xA0, 0xBF⟩)
  else if b = 0xED then ([], some ⟨13, 2, 0x80, 0x9F⟩)
  else if b < 0xF0 then ([], some ⟨b % 16, 2, 0x80, 0xBF⟩)
  else if b = 0xF0 then ([], some ⟨0, 3, 0x90, 0xBF⟩)
  else if b < 0xF4 then ([], some ⟨b % 8, 3, 0x80, 0xBF⟩)
  else if b = 0xF4 then ([], some ⟨4, 3, 0x80, 0x8F⟩)
  else ([replacement], none)

def decode : Option Begun → List UInt8 → List Char
  | none, [] => []
  | some _, [] => [replacement]
  | none, b :: bs =>
    let (text, begun) := lead b.toNat
    text ++ decode begun bs
  | some p, b :: bs =>
    let n := b.toNat
    if p.low ≤ n ∧ n ≤ p.high then
      let value := p.value * 64 + n % 64
      if p.more ≤ 1 then Char.ofNat value :: decode none bs
      else decode (some ⟨value, p.more - 1, 0x80, 0xBF⟩) bs
    else
      let (text, begun) := lead n
      replacement :: text ++ decode begun bs

end Utf8

def ofUtf8 (bytes : List UInt8) : List Char := Utf8.decode none bytes

end WebExtract.Text
