import UrlMask.Text.Utf8

/-!
# Percent encoding

A byte is written as `%` and two hexadecimal digits. Each part of a URL has its own set of ASCII
characters that are written so; every other byte of a non-ASCII character is, too.

* `Percent.encode`: a text with the characters of a set encoded.
* `Percent.decode`: the bytes that a text stands for.
-/
namespace UrlMask.Percent

/-- A set of ASCII characters that are encoded. -/
abbrev EncodeSet := Char → Bool

namespace EncodeSet

def control : EncodeSet := fun c => c.toNat < 0x20 || c.toNat == 0x7F

def fragment : EncodeSet := fun c =>
  control c || c == ' ' || c == '"' || c == '<' || c == '>' || c == '\x60'

def path : EncodeSet := fun c =>
  fragment c || c == '#' || c == '?' || c == '\x7b' || c == '\x7d'

def userinfo : EncodeSet := fun c =>
  path c || c == '/' || c == ':' || c == ';' || c == '=' || c == '@' || c == '[' || c == '\\' ||
    c == ']' || c == '^' || c == '|'

def query : EncodeSet := fun c =>
  control c || c == ' ' || c == '"' || c == '#' || c == '<' || c == '>'

def specialQuery : EncodeSet := fun c => query c || c == '\''

end EncodeSet

/-- A hexadecimal digit, in upper case. -/
def hexChar (n : Nat) : Char := if n < 10 then Char.ofNat (48 + n) else Char.ofNat (55 + n)

def encodeByte (b : UInt8) : List Char := ['%', hexChar (b.toNat / 16), hexChar (b.toNat % 16)]

def encodeChar (s : EncodeSet) (c : Char) : List Char :=
  if c.toNat < 0x80 && !s c then [c] else (String.utf8EncodeChar c).flatMap encodeByte

def encode (s : EncodeSet) (text : List Char) : List Char := text.flatMap (encodeChar s)

def hexValue? (b : UInt8) : Option Nat :=
  if 48 ≤ b && b ≤ 57 then some (b.toNat - 48)
  else if 65 ≤ b && b ≤ 70 then some (b.toNat - 55)
  else if 97 ≤ b && b ≤ 102 then some (b.toNat - 87)
  else none

/-- Replaces each `%` that two hexadecimal digits follow by the byte they name. -/
def decodeBytes : List UInt8 → List UInt8
  | 0x25 :: a :: b :: r =>
    match hexValue? a, hexValue? b with
    | some x, some y => UInt8.ofNat (x * 16 + y) :: decodeBytes r
    | _, _ => 0x25 :: decodeBytes (a :: b :: r)
  | c :: r => c :: decodeBytes r
  | [] => []

/-- The bytes that a text stands for. -/
def decode (text : List Char) : List UInt8 := decodeBytes (Utf8.encode text)

end UrlMask.Percent
