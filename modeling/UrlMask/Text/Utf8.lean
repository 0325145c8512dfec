/-!
# UTF-8

* `Utf8.encode`: the bytes of a text.
* `Utf8.decode?`: the text of well-formed bytes.
* `Utf8.decodeLossy`: the text of any bytes; each longest run that begins a character and breaks
  off becomes one replacement character.
-/
namespace UrlMask.Utf8

def encode (s : List Char) : List UInt8 := s.flatMap String.utf8EncodeChar

/-- The replacement character. -/
def replacement : Char := Char.ofNat 0xFFFD

/-- A byte that goes on with a character. -/
def isCont (b : UInt8) : Bool := 0x80 ≤ b && b < 0xC0

/-- The number of bytes that the first byte asks for, and the range of the byte after it. -/
def shape (b : UInt8) : Option (Nat × UInt8 × UInt8) :=
  if b < 0x80 then some (1, 0, 0)
  else if b < 0xC2 then none
  else if b < 0xE0 then some (2, 0x80, 0xBF)
  else if b = 0xE0 then some (3, 0xA0, 0xBF)
  else if b = 0xED then some (3, 0x80, 0x9F)
  else if b < 0xF0 then some (3, 0x80, 0xBF)
  else if b = 0xF0 then some (4, 0x90, 0xBF)
  else if b < 0xF4 then some (4, 0x80, 0xBF)
  else if b = 0xF4 then some (4, 0x80, 0x8F)
  else none

/-- The low six bits. -/
def low (b : UInt8) : Nat := b.toNat % 64

/-- Splits off one character, or what breaks off in place of one. -/
def step : List UInt8 → Option (Option Char × List UInt8)
  | [] => none
  | a :: r =>
    match shape a with
    | none => some (none, r)
    | some (1, _, _) => some (some (Char.ofNat a.toNat), r)
    | some (n, lo, hi) =>
      match r with
      | [] => some (none, [])
      | b :: r₁ =>
        if b < lo || hi < b then some (none, r)
        else if n = 2 then some (some (Char.ofNat (a.toNat % 32 * 64 + low b)), r₁)
        else
          match r₁ with
          | [] => some (none, [])
          | c :: r₂ =>
            if !isCont c then some (none, r₁)
            else if n = 3 then
              some (some (Char.ofNat ((a.toNat % 16 * 64 + low b) * 64 + low c)), r₂)
            else
              match r₂ with
              | [] => some (none, [])
              | d :: r₃ =>
                if !isCont d then some (none, r₂)
                else
                  some (some (Char.ofNat
                    (((a.toNat % 8 * 64 + low b) * 64 + low c) * 64 + low d)), r₃)

/-- One step a byte is enough. -/
def decodeLossyFrom : Nat → List UInt8 → List Char
  | 0, _ => []
  | fuel + 1, bs =>
    match step bs with
    | none => []
    | some (c, r) => c.getD replacement :: decodeLossyFrom fuel r

def decodeLossy (bs : List UInt8) : List Char := decodeLossyFrom bs.length bs

def decodeFrom? : Nat → List UInt8 → Option (List Char)
  | 0, _ => some []
  | fuel + 1, bs =>
    match step bs with
    | none => some []
    | some (none, _) => none
    | some (some c, r) => (decodeFrom? fuel r).map (c :: ·)

def decode? (bs : List UInt8) : Option (List Char) := decodeFrom? bs.length bs

end UrlMask.Utf8
