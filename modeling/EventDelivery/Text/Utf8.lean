/-!
# Characters as octets

The octets of a character, and the characters of octets. An octet sequence that is no character
stands for none, or for the replacement character.
-/

namespace EventDelivery.Text

def utf8 (c : Char) : List UInt8 :=
  let n := c.toNat
  if n < 0x80 then [.ofNat n]
  else if n < 0x800 then [.ofNat (0xc0 + n / 0x40), .ofNat (0x80 + n % 0x40)]
  else if n < 0x10000 then
    [.ofNat (0xe0 + n / 0x1000), .ofNat (0x80 + n / 0x40 % 0x40), .ofNat (0x80 + n % 0x40)]
  else
    [.ofNat (0xf0 + n / 0x40000), .ofNat (0x80 + n / 0x1000 % 0x40),
      .ofNat (0x80 + n / 0x40 % 0x40), .ofNat (0x80 + n % 0x40)]

/-- A character of which some octets have been read. -/
structure Partial where
  value : Nat
  /-- The number of octets to come, less one. -/
  left : Nat
  /-- The least and the greatest next octet. -/
  range : UInt8 × UInt8

/-- Reads the first octet of a character: the character itself, the character it starts, or
nothing. -/
def startOctet (octet : UInt8) : Option (Char ⊕ Partial) :=
  if octet < 0x80 then some (.inl (Char.ofNat octet.toNat))
  else if 0xc2 ≤ octet ∧ octet ≤ 0xdf then some (.inr ⟨octet.toNat - 0xc0, 0, (0x80, 0xbf)⟩)
  else if octet = 0xe0 then some (.inr ⟨0, 1, (0xa0, 0xbf)⟩)
  else if octet = 0xed then some (.inr ⟨0xd, 1, (0x80, 0x9f)⟩)
  else if 0xe1 ≤ octet ∧ octet ≤ 0xef then some (.inr ⟨octet.toNat - 0xe0, 1, (0x80, 0xbf)⟩)
  else if octet = 0xf0 then some (.inr ⟨0, 2, (0x90, 0xbf)⟩)
  else if 0xf1 ≤ octet ∧ octet ≤ 0xf3 then some (.inr ⟨octet.toNat - 0xf0, 2, (0x80, 0xbf)⟩)
  else if octet = 0xf4 then some (.inr ⟨4, 2, (0x80, 0x8f)⟩)
  else none

/-- The characters of octets; `none` in the place of a sequence that is no character. -/
def readOctets : Option Partial → List UInt8 → List (Option Char)
  | none, [] => []
  | some _, [] => [none]
  | none, octet :: rest =>
    match startOctet octet with
    | some (.inl c) => some c :: readOctets none rest
    | some (.inr started) => readOctets (some started) rest
    | none => none :: readOctets none rest
  | some started, octet :: rest =>
    if started.range.1 ≤ octet ∧ octet ≤ started.range.2 then
      let value := 0x40 * started.value + (octet.toNat - 0x80)
      match started.left with
      | 0 => some (Char.ofNat value) :: readOctets none rest
      | left + 1 => readOctets (some ⟨value, left, (0x80, 0xbf)⟩) rest
    else
      none ::
      match startOctet octet with
      | some (.inl c) => some c :: readOctets none rest
      | some (.inr again) => readOctets (some again) rest
      | none => none :: readOctets none rest

/-- The characters of octets, none when the octets are not the octets of characters. -/
def decodeUtf8? (octets : List UInt8) : Option (List Char) :=
  (readOctets none octets).mapM id

/-- The characters of octets, with replacement characters. -/
def decodeUtf8 (octets : List UInt8) : List Char :=
  (readOctets none octets).map fun c => c.getD '\ufffd'

end EventDelivery.Text
