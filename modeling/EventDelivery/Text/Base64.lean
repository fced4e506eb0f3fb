/-!
# Octets as letters

Three octets as four of 64 letters, the last ones filled up with equals signs.
-/

namespace EventDelivery.Text

/-- The letter for a value below 64. -/
def letter64 (value : Nat) : Char :=
  if value < 26 then Char.ofNat (65 + value)
  else if value < 52 then Char.ofNat (71 + value)
  else if value < 62 then Char.ofNat (value - 4)
  else if value = 62 then '+'
  else '/'

/-- Octets as letters. -/
def base64 : List UInt8 → List Char
  | [] => []
  | [a] => [letter64 (a.toNat / 4), letter64 (a.toNat % 4 * 16), '=', '=']
  | [a, b] =>
    [letter64 (a.toNat / 4), letter64 (a.toNat % 4 * 16 + b.toNat / 16),
      letter64 (b.toNat % 16 * 4), '=']
  | a :: b :: c :: rest =>
    letter64 (a.toNat / 4) :: letter64 (a.toNat % 4 * 16 + b.toNat / 16) ::
      letter64 (b.toNat % 16 * 4 + c.toNat / 64) :: letter64 (c.toNat % 64) :: base64 rest

end EventDelivery.Text
