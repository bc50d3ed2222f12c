import DossierCompliance.Text.Utf8

/-!
Percent encoding, as in addresses: a percent sign and two hexadecimal digits
stand for a byte. A percent sign without two such digits stands for itself.
-/

namespace DossierCompliance.Text.Percent

def digitValue? (b : UInt8) : Option Nat :=
  let n := b.toNat
  if 0x30 ≤ n && n ≤ 0x39 then some (n - 0x30)
  else if 0x41 ≤ n && n ≤ 0x46 then some (n - 0x37)
  else if 0x61 ≤ n && n ≤ 0x66 then some (n - 0x57)
  else none

def decodeBytes : List UInt8 → List UInt8
  | 0x25 :: a :: b :: rest =>
    match digitValue? a, digitValue? b with
    | some high, some low => UInt8.ofNat (16 * high + low) :: decodeBytes rest
    | _, _ => 0x25 :: decodeBytes (a :: b :: rest)
  | b :: rest => b :: decodeBytes rest
  | [] => []

def decode? (s : String) : Option String :=
  Utf8.decode? (decodeBytes (Utf8.encode s))

def decodeLenient (s : String) : String :=
  Utf8.decodeLenient (decodeBytes (Utf8.encode s))

end DossierCompliance.Text.Percent
