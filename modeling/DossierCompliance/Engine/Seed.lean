import DossierCompliance.Audit.Entry
import DossierCompliance.Engine.Program

/-!
A supply for a run of its own: the clock stands still at one instant, and the
identifiers are digests of a seed and their number, in the form of random ones.
-/

namespace DossierCompliance.Supply

/-- The digits with the marks of a random identifier: its version and variant. -/
def marked (digits : List Char) : List Char :=
  digits.take 12 ++ '4' :: ((digits.drop 13).take 3 ++ '8' :: digits.drop 17)

def digits (seed : List UInt8) (n : Nat) : List Char :=
  (AuditEntry.hexText (Digest.sha256 (seed ++ (toString n).toUTF8.toList))).toList.take 32

theorem valid_zeros :
    ((List.replicate 32 '0').length == 32 && (List.replicate 32 '0').all isLowerHex) = true := by
  decide

def ofSeed (now : Instant) (seed : List UInt8) : Supply where
  instant _ := now
  id n := (Uuid.ofDigits? (marked (digits seed n))).getD ⟨List.replicate 32 '0', valid_zeros⟩

end DossierCompliance.Supply
