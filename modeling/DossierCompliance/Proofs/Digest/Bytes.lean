import DossierCompliance.Digest.Sha256
import DossierCompliance.Proofs.Json.Printing
import DossierCompliance.Audit.Entry

/-!
Digests and their texts. A digest is told by its hexadecimal text, so two runs of
bytes with one such text are the same, or they collide.
-/

namespace DossierCompliance.Digest

theorem lowerHexDigit_inj {m n : Nat} (hm : m < 16) (hn : n < 16)
    (h : Text.lowerHexDigit m = Text.lowerHexDigit n) : m = n := by
  have hvalue := Json.hexValue_lowerHexDigit hm
  rw [h, Json.hexValue_lowerHexDigit hn] at hvalue
  exact (Option.some.inj hvalue).symm

/-- A digest is told by its hexadecimal text. -/
theorem hexText_inj {xs ys : List UInt8} (h : AuditEntry.hexText xs = AuditEntry.hexText ys) :
    xs = ys := by
  have hdigits := String.ofList_injective h
  clear h
  induction xs generalizing ys with
  | nil =>
    cases ys with
    | nil => rfl
    | cons y ys => simp at hdigits
  | cons x xs ih =>
    cases ys with
    | nil => simp at hdigits
    | cons y ys =>
      simp only [List.flatMap_cons, List.cons_append, List.nil_append, List.cons.injEq] at hdigits
      obtain ⟨hhigh, hlow, hrest⟩ := hdigits
      have hx := x.toNat_lt
      have hy := y.toNat_lt
      have hquotient := lowerHexDigit_inj (by omega) (by omega) hhigh
      have hremainder := lowerHexDigit_inj (by omega) (by omega) hlow
      have hbyte : x = y := UInt8.toNat_inj.mp (by omega)
      rw [hbyte, ih hrest]

/-- Two different runs of bytes with one digest. -/
def Collision (xs ys : List UInt8) : Prop :=
  xs ≠ ys ∧ sha256 xs = sha256 ys

theorem eq_or_collision {xs ys : List UInt8}
    (h : AuditEntry.hexText (sha256 xs) = AuditEntry.hexText (sha256 ys)) :
    xs = ys ∨ Collision xs ys := by
  by_cases heq : xs = ys
  · exact Or.inl heq
  · exact Or.inr ⟨heq, hexText_inj h⟩

end DossierCompliance.Digest
