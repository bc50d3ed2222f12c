import DossierCompliance.Uuid
import Mathlib.Data.List.Basic

/-!
Identifiers, written and read. The text of an identifier is read as that identifier:
its digits are in small letters already, and without the hyphens it is these digits.
-/

namespace DossierCompliance.Uuid

theorem isLowerHex_of_mem {u : Uuid} {c : Char} (hc : c ∈ u.digits) : isLowerHex c = true := by
  have hvalid := u.valid
  simp only [Bool.and_eq_true, List.all_eq_true] at hvalid
  exact hvalid.2 c hc

/-- The digits are what is left of the text without hyphens. -/
theorem filter_grouped (u : Uuid) : (grouped u.digits).filter (· != '-') = u.digits := by
  have hdigits (cs : List Char) (hcs : cs.Sublist u.digits) : cs.filter (· != '-') = cs := by
    apply List.filter_eq_self.mpr
    intro c hc
    have hhex := isLowerHex_of_mem (hcs.subset hc)
    rw [bne_iff_ne]
    rintro rfl
    exact absurd hhex (by decide)
  have htake (k n : Nat) : ((u.digits.drop k).take n).Sublist u.digits :=
    (List.take_sublist _ _).trans (List.drop_sublist _ _)
  simp only [grouped, List.filter_append, hdigits _ (List.take_sublist 8 _),
    hdigits _ (htake 8 4), hdigits _ (htake 12 4), hdigits _ (htake 16 4),
    hdigits _ (List.drop_sublist 20 _), List.filter_cons]
  have hjoin (k n : Nat) : (u.digits.drop k).take n ++ u.digits.drop (k + n) = u.digits.drop k := by
    rw [← List.drop_drop, List.take_append_drop]
  simpa [hjoin 16 4, hjoin 12 4] using
    (congrArg (u.digits.take 8 ++ ·) (hjoin 8 4)).trans (List.take_append_drop 8 u.digits)

theorem length_digits (u : Uuid) : u.digits.length = 32 := by
  have hvalid := u.valid
  rw [Bool.and_eq_true, beq_iff_eq] at hvalid
  exact hvalid.1

theorem toLower_of_isLowerHex {c : Char} (h : isLowerHex c = true) : c.toLower = c := by
  have hcapital : ¬ (c.val ≥ 'A'.val ∧ c.val ≤ 'Z'.val) := by
    simp only [isLowerHex, Char.isDigit, Bool.or_eq_true, Bool.and_eq_true, decide_eq_true_eq,
      Char.le_def, UInt32.le_iff_toNat_le] at h ⊢
    simp at h ⊢
    omega
  exact dif_neg hcapital

theorem mem_grouped {digits : List Char} {c : Char} (h : c ∈ grouped digits) :
    c ∈ digits ∨ c = '-' := by
  simp only [grouped, List.mem_append, List.mem_cons] at h
  grind [List.mem_of_mem_take, List.mem_of_mem_drop]

theorem ofText?_text (u : Uuid) : ofText? u.text = some u := by
  have hlength : (grouped u.digits).length = 36 := by
    simp [grouped, u.length_digits]
  have hlower : (grouped u.digits).map Char.toLower = grouped u.digits := by
    refine (List.map_congr_left fun c hc => ?_).trans (List.map_id _)
    rcases mem_grouped hc with hdigit | rfl
    · exact toLower_of_isLowerHex (isLowerHex_of_mem hdigit)
    · rfl
  have hungrouped : ungrouped? (grouped u.digits) = some u.digits := by
    simp [ungrouped?, filter_grouped, hlength]
  rw [ofText?, text, String.toList_ofList, ofChars?, hlower]
  simp [hlength, hungrouped, ofDigits?, u.valid]

theorem text_inj {u v : Uuid} (h : u.text = v.text) : u = v := by
  have hread : some u = some v := by rw [← ofText?_text u, ← ofText?_text v, h]
  exact Option.some.inj hread

end DossierCompliance.Uuid
