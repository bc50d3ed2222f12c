import DossierCompliance.Decimal.Layout
import DossierCompliance.Decimal.Literal
import DossierCompliance.Proofs.Text.Characters
import Mathlib

/-!
Decimal digits: the digits written for a number read back to it, and the text
of a binary64 number is made of the characters of numerals only.
-/

namespace DossierCompliance.Decimal

theorem isDigit_toDigits {n : Nat} {c : Char} (hc : c ∈ Nat.toDigits 10 n) :
    c.isDigit = true :=
  Nat.isDigit_of_mem_toDigits (by decide) (by decide) hc

@[simp]
theorem ofDigits_toDigits (n : Nat) : ofDigits (Nat.toDigits 10 n) = n :=
  Nat.ofDigitChars_ten_toDigits

theorem ofDigits_append (cs ds : List Char) :
    ofDigits (cs ++ ds) = 10 ^ ds.length * ofDigits cs + ofDigits ds := by
  have happend := Nat.ofDigitChars_append (b := 10) (l := cs) (m := ds) 0
  rw [Nat.ofDigitChars_eq_ofDigitChars_zero (l := ds)] at happend
  exact happend

/-- Zeros in front do not count. -/
@[simp]
theorem ofDigits_zeros_append (k : Nat) (ds : List Char) :
    ofDigits (List.replicate k '0' ++ ds) = ofDigits ds := by
  induction k with
  | zero => rfl
  | succ k ih => exact ih

/-- A text made of decimal digits alone. -/
abbrev AllDigits (cs : List Char) : Prop :=
  Text.MadeOf Char.isDigit cs

theorem toNat_of_isDigit {c : Char} (hc : c.isDigit = true) : 48 ≤ c.toNat ∧ c.toNat ≤ 57 := by
  simp only [Char.isDigit, Bool.and_eq_true, decide_eq_true_eq] at hc
  exact hc

theorem digitValue_lt {c : Char} (hc : c.isDigit = true) : digitValue c < 10 := by
  have hrange := toNat_of_isDigit hc
  unfold digitValue
  omega

theorem ofDigits_lt {ds : List Char} (hds : AllDigits ds) : ofDigits ds < 10 ^ ds.length := by
  induction ds using List.reverseRecOn with
  | nil => decide
  | append_singleton ds c ih =>
    have hfront := ih fun d hd => hds d (List.mem_append_left _ hd)
    have hlast : ofDigits [c] < 10 := by
      simpa [ofDigits] using digitValue_lt (hds c (by simp))
    rw [ofDigits_append, List.length_append, List.length_singleton, Nat.pow_succ]
    omega

/-- The first digits of a number write what is left of it after division. -/
theorem ofDigits_take {ds : List Char} (hds : AllDigits ds) (k : Nat) :
    ofDigits (ds.take k) = ofDigits ds / 10 ^ (ds.length - k) := by
  have hlow := ofDigits_lt (hds.sublist (List.drop_sublist k ds))
  rw [List.length_drop] at hlow
  have hsplit := ofDigits_append (ds.take k) (ds.drop k)
  rw [List.take_append_drop, List.length_drop] at hsplit
  rw [hsplit, Nat.mul_add_div (Nat.pow_pos (by decide)), Nat.div_eq_of_lt hlow, Nat.add_zero]

theorem digitValue_inj {c d : Char} (hc : c.isDigit = true) (hd : d.isDigit = true)
    (h : digitValue c = digitValue d) : c = d := by
  have hrangeC := toNat_of_isDigit hc
  have hrangeD := toNat_of_isDigit hd
  unfold digitValue at h
  exact Char.toNat_inj.mp (by omega)

/-- Two runs of equally many digits that write one number are one run. -/
theorem ofDigits_inj {cs ds : List Char} (hcs : AllDigits cs) (hds : AllDigits ds)
    (hlength : cs.length = ds.length) (h : ofDigits cs = ofDigits ds) : cs = ds := by
  induction cs using List.reverseRecOn generalizing ds with
  | nil => exact (List.length_eq_zero_iff.mp hlength.symm).symm
  | append_singleton cs c ih =>
    obtain ⟨ds, d, rfl⟩ := List.eq_nil_or_concat' ds |>.resolve_left (by
      rintro rfl
      simp at hlength)
    have hc := hcs c (by simp)
    have hd := hds d (by simp)
    have hltC := digitValue_lt hc
    have hltD := digitValue_lt hd
    simp only [ofDigits_append, List.length_singleton] at h
    have hlastC : ofDigits [c] = digitValue c := by simp [ofDigits]
    have hlastD : ofDigits [d] = digitValue d := by simp [ofDigits]
    rw [hlastC, hlastD] at h
    have hfront : cs = ds := ih (fun x hx => hcs x (List.mem_append_left _ hx))
      (fun x hx => hds x (List.mem_append_left _ hx)) (by simpa using hlength) (by omega)
    have hlast : c = d := digitValue_inj hc hd (by omega)
    rw [hfront, hlast]

/-! ### Characters of numerals -/

/-- A character that the text of a number may hold. -/
def numeralChar (c : Char) : Bool :=
  c.isDigit || c == '-' || c == '+' || c == '.' || c == 'e'

theorem numeralChar_of_isDigit {c : Char} (hc : c.isDigit = true) : numeralChar c = true := by
  simp [numeralChar, hc]

theorem uncontrolled_of_numeralChar {c : Char} (hc : numeralChar c = true) :
    Text.uncontrolled c = true := by
  simp only [numeralChar, Bool.or_eq_true, beq_iff_eq] at hc
  rcases hc with (((hdigit | rfl) | rfl) | rfl) | rfl
  · have hrange := toNat_of_isDigit hdigit
    have hspace : 0x20 ≤ c.toNat := by omega
    simpa [Text.uncontrolled] using hspace
  all_goals decide

/-- A text made of characters of numerals alone. -/
abbrev Legible (cs : List Char) : Prop :=
  Text.MadeOf numeralChar cs

theorem legible_toDigits (n : Nat) : Legible (Nat.toDigits 10 n) :=
  fun _ hc => numeralChar_of_isDigit (isDigit_toDigits hc)

theorem legible_zeros (n : Nat) : Legible (zeros n) :=
  Text.madeOf_replicate n (by decide)

theorem legible_shortest (x : Float) : Legible (shortest x).digits := by
  apply (legible_toDigits _).sublist
  have hkept := (List.dropWhile_sublist (· == '0')
    (l := (Nat.toDigits 10 ((Interval.ofFloat x).point
      ((Nat.toDigits 10 (Interval.ofFloat x).value).length - 1))).reverse)).reverse
  simpa [shortest, Digits.ofNat] using hkept

theorem legible_plain {d : Digits} (hd : Legible d.digits) : Legible (plain d) := by
  unfold plain
  dsimp only
  split
  · exact .cons (by decide) (.cons (by decide) ((legible_zeros _).append hd))
  split
  · exact (hd.append (legible_zeros _)).append
      (.cons (by decide) (.cons (by decide) Text.madeOf_nil))
  · exact (hd.sublist (List.take_sublist _ _)).append
      (.cons (by decide) (hd.sublist (List.drop_sublist _ _)))

theorem legible_scientific {d : Digits} (hd : Legible d.digits) (exponent : Int) :
    Legible (scientific d exponent) := by
  unfold scientific
  refine ((hd.sublist (List.take_sublist _ _)).append ?_).append
    (.cons (by decide) (.cons ?_ (legible_toDigits _)))
  · split
    · exact Text.madeOf_nil
    · next rest hrest =>
      have hrest : Legible (d.digits.drop 1) := hd.sublist (List.drop_sublist _ _)
      exact .cons (by decide) (by simp_all)
  · split <;> decide

/-- The text of a number holds characters of numerals only, whatever the
number and the layout. -/
theorem legible_render (style : Layout) (x : Float) : Legible (style.render x).toList := by
  have hdigits : Legible (if x == 0.0 then ['0', '.', '0'] else style.write (shortest x)) := by
    split
    · exact .cons (by decide) (.cons (by decide) (.cons (by decide) Text.madeOf_nil))
    · unfold Layout.write
      dsimp only
      split
      · exact legible_plain (legible_shortest x)
      · exact legible_scientific (legible_shortest x) _
  simp only [Layout.render, String.toList_ofList]
  split
  · exact .cons (by decide) hdigits
  · exact hdigits

theorem render_ne_nil (style : Layout) (x : Float) : (style.render x).toList ≠ [] := by
  simp only [Layout.render, String.toList_ofList]
  split
  · exact List.cons_ne_nil _ _
  split
  · exact List.cons_ne_nil _ _
  · unfold Layout.write
    dsimp only
    split
    · unfold plain
      dsimp only
      split
      · exact List.cons_ne_nil _ _
      split <;> simp
    · simp [scientific]

end DossierCompliance.Decimal
