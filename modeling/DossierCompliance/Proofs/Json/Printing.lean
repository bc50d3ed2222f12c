import DossierCompliance.Json.Reader
import DossierCompliance.Json.Printer
import DossierCompliance.Proofs.Decimal.Digits
import Mathlib.Tactic

/-!
What a written value says about the value. A string is read back as it was
written, a numeral ends where its characters end, and the first character of
a value tells what kind of value it is. So two values with one text are alike:
they differ at most in numbers that are written with the same characters.
-/

namespace DossierCompliance.Json

open Decimal (Legible numeralChar)

/-! ### Strings -/

theorem hexValue_lowerHexDigit {n : Nat} (hn : n < 16) :
    hexValue? (Text.lowerHexDigit n) = some n := by
  have hall : ∀ m < 16, hexValue? (Text.lowerHexDigit m) = some m := by decide
  exact hall n hn

/-- The four digits of a control character are read back to its code. -/
theorem readHex_control {code : Nat} (hcode : code < 0x20) (rest : List Char) :
    readHex ('0' :: '0' :: Text.lowerHexDigit (code / 16)
      :: Text.lowerHexDigit (code % 16) :: rest) = .ok (code, rest) := by
  have hzero : hexValue? '0' = some 0 := by decide
  have hhigh := hexValue_lowerHexDigit (n := code / 16) (by omega)
  have hlow := hexValue_lowerHexDigit (n := code % 16) (by omega)
  simp [readHex, hzero, hhigh, hlow]
  omega

theorem readEscape_control {c : Char} (hcode : c.toNat < 0x20) (rest : List Char) :
    readEscape ('u' :: '0' :: '0' :: Text.lowerHexDigit (c.toNat / 16)
      :: Text.lowerHexDigit (c.toNat % 16) :: rest) = .ok ⟨some c, rest⟩ := by
  have hread := readHex_control hcode rest
  have hhigh : isHighSurrogate c.toNat = false := by
    simp [isHighSurrogate]
    omega
  have hlow : isLowSurrogate c.toNat = false := by
    simp [isLowSurrogate]
    omega
  simp [readEscape, readUnicodeEscape, bind, Except.bind, pure, Except.pure, hread, hhigh, hlow]

/-- One written character is read back, and reading goes on behind it. -/
theorem readString_escapeChar (fuel : Nat) (taken : List Char) (flawed : Bool) (c : Char)
    (rest : List Char) :
    readString (fuel + 1) taken flawed (escapeChar c ++ rest) =
      readString fuel (c :: taken) flawed rest := by
  unfold escapeChar
  split
  -- the escapes of two characters
  iterate 7 next => simp [readString, readEscape]
  split
  · next hcode =>
    simp [controlEscape, readString, readEscape_control hcode]
  · next hcode =>
    rw [List.singleton_append, readString, if_neg hcode]
    all_goals simp_all

/-- A written string is read back up to its quote. -/
theorem readString_escaped (cs : List Char) (fuel : Nat) (taken : List Char) (flawed : Bool)
    (rest : List Char) (hfuel : cs.length < fuel) :
    readString fuel taken flawed (cs.flatMap escapeChar ++ '"' :: rest) =
      .closed (taken.reverse ++ cs) flawed rest := by
  induction cs generalizing fuel taken with
  | nil =>
    obtain ⟨fuel, rfl⟩ := Nat.exists_eq_add_of_lt hfuel
    simp [readString]
  | cons c cs ih =>
    obtain ⟨fuel, rfl⟩ : ∃ n, fuel = n + 1 := ⟨fuel - 1, by simp at hfuel; omega⟩
    have hrest : cs.length < fuel := by simpa using hfuel
    rw [List.flatMap_cons, List.append_assoc, readString_escapeChar, ih _ _ hrest]
    simp

/-- Two written strings at the start of one text are one string. -/
theorem stringChars_append_inj {s t : String} {r r' : List Char}
    (h : stringChars s ++ r = stringChars t ++ r') : s = t ∧ r = r' := by
  have hbody : s.toList.flatMap escapeChar ++ '"' :: r =
      t.toList.flatMap escapeChar ++ '"' :: r' := by
    simpa [stringChars] using h
  let fuel := s.toList.length + t.toList.length + 1
  have hs := readString_escaped s.toList fuel [] false r (by simp only [fuel]; omega)
  have ht := readString_escaped t.toList fuel [] false r' (by simp only [fuel]; omega)
  rw [hbody, ht] at hs
  simp only [List.reverse_nil, List.nil_append, StringEnd.closed.injEq, true_and] at hs
  exact ⟨(String.toList_injective hs.1).symm, hs.2.symm⟩

/-! ### Numerals -/

theorem legible_render_number (n : Number) : Legible n.render.toList := by
  cases n with
  | whole n =>
    cases n with
    | ofNat n => simpa [Number.render, toString, Int.repr] using Decimal.legible_toDigits n
    | negSucc n =>
      have hdigits := Decimal.legible_toDigits (n + 1)
      simpa [Number.render, toString, Int.repr] using hdigits.cons (c := '-') (by decide)
  | real x => exact Decimal.legible_render realLayout x

theorem render_number_ne_nil (n : Number) : n.render.toList ≠ [] := by
  cases n with
  | whole n => cases n <;> simp [Number.render, toString, Int.repr]
  | real x => exact Decimal.render_ne_nil realLayout x

/-- What does not go on with a numeral that stands before it. -/
abbrev Behind (r : List Char) : Prop :=
  Text.EndsRun numeralChar r

/-- A numeral ends where its characters end. -/
theorem numeral_append_inj {cs ds r s : List Char} (hcs : Legible cs) (hds : Legible ds)
    (hr : Behind r) (hs : Behind s) (h : cs ++ r = ds ++ s) : cs = ds ∧ r = s := by
  have hsame : cs = ds := by
    calc
      cs = (cs ++ r).takeWhile numeralChar := (Text.takeWhile_run hcs hr).symm
      _ = (ds ++ s).takeWhile numeralChar := by rw [h]
      _ = ds := Text.takeWhile_run hds hs
  subst hsame
  exact ⟨rfl, List.append_cancel_left h⟩

/-! ### Values -/

mutual

/-- The same value, member by member, with numbers compared as they are written. -/
def Alike : Json → Json → Prop
  | .null, .null => True
  | .bool a, .bool b => a = b
  | .number m, .number n => m.render = n.render
  | .string s, .string t => s = t
  | .array xs, .array ys => AlikeItems xs ys
  | .object ms, .object ns => AlikeMembers ms ns
  | _, _ => False

def AlikeItems : List Json → List Json → Prop
  | [], [] => True
  | x :: xs, y :: ys => Alike x y ∧ AlikeItems xs ys
  | _, _ => False

def AlikeMembers : List (String × Json) → List (String × Json) → Prop
  | [], [] => True
  | (k, v) :: ms, (l, w) :: ns => k = l ∧ Alike v w ∧ AlikeMembers ms ns
  | _, _ => False

end

/-- What the first character of a value tells about it. -/
inductive Lead where
  | null
  | bool (value : Bool)
  | number
  | string
  | array
  | object
  deriving DecidableEq

def lead : Json → Lead
  | .null => .null
  | .bool b => .bool b
  | .number _ => .number
  | .string _ => .string
  | .array _ => .array
  | .object _ => .object

def Lead.ofChar? (c : Char) : Option Lead :=
  if c = 'n' then some .null
  else if c = 't' then some (.bool true)
  else if c = 'f' then some (.bool false)
  else if c = '"' then some .string
  else if c = '[' then some .array
  else if c = openBrace then some .object
  else if numeralChar c then some .number
  else none

theorem lead_of_numeralChar {c : Char} (hc : numeralChar c = true) :
    Lead.ofChar? c = some .number := by
  unfold Lead.ofChar?
  have hne (d : Char) (hd : numeralChar d = false) : c ≠ d := by
    rintro rfl
    simp [hc] at hd
  simp [hc, hne 'n' (by decide), hne 't' (by decide), hne 'f' (by decide), hne '"' (by decide),
    hne '[' (by decide), hne openBrace (by decide)]

theorem lead_chars (j : Json) :
    ∃ c rest, j.chars = c :: rest ∧ Lead.ofChar? c = some j.lead := by
  cases j with
  | null => exact ⟨_, _, by rw [chars], by decide⟩
  | bool b => cases b <;> exact ⟨_, _, by rw [chars], by decide⟩
  | number n =>
    obtain ⟨c, rest, hchars⟩ := List.exists_cons_of_ne_nil (render_number_ne_nil n)
    have hc : numeralChar c = true := legible_render_number n c (by simp [hchars])
    exact ⟨c, rest, by rw [chars, hchars], lead_of_numeralChar hc⟩
  | string s => exact ⟨_, _, by rw [chars, stringChars, List.cons_append], rfl⟩
  | array items =>
    cases items with
    | nil => exact ⟨_, _, by rw [chars], rfl⟩
    | cons item rest => exact ⟨_, _, by rw [chars, List.cons_append], rfl⟩
  | object members =>
    rcases members with _ | ⟨⟨key, value⟩, rest⟩
    · exact ⟨_, _, by rw [chars], rfl⟩
    · exact ⟨_, _, by rw [chars, List.cons_append, List.cons_append], rfl⟩

theorem lead_eq_of_append {a b : Json} {r s : List Char}
    (h : a.chars ++ r = b.chars ++ s) : a.lead = b.lead := by
  obtain ⟨c, _, hc, hlead⟩ := lead_chars a
  obtain ⟨d, _, hd, hlead'⟩ := lead_chars b
  rw [hc, hd] at h
  obtain ⟨hcd, _⟩ := List.cons.inj h
  rw [hcd, hlead'] at hlead
  exact (Option.some.inj hlead).symm

/-- A value does not begin with a character that begins none. -/
theorem chars_append_ne {a : Json} {r s : List Char} {c : Char}
    (hc : Lead.ofChar? c = none) : a.chars ++ r ≠ c :: s := by
  obtain ⟨d, _, hd, hlead⟩ := lead_chars a
  intro h
  rw [hd] at h
  obtain ⟨hdc, _⟩ := List.cons.inj h
  rw [hdc, hc] at hlead
  cases hlead

theorem behind_itemChars (items : List Json) (r : List Char) : Behind (itemChars items ++ r) := by
  cases items <;> exact Text.endsRun_cons (by decide) _

theorem behind_memberChars (members : List (String × Json)) (r : List Char) :
    Behind (memberChars members ++ r) := by
  cases members <;> exact Text.endsRun_cons (by decide) _

mutual

/-- Two values at the start of one text are alike, and the text goes on behind
them at one place, provided that what follows does not go on with a numeral. -/
theorem chars_append_inj : ∀ (a b : Json) {r s : List Char}, Behind r → Behind s →
    a.chars ++ r = b.chars ++ s → Alike a b ∧ r = s
  | a, b, r, s, hr, hs, h => by
    have hlead := lead_eq_of_append h
    cases a <;> cases b <;> simp only [lead, Lead.bool.injEq, reduceCtorEq] at hlead
    case null.null =>
      exact ⟨trivial, List.append_cancel_left h⟩
    case bool.bool x y =>
      subst hlead
      exact ⟨rfl, List.append_cancel_left h⟩
    case number.number m n =>
      rw [chars, chars] at h
      obtain ⟨hmn, hrs⟩ := numeral_append_inj (legible_render_number m)
        (legible_render_number n) hr hs h
      exact ⟨String.toList_injective hmn, hrs⟩
    case string.string x y =>
      rw [chars, chars] at h
      exact stringChars_append_inj h
    case array.array xs ys =>
      rcases xs with _ | ⟨x, xs⟩ <;> rcases ys with _ | ⟨y, ys⟩
      · exact ⟨trivial, List.append_cancel_left h⟩
      · simp only [chars, List.cons_append, List.append_assoc, List.cons.injEq, true_and] at h
        exact absurd h.symm (chars_append_ne (by decide))
      · simp only [chars, List.cons_append, List.append_assoc, List.cons.injEq, true_and] at h
        exact absurd h (chars_append_ne (by decide))
      · simp only [chars, List.cons_append, List.append_assoc, List.cons.injEq, true_and] at h
        obtain ⟨hxy, hrest⟩ := chars_append_inj x y (behind_itemChars xs r)
          (behind_itemChars ys s) h
        obtain ⟨hitems, hrs⟩ := itemChars_append_inj xs ys hrest
        exact ⟨⟨hxy, hitems⟩, hrs⟩
    case object.object ms ns =>
      rcases ms with _ | ⟨⟨k, v⟩, ms⟩ <;> rcases ns with _ | ⟨⟨l, w⟩, ns⟩
      · exact ⟨trivial, List.append_cancel_left h⟩
      · simp [chars, stringChars, closeBrace] at h
      · simp [chars, stringChars, closeBrace] at h
      · simp only [chars, List.cons_append, List.append_assoc, List.cons.injEq, true_and] at h
        obtain ⟨hkl, hvalue⟩ := stringChars_append_inj h
        simp only [List.cons.injEq, true_and] at hvalue
        obtain ⟨hvw, hrest⟩ := chars_append_inj v w (behind_memberChars ms r)
          (behind_memberChars ns s) hvalue
        obtain ⟨hmembers, hrs⟩ := memberChars_append_inj ms ns hrest
        exact ⟨⟨hkl, hvw, hmembers⟩, hrs⟩

theorem itemChars_append_inj : ∀ (xs ys : List Json) {r s : List Char},
    itemChars xs ++ r = itemChars ys ++ s → AlikeItems xs ys ∧ r = s
  | [], [], _, _, h => ⟨trivial, List.append_cancel_left h⟩
  | [], _ :: _, _, _, h => by simp [itemChars] at h
  | _ :: _, [], _, _, h => by simp [itemChars] at h
  | x :: xs, y :: ys, r, s, h => by
    simp only [itemChars, List.cons_append, List.append_assoc, List.cons.injEq, true_and] at h
    obtain ⟨hxy, hrest⟩ := chars_append_inj x y (behind_itemChars xs r)
      (behind_itemChars ys s) h
    obtain ⟨hitems, hrs⟩ := itemChars_append_inj xs ys hrest
    exact ⟨⟨hxy, hitems⟩, hrs⟩

theorem memberChars_append_inj : ∀ (ms ns : List (String × Json)) {r s : List Char},
    memberChars ms ++ r = memberChars ns ++ s → AlikeMembers ms ns ∧ r = s
  | [], [], _, _, h => ⟨trivial, List.append_cancel_left h⟩
  | [], (_, _) :: _, _, _, h => by simp [memberChars, closeBrace] at h
  | (_, _) :: _, [], _, _, h => by simp [memberChars, closeBrace] at h
  | (k, v) :: ms, (l, w) :: ns, r, s, h => by
    simp only [memberChars, List.cons_append, List.append_assoc, List.cons.injEq, true_and] at h
    obtain ⟨hkl, hvalue⟩ := stringChars_append_inj h
    simp only [List.cons.injEq, true_and] at hvalue
    obtain ⟨hvw, hrest⟩ := chars_append_inj v w (behind_memberChars ms r)
      (behind_memberChars ns s) hvalue
    obtain ⟨hmembers, hrs⟩ := memberChars_append_inj ms ns hrest
    exact ⟨⟨hkl, hvw, hmembers⟩, hrs⟩

end

end DossierCompliance.Json
