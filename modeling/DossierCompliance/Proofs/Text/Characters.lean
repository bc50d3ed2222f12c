import Mathlib.Data.List.Basic

/-!
Texts made of the characters of one class. A run of such characters ends where
a character of another class comes, so that a reader who takes as many of them
as there are finds its end.
-/

namespace DossierCompliance.Text

variable {p q : Char → Bool} {c : Char} {cs ds : List Char}

/-- All characters of the text belong to the class. -/
def MadeOf (p : Char → Bool) (cs : List Char) : Prop :=
  ∀ c ∈ cs, p c = true

instance (p : Char → Bool) (cs : List Char) : Decidable (MadeOf p cs) :=
  decidable_of_iff (cs.all p = true) List.all_eq_true

theorem madeOf_nil : MadeOf p [] := by
  intro c hc
  cases hc

theorem MadeOf.cons (hc : p c = true) (hcs : MadeOf p cs) : MadeOf p (c :: cs) := by
  intro d hd
  rcases List.mem_cons.mp hd with h | h
  · exact h ▸ hc
  · exact hcs d h

theorem MadeOf.append (hcs : MadeOf p cs) (hds : MadeOf p ds) : MadeOf p (cs ++ ds) := by
  intro c hc
  rcases List.mem_append.mp hc with h | h
  · exact hcs c h
  · exact hds c h

theorem MadeOf.sublist (hds : MadeOf p ds) (h : cs.Sublist ds) : MadeOf p cs :=
  fun c hc => hds c (h.subset hc)

theorem MadeOf.mono (hcs : MadeOf p cs) (h : ∀ c, p c = true → q c = true) : MadeOf q cs :=
  fun c hc => h c (hcs c hc)

theorem madeOf_replicate (n : Nat) (hc : p c = true) : MadeOf p (List.replicate n c) := by
  intro d hd
  rw [List.eq_of_mem_replicate hd]
  exact hc

/-- The text does not go on with a character of the class. -/
def EndsRun (p : Char → Bool) (cs : List Char) : Prop :=
  ∀ c ∈ cs.head?, p c = false

theorem endsRun_nil : EndsRun p [] := by
  intro c hc
  cases hc

theorem endsRun_cons (hc : p c = false) (cs : List Char) : EndsRun p (c :: cs) := by
  intro d hd
  simp only [List.head?_cons, Option.mem_def, Option.some.injEq] at hd
  exact hd ▸ hc

/-- A run is taken up to its end. -/
theorem takeWhile_run (hcs : MadeOf p cs) (hds : EndsRun p ds) :
    (cs ++ ds).takeWhile p = cs := by
  rw [List.takeWhile_append_of_pos hcs]
  cases ds with
  | nil => simp
  | cons d ds => simp [hds d rfl]

/-- A character that the text does not hold is not counted in it. -/
theorem count_eq_zero_of_madeOf (hc : p c = false) (hcs : MadeOf p cs) : cs.count c = 0 := by
  rw [List.count_eq_zero]
  intro hmem
  rw [hcs c hmem] at hc
  cases hc

def uncontrolled (c : Char) : Bool :=
  0x20 ≤ c.toNat

/-- A text without control characters of the ASCII range. -/
abbrev NoControls (cs : List Char) : Prop :=
  MadeOf uncontrolled cs

end DossierCompliance.Text
