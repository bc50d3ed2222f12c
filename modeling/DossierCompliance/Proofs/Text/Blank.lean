import DossierCompliance.Text.Blank
import Mathlib.Data.List.TakeWhile
import Mathlib.Logic.Relation

/-!
Texts without blanks. A digit is no blank, a text that begins with something
else than a blank is not blank, and a text of no blanks is its own compact form.
Two texts have one compact form when they differ in their blanks only. A text
that is not blank begins and ends with something else than a blank once the
blanks at its ends are gone.
-/

namespace DossierCompliance.Text

theorem blankChar_of_isDigit {c : Char} (hc : c.isDigit = true) : blankChar c = false := by
  simp only [Char.isDigit, Bool.and_eq_true, decide_eq_true_eq] at hc
  have hlow : (48 : Nat) ≤ c.toNat := hc.1
  have hhigh : c.toNat ≤ (57 : Nat) := hc.2
  simp [blankChar, inRanges, blankRanges]
  omega

theorem isBlank_ofList_cons {c : Char} {cs : List Char} (hc : blankChar c = false) :
    isBlank (String.ofList (c :: cs)) = false := by
  simp [isBlank, hc]

theorem compact_eq_self {s : String} (hs : ∀ c ∈ s.toList, blankChar c = false) :
    compact s = s := by
  have hkept : s.toList.filter (fun c => !blankChar c) = s.toList :=
    List.filter_eq_self.mpr fun c hc => by rw [hs c hc, Bool.not_false]
  rw [compact, hkept, String.ofList_toList]

/-! ### Spacing -/

/-- The second text is the first one with blanks inserted at some place. -/
def Inserts (s t : String) : Prop :=
  ∃ front blanks back, (∀ c ∈ blanks, blankChar c = true) ∧
    s = String.ofList (front ++ back) ∧ t = String.ofList (front ++ blanks ++ back)

/-- Texts that blanks make of each other, inserted and removed at any places. -/
def SameButBlanks : String → String → Prop :=
  Relation.EqvGen Inserts

theorem Inserts.compact_eq {s t : String} (h : Inserts s t) : compact s = compact t := by
  obtain ⟨front, blanks, back, hblanks, rfl, rfl⟩ := h
  have hnone : blanks.filter (fun c => !blankChar c) = [] :=
    List.filter_eq_nil_iff.mpr fun c hc => by simp [hblanks c hc]
  simp only [compact, String.toList_ofList, List.filter_append, hnone, List.append_nil]

theorem sameButBlanks_filter (front cs : List Char) :
    SameButBlanks (String.ofList (front ++ cs.filter fun c => !blankChar c))
      (String.ofList (front ++ cs)) := by
  -- The characters before the first blank that is still to be removed stay in front.
  induction cs generalizing front with
  | nil => exact .refl _
  | cons c cs ih =>
    cases hc : blankChar c with
    | true =>
      have hinserted : Inserts (String.ofList (front ++ cs)) (String.ofList (front ++ c :: cs)) :=
        ⟨front, [c], cs, List.forall_mem_singleton.mpr hc, rfl, by simp⟩
      rw [List.filter_cons_of_neg (by simp [hc])]
      exact (ih front).trans _ _ _ (.rel _ _ hinserted)
    | false =>
      have hkept := ih (front ++ [c])
      rw [List.filter_cons_of_pos (by simp [hc])]
      simpa using hkept

theorem sameButBlanks_compact (s : String) : SameButBlanks (compact s) s := by
  have hremoved := sameButBlanks_filter [] s.toList
  rwa [List.nil_append, List.nil_append, String.ofList_toList] at hremoved

theorem compact_eq_iff {s t : String} : compact s = compact t ↔ SameButBlanks s t := by
  constructor
  · intro h
    have hs := sameButBlanks_compact s
    rw [h] at hs
    exact (hs.symm _ _).trans _ _ _ (sameButBlanks_compact t)
  · intro h
    induction h with
    | rel _ _ hinserts => exact hinserts.compact_eq
    | refl _ => rfl
    | symm _ _ _ ih => exact ih.symm
    | trans _ _ _ _ _ hfirst hsecond => exact hfirst.trans hsecond

/-! ### The ends of a text -/

/-- A text that begins and ends with something else than a blank. -/
def IsTidy (s : String) : Prop :=
  (∃ c ∈ s.toList.head?, blankChar c = false) ∧ ∃ c ∈ s.toList.getLast?, blankChar c = false

theorem head?_skipBlanks {cs : List Char} (hcs : skipBlanks cs ≠ []) :
    ∃ c ∈ (skipBlanks cs).head?, blankChar c = false :=
  ⟨(skipBlanks cs).head hcs, List.head?_eq_some_head hcs, List.head_dropWhile_not blankChar hcs⟩

theorem getLast?_skipBlanks {cs : List Char} (hcs : skipBlanks cs ≠ []) :
    (skipBlanks cs).getLast? = cs.getLast? := by
  have hsuffix : skipBlanks cs <:+ cs := List.dropWhile_suffix _
  rw [List.getLast?_eq_some_getLast hcs, hsuffix.getLast hcs, List.getLast?_eq_some_getLast]

theorem skipBlanks_ne_nil {cs : List Char} {c : Char} (hmem : c ∈ cs) (hc : blankChar c = false) :
    skipBlanks cs ≠ [] := by
  intro hnil
  have hblank : blankChar c = true := List.dropWhile_eq_nil_iff.mp hnil c hmem
  rw [hc] at hblank
  cases hblank

/-- Something is left of a text that is not blank. -/
theorem trim_ne_empty {s : String} (hs : isBlank s = false) : trim s ≠ "" := by
  obtain ⟨c, hmem, hc⟩ : ∃ c ∈ s.toList, blankChar c = false := by simpa [isBlank] using hs
  obtain ⟨first, hfirst, hfirstBlank⟩ := head?_skipBlanks (skipBlanks_ne_nil hmem hc)
  have hback : first ∈ (skipBlanks s.toList).reverse :=
    List.mem_reverse.mpr (List.mem_of_mem_head? hfirst)
  have hkept := skipBlanks_ne_nil hback hfirstBlank
  simpa [trim, trimChars] using hkept

/-- What is left of a text without the blanks at its ends begins and ends with
something else, if anything is left. -/
theorem isTidy_trim {s : String} (hs : trim s ≠ "") : IsTidy (trim s) := by
  have hback : skipBlanks (skipBlanks s.toList).reverse ≠ [] := by
    simpa [trim, trimChars] using hs
  have hfront : skipBlanks s.toList ≠ [] := by
    intro hnil
    rw [hnil] at hback
    exact hback rfl
  rw [trim, IsTidy, String.toList_ofList, trimChars, List.head?_reverse, List.getLast?_reverse,
    getLast?_skipBlanks hback, List.getLast?_reverse]
  exact ⟨head?_skipBlanks hfront, head?_skipBlanks hback⟩

end DossierCompliance.Text
