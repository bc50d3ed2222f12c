import Mathlib

/-!
Texts set one behind the other, each closed by a separator. A separator may
also stand inside a part, so the parts can be read back only by somebody who
knows how many separators each part holds. That knowledge is enough, and it
can be had from either end: the number of separators on one side of a cut
settles where the cut is.
-/

namespace DossierCompliance.Text

variable {α : Type}

/-- A cut at a separator is fixed by the number of separators before it. -/
theorem cut_unique_of_count [DecidableEq α] {s : α} {a b c d : List α}
    (hcount : a.count s = b.count s) (h : a ++ s :: c = b ++ s :: d) :
    a = b ∧ c = d := by
  induction a generalizing b with
  | nil =>
    cases b with
    | nil => exact ⟨rfl, (List.cons.inj h).2⟩
    | cons y b =>
      obtain ⟨hy, _⟩ := List.cons.inj h
      subst hy
      simp at hcount
  | cons x a ih =>
    cases b with
    | nil =>
      obtain ⟨hx, _⟩ := List.cons.inj h
      subst hx
      simp at hcount
    | cons y b =>
      obtain ⟨hxy, htail⟩ := List.cons.inj h
      subst hxy
      have hrest : a.count s = b.count s := by
        simpa [List.count_cons] using hcount
      obtain ⟨hab, hcd⟩ := ih hrest htail
      exact ⟨by rw [hab], hcd⟩

/-- A cut at a separator is also fixed by the number of separators behind it. -/
theorem cut_unique_of_count_after [DecidableEq α] {s : α} {a b c d : List α}
    (hcount : c.count s = d.count s) (h : a ++ s :: c = b ++ s :: d) :
    a = b ∧ c = d := by
  have htotal := congrArg (List.count s) h
  simp only [List.count_append, List.count_cons_self] at htotal
  exact cut_unique_of_count (by omega) h

/-- The parts one behind the other, each closed by a separator. -/
def framed (s : α) (parts : List (List α)) : List α :=
  parts.flatMap fun part => part ++ [s]

@[simp]
theorem framed_nil (s : α) : framed s [] = [] := rfl

@[simp]
theorem framed_cons (s : α) (part : List α) (parts : List (List α)) :
    framed s (part :: parts) = part ++ s :: framed s parts := by
  simp [framed]

theorem framed_append (s : α) (first second : List (List α)) :
    framed s (first ++ second) = framed s first ++ framed s second := by
  simp [framed]

/-- How many separators a framed text holds: one behind each part, and those
inside of the parts. -/
theorem count_framed [DecidableEq α] (s : α) (parts : List (List α)) :
    (framed s parts).count s = parts.length + (parts.map (List.count s)).sum := by
  induction parts with
  | nil => rfl
  | cons part parts ih =>
    simp only [framed_cons, List.count_append, List.count_cons_self, List.length_cons,
      List.map_cons, List.sum_cons, ih]
    omega

/-- Parts that hold the same numbers of separators are read back from the
framed text, whatever follows it. -/
theorem framed_inj [DecidableEq α] {s : α} {ps qs : List (List α)} {r t : List α}
    (hcounts : ps.map (List.count s) = qs.map (List.count s))
    (h : framed s ps ++ r = framed s qs ++ t) : ps = qs ∧ r = t := by
  induction ps generalizing qs with
  | nil =>
    cases qs with
    | nil => exact ⟨rfl, h⟩
    | cons q qs => simp at hcounts
  | cons p ps ih =>
    cases qs with
    | nil => simp at hcounts
    | cons q qs =>
      simp only [List.map_cons, List.cons.injEq] at hcounts
      obtain ⟨hhead, htail⟩ := hcounts
      simp only [framed_cons, List.append_assoc, List.cons_append] at h
      obtain ⟨hpq, hrest⟩ := cut_unique_of_count hhead h
      obtain ⟨hps, hrt⟩ := ih htail hrest
      exact ⟨by rw [hpq, hps], hrt⟩

/-- Two framed texts whose continuations hold equally many separators end at
the same place. -/
theorem framed_cut [DecidableEq α] {s : α} {ps qs : List (List α)} {r t : List α}
    (hps : ps ≠ []) (hqs : qs ≠ []) (hcount : r.count s = t.count s)
    (h : framed s ps ++ r = framed s qs ++ t) :
    framed s ps = framed s qs ∧ r = t := by
  obtain ⟨ps, p, rfl⟩ := List.eq_nil_or_concat' ps |>.resolve_left hps
  obtain ⟨qs, q, rfl⟩ := List.eq_nil_or_concat' qs |>.resolve_left hqs
  have hcut : (framed s ps ++ p) ++ s :: r = (framed s qs ++ q) ++ s :: t := by
    simpa [framed_append] using h
  obtain ⟨hfront, hrt⟩ := cut_unique_of_count_after hcount hcut
  refine ⟨?_, hrt⟩
  have hclosed := congrArg (· ++ [s]) hfront
  simpa [framed_append] using hclosed

end DossierCompliance.Text
