import DossierCompliance.Proofs.Rule.Explanations

/-!
Conditions that are put together. The chain of two conditions is the chain of
the first with that of the second at its end, and both walks over it are made
of the walks over the parts: the paths of the second are looked at where those
of the first are well-formed, and both have to hold.
-/

namespace DossierCompliance.Condition

open Value (Malformed)

/-! ### The chain -/

theorem comparisons_and (a b : Condition) :
    (a.and b).comparisons = a.comparisons ++ b.comparisons := by
  induction a with
  | single test => rfl
  | also test rest ih => rw [Condition.and, comparisons, ih, comparisons, List.cons_append]

/-- A condition is told by its comparisons. -/
theorem comparisons_inj {a b : Condition} (h : a.comparisons = b.comparisons) : a = b := by
  have hne (c : Condition) : c.comparisons ≠ [] := by
    cases c <;> exact List.cons_ne_nil _ _
  induction a generalizing b with
  | single test =>
    cases b with
    | single other =>
      rw [comparisons, comparisons, List.singleton_inj] at h
      rw [h]
    | also other rest =>
      rw [comparisons, comparisons, List.cons.injEq] at h
      exact absurd h.2.symm (hne rest)
  | also test rest ih =>
    cases b with
    | single other =>
      rw [comparisons, comparisons, List.cons.injEq] at h
      exact absurd h.2 (hne rest)
    | also other next =>
      rw [comparisons, comparisons, List.cons.injEq] at h
      rw [h.1, ih h.2]

theorem and_assoc (a b c : Condition) : (a.and b).and c = a.and (b.and c) := by
  apply comparisons_inj
  simp only [comparisons_and, List.append_assoc]

theorem fields_and (a b : Condition) : (a.and b).fields = a.fields ++ b.fields := by
  rw [fields, comparisons_and, List.map_append, fields, fields]

/-! ### The walks -/

theorem explain_and (a b : Condition) (snapshot : Value) :
    (a.and b).explain snapshot = a.explain snapshot ++ b.explain snapshot := by
  rw [explain, comparisons_and, List.map_append, explain, explain]

/-- The paths of the second condition are looked at behind those of the first. -/
theorem malformed?_and (a b : Condition) :
    (a.and b).malformed? = a.malformed?.or b.malformed? := by
  rw [malformed?, fields_and, List.find?_append, malformed?, malformed?]

theorem evaluate_and (a b : Condition) (snapshot : Value) :
    (a.and b).evaluate snapshot = do
      let x ← a.evaluate snapshot
      let y ← b.evaluate snapshot
      return x && y := by
  unfold evaluate
  rw [malformed?_and]
  cases a.malformed? with
  | some path => rfl
  | none =>
    rw [Option.none_or]
    cases b.malformed? with
    | some path => rfl
    | none =>
      rw [comparisons_and, List.all_append]
      rfl

/-- The first malformed path of two conditions is that of the first of them, and
if it has none that of the second. -/
theorem firstMalformed_and_iff {a b : Condition} {path : String} :
    (a.and b).FirstMalformed path ↔
      a.FirstMalformed path ∨ (∀ p ∈ a.fields, ¬ Malformed p) ∧ b.FirstMalformed path := by
  rw [← malformed?_eq_some_iff, ← malformed?_eq_some_iff, ← malformed?_eq_some_iff,
    ← malformed?_eq_none_iff, malformed?_and, Option.or_eq_some_iff]

/-- Putting conditions together is conjunction. The chain has the comparisons of
the first condition and then those of the second, and how three are grouped makes
no difference. Each snapshot is explained by both in turn. It is a failure where
the first condition is malformed, with its path, and else where the second is;
otherwise both have to hold. -/
theorem and_is_conjunction (a b c : Condition) (snapshot : Value) :
    (a.and b).comparisons = a.comparisons ++ b.comparisons ∧
    (a.and b).and c = a.and (b.and c) ∧
    (a.and b).explain snapshot = a.explain snapshot ++ b.explain snapshot ∧
    (a.and b).report snapshot = a.report snapshot ++ b.report snapshot ∧
    (a.and b).evaluate snapshot = (do
      let x ← a.evaluate snapshot
      let y ← b.evaluate snapshot
      return x && y) ∧
    ∀ why, (a.and b).evaluate snapshot = .error why ↔
      a.FirstMalformed why.path ∨
        (∀ path ∈ a.fields, ¬ Malformed path) ∧ b.FirstMalformed why.path := by
  refine ⟨comparisons_and a b, and_assoc a b c, explain_and a b snapshot, ?_,
    evaluate_and a b snapshot, ?_⟩
  · rw [report, explain_and, List.map_append, report, report]
  · intro why
    rw [evaluate_eq_error_iff, firstMalformed_and_iff]

/-- The path of the first condition is reported, also where that of the second
is shorter, and a failure of the second is none the less for a first one that
does not hold. -/
example :
    evaluate .null ((single ⟨"a..b", .isTrue, none⟩).and (single ⟨"", .isTrue, none⟩)) =
        .error ⟨"a..b"⟩ ∧
      evaluate .null ((single ⟨"a", .isTrue, none⟩).and (single ⟨"", .isTrue, none⟩)) =
        .error ⟨""⟩ := by
  exact ⟨rfl, rfl⟩

end DossierCompliance.Condition
