import DossierCompliance.Proofs.Json.Members
import DossierCompliance.Proofs.Named
import DossierCompliance.Proofs.Value.Paths
import DossierCompliance.Rule.Evaluation

/-!
Verdicts and their explanations. A condition is evaluated in one walk and
explained in another; the first looks at all paths before any comparison and
stops where one does not hold, the second does neither. Both say the same: a
condition fails on its first malformed path whatever the snapshot holds, and
otherwise holds when every comparison is reported as matched.
-/

namespace DossierCompliance

open Value (Malformed)

namespace Condition

variable {c : Condition} {snapshot : Value}

/-! ### Verdicts -/

/-- The path is malformed, and those before it in the chain are not. -/
def FirstMalformed (c : Condition) (path : String) : Prop :=
  ∃ before after, c.fields = before ++ path :: after ∧ (∀ p ∈ before, ¬ Malformed p) ∧
    Malformed path

theorem malformed?_eq_some_iff {path : String} :
    c.malformed? = some path ↔ c.FirstMalformed path := by
  simp only [malformed?, List.find?_eq_some_iff_append, Bool.not_eq_true', Bool.not_eq_false',
    FirstMalformed, ← Value.wellFormed_eq_false_iff, Bool.not_eq_false]
  constructor
  · rintro ⟨hpath, before, after, hfields, hbefore⟩
    exact ⟨before, after, hfields, hbefore, hpath⟩
  · rintro ⟨before, after, hfields, hbefore, hpath⟩
    exact ⟨hpath, before, after, hfields, hbefore⟩

theorem malformed?_eq_none_iff :
    c.malformed? = none ↔ ∀ path ∈ c.fields, ¬ Malformed path := by
  simp [malformed?, ← Value.wellFormed_eq_false_iff]

/-- A condition fails on its first malformed path, whatever the snapshot. -/
theorem evaluate_eq_error_iff {why : MalformedPath} :
    c.evaluate snapshot = .error why ↔ c.FirstMalformed why.path := by
  rw [← malformed?_eq_some_iff, evaluate]
  cases c.malformed? with
  | none => simp
  | some path =>
    rw [Except.error.injEq, Option.some.injEq]
    constructor
    · rintro rfl
      rfl
    · rintro rfl
      rfl

theorem exists_error_iff :
    (∃ why, c.evaluate snapshot = .error why) ↔ ∃ path ∈ c.fields, Malformed path := by
  have hsome : (∃ path ∈ c.fields, Malformed path) ↔ c.malformed? ≠ none := by
    rw [ne_eq, malformed?_eq_none_iff]
    push Not
    rfl
  rw [hsome, evaluate]
  cases c.malformed? <;> simp

/-- A condition of well-formed paths holds when all its comparisons do. -/
theorem evaluate_eq_ok_iff {holds : Bool} :
    c.evaluate snapshot = .ok holds ↔
      (∀ path ∈ c.fields, ¬ Malformed path) ∧
        (holds = true ↔ ∀ t ∈ c.comparisons, t.holds snapshot = true) := by
  rw [← malformed?_eq_none_iff, evaluate, ← List.all_eq_true, ← Bool.eq_iff_iff]
  cases c.malformed? with
  | none => simp [eq_comm]
  | some path => simp

/-! ### Explanations -/

/-- The explanation as it is written, an item for each comparison. -/
def report (snapshot : Value) (c : Condition) : List Json :=
  (c.explain snapshot).map Explanation.toJson

end Condition

theorem Explanation.get?_toJson (e : Explanation) :
    e.toJson.get? "field" = some (.string e.field) ∧
    e.toJson.get? "operator" = some (Named.toJson e.operator) ∧
    e.toJson.get? "expected" = some e.expected.toJson ∧
    e.toJson.get? "actual" = some e.actual.toJson ∧
    e.toJson.get? "matched" = some (.bool e.isMatched) := by
  simp [toJson, Json.ofMembers, Json.get?, Members.get?_sorted, Members.get?_cons]

namespace Comparison

variable {snapshot : Value}

/-- An item says of a comparison what it compares and what it found; behind a
malformed path nothing is found and nothing matches. -/
structure Reported (snapshot : Value) (t : Comparison) (item : Json) : Prop where
  field : item.get? "field" = some (.string t.field)
  operator : item.get? "operator" = some (.string (Named.name t.operator))
  expected : item.get? "expected" = some (.ofOption Value.toJson t.operand)
  found : ¬ Malformed t.field →
    item.get? "actual" = some (snapshot.resolve t.field).toJson ∧
      item.get? "matched" = some (.bool (t.holds snapshot))
  lost : Malformed t.field →
    item.get? "actual" = some .null ∧ item.get? "matched" = some (.bool false)

theorem explain_of_malformed {t : Comparison} (h : Malformed t.field) :
    (t.explain snapshot).actual = .null ∧ (t.explain snapshot).isMatched = false := by
  simp [explain, (Value.wellFormed_eq_false_iff _).mpr h]

theorem explain_of_not_malformed {t : Comparison} (h : ¬ Malformed t.field) :
    (t.explain snapshot).actual = snapshot.resolve t.field ∧
      (t.explain snapshot).isMatched = t.holds snapshot := by
  have hlegible : Value.wellFormed t.field = true := by
    rwa [← Value.wellFormed_eq_false_iff, Bool.not_eq_false] at h
  simp [explain, hlegible, actual]

theorem reported_explain (t : Comparison) : t.Reported snapshot (t.explain snapshot).toJson := by
  obtain ⟨hfield, hoperator, hexpected, hactual, hmatched⟩ :=
    (t.explain snapshot).get?_toJson
  constructor
  · exact hfield
  · rwa [Named.toJson_eq] at hoperator
  · rw [hexpected]
    cases hoperand : t.operand <;> simp [explain, operandOrNull, hoperand, Json.ofOption,
      Value.toJson]
  · intro hwell
    obtain ⟨hseen, hholds⟩ := explain_of_not_malformed hwell
    rw [hactual, hmatched, hseen, hholds]
    exact ⟨rfl, rfl⟩
  · intro hmalformed
    obtain ⟨hseen, hholds⟩ := explain_of_malformed hmalformed
    rw [hactual, hmatched, hseen, hholds, Value.toJson]
    exact ⟨rfl, rfl⟩

end Comparison

namespace Condition

/-- There is one item for each comparison of the chain, in order. -/
theorem forall₂_report (c : Condition) (snapshot : Value) :
    List.Forall₂ (Comparison.Reported snapshot) c.comparisons (c.report snapshot) := by
  rw [report, explain, List.map_map, List.forall₂_map_right_iff, List.forall₂_same]
  intro t _
  exact t.reported_explain

/-- All items are matched when all paths are well-formed and all comparisons hold. -/
theorem matched_report_iff (c : Condition) (snapshot : Value) :
    (∀ item ∈ c.report snapshot, item.get? "matched" = some (.bool true)) ↔
      ∀ t ∈ c.comparisons, ¬ Malformed t.field ∧ t.holds snapshot = true := by
  rw [report, explain, List.map_map, List.forall_mem_map]
  refine forall₂_congr fun t _ => ?_
  have hreported : t.Reported snapshot (t.explain snapshot).toJson := t.reported_explain
  rw [Function.comp_apply]
  by_cases hmalformed : Malformed t.field
  · rw [(hreported.lost hmalformed).2]
    simp [hmalformed]
  · rw [(hreported.found hmalformed).2]
    simp [hmalformed]

/-- Evaluation and explanation agree. Whether a condition fails, and on which
path, does not depend on the snapshot: it fails on the first malformed path of
its chain. Otherwise it holds exactly when every item of its explanation is
matched. The explanation has an item for each comparison in any case. -/
theorem evaluate_agrees_with_explain (c : Condition) (snapshot : Value) :
    ((∃ why, c.evaluate snapshot = .error why) ↔ ∃ path ∈ c.fields, Malformed path) ∧
    (∀ why, c.evaluate snapshot = .error why ↔ c.FirstMalformed why.path) ∧
    (∀ why other, c.evaluate snapshot = .error why ↔ c.evaluate other = .error why) ∧
    (∀ holds, c.evaluate snapshot = .ok holds ↔
      (∀ path ∈ c.fields, ¬ Malformed path) ∧
        (holds = true ↔
          ∀ item ∈ c.report snapshot, item.get? "matched" = some (.bool true))) ∧
    List.Forall₂ (Comparison.Reported snapshot) c.comparisons (c.report snapshot) := by
  refine ⟨exists_error_iff, fun why => evaluate_eq_error_iff, ?_, ?_, forall₂_report c snapshot⟩
  · intro why other
    rw [evaluate_eq_error_iff, evaluate_eq_error_iff]
  · intro holds
    rw [evaluate_eq_ok_iff]
    refine and_congr_right fun hwell => ?_
    have hitems : (∀ item ∈ c.report snapshot, item.get? "matched" = some (.bool true)) ↔
        ∀ t ∈ c.comparisons, t.holds snapshot = true := by
      rw [matched_report_iff]
      refine forall₂_congr fun t ht => ?_
      simp [hwell _ (List.mem_map_of_mem ht)]
    rw [hitems]

/-- A malformed path fails the chain also behind a comparison that does not hold. -/
example :
    evaluate (.map [("x", .bool false)])
      (.also ⟨"x", .isTrue, none⟩ (.single ⟨"a..b", .isTrue, none⟩)) = .error ⟨"a..b"⟩ := by
  rfl

end Condition

end DossierCompliance
