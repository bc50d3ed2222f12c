import DossierCompliance.Proofs.Assessment
import DossierCompliance.Proofs.Rule.Explanations
import DossierCompliance.Proofs.Rule.Writing

/-!
Comparisons that can never match. They are told from the operator and the kind
of the operand alone, and the warning about them is exact: it is given where no
operand of this kind is matched by any value, and nowhere else. A rule with such
a comparison is never violated. The document lists all of them, at every depth
of every chain, rule by rule.
-/

namespace DossierCompliance

/-! ### Kinds of operands -/

namespace Value

theorem number?_eq_none_iff (v : Value) : v.number? = none ↔ v.kind ≠ "number" := by
  cases v <;> simp [number?, kind]

theorem text?_eq_none_iff (v : Value) : v.text? = none ↔ v.kind ≠ "string" := by
  cases v <;> simp [text?, kind]

/-- Each kind has a value that equals itself, and a value that it differs from. -/
theorem exists_beq_of_kind (v : Value) :
    ∃ sample : Value, sample.kind = v.kind ∧ (sample == sample) = true ∧
      ∃ other : Value, (other == sample) = false := by
  cases v with
  | null => exact ⟨.null, rfl, rfl, .bool true, rfl⟩
  | bool => exact ⟨.bool true, rfl, rfl, .null, rfl⟩
  | number => exact ⟨.number 0, rfl, rfl, .null, rfl⟩
  | text => exact ⟨.text "", rfl, rfl, .null, rfl⟩
  | list => exact ⟨.list [], rfl, rfl, .null, rfl⟩
  | map => exact ⟨.map [], rfl, rfl, .null, rfl⟩

end Value

namespace Operator

variable {operand : Value}

theorem compareNumbers_of_number?_none (h : operand.number? = none) (holds : Float → Float → Bool)
    (actual : Value) : compareNumbers holds actual operand = false := by
  rw [compareNumbers, h]
  cases actual.number? <;> rfl

theorem textContains?_of_text?_none (h : operand.text? = none) (actual : Value) :
    textContains? actual operand = none := by
  rw [textContains?, h]
  cases actual.text? <;> rfl

end Operator

namespace Comparison

variable {c : Comparison}

/-- No value is matched, with this operand or with another one of its kind. An
operand that is not given is of the kind of null. -/
def NeverMatches (c : Comparison) : Prop :=
  ∀ operand : Option Value, (operand.getD .null).kind = c.operandOrNull.kind →
    ∀ actual : Value, c.operator.matchesValue actual (operand.getD .null) = false

theorem neverMatches_of_isInert (h : c.isInert = true) : c.NeverMatches := by
  intro operand hkind actual
  simp only [isInert, Bool.or_eq_true, Bool.and_eq_true, Option.isNone_iff_eq_none] at h
  obtain ⟨hnumeric, hnumber⟩ | ⟨htextual, htext⟩ := h
  · rw [Value.number?_eq_none_iff, ← hkind, ← Value.number?_eq_none_iff] at hnumber
    cases hop : c.operator with
    | less | greater | atLeast | atMost =>
      exact Operator.compareNumbers_of_number?_none hnumber _ actual
    | _ => simp [hop, Operator.isNumeric] at hnumeric
  · rw [Value.text?_eq_none_iff, ← hkind, ← Value.text?_eq_none_iff] at htext
    have hlost := Operator.textContains?_of_text?_none htext actual
    cases hop : c.operator with
    | contains | notContains => simp [Operator.matchesValue, hlost]
    | _ => simp [hop, Operator.isTextual] at htextual

/-- Where no warning is given, some value matches some operand of the kind. -/
theorem exists_match_of_not_isInert (h : c.isInert = false) :
    ∃ operand : Value, operand.kind = c.operandOrNull.kind ∧
      ∃ actual : Value, c.operator.matchesValue actual operand = true := by
  simp only [isInert, Bool.or_eq_false_iff, Bool.and_eq_false_imp, Option.isNone_eq_false_iff,
    ← Option.ne_none_iff_isSome, ne_eq, Value.number?_eq_none_iff, Value.text?_eq_none_iff,
    not_not] at h
  obtain ⟨hnumber, htext⟩ := h
  obtain ⟨sample, hkind, hself, other, hother⟩ := c.operandOrNull.exists_beq_of_kind
  cases hop : c.operator with
  | equals => exact ⟨sample, hkind, sample, hself⟩
  | notEquals => exact ⟨sample, hkind, other, by rw [Operator.matchesValue, hother]; rfl⟩
  | less => exact ⟨.number 1, (hnumber (by rw [hop]; rfl)).symm, .number 0, rfl⟩
  | greater => exact ⟨.number 0, (hnumber (by rw [hop]; rfl)).symm, .number 1, rfl⟩
  | atLeast => exact ⟨.number 0, (hnumber (by rw [hop]; rfl)).symm, .number 0, rfl⟩
  | atMost => exact ⟨.number 0, (hnumber (by rw [hop]; rfl)).symm, .number 0, rfl⟩
  | isTrue => exact ⟨c.operandOrNull, rfl, .bool true, rfl⟩
  | isFalse => exact ⟨c.operandOrNull, rfl, .bool false, rfl⟩
  | contains => exact ⟨.text "", (htext (by rw [hop]; rfl)).symm, .text "", rfl⟩
  | notContains => exact ⟨.text "a", (htext (by rw [hop]; rfl)).symm, .text "", rfl⟩

theorem isInert_iff (c : Comparison) : c.isInert = true ↔ c.NeverMatches := by
  refine ⟨neverMatches_of_isInert, fun h => ?_⟩
  by_contra hopen
  rw [Bool.not_eq_true] at hopen
  obtain ⟨operand, hkind, actual, hmatch⟩ := exists_match_of_not_isInert hopen
  rw [← Option.getD_some (a := operand) (b := Value.null), h (some operand) hkind actual] at hmatch
  cases hmatch

theorem holds_of_isInert (h : c.isInert = true) (snapshot : Value) : c.holds snapshot = false :=
  neverMatches_of_isInert h c.operand rfl _

end Comparison

/-- A chain does not hold when one of its comparisons cannot. -/
theorem Condition.evaluate_of_mem_inert {c : Condition} {t : Comparison} (ht : t ∈ c.inert)
    (snapshot : Value) : c.evaluate snapshot ≠ .ok true := by
  obtain ⟨hmem, hinert⟩ := List.mem_filter.mp ht
  intro hholds
  have hall : ∀ t ∈ c.comparisons, t.holds snapshot = true :=
    (evaluate_eq_ok_iff.mp hholds).2.mp rfl
  have hlost := Comparison.holds_of_isInert hinert snapshot
  rw [hall t hmem] at hlost
  cases hlost

namespace RuleDocument

theorem mem_inert {d : RuleDocument} {r : Rule} {c : Comparison} :
    (r, c) ∈ d.inert ↔ r ∈ d.rules ∧ c ∈ r.condition.inert := by
  simp [inert]

/-- Among the violations that rules of a loaded document are blamed for is none of
a rule that is listed. -/
theorem ruleId_ne_of_mem_inert {d : RuleDocument} (hd : d.IsLoaded) {r : Rule} {c : Comparison}
    (h : (r, c) ∈ d.inert) {input : CheckInput} {v : Violation}
    (hv : v ∈ (assess d input).violations) (hcontext : v.context = .stateChange) :
    v.ruleId ≠ r.id := by
  obtain ⟨hr, hc⟩ := mem_inert.mp h
  rcases mem_violations_assess.mp hv with ⟨check, hcheck, hfound⟩ | ⟨other, hother, hholds, rfl⟩
  · obtain ⟨message, details, rfl⟩ := Regulation.eq_blocking_of_check hcheck hfound
    cases hcontext
  · intro hid
    obtain rfl : other = r :=
      List.inj_on_of_nodup_map hd.areValid.distinct (List.mem_of_mem_filter hother) hr hid
    exact Condition.evaluate_of_mem_inert hc _ hholds

end RuleDocument

/-! ### Selections -/

/-- The items that have a property, and the places where they stand, both in the
order of the places. -/
structure Selects {ι α : Type} (before : ι → ι → Prop) (at? : ι → Option α) (P : α → Prop)
    (places : List ι) (items : List α) : Prop where
  inOrder : places.Pairwise before
  mem_iff : ∀ place, place ∈ places ↔ ∃ item, at? place = some item ∧ P item
  items_eq : places.map at? = items.map some

namespace Selects

variable {ι κ μ α β : Type} {P : α → Prop}

theorem none (before : ι → ι → Prop) : Selects before (fun _ => Option.none) P [] [] where
  inOrder := List.Pairwise.nil
  mem_iff place := by simp
  items_eq := rfl

/-- A change of all items that keeps the property does not change the places. -/
theorem map {before : ι → ι → Prop} {at? : ι → Option α} {places : List ι} {items : List α}
    (h : Selects before at? P places items) {Q : β → Prop} {f : α → β}
    (hQ : ∀ item, Q (f item) ↔ P item) :
    Selects before (fun place => (at? place).map f) Q places (items.map f) where
  inOrder := h.inOrder
  mem_iff place := by
    rw [h.mem_iff]
    cases at? place <;> simp [hQ]
  items_eq := by
    calc places.map (fun place => (at? place).map f)
        = (places.map at?).map (Option.map f) := by rw [List.map_map]; rfl
      _ = (items.map f).map some := by rw [h.items_eq, List.map_map, List.map_map]; rfl

/-- An arrangement of two parts, one before the other, is selected from part by
part. -/
theorem append {before : κ → κ → Prop} {at? : κ → Option α}
    {first : ι → ι → Prop} {first? : ι → Option α} {places : List ι} {items : List α}
    {second : μ → μ → Prop} {second? : μ → Option α} {others : List μ} {rest : List α}
    (hfirst : Selects first first? P places items) (hsecond : Selects second second? P others rest)
    {into : ι → κ} {onto : μ → κ} (hinto : ∀ p q, first p q → before (into p) (into q))
    (honto : ∀ p q, second p q → before (onto p) (onto q))
    (hparts : ∀ p q, before (into p) (onto q))
    (hfirst? : ∀ p, at? (into p) = first? p) (hsecond? : ∀ q, at? (onto q) = second? q)
    (hall : ∀ place, (∃ p, into p = place) ∨ ∃ q, onto q = place) :
    Selects before at? P (places.map into ++ others.map onto) (items ++ rest) where
  inOrder := by
    refine List.pairwise_append.mpr ⟨?_, ?_, ?_⟩
    · exact List.pairwise_map.mpr (hfirst.inOrder.imp (hinto _ _))
    · exact List.pairwise_map.mpr (hsecond.inOrder.imp (honto _ _))
    · simp only [List.forall_mem_map]
      exact fun p _ q _ => hparts p q
  mem_iff place := by
    rw [List.mem_append, List.mem_map, List.mem_map]
    -- Places need not be told apart by `into` and `onto`: what stands at a place decides.
    constructor
    · rintro (⟨p, hp, rfl⟩ | ⟨q, hq, rfl⟩)
      · rw [hfirst?]
        exact (hfirst.mem_iff p).mp hp
      · rw [hsecond?]
        exact (hsecond.mem_iff q).mp hq
    · intro hitem
      obtain ⟨p, rfl⟩ | ⟨q, rfl⟩ := hall place
      · rw [hfirst?] at hitem
        exact .inl ⟨p, (hfirst.mem_iff p).mpr hitem, rfl⟩
      · rw [hsecond?] at hitem
        exact .inr ⟨q, (hsecond.mem_iff q).mpr hitem, rfl⟩
  items_eq := by
    have hfirsts : (places.map into).map at? = places.map first? := by
      rw [List.map_map]
      exact List.map_congr_left fun p _ => hfirst? p
    have hseconds : (others.map onto).map at? = others.map second? := by
      rw [List.map_map]
      exact List.map_congr_left fun q _ => hsecond? q
    rw [List.map_append, hfirsts, hseconds, hfirst.items_eq, hsecond.items_eq, List.map_append]

end Selects

/-! ### The list of a document -/

/-- The comparison at a depth of a chain. -/
def Condition.at? : Condition → Nat → Option Comparison
  | .single test, 0 | .also test _, 0 => some test
  | .single _, _ + 1 => none
  | .also _ rest, depth + 1 => rest.at? depth

theorem Comparison.selects_inert (c : Comparison) :
    ∃ places, Selects (fun _ _ => False) (fun _ : Unit => some c) NeverMatches places
      ([c].filter (·.isInert)) := by
  by_cases h : c.isInert = true
  · have hmatches := c.isInert_iff.mp h
    refine ⟨[()], List.pairwise_singleton _ _, fun _ => ?_, ?_⟩
    · simp [hmatches]
    · simp [h]
  · have hmatches : ¬ c.NeverMatches := mt c.isInert_iff.mpr h
    refine ⟨[], List.Pairwise.nil, fun _ => ?_, ?_⟩
    · simp [hmatches]
    · simp [h]

/-- A chain in which a comparison stands before those of another chain. -/
theorem Comparison.selects_cons (test : Comparison) {at? rest? : Nat → Option Comparison}
    {depths : List Nat} {rest : List Comparison}
    (hrest : Selects (· < ·) rest? NeverMatches depths rest) (hfirst? : at? 0 = some test)
    (hrest? : ∀ depth, at? (depth + 1) = rest? depth) :
    ∃ places, Selects (· < ·) at? NeverMatches places
      ([test].filter (·.isInert) ++ rest) := by
  obtain ⟨places, htest⟩ := test.selects_inert
  have hall (place : Nat) : (∃ _ : Unit, 0 = place) ∨ ∃ depth, depth + 1 = place := by
    cases place with
    | zero => exact .inl ⟨(), rfl⟩
    | succ depth => exact .inr ⟨depth, rfl⟩
  refine ⟨_, htest.append hrest ?_ ?_ ?_ ?_ hrest? hall⟩
  · exact fun _ _ h => h.elim
  · exact fun _ _ => Nat.succ_lt_succ
  · exact fun _ => Nat.succ_pos
  · exact fun _ => hfirst?

theorem Condition.selects_inert (c : Condition) :
    ∃ places, Selects (· < ·) c.at? Comparison.NeverMatches places c.inert := by
  induction c with
  | single test =>
    have hinert : (single test).inert = [test].filter (·.isInert) ++ [] :=
      (List.append_nil _).symm
    rw [hinert]
    exact test.selects_cons (Selects.none _) rfl fun _ => rfl
  | also test rest ih =>
    obtain ⟨depths, hrest⟩ := ih
    have hinert : (also test rest).inert = [test].filter (·.isInert) ++ rest.inert :=
      List.filter_append [test] rest.comparisons
    rw [hinert]
    exact test.selects_cons hrest rfl fun _ => rfl

namespace Rule

/-- The number of a rule, and a depth in its chain. -/
abbrev Place := Nat × Nat

def Place.Before (p q : Place) : Prop :=
  p.1 < q.1 ∨ p.1 = q.1 ∧ p.2 < q.2

/-- The comparison at a place, with its rule. -/
def testAt? (rules : List Rule) (place : Place) : Option (Rule × Comparison) :=
  rules[place.1]?.bind fun r => (r.condition.at? place.2).map (Prod.mk r)

theorem selects_inert (rules : List Rule) :
    ∃ places, Selects Place.Before (testAt? rules) (fun found => found.2.NeverMatches) places
      (rules.flatMap fun r => r.condition.inert.map (Prod.mk r)) := by
  induction rules with
  | nil => exact ⟨[], Selects.none _⟩
  | cons r rest ih =>
    obtain ⟨depths, hdepths⟩ := r.condition.selects_inert
    obtain ⟨others, hothers⟩ := ih
    have hown : Selects (· < ·) (fun depth => (r.condition.at? depth).map (Prod.mk r))
        (fun found => found.2.NeverMatches) depths (r.condition.inert.map (Prod.mk r)) :=
      hdepths.map fun _ => Iff.rfl
    rw [List.flatMap_cons]
    refine ⟨depths.map (fun depth => (0, depth)) ++ others.map fun p => (p.1 + 1, p.2),
      hown.append hothers ?_ ?_ ?_ ?_ ?_ ?_⟩
    · exact fun p q h => .inr ⟨rfl, h⟩
    · exact fun p q h => h.imp Nat.succ_lt_succ (And.imp_left (congrArg Nat.succ))
    · exact fun p q => .inl (Nat.succ_pos q.1)
    · exact fun p => rfl
    · exact fun q => rfl
    · rintro ⟨number, depth⟩
      cases number with
      | zero => exact .inl ⟨depth, rfl⟩
      | succ number => exact .inr ⟨(number, depth), rfl⟩

end Rule

namespace RuleDocument

/-- The warning about comparisons that can never match. It is given exactly where
no value is matched with any operand of the kind of the given one. A rule of a
loaded document that it is given for is not violated by any snapshot, and no
assessment reports it. And the document lists the comparisons it is given for at
all places, by their rules and by their depth in the chains. -/
theorem inert_exact :
    (∀ c : Comparison, c.isInert = true ↔ c.NeverMatches) ∧
    (∀ d : RuleDocument, d.IsLoaded → ∀ r c, (r, c) ∈ d.inert →
      (∀ snapshot, r.condition.evaluate snapshot ≠ .ok true) ∧
        ∀ input, ∀ v ∈ (assess d input).violations, v.context = .stateChange →
          v.ruleId ≠ r.id) ∧
    ∀ d : RuleDocument, ∃ places, Selects Rule.Place.Before (Rule.testAt? d.rules)
      (fun found => found.2.NeverMatches) places d.inert := by
  refine ⟨Comparison.isInert_iff, ?_, fun d => Rule.selects_inert d.rules⟩
  intro d hd r c hinert
  refine ⟨fun snapshot => ?_, fun input v hv hcontext => ?_⟩
  · exact Condition.evaluate_of_mem_inert (mem_inert.mp hinert).2 snapshot
  · exact ruleId_ne_of_mem_inert hd hinert hv hcontext

/-- A rule whose second comparison has its bound in quotes. -/
def quotedBound : RuleDocument where
  version := none
  rules := [⟨"RULE_RATE", "", ⟨.closed⟩, .blocking, "The attendance rate is too low.",
    .also ⟨"certificate_generated", .isTrue, none⟩
      (.single ⟨"attendance_rate", .less, some (.text "80")⟩)⟩]

/-- Such a rule is loaded, but it is listed and never violated. -/
theorem quotedBound_never_violated :
    quotedBound.IsLoaded ∧ ∀ r ∈ quotedBound.rules,
      quotedBound.inert = [(r, ⟨"attendance_rate", .less, some (.text "80")⟩)] ∧
        ∀ snapshot, r.condition.evaluate snapshot ≠ .ok true := by
  have hfilled : ∀ r ∈ quotedBound.rules, r.IsFilled := by
    simp only [quotedBound, List.forall_mem_singleton]
    refine ⟨Text.isBlank_ofList_cons rfl, Text.isBlank_ofList_cons rfl, ?_⟩
    simp only [Condition.fields, Condition.comparisons, List.map_cons, List.map_nil,
      List.forall_mem_cons, List.not_mem_nil, false_implies, implies_true, and_true]
    exact ⟨Text.isBlank_ofList_cons rfl, Text.isBlank_ofList_cons rfl⟩
  have hwritable : ∀ v ∈ quotedBound.operands, v.IsWritable := by
    have hoperands : quotedBound.operands = [.text "80"] := rfl
    rw [hoperands, List.forall_mem_singleton]
    exact ⟨trivial, trivial⟩
  have hloaded : quotedBound.IsLoaded :=
    .value (ofJson_of_written ⟨hfilled, List.nodup_singleton _⟩ hwritable)
  refine ⟨hloaded, List.forall_mem_singleton.mpr ⟨rfl, ?_⟩⟩
  exact (inert_exact.2.1 quotedBound hloaded _ _ (List.mem_singleton_self _)).1

end RuleDocument

end DossierCompliance
