import DossierCompliance.Proofs.Rule.Loading
import DossierCompliance.Proofs.Value.Writing
import DossierCompliance.Rule.Evaluation

/-!
The operands of a document. An operand may be null only where the document was
given in another notation than JSON, and a null operand may as well be left
out: a comparison without an operand compares with null. Whatever a document is
loaded from, the keys of its operands are in ascending order at every level.
-/

namespace DossierCompliance

open Json (Reading Decoder Fault Fields Placed)

/-! ### Changing comparisons -/

/-- The condition with every comparison of the chain changed. -/
def Condition.mapComparisons (f : Comparison → Comparison) : Condition → Condition
  | .single test => .single (f test)
  | .also test rest => .also (f test) (rest.mapComparisons f)

def Rule.mapComparisons (f : Comparison → Comparison) (r : Rule) : Rule :=
  { r with condition := r.condition.mapComparisons f }

def RuleDocument.mapComparisons (f : Comparison → Comparison) (d : RuleDocument) : RuleDocument :=
  { d with rules := d.rules.map (·.mapComparisons f) }

namespace Condition

variable {f : Comparison → Comparison}

theorem comparisons_mapComparisons (f : Comparison → Comparison) (c : Condition) :
    (c.mapComparisons f).comparisons = c.comparisons.map f := by
  induction c with
  | single test => rfl
  | also test rest ih => exact congrArg (f test :: ·) ih

theorem mapComparisons_ofParts (f : Comparison → Comparison) (t : Comparison)
    (rest : Option Condition) :
    (ofParts t.field t.operator t.operand rest).mapComparisons f =
      ofParts (f t).field (f t).operator (f t).operand (rest.map (·.mapComparisons f)) := by
  cases rest <;> rfl

theorem fields_mapComparisons (h : ∀ t, (f t).field = t.field) (c : Condition) :
    (c.mapComparisons f).fields = c.fields := by
  rw [fields, comparisons_mapComparisons, List.map_map]
  exact List.map_congr_left fun t _ => h t

theorem mapComparisons_eq_self {c : Condition} (h : ∀ t ∈ c.comparisons, f t = t) :
    c.mapComparisons f = c := by
  induction c with
  | single test => exact congrArg single (h test (List.mem_singleton_self test))
  | also test rest ih =>
    obtain ⟨htest, hrest⟩ := List.forall_mem_cons.mp h
    rw [mapComparisons, htest, ih hrest]

end Condition

/-- A document of comparisons that stay as they are stays as it is. -/
theorem RuleDocument.mapComparisons_eq_self {f : Comparison → Comparison} {d : RuleDocument}
    (h : ∀ r ∈ d.rules, ∀ t ∈ r.condition.comparisons, f t = t) : d.mapComparisons f = d := by
  have hrule : ∀ r ∈ d.rules, r.mapComparisons f = r := by
    intro r hr
    rw [Rule.mapComparisons, Condition.mapComparisons_eq_self (h r hr)]
  have hrules : d.rules.map (·.mapComparisons f) = d.rules :=
    (List.map_congr_left hrule).trans (List.map_id' d.rules)
  rw [mapComparisons, hrules]

/-- Rules are as valid as before if their comparisons look at the same fields. -/
theorem Rule.AreValid.mapComparisons {f : Comparison → Comparison}
    (hf : ∀ t, (f t).field = t.field) {rules : List Rule} (h : AreValid rules) :
    AreValid (rules.map (·.mapComparisons f)) where
  filled := by
    rw [List.forall_mem_map]
    intro r hr
    have hfilled := h.filled r hr
    refine ⟨hfilled.id, hfilled.message, ?_⟩
    rw [Rule.mapComparisons, Condition.fields_mapComparisons hf]
    exact hfilled.fields
  distinct := by
    rw [List.map_map]
    exact h.distinct

/-! ### Operands -/

def Condition.operands (c : Condition) : List Value :=
  c.comparisons.filterMap (·.operand)

def RuleDocument.operands (d : RuleDocument) : List Value :=
  d.rules.flatMap (·.condition.operands)

theorem Condition.mem_operands {c : Condition} {v : Value} :
    v ∈ c.operands ↔ ∃ t ∈ c.comparisons, t.operand = some v :=
  List.mem_filterMap

theorem RuleDocument.mem_operands {d : RuleDocument} {v : Value} :
    v ∈ d.operands ↔ ∃ r ∈ d.rules, v ∈ r.condition.operands :=
  List.mem_flatMap

/-- The comparison without its operand if that is null. -/
def Comparison.withoutNull (c : Comparison) : Comparison :=
  { c with operand := c.operand.filter fun v => !v.isNull }

def RuleDocument.withoutNulls (d : RuleDocument) : RuleDocument :=
  d.mapComparisons .withoutNull

namespace Comparison

theorem operandOrNull_withoutNull (c : Comparison) :
    c.withoutNull.operandOrNull = c.operandOrNull := by
  obtain ⟨field, operator, operand⟩ := c
  cases operand with
  | none => rfl
  | some v => cases v <;> rfl

theorem withoutNull_eq_self {c : Comparison} (h : c.operand ≠ some .null) : c.withoutNull = c := by
  obtain ⟨field, operator, operand⟩ := c
  cases operand with
  | none => rfl
  | some v =>
    cases v with
    | null => exact absurd rfl h
    | _ => rfl

end Comparison

/-- A null operand may as well be left out. -/
theorem Condition.evaluate_withoutNull (snapshot : Value) (c : Condition) :
    (c.mapComparisons .withoutNull).evaluate snapshot = c.evaluate snapshot := by
  have hfields : (c.mapComparisons .withoutNull).fields = c.fields :=
    fields_mapComparisons (f := Comparison.withoutNull) (fun _ => rfl) c
  have hholds (t : Comparison) : t.withoutNull.holds snapshot = t.holds snapshot := by
    rw [Comparison.holds, Comparison.operandOrNull_withoutNull]
    rfl
  have hall : (c.mapComparisons .withoutNull).comparisons.all (·.holds snapshot) =
      c.comparisons.all (·.holds snapshot) := by
    rw [comparisons_mapComparisons, List.all_map]
    exact congrArg c.comparisons.all (funext hholds)
  rw [evaluate, evaluate, malformed?, malformed?, hfields, hall]

theorem RuleDocument.withoutNulls_eq_self {d : RuleDocument} (h : .null ∉ d.operands) :
    d.withoutNulls = d := by
  refine mapComparisons_eq_self fun r hr t ht => Comparison.withoutNull_eq_self fun hnull => ?_
  exact h (mem_operands.mpr ⟨r, hr, Condition.mem_operands.mpr ⟨t, ht, hnull⟩⟩)

/-! ### Operands in values -/

/-- Null is read as no operand. -/
theorem Comparison.Spelled.operand_ne_null {j : Json} {t : Comparison} (h : t.Spelled j) :
    t.operand ≠ some .null := by
  intro hoperand
  rcases h.operand with ⟨-, hnone⟩ | ⟨v, -, hv⟩
  · rw [hnone] at hoperand
    cases hoperand
  · rw [hoperand] at hv
    cases hv with
    | given hnull hv =>
      cases v with
      | null => exact hnull rfl
      | _ => cases hv

theorem Condition.Spelled.null_notMem {j : Json} {c : Condition} (h : c.Spelled j) :
    .null ∉ c.operands := by
  have hcomparisons : ∀ t ∈ c.comparisons, ∃ value, t.Spelled value := by
    induction c generalizing j with
    | single test => exact List.forall_mem_singleton.mpr ⟨j, h.1⟩
    | also test rest ih =>
      obtain ⟨htest, nested, -, hrest⟩ := h
      exact List.forall_mem_cons.mpr ⟨⟨j, htest⟩, ih hrest⟩
  intro hnull
  obtain ⟨t, ht, hoperand⟩ := mem_operands.mp hnull
  obtain ⟨value, hvalue⟩ := hcomparisons t ht
  exact hvalue.operand_ne_null hoperand

namespace RuleDocument

theorem Spelled.null_notMem {j : Json} {d : RuleDocument} (h : d.Spelled j) :
    .null ∉ d.operands := by
  intro hnull
  obtain ⟨r, hr, hoperand⟩ := mem_operands.mp hnull
  obtain ⟨v, -, hrules⟩ := h.rules
  cases hrules with
  | array hitems =>
    obtain ⟨item, hitem⟩ := Json.exists_of_forall₂ hitems r hr
    obtain ⟨condition, -, hcondition⟩ := hitem.condition
    exact hcondition.null_notMem hoperand

theorem decode_of_ofJson {j : Json} {d : RuleDocument} (h : ofJson j = .ok d) :
    decode j.toReading = .ok d := by
  obtain ⟨e, he, hchecked⟩ := Json.bind_eq_ok h
  obtain ⟨rfl, -⟩ := checked_eq_ok_iff.mp hchecked
  rw [Json.decodeValue] at he
  cases hread : decode j.toReading with
  | ok d => simpa [hread, Except.mapError] using he
  | error why => simp [hread, Except.mapError] at he

theorem null_notMem_of_ofJson {j : Json} {d : RuleDocument} (h : ofJson j = .ok d) :
    .null ∉ d.operands := by
  obtain ⟨value, -, hspelled⟩ := (reads_decode _).sound (Json.isJson_toReading j)
    (Nat.lt_succ_self _) (decode_of_ofJson h)
  exact hspelled.null_notMem

end RuleDocument

/-! ### Keys of operands -/

namespace Json

variable {α : Type} {q : α → Prop} {decode : Decoder α}

theorem of_optional (hdecode : ∀ r a, decode r = .ok a → q a) {r : Reading} {o : Option α}
    (h : Decoder.optional decode r = .ok o) : ∀ a ∈ o, q a := by
  unfold Decoder.optional at h
  split at h
  · cases h
    exact fun a ha => absurd ha (Option.not_mem_none a)
  · cases h
    exact fun a ha => absurd ha (Option.not_mem_none a)
  · cases h
  · cases hr : decode r with
    | error why => simp [hr, Except.map] at h
    | ok b =>
      obtain rfl : some b = o := by simpa [hr, Except.map] using h
      intro a ha
      obtain rfl := Option.mem_some_iff.mp ha
      exact hdecode r b hr

theorem gives_optional (hdecode : ∀ r a, decode r = .ok a → q a) (fs : Fields) (name : String) :
    (fs.optional name decode).Gives fun o => ∀ a ∈ o, q a := by
  intro o ho
  rcases Fields.optional_eq_ok_iff.mp ho with ⟨-, rfl⟩ | ⟨r, -, hr⟩
  · exact fun a ha => absurd ha (Option.not_mem_none a)
  · exact of_optional hdecode hr

theorem of_each (hdecode : ∀ r a, decode r = .ok a → q a) {items : List Reading}
    {ending : Option Fault} {as : List α} (h : Decoder.each decode items ending = .ok as) :
    ∀ a ∈ as, q a := by
  obtain ⟨-, hpaired⟩ := Decoder.each_eq_ok_iff.mp h
  intro a ha
  obtain ⟨r, hr⟩ := exists_of_forall₂ hpaired a ha
  exact hdecode r a hr

theorem of_list (hdecode : ∀ r a, decode r = .ok a → q a) {r : Reading} {as : List α}
    (h : Decoder.list decode r = .ok as) : ∀ a ∈ as, q a := by
  unfold Decoder.list at h
  split at h
  · exact of_each hdecode h
  · exact of_each hdecode h
  · exact of_each hdecode h
  · cases h
    exact fun a ha => absurd ha List.not_mem_nil
  · cases h
    exact fun a ha => absurd ha List.not_mem_nil
  · cases h
  · cases h

end Json

namespace Condition

theorem operands_ofParts (field : String) (operator : Operator) (operand : Option Value)
    (rest : Option Condition) :
    (ofParts field operator operand rest).operands =
      operand.toList ++ (rest.map operands).getD [] := by
  cases rest <;> cases operand <;> rfl

/-- The operands of the chain have ascending keys. -/
def IsOrdered (c : Condition) : Prop :=
  ∀ v ∈ c.operands, v.Ordered

theorem gives_ofFields {nested : Placed (Option Condition)}
    (hnested : nested.Gives fun rest => ∀ c ∈ rest, c.IsOrdered) (fs : Fields) :
    (ofFields nested fs).Gives IsOrdered := by
  have hoperand : (fs.optional "value" Value.decode).Gives fun o => ∀ v ∈ o, v.Ordered :=
    Json.gives_optional (fun _ _ => Value.ordered_decode) fs "value"
  refine Placed.Gives.seq_of (Placed.Gives.seq_of ?_ hoperand) hnested
  refine Placed.Gives.seq (Placed.Gives.map fun field operator operand hoperand rest hrest => ?_)
  intro v hv
  rw [operands_ofParts, List.mem_append] at hv
  rcases hv with hv | hv
  · exact hoperand v (Option.mem_toList.mp hv)
  · cases rest with
    | none => exact absurd hv List.not_mem_nil
    | some c => exact hrest c rfl v hv

theorem gives_nested {r : Reading} (h : ∀ c, decode r = .ok c → c.IsOrdered) (place : Nat) :
    (if r.isNull then .ok none else Placed.ofExcept place (some <$> decode r)).Gives
      fun rest => ∀ c ∈ rest, c.IsOrdered := by
  intro rest hrest
  split at hrest
  · cases hrest
    exact fun c hc => absurd hc (Option.not_mem_none c)
  · cases hr : decode r with
    | error why => simp [hr, Placed.ofExcept] at hrest
    | ok b =>
      obtain rfl : some b = rest := by simpa [hr, Placed.ofExcept] using hrest
      intro c hc
      obtain rfl := Option.mem_some_iff.mp hc
      exact h b hr

theorem gives_none : (Placed.ok none : Placed (Option Condition)).Gives
    fun rest => ∀ c ∈ rest, c.IsOrdered := by
  intro rest hrest c hc
  cases hrest
  exact absurd hc (Option.not_mem_none c)

mutual

theorem isOrdered_decode : ∀ {r : Reading} {c : Condition}, decode r = .ok c → c.IsOrdered
  | .object members _, _, h => by
    rw [decode] at h
    exact Json.of_record (gives_ofFields (gives_decodeMember 0 members)) h
  | .array items _, _, h => by
    rw [decode] at h
    exact Json.of_record (gives_ofFields (gives_decodeItem 0 items)) h
  | .mapping entries, _, h => by
    rw [decode] at h
    exact Json.of_record (gives_ofFields (gives_decodeEntry 0 entries)) h
  | .marked _ r, _, h => by
    rw [decode] at h
    exact isOrdered_decode (r := r) h
  | .null, _, h | .bool _, _, h | .number _, _, h | .string _, _, h | .scalar _ _ _, _, h
  | .list _, _, h | .flawed _ _, _, h | .broken _, _, h =>
    Json.of_record (gives_ofFields gives_none) h

theorem gives_decodeMember : ∀ (place : Nat) (members : List (String × Reading)),
    (decodeMember place members).Gives fun rest => ∀ c ∈ rest, c.IsOrdered
  | _, [] => gives_none
  | place, (_, r) :: rest => by
    rw [decodeMember]
    split
    · exact gives_nested (fun _ h => isOrdered_decode h) place
    · exact gives_decodeMember (place + 1) rest

theorem gives_decodeEntry : ∀ (place : Nat) (entries : List (Reading × Reading)),
    (decodeEntry place entries).Gives fun rest => ∀ c ∈ rest, c.IsOrdered
  | _, [] => gives_none
  | place, (_, r) :: rest => by
    rw [decodeEntry]
    split
    · exact gives_nested (fun _ h => isOrdered_decode h) place
    · exact gives_decodeEntry (place + 1) rest

theorem gives_decodeItem : ∀ (place : Nat) (items : List Reading),
    (decodeItem place items).Gives fun rest => ∀ c ∈ rest, c.IsOrdered
  | _, [] => gives_none
  | place, r :: rest => by
    rw [decodeItem]
    split
    · exact gives_nested (fun _ h => isOrdered_decode h) place
    · exact gives_decodeItem (place + 1) rest

end

end Condition

theorem Rule.isOrdered_decode {reading : Reading} {r : Rule} (h : decode reading = .ok r) :
    r.condition.IsOrdered := by
  refine Json.of_record (p := fun r : Rule => r.condition.IsOrdered) (fun fs => ?_) h
  have hcondition : (fs.required "logic" Condition.decode).Gives Condition.IsOrdered :=
    Json.gives_required (fun _ _ h => Condition.isOrdered_decode h) fs "logic"
  refine Placed.Gives.seq_of ?_ hcondition
  iterate 4 apply Placed.Gives.seq
  exact Placed.Gives.map fun _ _ _ _ _ _ hordered => hordered

namespace RuleDocument

theorem ordered_of_decode {reading : Reading} {d : RuleDocument} (h : decode reading = .ok d) :
    ∀ v ∈ d.operands, v.Ordered := by
  have hrules : ∀ r ∈ d.rules, r.condition.IsOrdered := by
    refine Json.of_record (p := fun d => ∀ r ∈ d.rules, r.condition.IsOrdered) (fun fs => ?_) h
    have hlist : (fs.required "rules" (Decoder.list Rule.decode)).Gives
        fun rules => ∀ r ∈ rules, r.condition.IsOrdered :=
      Json.gives_required (fun _ _ => Json.of_list fun _ _ => Rule.isOrdered_decode) fs "rules"
    exact Placed.Gives.seq_of (Placed.Gives.map fun _ _ hrules => hrules) hlist
  intro v hv
  obtain ⟨r, hr, hmem⟩ := mem_operands.mp hv
  exact hrules r hr v hmem

theorem exists_decode_of_ofNotation {kind : RuleNotation} {text : String} {d : RuleDocument}
    (h : ofNotation kind text = .ok d) : ∃ reading, decode reading = .ok d := by
  cases kind with
  | json =>
    obtain ⟨j, -, hj⟩ := exists_parse_of_ofJsonText h
    exact ⟨_, decode_of_ofJson hj⟩
  | yaml =>
    rw [ofNotation, ofYamlText] at h
    split at h
    · next e he =>
      obtain ⟨rfl, -⟩ := checked_eq_ok_iff.mp h
      obtain ⟨reading, -, hreading⟩ := Option.bind_eq_some_iff.mp he
      refine ⟨reading, ?_⟩
      cases hread : decode reading with
      | ok d => simpa [hread, Except.toOption] using hreading
      | error why => simp [hread, Except.toOption] at hreading
    · cases h

theorem IsLoaded.ordered {d : RuleDocument} (h : IsLoaded d) : ∀ v ∈ d.operands, v.Ordered := by
  have hnotation (kind : RuleNotation) {text : String} (h : ofNotation kind text = .ok d) :
      ∀ v ∈ d.operands, v.Ordered := by
    obtain ⟨reading, hreading⟩ := exists_decode_of_ofNotation h
    exact ordered_of_decode hreading
  cases h with
  | value h => exact ordered_of_decode (decode_of_ofJson h)
  | jsonText h => exact hnotation .json h
  | yamlText h => exact hnotation .yaml h
  | file h =>
    obtain ⟨kind, text, h⟩ := exists_ofNotation_of_load h
    exact hnotation kind h

end RuleDocument

end DossierCompliance
