import DossierCompliance.Proofs.Rule.Operands

/-!
Documents, written and read back. What is written of a document spells a
document: the one with every operand read back from where it is written. An
operand whose numbers are finite equals the one that is read back, unless it is
null, for null is read as no operand.
-/

namespace DossierCompliance

theorem forall₂_map_map_iff {α β γ : Type} {p : β → γ → Prop} {f : α → β} {g : α → γ}
    {as : List α} : List.Forall₂ p (as.map f) (as.map g) ↔ ∀ a ∈ as, p (f a) (g a) := by
  rw [List.forall₂_map_left_iff, List.forall₂_map_right_iff, List.forall₂_same]

/-! ### Written records -/

namespace Json

mutual

theorem sorted_of_normal : ∀ {j : Json}, j.Normal → j.sorted = j
  | .null, _ | .bool _, _ | .number _, _ | .string _, _ => rfl
  | .array _, h => congrArg array (sortedItems_of_normal h)
  | .object _, h => by
    rw [sorted, sortedMembers_of_normal h.2, Members.sorted_eq_self h.1]

theorem sortedItems_of_normal : ∀ {items : List Json}, NormalItems items →
    sortedItems items = items
  | [], _ => rfl
  | _ :: _, h => congrArg₂ List.cons (sorted_of_normal h.1) (sortedItems_of_normal h.2)

theorem sortedMembers_of_normal : ∀ {ms : List (String × Json)}, NormalMembers ms →
    sortedMembers ms = ms
  | [], _ => rfl
  | (key, _) :: _, h =>
    congrArg₂ (fun value rest => (key, value) :: rest) (sorted_of_normal h.1)
      (sortedMembers_of_normal h.2)

end

section Written

variable {names : List String} {ms : List (String × Json)}

/-- An object of some fields of a record is such a record in normal form too. -/
theorem isRecord_sorted (h : (Members.keys ms).Sublist names) :
    (object ms).sorted.IsRecord names := by
  intro entry hentry
  have hkey : entry.1 ∈ Members.keys (sortedMembers ms) :=
    List.mem_map_of_mem (Members.mem_of_mem_sorted hentry)
  rw [keys_sortedMembers] at hkey
  exact h.subset hkey

/-- An object in normal form has the same fields, each in normal form. -/
theorem field?_sorted (h : (Members.keys ms).Sublist names) (hnames : names.Nodup)
    (name : String) :
    (object ms).sorted.field? names name = (Members.get? ms name).map sorted := by
  have hkeys : (Members.keys (sortedMembers ms)).Nodup := by
    rw [keys_sortedMembers]
    exact h.nodup hnames
  rw [sorted, field?, Members.get?_sorted_of_nodup hkeys, sortedMembers_eq_map,
    Members.get?_map]

end Written

end Json

/-! ### Written documents -/

/-- The comparison as it is read where it is written. -/
def Comparison.reread (c : Comparison) : Comparison :=
  { c with operand := c.withoutNull.operand.map fun v => Value.ofJson v.toJson }

/-- An operand that is not lost where it is written. -/
structure Value.IsWritable (v : Value) : Prop where
  ordered : v.Ordered
  finite : v.AllFinite

open Json (Fields Decoder)

/-- An operand is written so that it is read again, or not at all. -/
theorem Comparison.optional_written {t : Comparison} (h : ∀ v ∈ t.operand, v.IsWritable)
    {field? : String → Option Json}
    (hfield : field? "value" = t.operand.map fun v => v.toJson.sorted) :
    Fields.Optional "value" (fun v operand => operand = Value.ofJson v) field?
      t.reread.operand := by
  obtain ⟨field, operator, operand⟩ := t
  cases operand with
  | none => exact .inl ⟨hfield, rfl⟩
  | some v =>
    have hv : v.IsWritable := h v rfl
    have hsorted : v.toJson.sorted = v.toJson :=
      Json.sorted_of_normal (Value.normal_toJson hv.ordered)
    refine .inr ⟨v.toJson, hsorted ▸ hfield, ?_⟩
    cases hnull : v.isNull with
    | true =>
      obtain rfl : v = .null := by cases v <;> first | rfl | cases hnull
      exact .null
    | false =>
      have hread : (Comparison.mk field operator (some v)).reread.operand =
          some (Value.ofJson v.toJson) := by
        simp [reread, withoutNull, hnull]
      rw [hread]
      exact .given (Value.toJson_ne_null hv.finite hnull) rfl

namespace Condition

theorem writtenMembers_ofParts (field : String) (operator : Operator) (operand : Option Value)
    (rest : Option Condition) :
    (ofParts field operator operand rest).writtenMembers =
      [("field", .string field), ("operator", Named.toJson operator)] ++
        (operand.map fun v => ("value", v.toJson)).toList ++
        (rest.map fun c => ("additionalCheck", c.written)).toList := by
  cases rest with
  | none => exact (List.append_nil _).symm
  | some c => rfl

theorem keys_writtenMembers (c : Condition) :
    (Members.keys c.writtenMembers).Sublist names := by
  obtain ⟨field, operator, operand, rest, rfl⟩ := c.exists_eq_ofParts
  rw [writtenMembers_ofParts]
  cases operand <;> cases rest <;> simp [Members.keys, names]

theorem field?_written (c : Condition) (name : String) :
    c.written.sorted.field? names name = (Members.get? c.writtenMembers name).map Json.sorted :=
  Json.field?_sorted c.keys_writtenMembers (by decide) name

theorem spelled_written_ofParts {test : Comparison} (rest : Option Condition)
    (htest : ∀ v ∈ test.operand, v.IsWritable)
    (hrest : ∀ c ∈ rest, Spelled c.written.sorted (c.mapComparisons .reread)) :
    Spelled (ofParts test.field test.operator test.operand rest).written.sorted
      ((ofParts test.field test.operator test.operand rest).mapComparisons .reread) := by
  set c := ofParts test.field test.operator test.operand rest with hc
  have hmembers := writtenMembers_ofParts test.field test.operator test.operand rest
  have hfield (name : String) := c.field?_written name
  rw [hc, mapComparisons_ofParts, spelled_ofParts_iff, ← hc]
  refine ⟨⟨Json.isRecord_sorted c.keys_writtenMembers, ?_, ?_, ?_⟩, ?_⟩
  · rw [hfield, hmembers]
    rfl
  · refine ⟨_, ?_, Named.spelled_toJson _⟩
    rw [hfield, hmembers]
    rfl
  · refine Comparison.optional_written htest ?_
    rw [hfield, hmembers]
    cases test.operand <;> cases rest <;> rfl
  · cases rest with
    | none =>
      refine .inl ⟨?_, rfl⟩
      rw [hfield, hmembers]
      cases test.operand <;> rfl
    | some next =>
      have hnext := hrest next rfl
      refine .inr ⟨next.written.sorted, ?_, .given hnext.ne_null hnext⟩
      rw [hfield, hmembers]
      cases test.operand <;> rfl

/-- What is written of a condition spells it, with its operands read back. -/
theorem spelled_written {c : Condition} (h : ∀ v ∈ c.operands, v.IsWritable) :
    Spelled c.written.sorted (c.mapComparisons .reread) := by
  induction c with
  | single test =>
    refine spelled_written_ofParts none (fun v hv => h v ?_) fun c hc => ?_
    · exact mem_operands.mpr ⟨test, List.mem_singleton_self test, hv⟩
    · exact absurd hc (Option.not_mem_none c)
  | also test rest ih =>
    refine spelled_written_ofParts (some rest) (fun v hv => h v ?_) fun c hc => ?_
    · exact mem_operands.mpr ⟨test, List.mem_cons_self, hv⟩
    · obtain rfl := Option.mem_some_iff.mp hc
      refine ih fun v hv => h v ?_
      obtain ⟨t, ht, hoperand⟩ := mem_operands.mp hv
      exact mem_operands.mpr ⟨t, List.mem_cons_of_mem _ ht, hoperand⟩

end Condition

theorem Rule.spelled_written {r : Rule} (h : ∀ v ∈ r.condition.operands, v.IsWritable) :
    Spelled r.written.sorted (r.mapComparisons .reread) := by
  have hkeys : (Members.keys [("id", .string r.id), ("description", .string r.description),
      ("trigger", r.trigger.toJson), ("severity", Named.toJson r.severity),
      ("message", .string r.message), ("logic", r.condition.written)]).Sublist names :=
    List.Sublist.refl names
  have hfield (name : String) := Json.field?_sorted hkeys (by decide) name
  have htrigger : r.trigger.toJson.sorted = .string ("TO_" ++ r.trigger.target.name) := by
    rw [← Trigger.text_eq]
    rfl
  exact
    { closed := Json.isRecord_sorted hkeys
      id := hfield "id"
      description := hfield "description"
      trigger := (hfield "trigger").trans (congrArg some htrigger)
      severity := ⟨_, hfield "severity", Named.spelled_toJson _⟩
      message := hfield "message"
      condition := ⟨_, hfield "logic", Condition.spelled_written h⟩ }

namespace RuleDocument

theorem keys_written (d : RuleDocument) :
    (Members.keys ((d.version.map fun v => ("version", Json.string v)).toList
      ++ [("rules", Json.ofList Rule.written d.rules)])).Sublist names := by
  cases d.version <;> simp [Members.keys, names]

/-- What is written of a document spells it, with its operands read back. -/
theorem spelled_toJson {d : RuleDocument} (h : ∀ v ∈ d.operands, v.IsWritable) :
    Spelled d.toJson (d.mapComparisons .reread) := by
  have hfield (name : String) := Json.field?_sorted d.keys_written (by decide) name
  have hrules : List.Forall₂ Rule.Spelled (Json.sortedItems (d.rules.map Rule.written))
      (d.rules.map (·.mapComparisons .reread)) := by
    rw [Json.sortedItems_eq_map, List.map_map, forall₂_map_map_iff]
    exact fun r hr => Rule.spelled_written fun v hv => h v (mem_operands.mpr ⟨r, hr, hv⟩)
  refine ⟨Json.isRecord_sorted d.keys_written, ?_, ?_⟩
  · cases hversion : d.version with
    | none =>
      refine .inl ⟨(hfield "version").trans ?_, hversion⟩
      simp [hversion, Members.get?_cons]
    | some version =>
      have hread : (d.mapComparisons .reread).version = some version := hversion
      refine .inr ⟨.string version, (hfield "version").trans ?_, ?_⟩
      · simp [hversion, Members.get?_cons, Json.sorted]
      · rw [hread]
        exact .given Json.noConfusion rfl
  · refine ⟨_, (hfield "rules").trans ?_, .array hrules⟩
    cases d.version <;> simp [Members.get?_cons, Json.ofList, Json.sorted]

/-- A valid document is loaded from what is written of it, with its operands read back. -/
theorem ofJson_of_written {d : RuleDocument} (hvalid : Rule.AreValid d.rules)
    (h : ∀ v ∈ d.operands, v.IsWritable) :
    ofJson d.toJson = .ok (d.mapComparisons .reread) := by
  have hread : ofJson d.toJson = (d.mapComparisons .reread).checked :=
    ofJson_of_spelled (Json.normal_sorted _) (spelled_toJson h)
  rw [hread]
  exact checked_eq_ok_iff.mpr ⟨rfl, hvalid.mapComparisons (f := Comparison.reread) fun _ => rfl⟩

end RuleDocument

/-! ### Sameness -/

/-- Equal comparisons, with numbers compared as binary64. -/
structure Comparison.Same (a b : Comparison) : Prop where
  field : a.field = b.field
  operator : a.operator = b.operator
  operand : Option.Rel (fun v w => (v == w) = true) a.operand b.operand

/-- Rules equal in all that they say, with equal comparisons in the same order. -/
structure Rule.Same (r s : Rule) : Prop where
  id : r.id = s.id
  description : r.description = s.description
  trigger : r.trigger = s.trigger
  severity : r.severity = s.severity
  message : r.message = s.message
  comparisons : List.Forall₂ Comparison.Same r.condition.comparisons s.condition.comparisons

/-- Documents of one version with equal rules in the same order. -/
structure RuleDocument.Same (d e : RuleDocument) : Prop where
  version : d.version = e.version
  rules : List.Forall₂ Rule.Same d.rules e.rules

theorem Comparison.same_reread {t : Comparison} (h : ∀ v ∈ t.operand, v.IsWritable) :
    t.reread.Same t.withoutNull := by
  refine ⟨rfl, rfl, ?_⟩
  have hkept : ∀ v ∈ t.withoutNull.operand, (Value.ofJson v.toJson == v) = true := by
    intro v hv
    have hwritable := h v (Option.mem_filter_iff.mp hv).1
    exact Value.ofJson_toJson hwritable.ordered hwritable.finite
  rw [reread]
  cases hoperand : t.withoutNull.operand with
  | none => exact .none
  | some v => exact .some (hkept v hoperand)

namespace RuleDocument

variable {d : RuleDocument}

/-- Changed in two ways, a document is the same if each of its comparisons is. -/
theorem same_mapComparisons_iff {f g : Comparison → Comparison} :
    (d.mapComparisons f).Same (d.mapComparisons g) ↔
      ∀ r ∈ d.rules, ∀ t ∈ r.condition.comparisons, (f t).Same (g t) := by
  have hrule (r : Rule) : (r.mapComparisons f).Same (r.mapComparisons g) ↔
      ∀ t ∈ r.condition.comparisons, (f t).Same (g t) := by
    rw [← forall₂_map_map_iff, ← Condition.comparisons_mapComparisons,
      ← Condition.comparisons_mapComparisons]
    exact ⟨fun h => h.comparisons, fun h => ⟨rfl, rfl, rfl, rfl, rfl, h⟩⟩
  have hrules : (d.mapComparisons f).Same (d.mapComparisons g) ↔
      ∀ r ∈ d.rules, (r.mapComparisons f).Same (r.mapComparisons g) := by
    rw [← forall₂_map_map_iff]
    exact ⟨fun h => h.rules, fun h => ⟨rfl, h⟩⟩
  exact hrules.trans (forall₂_congr fun r _ => hrule r)

theorem same_reread (h : ∀ v ∈ d.operands, v.IsWritable) :
    (d.mapComparisons .reread).Same d.withoutNulls := by
  refine same_mapComparisons_iff.mpr fun r hr t ht => Comparison.same_reread fun v hv => ?_
  exact h v (mem_operands.mpr ⟨r, hr, Condition.mem_operands.mpr ⟨t, ht, hv⟩⟩)

/-- A null operand is not found again. -/
theorem not_same_reread (h : .null ∈ d.operands) : ¬ (d.mapComparisons .reread).Same d := by
  intro hsame
  obtain ⟨r, hr, hnull⟩ := mem_operands.mp h
  obtain ⟨t, ht, hoperand⟩ := Condition.mem_operands.mp hnull
  have hself : d.mapComparisons id = d := mapComparisons_eq_self fun _ _ _ _ => rfl
  have hsame : (d.mapComparisons .reread).Same (d.mapComparisons id) := by
    rw [hself]
    exact hsame
  have hlost : t.reread.operand = none := by
    simp [Comparison.reread, Comparison.withoutNull, hoperand, Value.isNull]
  have hrel := (same_mapComparisons_iff.mp hsame r hr t ht).operand
  rw [hlost, id, hoperand] at hrel
  cases hrel

/-- A loaded document with finite numbers is loaded again from what is written
of it, and is then the same without its null operands. Without them it means the
same; a document that is given as a value or as a text in JSON has none. -/
theorem loads_again (hloaded : IsLoaded d) (hfinite : ∀ v ∈ d.operands, v.AllFinite) :
    (∃ e, ofJson d.toJson = .ok e ∧ e.Same d.withoutNulls ∧ (e.Same d ↔ .null ∉ d.operands)) ∧
    (∀ r ∈ d.rules, ∀ snapshot,
      (r.mapComparisons .withoutNull).condition.evaluate snapshot =
        r.condition.evaluate snapshot) ∧
    ((∃ j, ofJson j = .ok d) ∨ (∃ text, ofJsonText text = .ok d) → .null ∉ d.operands) := by
  have hwritable : ∀ v ∈ d.operands, v.IsWritable :=
    fun v hv => ⟨hloaded.ordered v hv, hfinite v hv⟩
  have hsame : (d.mapComparisons .reread).Same d.withoutNulls := same_reread hwritable
  refine ⟨⟨_, ofJson_of_written hloaded.areValid hwritable, hsame, ?_, ?_⟩, ?_, ?_⟩
  · exact fun h hnull => not_same_reread hnull h
  · intro hnull
    rwa [withoutNulls_eq_self hnull] at hsame
  · exact fun r _ snapshot => r.condition.evaluate_withoutNull snapshot
  · rintro (⟨j, hj⟩ | ⟨text, htext⟩)
    · exact null_notMem_of_ofJson hj
    · obtain ⟨j, -, hj⟩ := exists_parse_of_ofJsonText htext
      exact null_notMem_of_ofJson hj

/-- A number, and a null inside a map, in a chain of two. -/
theorem loads_again_chain :
    let j (bound : Json.Number) : Json := .object [("rules", .array [.array [.string "A",
      .string "", .string "TO_CLOSED", .string "WARNING", .string "m", .array [.string "f",
        .string "LT", .number bound, .array [.string "g", .string "EQUALS",
          .object [("a", .null)]]]]])]
    let d (bound : Float) : RuleDocument := ⟨none, [⟨"A", "", ⟨.closed⟩, .warning, "m",
      .also ⟨"f", .less, some (.number bound)⟩ <|
        .single ⟨"g", .equals, some (.map [("a", .null)])⟩⟩]⟩
    ofJson (j (.real 80)) = .ok (d 80) ∧ (∀ v ∈ (d 80).operands, v.AllFinite) ∧
      ∃ e, ofJson (d 80).toJson = .ok e ∧ e.Same (d 80) := by
  intro j d
  have hread (bound : Float) : ofJson (j (.real bound)) = .ok (d bound) := by
    dsimp only [j, d]
    cbv
  have hfinite : ∀ v ∈ (d 80).operands, v.AllFinite := by
    simp [d, operands, Condition.operands, Condition.comparisons, Value.AllFinite,
      Value.AllFiniteEntries]
    decide
  obtain ⟨⟨e, he, -, hsame⟩, -, hkept⟩ := loads_again (.value (hread 80)) hfinite
  exact ⟨hread 80, hfinite, e, he, hsame.mpr (hkept (.inl ⟨_, hread 80⟩))⟩

/-- A text in quotes may be marked as null; what is written of it is no operand. -/
theorem null_read_as_absent :
    let text := "rules: [\x7bid: A, description: d, trigger: TO_DRAFT, severity: WARNING, " ++
      "message: m, logic: \x7bfield: f, operator: EQUALS, value: !!null \"null\"\x7d\x7d]"
    ∃ d, ofYamlText text = .ok d ∧ (∀ v ∈ d.operands, v.AllFinite) ∧
      ∃ e, ofJson d.toJson = .ok e ∧ ¬ e.Same d := by
  intro text
  have hnull : (ofYamlText text).toOption.map (fun d => d.operands.map (·.isNull)) =
      some [true] := by decide +kernel
  obtain ⟨d, hd, hoperands⟩ := Option.map_eq_some_iff.mp hnull
  have hgiven : ofYamlText text = .ok d := by
    cases hread : ofYamlText text with
    | ok e => simpa [hread, Except.toOption] using hd
    | error why => simp [hread, Except.toOption] at hd
  obtain ⟨v, hv, hisNull⟩ := List.map_eq_singleton_iff.mp hoperands
  obtain rfl : v = .null := by
    cases v with
    | null => rfl
    | _ => cases hisNull
  have hwritable : ∀ v ∈ d.operands, v.IsWritable := by
    rw [hv]
    exact List.forall_mem_singleton.mpr ⟨trivial, trivial⟩
  have hmem : .null ∈ d.operands := by
    rw [hv]
    exact List.mem_singleton_self _
  exact ⟨d, hgiven, fun v hv => (hwritable v hv).finite, _,
    ofJson_of_written (areValid_of_ofYamlText hgiven) hwritable, not_same_reread hmem⟩

end RuleDocument

end DossierCompliance
