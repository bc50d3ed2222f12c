import DossierCompliance.Proofs.Named
import DossierCompliance.Proofs.Value.Kinds
import DossierCompliance.Rule.Document

/-!
How rules are written as values. A value spells a rule when it is a record of
the rule's fields and of no others, down to the last nested check, with names
out of the closed sets and a trigger that is `TO_` and a status. The decoders
of rules and rule documents read just that.
-/

namespace DossierCompliance

open Json (Reading Decoder Fields)

/-! ### Fields of one kind -/

namespace Trigger

theorem text_eq (t : Trigger) : t.text = "TO_" ++ t.target.name := by
  apply String.toList_injective
  rw [text, String.toList_ofList, String.toList_append]
  rfl

theorem ofText?_eq_some_iff {text : String} {t : Trigger} :
    ofText? text = some t ↔ text = t.text := by
  have htext : text = t.text ↔ text.toList = 'T' :: 'O' :: '_' :: t.target.name.toList := by
    rw [← String.toList_inj, Trigger.text, String.toList_ofList]
    rfl
  rw [htext, ofText?]
  split
  · next name hname =>
    rw [hname]
    simp only [Option.map_eq_some_iff, Named.ofName?_eq_some_iff, List.cons.injEq, true_and]
    constructor
    · rintro ⟨status, hstatus, rfl⟩
      rw [← String.toList_ofList (l := name), hstatus]
    · intro h
      exact ⟨t.target, by rw [h, String.ofList_toList], rfl⟩
  · next hother =>
    simp only [reduceCtorEq, false_iff]
    exact hother _

theorem reads_decode (size : Nat) :
    Decoder.Reads size decode fun j t => j = .string ("TO_" ++ t.target.name) := by
  refine (Decoder.reads_text size).bind.congr fun j t => ?_
  have hparse (text : String) :
      ((parse text).mapError Json.Mismatch.refusedText = .ok t) ↔ text = t.text := by
    rw [← ofText?_eq_some_iff, parse]
    cases ofText? text <;> simp [Except.mapError]
  simp [hparse, text_eq]

end Trigger

theorem Value.reads_decode (size : Nat) :
    Decoder.Reads size decode fun j v => v = ofJson j := by
  rw [decode_eq]
  refine (Decoder.reads_value size).bind.congr fun j v => ?_
  simp [pure, Except.pure, eq_comm]

/-! ### Conditions -/

/-- A record of a comparison, whatever nested check stands in it. -/
structure Comparison.Spelled (j : Json) (t : Comparison) : Prop where
  closed : j.IsRecord Condition.names
  field : j.field? Condition.names "field" = some (.string t.field)
  operator : ∃ v, j.field? Condition.names "operator" = some v ∧ Named.Spelled v t.operator
  operand : Fields.Optional "value" (fun v operand => operand = Value.ofJson v)
    (j.field? Condition.names) t.operand

namespace Condition

/-- A record of the first comparison, with the others in its nested check. -/
def Spelled : Json → Condition → Prop
  | j, .single test => test.Spelled j ∧
      (j.field? names "additionalCheck" = none ∨ j.field? names "additionalCheck" = some .null)
  | j, .also test rest => test.Spelled j ∧
      ∃ nested, j.field? names "additionalCheck" = some nested ∧ Spelled nested rest

theorem Spelled.first {j : Json} {c : Condition} (h : Spelled j c) :
    ∃ test, Comparison.Spelled j test := by
  cases c with
  | single test => exact ⟨test, h.1⟩
  | also test rest => exact ⟨test, h.1⟩

theorem Spelled.ne_null {j : Json} {c : Condition} (h : Spelled j c) : j ≠ .null := by
  rintro rfl
  obtain ⟨test, htest⟩ := h.first
  exact htest.closed

theorem exists_eq_ofParts (c : Condition) :
    ∃ field operator operand rest, c = ofParts field operator operand rest := by
  cases c with
  | single test => exact ⟨test.field, test.operator, test.operand, none, rfl⟩
  | also test rest => exact ⟨test.field, test.operator, test.operand, some rest, rfl⟩

theorem spelled_ofParts_iff {j : Json} {field : String} {operator : Operator}
    {operand : Option Value} {rest : Option Condition} :
    Spelled j (ofParts field operator operand rest) ↔
      Comparison.Spelled j ⟨field, operator, operand⟩ ∧
        Fields.Optional "additionalCheck" Spelled (j.field? names) rest := by
  cases rest with
  | none =>
    refine and_congr_right' ⟨?_, ?_⟩
    · rintro (hnone | hnull)
      · exact .inl ⟨hnone, rfl⟩
      · exact .inr ⟨.null, hnull, .null⟩
    · rintro (⟨hnone, _⟩ | ⟨v, hv, hnull⟩)
      · exact .inl hnone
      · cases hnull
        exact .inr hv
  | some rest =>
    refine and_congr_right' ⟨?_, ?_⟩
    · rintro ⟨v, hv, hrest⟩
      exact .inr ⟨v, hv, .given hrest.ne_null hrest⟩
    · rintro (⟨_, habsurd⟩ | ⟨v, hv, hrest⟩)
      · cases habsurd
      · cases hrest with
        | given _ hrest => exact ⟨v, hv, hrest⟩

/-- The fields of a condition, with a decoder for the nested check. -/
def fieldsWith (nested : Decoder Condition) (fs : Fields) : Json.Placed Condition :=
  ofFields (fs.optional "additionalCheck" nested) fs

theorem isNull_iff {r : Reading} (hr : r.IsJson) : r.isNull = true ↔ r = .null := by
  cases r with
  | scalar => cases hr
  | _ => simp [Reading.isNull]

/-- The nested check is looked for where the other fields are. -/
theorem nested_eq {r : Reading} (hr : r.IsJson) (place : Nat) :
    (if r.isNull then .ok none else Json.Placed.ofExcept place (some <$> decode r)) =
      Json.Placed.ofExcept place (Decoder.optional decode r) := by
  by_cases hnull : r = .null
  · subst hnull
    rfl
  · have hfull : r.isNull = false := Bool.eq_false_iff.mpr fun h => hnull ((isNull_iff hr).mp h)
    rw [hfull, Decoder.optional_of_ne_null hr hnull]
    rfl

theorem decodeMember_eq {members : List (String × Reading)} (hmembers : Reading.IsJsonMembers members)
    (place : Nat) :
    decodeMember place members =
      match Fields.findFrom? "additionalCheck" place members with
      | some (found, r) => .ofExcept found (Decoder.optional decode r)
      | none => .ok none := by
  induction members generalizing place with
  | nil => rfl
  | cons entry members ih =>
    obtain ⟨key, r⟩ := entry
    rw [decodeMember, Fields.findFrom?]
    split
    · exact nested_eq hmembers.1 place
    · exact ih hmembers.2 (place + 1)

theorem decodeItem_eq {items : List Reading} (hitems : Reading.IsJsonItems items) :
    decodeItem 0 items =
      match Fields.findFrom? "additionalCheck" 0 (names.zip items) with
      | some (found, r) => .ofExcept found (Decoder.optional decode r)
      | none => .ok none := by
  rcases items with _ | ⟨first, _ | ⟨second, _ | ⟨third, _ | ⟨fourth, rest⟩⟩⟩⟩
  · rfl
  · rfl
  · rfl
  · rfl
  · exact nested_eq hitems.2.2.2.1 3

/-- A condition is read as a record whose nested check is read in the same way. -/
theorem decode_eq {r : Reading} (hr : r.IsJson) :
    decode r = Decoder.record names true (fieldsWith decode) r := by
  cases r with
  | object members ending =>
    have hnested : decodeMember 0 members =
        Fields.optional ⟨members, ending.fault?, false, 0⟩ "additionalCheck" decode :=
      decodeMember_eq hr 0
    rw [decode, hnested]
    rfl
  | array items ending =>
    have hnested : decodeItem 0 items =
        Fields.optional ⟨names.zip items, ending, true, items.length - names.length⟩
          "additionalCheck" decode :=
      decodeItem_eq hr
    rw [decode, hnested]
    rfl
  | scalar | marked | list | mapping => cases hr
  | _ => rfl

theorem reads_decode (size : Nat) : Decoder.Reads size decode Spelled := by
  -- The nested check is smaller than the record it stands in, so it falls to the
  -- induction; the other fields are read alike at any size.
  induction size with
  | zero => exact Decoder.reads_zero
  | succ size ih =>
    have hfield := Fields.reads_required "field" (Decoder.reads_text size)
    have hoperator := Fields.reads_required "operator" (Named.reads_decode (α := Operator) size)
    have hoperand := Fields.reads_optional "value" (Value.reads_decode size)
    have hnested := Fields.reads_optional "additionalCheck" ih
    have hfields := (((hfield.map ofParts).seq hoperator).seq hoperand).seq hnested
    have hrecord := Decoder.reads_record (show names.Nodup by decide) (List.Subset.refl _) hfields
    refine (hrecord.congr fun j c => ?_).of_eq fun r hr => decode_eq hr
    constructor
    · rintro ⟨hclosed, _, rest, ⟨_, operand, ⟨_, operator, ⟨field, ⟨_, hfield, rfl⟩, rfl⟩,
        hoperator, rfl⟩, hoperand, rfl⟩, hrest, rfl⟩
      exact spelled_ofParts_iff.mpr ⟨⟨hclosed, hfield, hoperator, hoperand⟩, hrest⟩
    · intro h
      obtain ⟨field, operator, operand, rest, rfl⟩ := exists_eq_ofParts c
      obtain ⟨htest, hrest⟩ := spelled_ofParts_iff.mp h
      exact ⟨htest.closed, _, rest, ⟨_, operand, ⟨_, operator, ⟨field, ⟨_, htest.field, rfl⟩, rfl⟩,
        htest.operator, rfl⟩, htest.operand, rfl⟩, hrest, rfl⟩

end Condition

/-! ### Rules and documents -/

structure Rule.Spelled (j : Json) (r : Rule) : Prop where
  closed : j.IsRecord names
  id : j.field? names "id" = some (.string r.id)
  description : j.field? names "description" = some (.string r.description)
  trigger : j.field? names "trigger" = some (.string ("TO_" ++ r.trigger.target.name))
  severity : ∃ v, j.field? names "severity" = some v ∧ Named.Spelled v r.severity
  message : j.field? names "message" = some (.string r.message)
  condition : ∃ v, j.field? names "logic" = some v ∧ r.condition.Spelled v

theorem Rule.reads_decode (size : Nat) : Decoder.Reads size decode Spelled := by
  have hid := Fields.reads_required "id" (Decoder.reads_text size)
  have hdescription := Fields.reads_required "description" (Decoder.reads_text size)
  have htrigger := Fields.reads_required "trigger" (Trigger.reads_decode size)
  have hseverity := Fields.reads_required "severity" (Named.reads_decode (α := Severity) size)
  have hmessage := Fields.reads_required "message" (Decoder.reads_text size)
  have hcondition := Fields.reads_required "logic" (Condition.reads_decode size)
  have hfields := (((((hid.map mk).seq hdescription).seq htrigger).seq hseverity).seq
    hmessage).seq hcondition
  have hrecord := Decoder.reads_record (show names.Nodup by decide) (List.Subset.refl _) hfields
  refine (hrecord.congr fun j r => ?_).mono (Nat.le_succ size)
  constructor
  · rintro ⟨hclosed, _, condition, ⟨_, message, ⟨_, severity, ⟨_, trigger, ⟨_, description,
      ⟨id, ⟨_, hid, rfl⟩, rfl⟩, ⟨_, hdescription, rfl⟩, rfl⟩, ⟨_, htrigger, rfl⟩, rfl⟩,
      hseverity, rfl⟩, ⟨_, hmessage, rfl⟩, rfl⟩, hcondition, rfl⟩
    exact ⟨hclosed, hid, hdescription, htrigger, hseverity, hmessage, hcondition⟩
  · intro h
    exact ⟨h.closed, _, r.condition, ⟨_, r.message, ⟨_, r.severity, ⟨_, r.trigger,
      ⟨_, r.description, ⟨r.id, ⟨_, h.id, rfl⟩, rfl⟩, ⟨_, h.description, rfl⟩, rfl⟩,
      ⟨_, h.trigger, rfl⟩, rfl⟩, h.severity, rfl⟩, ⟨_, h.message, rfl⟩, rfl⟩, h.condition, rfl⟩

structure RuleDocument.Spelled (j : Json) (d : RuleDocument) : Prop where
  closed : j.IsRecord names
  version : Fields.Optional "version" (fun v text => v = .string text) (j.field? names) d.version
  rules : ∃ v, j.field? names "rules" = some v ∧ Decoder.ListOf Rule.Spelled v d.rules

theorem RuleDocument.reads_decode (size : Nat) : Decoder.Reads size decode Spelled := by
  have hversion := Fields.reads_optional "version" (Decoder.reads_text size)
  have hrules := Fields.reads_required "rules" (Rule.reads_decode size).list
  have hfields := (hversion.map mk).seq hrules
  have hrecord := Decoder.reads_record (show names.Nodup by decide) (List.Subset.refl _) hfields
  refine (hrecord.congr fun j d => ?_).mono (Nat.le_succ size)
  constructor
  · rintro ⟨hclosed, _, rules, ⟨version, hversion, rfl⟩, hrules, rfl⟩
    exact ⟨hclosed, hversion, hrules⟩
  · intro h
    exact ⟨h.closed, _, d.rules, ⟨d.version, h.version, rfl⟩, h.rules, rfl⟩

end DossierCompliance
