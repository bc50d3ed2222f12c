import DossierCompliance.Proofs.Rule.Loading

/-!
The text of the standard rules is loaded as the standard rules. What is read from
the text is compared with what it should be, character by character; where it is
the same, and holds neither a fault nor a fraction, the comparison decides it.
-/

namespace DossierCompliance

/-! ### Readings that are the same -/

namespace Json.Reading

mutual

/-- Whether two readings are the same; no fault and no fraction is taken to be. -/
def same : Reading → Reading → Bool
  | .null, .null => true
  | .bool a, .bool b => a == b
  | .number (.whole m), .number (.whole n) => m == n
  | .string s, .string t => s == t
  | .array items none, .array others none => sameItems items others
  | .object members .closed, .object others .closed => sameMembers members others
  | _, _ => false

def sameItems : List Reading → List Reading → Bool
  | [], [] => true
  | r :: items, s :: others => r.same s && sameItems items others
  | _, _ => false

def sameMembers : List (String × Reading) → List (String × Reading) → Bool
  | [], [] => true
  | (key, r) :: members, (other, s) :: others =>
    key == other && r.same s && sameMembers members others
  | _, _ => false

end

mutual

theorem eq_of_same : ∀ {r s : Reading}, r.same s = true → r = s
  | .null, .null, _ => rfl
  | .bool _, .bool _, h => congrArg _ (eq_of_beq h)
  | .number (.whole _), .number (.whole _), h => congrArg _ (congrArg _ (eq_of_beq h))
  | .string _, .string _, h => congrArg _ (eq_of_beq h)
  | .array _ none, .array _ none, h => congrArg (array · none) (items_eq_of_same h)
  | .object _ .closed, .object _ .closed, h => congrArg (object · .closed) (members_eq_of_same h)

theorem items_eq_of_same : ∀ {items others : List Reading}, sameItems items others = true →
    items = others
  | [], [], _ => rfl
  | _ :: _, _ :: _, h => by
    obtain ⟨hr, hitems⟩ := Bool.and_eq_true_iff.mp h
    rw [eq_of_same hr, items_eq_of_same hitems]

theorem members_eq_of_same : ∀ {members others : List (String × Reading)},
    sameMembers members others = true → members = others
  | [], [], _ => rfl
  | (_, _) :: _, (_, _) :: _, h => by
    obtain ⟨hfirst, hmembers⟩ := Bool.and_eq_true_iff.mp h
    obtain ⟨hkey, hr⟩ := Bool.and_eq_true_iff.mp hfirst
    rw [eq_of_beq hkey, eq_of_same hr, members_eq_of_same hmembers]

end

end Json.Reading

/-! ### What stands in the text -/

open Json (Reading Document)

/-- A comparison as it is written down, with what follows the operator. -/
def Json.Reading.comparison (field : String) (operator : Operator) (more : Members Reading) :
    Reading :=
  .object (("field", .string field) :: ("operator", .string (Named.name operator)) :: more) .closed

/-- A rule as it is written down, with its condition. -/
def Json.Reading.rule (r : Rule) (condition : Reading) : Reading :=
  .object
    [("id", .string r.id), ("description", .string r.description),
     ("trigger", .string r.trigger.text), ("severity", .string (Named.name r.severity)),
     ("message", .string r.message), ("logic", condition)] .closed

namespace RuleDocument

/-- The conditions of the standard rules as they are written down. -/
def standardConditions : List Reading :=
  let number (n : Int) : String × Reading := ("value", .number (.whole n))
  let noValue : String × Reading := ("value", .null)
  let also (r : Reading) : String × Reading := ("additionalCheck", r)
  let unsigned := Reading.comparison "has_signed_contract" .isFalse []
  let rateBelow (n : Int) (more : Members Reading) :=
    Reading.comparison "attendance_rate" .less (number n :: more)
  let scheduled (more : Members Reading) :=
    Reading.comparison "hours_scheduled" .greater (number 0 :: more)
  [.comparison "learner.email" .equals [noValue],
   .comparison "session.programme.certification.code" .equals [noValue],
   unsigned,
   .comparison "session" .equals [noValue],
   rateBelow 80 [also (scheduled [])],
   rateBelow 100 [also (scheduled [also (.comparison "has_justified_absence_proof" .isFalse [])])],
   unsigned,
   .comparison "attendance.date" .equals [noValue],
   .comparison "funding_channel" .equals [("value", .string "CPF"), also (rateBelow 100 [])],
   rateBelow 80 [],
   unsigned,
   .comparison "certificate_generated" .isFalse [],
   .comparison "status" .equals [("value", .string "INVOICED")]]

def standardReading : Reading :=
  .object
    [("version", .string "2026.1"),
     ("rules", .array (standard.rules.zipWith Reading.rule standardConditions) none)] .closed

/-! ### Reading it -/

/-- The characters of pieces, one piece after the other. -/
theorem flatMap_toList_cons {piece : String} {pieces : List String} {first rest : List Char}
    (hfirst : String.ofList first = piece) (hrest : pieces.flatMap String.toList = rest) :
    (piece :: pieces).flatMap String.toList = first ++ rest := by
  rw [List.flatMap_cons, hrest, ← hfirst, String.toList_ofList]

theorem read_standardText : Document.read standardText = ⟨standardReading, false⟩ := by
  have hread (cs : List Char) (hchars : standardPieces.flatMap String.toList = cs)
      (hsame : (Json.readValue (4 * cs.length + 4) 0 cs).reading.same standardReading = true)
      (hrest : (Json.readValue (4 * cs.length + 4) 0 cs).rest = some ['\n']) :
      Document.read standardText = ⟨standardReading, false⟩ := by
    rw [Document.read, standardText, String.toList_ofList, hchars, Reading.eq_of_same hsame, hrest]
    rfl
  apply hread
  case hchars =>
    -- literals are taken apart first, as comparing their encodings would be slow
    simp only [standardPieces, enrolmentText, trainingText, completionText, invoiceText,
      closureText, cancellationText, List.cons_append, List.nil_append]
    repeat apply flatMap_toList_cons rfl
    exact List.flatMap_nil
  case hsame => decide +kernel
  case hrest => decide +kernel

/-- Each text that has to be there begins with a letter. -/
theorem filled_standard : ∀ r ∈ standard.rules, r.IsFilled := by
  have htexts : ∀ r ∈ standard.rules, ∀ text ∈ r.id :: r.message :: r.condition.fields,
      Text.isBlank text = false := by
    simp only [standard, enrolmentRules, trainingRules, completionRules, invoiceRules,
      closureRules, cancellationRules, Condition.fields, Condition.comparisons, List.cons_append,
      List.nil_append, List.map_cons, List.map_nil, List.forall_mem_cons, List.not_mem_nil,
      false_implies, implies_true, and_true]
    and_intros <;> exact Text.isBlank_ofList_cons rfl
  intro r hr
  have hr := htexts r hr
  simp only [List.forall_mem_cons] at hr
  exact ⟨hr.1, hr.2.1, hr.2.2⟩

theorem areValid_standard : Rule.AreValid standard.rules :=
  ⟨filled_standard, by decide +kernel⟩

theorem decode_standardReading : decode standardReading = .ok standard := rfl

/-- The standard rules are what their text is loaded as. -/
theorem loadStandard_eq : loadStandard = .ok standard := by
  have hdecoded : Json.decodeText decode standardText = .ok standard := by
    rw [Json.decodeText, read_standardText, Document.decode, decode_standardReading]
    exact if_neg Bool.false_ne_true
  rw [loadStandard, ofJsonText_of_decodeText hdecoded]
  exact checked_eq_ok_iff.mpr ⟨rfl, areValid_standard⟩

theorem IsLoaded.standard : IsLoaded standard :=
  .jsonText loadStandard_eq

end RuleDocument

end DossierCompliance
