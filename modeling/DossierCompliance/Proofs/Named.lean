import DossierCompliance.Dossier.Status
import DossierCompliance.Dossier.Vocabulary
import DossierCompliance.Proofs.Json.Decoding
import DossierCompliance.Rule.Operator

/-!
Members of closed sets in values. A member is spelled by its name, or by an
object that maps its name to null. When no two members share a name, a member
is read where it is spelled and nowhere else.
-/

namespace DossierCompliance

open Json (Reading Decoder Mismatch)

/-- No member is left out, the names tell the members apart, and the names that
are given by hand are those that are derived. -/
class LawfulNamed (α : Type) [Named α] : Prop where
  ofName?_name : ∀ a : α, Named.ofName? (Named.name a) = some a
  derivedName_eq : ∀ a : α, Named.derivedName a = Named.name a

namespace Named

variable {α : Type} [Named α]

theorem ofName?_eq_some_iff [LawfulNamed α] {text : String} {a : α} :
    ofName? text = some a ↔ text = name a := by
  constructor
  · intro h
    exact (by simpa using List.find?_some h : name a = text).symm
  · rintro rfl
    exact LawfulNamed.ofName?_name a

theorem name_inj [LawfulNamed α] {a b : α} : name a = name b ↔ a = b := by
  rw [← ofName?_eq_some_iff, LawfulNamed.ofName?_name, Option.some.injEq]

theorem variantNamed_eq_ok_iff [LawfulNamed α] {text : String} {a : α} :
    Decoder.variantNamed (variants α) text = .ok a ↔ text = name a := by
  have hfind : (variants α).find? (·.1 == text) =
      (ofName? text : Option α).map fun a => (name a, a) := by
    rw [variants, List.find?_map]
    simp only [LawfulNamed.derivedName_eq]
    rfl
  rw [Decoder.variantNamed, hfind, ← ofName?_eq_some_iff]
  cases (ofName? text : Option α) <;> simp

theorem toJson_eq [LawfulNamed α] (a : α) : toJson a = .string (name a) := by
  rw [toJson, LawfulNamed.derivedName_eq]

/-- The values that stand for a member of a closed set. -/
inductive Spelled : Json → α → Prop where
  | name (a : α) : Spelled (.string (Named.name a)) a
  | entry (a : α) : Spelled (.object [(Named.name a, .null)]) a

theorem spelled_toJson [LawfulNamed α] (a : α) : Spelled (toJson a) a := by
  rw [toJson_eq]
  exact .name a

theorem unit_eq_ok {r : Reading} (h : Decoder.unit r = .ok ()) : r = .null := by
  cases r with
  | null => rfl
  | _ => cases h

theorem reads_decode [LawfulNamed α] (size : Nat) :
    Decoder.Reads size (decode : Decoder α) Spelled where
  sound {r a} hr _ ha := by
    cases r with
    | string text =>
      obtain rfl := variantNamed_eq_ok_iff.mp ha
      exact ⟨_, rfl, .name a⟩
    | object members ending =>
      rcases members with _ | ⟨⟨text, inner⟩, _ | ⟨second, members⟩⟩
      · rcases ending with _ | _ | ⟨_, _ | _⟩ | _ <;> cases ha
      · obtain ⟨b, hb, hinner⟩ := Json.bind_eq_ok ha
        obtain rfl := variantNamed_eq_ok_iff.mp hb
        obtain ⟨_, hunit, hend⟩ := Json.bind_eq_ok hinner
        obtain rfl := unit_eq_ok hunit
        cases ending with
        | closed =>
          obtain rfl : b = a := Except.ok.inj hend
          exact ⟨_, rfl, .entry b⟩
        | _ => cases hend
      · simp only [decode, Decoder.variant] at ha
        split at ha <;> cases ha
    | scalar | marked | list | mapping => cases hr
    | _ => cases ha
  complete {j a} _ _ ha := by
    cases ha with
    | name => exact variantNamed_eq_ok_iff.mpr rfl
    | entry =>
      have hnamed : Decoder.variantNamed (variants α) (name a) = .ok a :=
        variantNamed_eq_ok_iff.mpr rfl
      simp only [Json.toReading, Json.toMemberReadings, decode, Decoder.variant, hnamed]
      rfl

end Named

instance : LawfulNamed Status where
  ofName?_name a := by cases a <;> rfl
  derivedName_eq a := by cases a <;> decide

instance : LawfulNamed Phase where
  ofName?_name a := by cases a <;> rfl
  derivedName_eq a := by cases a <;> decide

instance : LawfulNamed Operator where
  ofName?_name a := by cases a <;> rfl
  derivedName_eq a := by cases a <;> decide

instance : LawfulNamed Severity where
  ofName?_name a := by cases a <;> rfl
  derivedName_eq a := by cases a <;> decide

instance : LawfulNamed FundingChannel where
  ofName?_name a := by cases a <;> rfl
  derivedName_eq a := by cases a <;> decide

instance : LawfulNamed OrganizationKind where
  ofName?_name a := by cases a <;> rfl
  derivedName_eq a := by cases a <;> decide

instance : LawfulNamed ContractStatus where
  ofName?_name a := by cases a <;> rfl
  derivedName_eq a := by cases a <;> decide

instance : LawfulNamed ProofKind where
  ofName?_name a := by cases a <;> rfl
  derivedName_eq a := by cases a <;> decide

end DossierCompliance
