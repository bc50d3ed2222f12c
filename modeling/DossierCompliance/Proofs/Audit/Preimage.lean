import DossierCompliance.Audit.Entry
import DossierCompliance.Proofs.Calendar.Instants
import DossierCompliance.Proofs.Json.Canonical
import DossierCompliance.Proofs.Named
import DossierCompliance.Proofs.Text.Framing
import DossierCompliance.Proofs.Uuid
import Mathlib.Tactic

/-!
The text that the hash of an entry is computed from. Its parts are closed by
separators. Names, identifiers, flags, the details and the time never hold a
separator; the six texts that are free may hold some. Each part tells what it
was written for.
-/

namespace DossierCompliance

open Text (NoControls uncontrolled)

/-! ### Parts that say what they were written for -/

namespace Uuid

theorem uncontrolled_of_isLowerHex {c : Char} (hc : isLowerHex c = true) :
    uncontrolled c = true := by
  simp only [isLowerHex, Bool.or_eq_true, Bool.and_eq_true, decide_eq_true_eq] at hc
  rcases hc with hdigit | ⟨hlow, _⟩
  · exact Decimal.uncontrolled_of_numeralChar (Decimal.numeralChar_of_isDigit hdigit)
  · have hletter : (97 : Nat) ≤ c.toNat := hlow
    have hspace : 0x20 ≤ c.toNat := by omega
    simpa [uncontrolled] using hspace

theorem noControls_text (u : Uuid) : NoControls u.text.toList := by
  have hdigits : NoControls u.digits := fun c hc =>
    uncontrolled_of_isLowerHex (isLowerHex_of_mem hc)
  have htake (k n : Nat) : NoControls ((u.digits.drop k).take n) :=
    hdigits.sublist ((List.take_sublist _ _).trans (List.drop_sublist _ _))
  have hhyphen : uncontrolled '-' = true := by decide
  simp only [text, grouped, String.toList_ofList]
  exact (hdigits.sublist (List.take_sublist _ _)).append (.cons hhyphen ((htake 8 4).append
    (.cons hhyphen ((htake 12 4).append (.cons hhyphen ((htake 16 4).append
      (.cons hhyphen (hdigits.sublist (List.drop_sublist _ _)))))))))

end Uuid

instance : LawfulNamed AuditAction where
  ofName?_name a := by cases a <;> rfl
  derivedName_eq a := by cases a <;> decide

theorem AuditAction.noControls_name (a : AuditAction) : NoControls (Named.name a).toList := by
  cases a <;> decide

theorem Phase.noControls_name (p : Phase) : NoControls (Named.name p).toList := by
  cases p <;> decide

theorem Status.noControls_name (s : Status) : NoControls s.name.toList := by
  cases s <;> decide

namespace AuditEntry

theorem flag_inj {a b : Bool} (h : flag a = flag b) : a = b := by
  revert a b
  decide

theorem noControls_flag (b : Bool) : NoControls (flag b).toList := by
  cases b <;> decide

theorem noControls_canonical (details : Json) : NoControls (canonical details).toList := by
  simpa [canonical, Json.render] using Json.noControls_chars details.sorted

/-! ### Separators -/

/-- How many separators a text holds. -/
def separators (s : String) : Nat :=
  s.toList.count separator

theorem separators_eq_zero {s : String} (hs : NoControls s.toList) : separators s = 0 :=
  Text.count_eq_zero_of_madeOf (by decide) hs

@[simp]
theorem separators_id (u : Uuid) : separators u.text = 0 :=
  separators_eq_zero u.noControls_text

@[simp]
theorem separators_action (a : AuditAction) : separators (Named.name a) = 0 :=
  separators_eq_zero a.noControls_name

@[simp]
theorem separators_phase (p : Phase) : separators (Named.name p) = 0 :=
  separators_eq_zero p.noControls_name

@[simp]
theorem separators_status (s : Status) : separators s.name = 0 :=
  separators_eq_zero s.noControls_name

@[simp]
theorem separators_flag (b : Bool) : separators (flag b) = 0 :=
  separators_eq_zero (noControls_flag b)

@[simp]
theorem separators_canonical (details : Json) : separators (canonical details) = 0 :=
  separators_eq_zero (noControls_canonical details)

@[simp]
theorem separators_microsText (t : Instant) : separators t.microsText = 0 :=
  separators_eq_zero t.noControls_microsText

/-! ### The hashed text -/

/-- The parts that say who acted on what, behind which entry. -/
def subjectParts (e : AuditEntry) : List String :=
  [e.previousHash, e.id.text, e.tenantId, e.actorId, flag e.actorRole.isSome,
   e.actorRole.getD "", Named.name e.action, e.entityType, e.entityId]

/-- The parts that say what was attempted and found. -/
def outcomeParts (e : AuditEntry) : List String :=
  [Named.name e.phase, flag e.isForced, e.previousState.name, e.newState.name,
   canonical e.details]

theorem parts_eq (e : AuditEntry) : e.parts = e.subjectParts ++ e.outcomeParts := rfl

/-- Texts one behind the other, each closed by a separator. -/
def closed (texts : List String) : List Char :=
  Text.framed separator (texts.map String.toList)

theorem closed_append (first second : List String) :
    closed (first ++ second) = closed first ++ closed second := by
  simp [closed, Text.framed_append]

theorem preimage_toList (e : AuditEntry) :
    e.preimage.toList = closed e.parts ++ e.timestamp.microsText.toList := by
  simp [preimage, closed, Text.framed, List.flatMap_map]

theorem map_count_separator (texts : List String) :
    (texts.map String.toList).map (List.count separator) = texts.map separators :=
  List.map_map

theorem count_closed (texts : List String) :
    (closed texts).count separator = texts.length + (texts.map separators).sum := by
  rw [closed, Text.count_framed, map_count_separator, List.length_map]

/-- Texts with the same numbers of separators are read back. -/
theorem closed_inj {xs ys : List String} {r t : List Char}
    (hcounts : xs.map separators = ys.map separators) (h : closed xs ++ r = closed ys ++ t) :
    xs = ys ∧ r = t := by
  have hframes : (xs.map String.toList).map (List.count separator) =
      (ys.map String.toList).map (List.count separator) := by
    rw [map_count_separator, map_count_separator, hcounts]
  obtain ⟨htexts, hrest⟩ := Text.framed_inj hframes h
  exact ⟨List.map_injective_iff.mpr (fun _ _ => String.toList_injective) htexts, hrest⟩

theorem count_outcome (e : AuditEntry) :
    (closed e.outcomeParts ++ e.timestamp.microsText.toList).count separator = 5 := by
  have hmicros : e.timestamp.microsText.toList.count separator = 0 :=
    separators_microsText e.timestamp
  rw [List.count_append, count_closed, hmicros]
  simp [outcomeParts]

/-- The whole text holds the separators that close its parts, and those of the
free texts. -/
theorem count_preimage (e : AuditEntry) :
    e.preimage.toList.count separator = 14 + (separators e.previousHash + separators e.tenantId
      + separators e.actorId + separators (e.actorRole.getD "") + separators e.entityType
      + separators e.entityId) := by
  have houtcome := count_outcome e
  rw [preimage_toList, parts_eq, closed_append, List.append_assoc, List.count_append, houtcome,
    count_closed]
  simp [subjectParts]
  omega

end AuditEntry

end DossierCompliance
