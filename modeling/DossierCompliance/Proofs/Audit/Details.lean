import DossierCompliance.Proofs.Audit.Coverage
import DossierCompliance.Proofs.Json.Rearrangement

/-!
The details of an entry in its hash. They are hashed by their canonical text,
which does not show in what order the members of objects stand and shows all
else. So details may be rearranged under a hash, and the time may lose what is
finer than a microsecond.
-/

namespace DossierCompliance.AuditEntry

open Json (Rearranged)

theorem canonical_eq_of_rearranged {a b : Json} (h : Rearranged a b) (ha : a.UniqueKeys) :
    canonical a = canonical b :=
  h.render_sorted_eq ha

/-- An entry keeps its hash when its details are rearranged and its time is
exchanged for one of the same microsecond. -/
theorem hash_restored {e : AuditEntry} {time : Instant} {details : Json}
    (hkeys : e.details.UniqueKeys) (htime : Instant.SameMicros time e.timestamp)
    (hdetails : Rearranged e.details details) :
    { e with timestamp := time, details := details }.hash = e.hash := by
  have hcanonical := canonical_eq_of_rearranged hdetails hkeys
  have hmicros := Instant.microsText_eq_iff.mpr htime
  simp only [hash, preimage, parts, hcanonical, hmicros]

/-- The canonical text identifies a value: of two values that repeat no key, the
bytes are the same exactly when one comes out of the other by moving members
within their objects, at any depth, and by exchanging numbers for others that
are written alike. Of two numbers only those that are written alike count as
one, so a whole number and the same number with a fraction differ. -/
theorem canonical_eq_iff {a b : Json} (ha : a.UniqueKeys) (hb : b.UniqueKeys) :
    ((canonical a).toUTF8 = (canonical b).toUTF8 ↔ Rearranged a b) ∧
      ∀ m n : Json.Number, Rearranged (.number m) (.number n) ↔ m.render = n.render := by
  constructor
  · rw [canonical, canonical, ← Json.render_sorted_eq_iff_rearranged ha hb]
    exact String.toByteArray_inj
  · intro m n
    constructor
    · intro h
      exact (h.alike_sorted trivial).2
    · intro h
      exact .number h

/-- Members in another order, some within others and with separators in their
texts, have the same bytes; `1` and `1.0` have not. -/
theorem canonical_reordered :
    let whole : Json := .number (.whole 1)
    let real : Json := .number (.real 1.0)
    let inner : List (String × Json) := [("x", .null), ("y", .array [whole, .string "\x1f,\"\x7d"])]
    let a : Json := .object [("a\",", .object inner), ("b", whole)]
    let b : Json := .object [("b", whole), ("a\",", .object inner.reverse)]
    a.UniqueKeys ∧ b.UniqueKeys ∧ (canonical a).toUTF8 = (canonical b).toUTF8 ∧
      Rearranged a b ∧ ¬ Rearranged whole real := by
  intro whole real inner a b
  have ha : a.UniqueKeys := ⟨by decide, ⟨by decide, trivial, ⟨trivial, trivial, trivial⟩, trivial⟩,
    trivial, trivial⟩
  have hb : b.UniqueKeys := ⟨by decide, trivial,
    ⟨by decide, ⟨trivial, trivial, trivial⟩, trivial, trivial⟩, trivial⟩
  have hbytes : (canonical a).toUTF8 = (canonical b).toUTF8 := by decide
  refine ⟨ha, hb, hbytes, (canonical_eq_iff ha hb).1.mp hbytes, ?_⟩
  rw [← (canonical_eq_iff (a := whole) (b := real) trivial trivial).1]
  decide

end DossierCompliance.AuditEntry
