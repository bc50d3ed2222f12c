import DossierCompliance.Dossier.Snapshot
import DossierCompliance.Value.Path
import DossierCompliance.Proofs.Json.Members

/-!
What a path finds in the snapshot of a dossier. Entries are looked up as they
were listed, the last of one key first; a list stands for its first element,
so that a path into an empty list finds null.
-/

namespace DossierCompliance

namespace Value

/-- What is found under a key of a built map: what was listed last with it. -/
theorem step_ofEntries (entries : List (String × Value)) (key : String) :
    (ofEntries entries).step key = (Members.get? entries.reverse key).getD .null := by
  have hlookup : (ofEntries entries).step key =
      (Members.get? (Members.sorted entries) key).getD .null := rfl
  rw [hlookup, Members.get?_sorted]

theorem resolve_of_segments {path : String} {keys : List String} (v : Value)
    (hpath : segments path = keys) : v.resolve path = keys.foldl step v := by
  rw [resolve, resolveSegments, hpath]

/-- A path of one key. -/
theorem resolve_key {key : String} (v : Value) (hkey : segments key = [key]) :
    v.resolve key = v.step key := by
  rw [v.resolve_of_segments hkey, List.foldl_cons, List.foldl_nil]

theorem ofOption_eq_null_iff {α : Type} {f : α → Value} (hf : ∀ a, f a ≠ .null)
    (stored : Option α) : ofOption f stored = .null ↔ stored = none := by
  cases stored <;> simp [ofOption, hf]

end Value

namespace Dossier

/-- The parts of a snapshot under the keys by which rules ask for them. -/
theorem step_snapshot (d : Dossier) :
    d.snapshot.step "learner" = d.learner.snapshot ∧
    d.snapshot.step "has_signed_contract" = .bool d.hasSignedContract ∧
    d.snapshot.step "session" = .ofOption Session.snapshot d.session ∧
    d.snapshot.step "attendance" = .list (d.attendance.map Attendance.snapshot) ∧
    d.snapshot.step "hours_scheduled" = .number d.hoursScheduled ∧
    d.snapshot.step "attendance_rate" = .number d.attendanceRate ∧
    d.snapshot.step "certificate_generated" = .bool d.certificateGenerated := by
  simp [snapshot, Value.step_ofEntries, Members.get?_cons]

end Dossier

theorem Learner.step_snapshot (l : Learner) :
    l.snapshot.step "email" = .ofText? l.email := by
  simp [snapshot, Value.step_ofEntries, Members.get?_cons]

theorem Attendance.step_snapshot (a : Attendance) :
    a.snapshot.step "date" = a.date.snapshot := by
  simp [snapshot, Value.step_ofEntries, Members.get?_cons]

namespace Dossier

variable (d : Dossier)

theorem resolve_email : d.snapshot.resolve "learner.email" = .ofText? d.learner.email := by
  have hpath : Value.segments "learner.email" = ["learner", "email"] := by decide
  rw [Value.resolve_of_segments _ hpath, List.foldl_cons, List.foldl_cons, List.foldl_nil,
    d.step_snapshot.1, Learner.step_snapshot]

/-- The path to the date of attendance finds that of the first day, if any. -/
theorem resolve_date :
    d.snapshot.resolve "attendance.date" =
      .ofOption (fun a => a.date.snapshot) d.attendance.head? := by
  have hpath : Value.segments "attendance.date" = ["attendance", "date"] := by decide
  rw [Value.resolve_of_segments _ hpath, List.foldl_cons, List.foldl_cons, List.foldl_nil,
    d.step_snapshot.2.2.2.1]
  cases d.attendance with
  | nil => rfl
  | cons a rest => exact a.step_snapshot

end Dossier

end DossierCompliance
