import DossierCompliance.Command.Run
import DossierCompliance.Engine.Seed
import DossierCompliance.Proofs.Assessment
import DossierCompliance.Proofs.Engine.Validation
import DossierCompliance.Proofs.Json.Members
import DossierCompliance.Proofs.Rule.StandardText
import DossierCompliance.Proofs.Text.Utf8

/-!
What a dry run tells. The dossier is all that its store holds, and it is found
there under its own id, so the run shows the outcome of a validation that has the
store to itself. An alert stands there for each violation that blocks, so the
exit code, which comes from the verdict, tells whether there is any.
-/

namespace DossierCompliance

/-- What a dry run tells of the assessment of a dossier: the verdict; one alert
for each violation that blocks, in their order and under the ids of the report;
one audit entry if the actor is known and there is an error or a warning, first
in its chain; and no failure. -/
structure DryRun.Tells (r : DryRun) (d : Dossier) (a : Assessment) (actor : Option Actor)
    (time : Instant) : Prop where
  dossierId : r.dossierId = d.id
  status : r.status = d.status
  target : r.target = a.target
  verdict : r.report.verdict = a.verdict
  failures : r.report.failures = []
  alerts : List.Forall₂ (fun alert v => alert = .raise alert.id d.id ⟨a.target⟩ v time)
    r.alerts ((a.findings.filterMap (·.violation?)).filter fun v => v.severity = .blocking)
  alertIds : r.report.alertIds = r.alerts.map (·.id)
  audit : List.Forall₂ (fun entry who => entry =
      (a.auditDraft d who time).chain entry.id genesisHash)
    r.audit (if a.verdict.isClean then [] else actor.toList)
  auditEntryId : r.report.auditEntryId.toList = r.audit.map (·.id)
  chain : (AuditChain.verify r.audit).brokenLinks = 0

/-- Arguments that stand for a status, the files of a dossier and of rules that can be
read, and the actor. -/
structure DryRunArguments.Denote (arguments : DryRunArguments) (files : Files) (d : Dossier)
    (rules : RuleDocument) (target : Status) (actor : Option Actor) : Prop where
  target : Status.parse (Text.trim arguments.target) = .ok target
  dossier : Command.readDossier files arguments.dossier = .ok d
  rules : Command.loadRules files arguments.rules = .ok rules
  actor : actor = arguments.actor.map fun id => ⟨id, arguments.role⟩

namespace Command

variable (supply : Supply) (rules : RuleDocument) (d : Dossier) (target : Status)
  (actor : Option Actor)

theorem simulate_eq :
    let a := assess rules ⟨d, target, (supply.instant 0).date⟩
    let time := supply.instant 1
    let alerts := Engine.raised supply d.id ⟨target⟩ time 2 (Engine.due ⟨rules, false⟩ a)
    let entry := Engine.addedEntry .empty d a actor time (supply.id (2 + alerts.length))
    simulate rules supply d target actor = .ok
      { dossierId := d.id
        status := d.status
        target := target
        report :=
          { verdict := a.verdict
            alertIds := alerts.map (·.id)
            auditEntryId := entry.map (·.id)
            failures := [] }
        alerts := alerts
        audit := entry.toList } := by
  intro a time alerts entry
  have hfound : (MemoryStore.empty.upsertDossier d).dossiers.get? d.id = some d := by
    rw [MemoryStore.upsertDossier, Members.get?_put, if_pos rfl]
  have hrun := Engine.runFrom_validate_memory supply ⟨rules, false⟩ hfound target actor 0
  dsimp only at hrun
  rw [Engine.alerting_eq_due] at hrun
  rw [simulate, Program.run, hrun]
  rfl

theorem tells_of_simulate {r : DryRun} (h : simulate rules supply d target actor = .ok r) :
    r.Tells d (assess rules ⟨d, target, (supply.instant 0).date⟩) actor (supply.instant 1) := by
  rw [simulate_eq] at h
  cases h
  obtain ⟨haudit, hchain⟩ := Engine.addedEntry_empty d actor
    (assess rules ⟨d, target, (supply.instant 0).date⟩) (supply.instant 1) _
  exact {
    dossierId := rfl
    status := rfl
    target := rfl
    verdict := rfl
    failures := rfl
    alerts := Engine.forall₂_raised supply d.id ⟨target⟩ (supply.instant 1) 2 _
    alertIds := rfl
    audit := haudit
    auditEntryId := Option.toList_map
    chain := hchain }

/-- A command that names a dossier shows the run of this dossier, and its exit
code comes from the verdict. -/
theorem run_dryRun {supply : Supply} {rules : RuleDocument} {d : Dossier} {target : Status}
    {actor : Option Actor} {files : Files} {arguments : DryRunArguments} {r : DryRun}
    (hdenoted : arguments.Denote files d rules target actor)
    (hr : simulate rules supply d target actor = .ok r) :
    let exit := if r.report.verdict.isSuccess then 0 else 1
    run files supply (.dryRun arguments) =
      if arguments.json then .reported exit (dryRunJson r) else .printed exit (dryRunLines r) := by
  rw [hdenoted.actor] at hr
  rw [run, performDryRun, hdenoted.target, hdenoted.dossier, hdenoted.rules]
  change run.concluded (simulate rules supply d target _ >>= _) = _
  rw [hr]
  rfl

/-- Of the alerts that are told of, there is none exactly when the change is
allowed. -/
theorem isSuccess_of_tells {r : DryRun} {d : Dossier} {a : Assessment} {actor : Option Actor}
    {time : Instant} (h : r.Tells d a actor time) :
    r.report.verdict.isSuccess = r.alerts.isEmpty := by
  rw [h.verdict, a.isSuccess_eq_isEmpty, Bool.eq_iff_iff, List.isEmpty_iff, List.isEmpty_iff,
    ← List.length_eq_zero_iff, ← List.length_eq_zero_iff, h.alerts.length_eq]

/-- A dossier can be taken through the change to any status by any rules, and what
is told of the run is what was decided and recorded. A command that stands for the
run shows it; its exit code is zero if no alert was recorded, and otherwise one. -/
theorem dryRun_faithful :
    ∃ r, simulate rules supply d target actor = .ok r ∧
      r.Tells d (assess rules ⟨d, target, (supply.instant 0).date⟩) actor (supply.instant 1) ∧
      ∀ (files : Files) (arguments : DryRunArguments),
        arguments.Denote files d rules target actor →
          let outcome := run files supply (.dryRun arguments)
          (outcome = if arguments.json then .reported outcome.exitCode (dryRunJson r)
            else .printed outcome.exitCode (dryRunLines r)) ∧
          (outcome.exitCode = 0 ↔ r.alerts = []) ∧ (outcome.exitCode = 1 ↔ r.alerts ≠ []) := by
  obtain ⟨r, hr⟩ : ∃ r, simulate rules supply d target actor = .ok r :=
    ⟨_, simulate_eq supply rules d target actor⟩
  have htold := tells_of_simulate supply rules d target actor hr
  refine ⟨r, hr, htold, ?_⟩
  intro files arguments hdenoted outcome
  have hshown : outcome = _ := run_dryRun hdenoted hr
  rw [isSuccess_of_tells htold] at hshown
  rw [hshown]
  cases arguments.json <;> cases r.alerts <;> simp [Outcome.exitCode]

/-! ### A draft that is to be closed -/

def draftText : String :=
  "[\"dos-1\",\"org-1\",\"DRAFT\",[\"Ada\",\"Martin\"]," ++
  "[\"org-1\",\"Learn\",null,false,null,\"TRAINING_PROVIDER\"]]"

/-- The dossier of the text, whose organization has no activity declaration number. -/
def draft : Dossier where
  id := "dos-1"
  tenantId := "org-1"
  status := .draft
  learner := ⟨"Ada", "Martin", none⟩
  organization := ⟨"org-1", "Learn", none, false, none, .trainingProvider, none⟩
  contracts := []
  session := none
  proofs := []
  attendance := []
  certificateGenerated := false
  employerReference := none
  supervisorName := none

def draftFiles : Files := fun _ => .bytes (Text.Utf8.encode draftText)

theorem readDossier_draft (path : String) : readDossier draftFiles path = .ok draft := by
  have hread : Json.Document.read draftText = ⟨.array
      [.string "dos-1", .string "org-1", .string "DRAFT",
       .array [.string "Ada", .string "Martin"] none,
       .array [.string "org-1", .string "Learn", .null, .bool false, .null,
        .string "TRAINING_PROVIDER"] none] none, false⟩ := by
    dsimp only [draftText]
    cbv
  have htext : (draftFiles path).text = .ok draftText := by
    rw [draftFiles, FileContent.text, Text.Utf8.decode?_encode]
  rw [readDossier, htext]
  change (Json.decodeText Dossier.decode draftText).mapError _ = _
  rw [Json.decodeText, hread]
  rfl

/-- Without a path the standard rules are loaded. -/
theorem loadRules_none (files : Files) : loadRules files none = .ok .standard :=
  congrArg (Except.mapError CommandError.standardRules) RuleDocument.loadStandard_eq

/-- The draft may not be closed, as its organization may not send an invoice. -/
theorem dryRun_draft_refused :
    let supply : Supply := .ofSeed ⟨⟨2024, 5, 1, by decide⟩, 0, 0, by decide⟩ []
    let arguments : DryRunArguments := ⟨"draft.json", " CLOSED ", none, some "ops-1", none, false⟩
    arguments.Denote draftFiles draft .standard .closed (some ⟨"ops-1", none⟩) ∧
      (run draftFiles supply (.dryRun arguments)).exitCode = 1 := by
  intro supply arguments
  have hdenoted : arguments.Denote draftFiles draft .standard .closed (some ⟨"ops-1", none⟩) := {
    target := by cbv
    dossier := readDossier_draft _
    rules := loadRules_none draftFiles
    actor := rfl }
  obtain ⟨r, -, htold, hcommand⟩ :=
    dryRun_faithful supply .standard draft .closed (some ⟨"ops-1", none⟩)
  refine ⟨hdenoted, (hcommand draftFiles arguments hdenoted).2.2.mpr ?_⟩
  intro hnone
  have hallowed : r.report.verdict.isSuccess = true := by
    rw [isSuccess_of_tells htold, hnone]
    rfl
  rw [htold.verdict, isSuccess_assess_iff] at hallowed
  cases (Regulation.findings_eq_nil_iff.mp hallowed.1).1

end Command

end DossierCompliance
