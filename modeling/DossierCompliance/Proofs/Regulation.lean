import DossierCompliance.Proofs.Assessment
import DossierCompliance.Proofs.Json.Members

/-!
What the regulatory checks complain of. A complaint is a violation that bears
the name of a check and is marked as one of regulation, so that no rule of the
same name is taken for it. The complaint about the certification lists the
regulated channels of the dossier, the one about apprentices the fields that
are missing, and each is made when its list is not empty and nothing else
excuses the dossier.
-/

namespace DossierCompliance

namespace Assessment

/-- A regulatory check complains under its name. A rule of the same name is no
such check. -/
def Violates (a : Assessment) (ruleId : String) : Prop :=
  ∃ v ∈ a.violations, v.ruleId = ruleId ∧ v.context = .tenantCompliance

/-- The violation is what a regulatory check complains of under its name. -/
def HasComplaint (a : Assessment) (ruleId : String) (v : Violation) : Prop :=
  v ∈ a.violations ∧ v.ruleId = ruleId ∧ v.context = .tenantCompliance

end Assessment

/-! ### Checks in an assessment -/

namespace Regulation

variable (rules : RuleDocument) (input : CheckInput)

/-- The checks have different names. -/
theorem eq_of_ruleId {c other : Check} (hc : c ∈ checks) (hother : other ∈ checks)
    (h : other.ruleId = c.ruleId) : other = c := by
  simp only [checks, List.mem_cons, List.not_mem_nil, or_false] at hc hother
  rcases hc with rfl | rfl | rfl <;> rcases hother with rfl | rfl | rfl <;>
    first | rfl | exact absurd h (by decide)

/-- The complaints under the name of a check are those of this check. -/
theorem hasComplaint_iff {c : Check} (hc : c ∈ checks) {v : Violation} :
    (assess rules input).HasComplaint c.ruleId v ↔ c.violation? input = some v := by
  rw [Assessment.HasComplaint, mem_violations_assess]
  constructor
  · rintro ⟨⟨other, hother, hv⟩ | ⟨r, -, -, rfl⟩, hname, hcontext⟩
    · obtain ⟨message, details, rfl⟩ := eq_blocking_of_check hother hv
      rwa [← eq_of_ruleId hc hother hname]
    · -- what a rule finds is no violation of a check
      cases hcontext
  · intro hv
    obtain ⟨message, details, rfl⟩ := eq_blocking_of_check hc hv
    exact ⟨.inl ⟨c, hc, hv⟩, rfl, rfl⟩

/-- Among the violations is one of a check exactly when the check complains. -/
theorem violates_iff {c : Check} (hc : c ∈ checks) :
    (assess rules input).Violates c.ruleId ↔ c.violation? input ≠ none := by
  rw [Option.ne_none_iff_exists']
  exact exists_congr fun v => hasComplaint_iff rules input hc

theorem nda_mem_checks : (⟨ndaRequired, checkNda⟩ : Check) ∈ checks := by
  simp [checks]

theorem qualiopi_mem_checks : (⟨qualiopiRequired, checkQualiopi⟩ : Check) ∈ checks := by
  simp [checks]

theorem tutor_mem_checks : (⟨tutorRequired, checkTutor⟩ : Check) ∈ checks := by
  simp [checks]

theorem violates_nda_iff :
    (assess rules input).Violates ndaRequired ↔
      input.target.isInvoicing = true ∧ ¬ input.dossier.HasDeclaration := by
  rw [violates_iff rules input nda_mem_checks, ne_eq, checkNda_eq_none, Classical.not_imp]

theorem violates_qualiopi_iff :
    (assess rules input).Violates qualiopiRequired ↔
      input.target ≠ .cancelled ∧ ¬ input.dossier.HasFunding input.today := by
  rw [violates_iff rules input qualiopi_mem_checks, ne_eq, checkQualiopi_eq_none,
    Classical.not_imp]

theorem violates_tutor_iff :
    (assess rules input).Violates tutorRequired ↔
      input.target.isActive = true ∧ ¬ input.dossier.HasTutor := by
  rw [violates_iff rules input tutor_mem_checks, ne_eq, checkTutor_eq_none, Classical.not_imp]

end Regulation

/-! ### What excuses a dossier -/

namespace Dossier

/-- Which of the fields for an employer and a supervisor are not given, in this order. -/
structure LacksFields (d : Dossier) (fields : List String) : Prop where
  inOrder : fields.Sublist ["employer_reference", "supervisor_name"]
  employer : "employer_reference" ∈ fields ↔ ¬ IsGiven d.employerReference
  supervisor : "supervisor_name" ∈ fields ↔ ¬ IsGiven d.supervisorName

theorem lacksFields (d : Dossier) : d.LacksFields (Regulation.missingTutorFields d) := by
  have hgiven (stored : Option String) : ¬ IsGiven stored ↔ Text.isMissing stored = true := by
    rw [← isMissing_eq_false, Bool.not_eq_false]
  have hfields : Regulation.missingTutorFields d =
      ([("employer_reference", d.employerReference),
        ("supervisor_name", d.supervisorName)].filter fun field =>
          Text.isMissing field.2).map Prod.fst := by
    rw [← List.filterMap_eq_map, List.filterMap_filter]
    rfl
  rw [hfields]
  constructor
  · exact List.filter_sublist.map Prod.fst
  · simp [hgiven]
  · simp [hgiven]

theorem hasFunding_iff (d : Dossier) (today : Date) :
    d.HasFunding today ↔
      d.regulatedChannels = [] ∨ d.organization.IsCertifiedOn today := by
  rw [HasFunding, regulatedChannels_eq_nil]

end Dossier

/-! ### Complaints -/

namespace Regulation

variable {input : CheckInput} {v : Violation}

theorem named_of_checkQualiopi (h : checkQualiopi input = some v) :
    v.details.get? "funding_channels" =
        some (.texts (input.dossier.regulatedChannels.map Named.name)) ∧
      v.message = "An active Qualiopi certification is required for dossiers funded through " ++
        ", ".intercalate (input.dossier.regulatedChannels.map Named.name) ++ "." := by
  simp only [checkQualiopi, Option.ite_none_left_eq_some, Option.some.injEq] at h
  obtain ⟨-, rfl⟩ := h
  simp [blocking, Json.ofMembers, Json.get?, Members.get?_sorted, Members.get?_cons]

theorem named_of_checkTutor (h : checkTutor input = some v) :
    v.details.get? "missing_fields" = some (.texts (missingTutorFields input.dossier)) ∧
      v.message = "Apprenticeship dossier is missing required fields: " ++
        ", ".intercalate (missingTutorFields input.dossier) ++ "." := by
  simp only [checkTutor, Option.ite_none_left_eq_some, Option.some.injEq] at h
  obtain ⟨-, rfl⟩ := h
  simp [blocking, Json.ofMembers, Json.get?, Members.get?_sorted, Members.get?_cons]

/-- What the complaints about the certification and about apprentices name. There
is one list of the regulated channels that contracts are financed through, each
once and in the order of the contracts; every complaint about the certification
gives this list in its details and in its message, and there is such a complaint
exactly when the list is not empty, the dossier is not to be cancelled and no
certification is in force on the day. In the same way every complaint about
apprentices gives the fields for employer and supervisor that are not given, and
there is one exactly when some are missing, the organization is an
apprenticeship center and the learner is to be under contract. -/
theorem complaints_name_causes (rules : RuleDocument) (input : CheckInput) :
    (∃ channels : List FundingChannel,
      input.dossier.ListsRegulated channels ∧
      (∀ other, input.dossier.ListsRegulated other → other = channels) ∧
      (∀ v, (assess rules input).HasComplaint qualiopiRequired v →
        v.details.get? "funding_channels" = some (.texts (channels.map Named.name)) ∧
          v.message = "An active Qualiopi certification is required for dossiers funded through " ++
            ", ".intercalate (channels.map Named.name) ++ ".") ∧
      ((assess rules input).Violates qualiopiRequired ↔
        channels ≠ [] ∧ input.target ≠ .cancelled ∧
          ¬ input.dossier.organization.IsCertifiedOn input.today)) ∧
    ∃ fields : List String,
      input.dossier.LacksFields fields ∧
      (∀ v, (assess rules input).HasComplaint tutorRequired v →
        v.details.get? "missing_fields" = some (.texts fields) ∧
          v.message = "Apprenticeship dossier is missing required fields: " ++
            ", ".intercalate fields ++ ".") ∧
      ((assess rules input).Violates tutorRequired ↔
        fields ≠ [] ∧ input.dossier.organization.kind = .apprenticeshipCenter ∧
          (input.target = .contracted ∨ input.target = .inTraining)) := by
  refine ⟨⟨input.dossier.regulatedChannels, input.dossier.listsRegulated,
      fun other hother => hother.eq_regulatedChannels, ?_, ?_⟩,
    missingTutorFields input.dossier, input.dossier.lacksFields, ?_, ?_⟩
  · intro v hv
    exact named_of_checkQualiopi ((hasComplaint_iff rules input qualiopi_mem_checks).mp hv)
  · rw [violates_qualiopi_iff, Dossier.hasFunding_iff, not_or]
    tauto
  · intro v hv
    exact named_of_checkTutor ((hasComplaint_iff rules input tutor_mem_checks).mp hv)
  · have hactive : input.target.isActive = true ↔
        input.target = .contracted ∨ input.target = .inTraining := by
      cases input.target <;> simp [Status.isActive]
    rw [violates_tutor_iff, hactive, Dossier.HasTutor, ← missingTutorFields_eq_nil]
    tauto

/-- An apprentice's dossier with four contracts, the first of them not financed,
under a certification that ends with June. -/
def refinanced : Dossier where
  id := "dos-1"
  tenantId := "org-1"
  status := .enrolled
  learner := ⟨"Ana", "Lopes", none⟩
  organization := ⟨"org-1", "Horizon", none, true, some ⟨2026, 6, 30, rfl⟩, .apprenticeshipCenter,
    none⟩
  contracts := [⟨"ctr-1", .draft, none, 0, none⟩,
    ⟨"ctr-2", .terminated, none, 0, some ⟨"fin-1", "Atlas", .opco⟩⟩,
    ⟨"ctr-3", .sent, none, 0, some ⟨"fin-2", "Caisse", .cpf⟩⟩,
    ⟨"ctr-4", .signed, none, 0, some ⟨"fin-1", "Atlas", .opco⟩⟩]
  session := none
  proofs := []
  attendance := []
  certificateGenerated := false
  employerReference := some " "
  supervisorName := some "J. Morel"

/-- In July both complaints are made, the first about two channels. -/
theorem refinanced_complaints :
    let a := assess ⟨none, []⟩ ⟨refinanced, .contracted, ⟨2026, 7, 1, rfl⟩⟩
    (∃ v, a.HasComplaint qualiopiRequired v ∧
      v.details.get? "funding_channels" = some (.texts ["OPCO", "CPF"])) ∧
    a.Violates tutorRequired := by
  intro a
  obtain ⟨⟨channels, -, hunique, hnames, hfunding⟩, fields, hlacks, -, htutor⟩ :=
    complaints_name_causes ⟨none, []⟩ ⟨refinanced, .contracted, ⟨2026, 7, 1, rfl⟩⟩
  obtain rfl : [FundingChannel.opco, .cpf] = channels := hunique _ refinanced.listsRegulated
  constructor
  · have hended : ¬ refinanced.organization.IsCertifiedOn ⟨2026, 7, 1, rfl⟩ := by
      rw [← Organization.qualiopiActiveOn_iff]
      decide
    obtain ⟨v, hv⟩ := hfunding.mpr ⟨List.cons_ne_nil _ _, by decide, hended⟩
    exact ⟨v, hv, (hnames v hv).1⟩
  · have hblank : ¬ Dossier.IsGiven refinanced.employerReference := by
      rw [← Dossier.isMissing_eq_false]
      decide
    exact htutor.mpr ⟨List.ne_nil_of_mem (hlacks.employer.mpr hblank), rfl, .inl rfl⟩

end Regulation

end DossierCompliance
