import DossierCompliance.Onboarding
import DossierCompliance.Proofs.Regulation
import DossierCompliance.Rule.Standard

/-!
Taking on an organization and the checks of its dossiers. Both read the activity
declaration number in the same way, so the number of a draft that is accepted
stands in the way of no dossier, and one that is complained of keeps every dossier
from being invoiced. Without an expiry the stated flag is all there is to the
certification, and it matters only to dossiers with regulated funds.
-/

namespace DossierCompliance

/-- An organization as it is stored from a draft, as far as the two checks look
at it: the same activity declaration number; certified or not as the draft states,
and either way if it states neither; and no expiry. -/
structure OrganizationDraft.StoredAs (draft : OrganizationDraft) (o : Organization) : Prop where
  ndaNumber : o.ndaNumber = draft.ndaNumber
  qualiopiCertified : ∀ flag ∈ draft.qualiopiCertified, o.qualiopiCertified = flag
  qualiopiValidUntil : o.qualiopiValidUntil = none

/-! ### Drafts -/

namespace OrganizationDraft

variable {draft : OrganizationDraft}

def ndaLead : List Char := "Activity declaration number (NDA)".toList

/-- Among the errors is one about the activity declaration number. -/
def ReportsNda (draft : OrganizationDraft) : Prop :=
  ∃ message ∈ draft.verdict.errors, ndaLead <+: message.toList

theorem ndaComplaint?_eq_none :
    draft.ndaComplaint? = none ↔ ∃ text ∈ draft.ndaNumber, Dossier.IsDeclaration text := by
  unfold ndaComplaint?
  cases draft.ndaNumber with
  | none => simp
  | some text =>
    simp only [Nda.ofText, Option.mem_def, Option.some.injEq, exists_eq_left',
      ← Regulation.isDigits_compact]
    cases isDigits 11 (Text.compact text) <;> simp

theorem mem_errors {message : String} :
    message ∈ draft.verdict.errors ↔
      draft.nameComplaint? = some message ∨ draft.siretComplaint? = some message ∨
        draft.ndaComplaint? = some message ∨ draft.qualiopiComplaint? = some message := by
  simp [verdict, eq_comm]

/-- No other error begins as one about the activity declaration number does. -/
theorem head?_of_ndaLead {cs : List Char} (h : ndaLead <+: cs) : cs.head? = some 'A' := by
  obtain ⟨rest, rfl⟩ := h
  rfl

theorem ndaLead_of_ndaComplaint? {message : String} (h : draft.ndaComplaint? = some message) :
    ndaLead <+: message.toList := by
  unfold ndaComplaint? at h
  split at h
  · cases h
    decide
  · split at h
    · cases h
    · cases h
      rw [String.toList_append, String.toList_append, List.append_assoc]
      exact List.prefix_append_of_prefix (by decide)

theorem reportsNda_iff : draft.ReportsNda ↔ draft.ndaComplaint? ≠ none := by
  constructor
  · rintro ⟨message, herror, hlead⟩ hnone
    have hhead := head?_of_ndaLead hlead
    rcases mem_errors.mp herror with hname | hsiret | hnda | hqualiopi
    · unfold nameComplaint? at hname
      split at hname
      · cases hname
        cases hhead
      · cases hname
    · unfold siretComplaint? at hsiret
      split at hsiret
      · cases hsiret
        cases hhead
      · split at hsiret
        · cases hsiret
        · cases hsiret
          simp at hhead
    · rw [hnone] at hnda
      cases hnda
    · unfold qualiopiComplaint? at hqualiopi
      split at hqualiopi
      · cases hqualiopi
        cases hhead
      · cases hqualiopi
  · intro hcomplains
    obtain ⟨message, hmessage⟩ := Option.ne_none_iff_exists'.mp hcomplains
    exact ⟨message, mem_errors.mpr (Or.inr (Or.inr (Or.inl hmessage))),
      ndaLead_of_ndaComplaint? hmessage⟩

theorem isSuccess_iff :
    draft.verdict.isSuccess = true ↔
      draft.nameComplaint? = none ∧ draft.siretComplaint? = none ∧
        draft.ndaComplaint? = none ∧ draft.qualiopiComplaint? = none := by
  simp [verdict, Verdict.isSuccess]

theorem warnings_eq_nil : draft.verdict.warnings = [] ↔ draft.qualiopiCertified ≠ some false := by
  have hwarnings : draft.verdict.warnings = draft.qualiopiWarning?.toList := rfl
  rw [hwarnings, Option.toList_eq_nil_iff, qualiopiWarning?]
  split
  · next huncertified => simpa using huncertified
  · next hother => simpa using hother

theorem isClean_iff :
    draft.verdict.isClean = true ↔
      draft.verdict.isSuccess = true ∧ draft.qualiopiCertified ≠ some false := by
  rw [← warnings_eq_nil, ← List.isEmpty_iff, ← Bool.and_eq_true]
  rfl

/-! ### Dossiers of a stored organization -/

variable {d : Dossier}

theorem StoredAs.hasDeclaration_iff (h : draft.StoredAs d.organization) :
    d.HasDeclaration ↔ draft.ndaComplaint? = none := by
  rw [ndaComplaint?_eq_none, Dossier.HasDeclaration, h.ndaNumber]

/-- Without an expiry the certification is in force on all days or on none. -/
theorem StoredAs.isCertifiedOn_iff (h : draft.StoredAs d.organization) {flag : Bool}
    (hflag : draft.qualiopiCertified = some flag) (today : Date) :
    d.organization.IsCertifiedOn today ↔ flag = true := by
  simp [Organization.IsCertifiedOn, h.qualiopiCertified flag hflag, h.qualiopiValidUntil]

/-- A draft and the dossiers of an organization that is stored from it. If the draft
is accepted, no change violates the check of the activity declaration number; if an
error is about this number, every change to be invoiced or closed does. If the draft
is accepted without a warning, no change violates the check of the certification
either; and if there is a warning, all but cancellations do, on any day, exactly when
some contract has regulated funds. -/
theorem onboarding_agrees (h : draft.StoredAs d.organization) :
    (draft.verdict.isSuccess = true → ∀ rules target today,
      ¬ (assess rules ⟨d, target, today⟩).Violates Regulation.ndaRequired) ∧
    (draft.ReportsNda → ∀ rules today, ∀ target ∈ [Status.invoiced, Status.closed],
      (assess rules ⟨d, target, today⟩).Violates Regulation.ndaRequired) ∧
    (draft.verdict.isClean = true → ∀ rules target today,
      ¬ (assess rules ⟨d, target, today⟩).Violates Regulation.ndaRequired ∧
        ¬ (assess rules ⟨d, target, today⟩).Violates Regulation.qualiopiRequired) ∧
    (draft.verdict.warnings ≠ [] → ∀ rules target today, target ≠ .cancelled →
      ((assess rules ⟨d, target, today⟩).Violates Regulation.qualiopiRequired ↔
        ∃ c ∈ d.contracts, ∃ f ∈ c.financer, f.channel.isRegulated = true)) := by
  have haccepted (hsuccess : draft.verdict.isSuccess = true) (rules : RuleDocument)
      (target : Status) (today : Date) :
      ¬ (assess rules ⟨d, target, today⟩).Violates Regulation.ndaRequired := by
    rw [Regulation.violates_nda_iff, h.hasDeclaration_iff]
    rintro ⟨_, hmissing⟩
    exact hmissing (isSuccess_iff.mp hsuccess).2.2.1
  refine ⟨haccepted, ?_, ?_, ?_⟩
  · intro hreports rules today target htarget
    rw [Regulation.violates_nda_iff, h.hasDeclaration_iff]
    refine ⟨?_, reportsNda_iff.mp hreports⟩
    rcases List.mem_pair.mp htarget with rfl | rfl
    · rfl
    · rfl
  · intro hclean rules target today
    obtain ⟨hsuccess, hunwarned⟩ := isClean_iff.mp hclean
    refine ⟨haccepted hsuccess rules target today, ?_⟩
    have hcertified : draft.qualiopiCertified = some true := by
      have hstated := (isSuccess_iff.mp hsuccess).2.2.2
      unfold qualiopiComplaint? at hstated
      split at hstated
      · cases hstated
      · next flag hflag =>
        cases flag with
        | true => exact hflag
        | false => exact absurd hflag hunwarned
    rw [Regulation.violates_qualiopi_iff]
    rintro ⟨_, hunfunded⟩
    exact hunfunded (Or.inr ((h.isCertifiedOn_iff hcertified today).mpr rfl))
  · intro hwarned rules target today htarget
    have huncertified : draft.qualiopiCertified = some false := by
      by_contra hother
      exact hwarned (warnings_eq_nil.mpr hother)
    rw [Regulation.violates_qualiopi_iff, Dossier.HasFunding,
      h.isCertifiedOn_iff huncertified today]
    simp [htarget]

/-- A draft that is accepted with a warning. -/
def uncertified : OrganizationDraft where
  name := "Learn"
  kind := .trainingProvider
  siret := some "732 829 320 00074"
  ndaNumber := some "11 75 12345 67"
  qualiopiCertified := some false

def fundedDossier : Dossier where
  id := "dos-1"
  tenantId := "org-1"
  status := .completed
  learner := ⟨"Ada", "Martin", none⟩
  organization := ⟨"org-1", "Learn", some "11 75 12345 67", false, none, .trainingProvider, none⟩
  contracts := [⟨"con-1", .signed, none, 150000, some ⟨"fin-1", "Fund", .cpf⟩⟩]
  session := none
  proofs := []
  attendance := []
  certificateGenerated := true
  employerReference := none
  supervisorName := none

/-- A dossier of this organization with regulated funds can be invoiced as far as
the declaration goes, but not without a certification. -/
theorem onboarding_of_uncertified :
    let a := assess .standard ⟨fundedDossier, .invoiced, ⟨2024, 5, 1, by decide⟩⟩
    uncertified.StoredAs fundedDossier.organization ∧ uncertified.verdict.isSuccess = true ∧
      ¬ a.Violates Regulation.ndaRequired ∧ a.Violates Regulation.qualiopiRequired := by
  intro a
  have hstored : uncertified.StoredAs fundedDossier.organization := {
    ndaNumber := rfl
    qualiopiCertified := fun flag hflag => Option.some.inj hflag
    qualiopiValidUntil := rfl }
  have haccepted : uncertified.verdict.isSuccess = true := by cbv
  obtain ⟨hsuccess, _, _, hwarning⟩ := onboarding_agrees hstored
  refine ⟨hstored, haccepted, hsuccess haccepted _ _ _, ?_⟩
  refine (hwarning (List.cons_ne_nil _ _) _ _ _ (by decide)).mpr ?_
  exact ⟨_, List.mem_singleton_self _, _, rfl, rfl⟩

end OrganizationDraft

end DossierCompliance
