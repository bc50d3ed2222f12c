import DossierCompliance.Proofs.Identity.Normalization
import DossierCompliance.Proofs.Onboarding
import DossierCompliance.Proofs.Service.Effects

/-!
What the checks of drafts report. An organization may have four problems, told in
a fixed order by one message each, and a certification that is denied is warned of.
A site has one problem at most: that it lacks a code which it needs. The check of a
site looks its tenant up and asks nothing else of the store, and the check of an
organization asks nothing at all.
-/

namespace DossierCompliance

/-! ### Organizations -/

namespace OrganizationDraft

/-- What an organization is not taken on for. -/
inductive Problem where
  | name
  | siret
  | nda
  | qualiopi
  deriving DecidableEq

/-- A number of so many digits is stated, in any spacing. -/
def States (count : Nat) (stated : Option String) : Prop :=
  ∃ text ∈ stated, IsSpacedNumber count text

namespace Problem

variable (draft : OrganizationDraft)

/-- In the order of the reports. -/
def all : List Problem :=
  [name, siret, nda, qualiopi]

def Applies : Problem → Prop
  | name => ∀ c ∈ draft.name.toList, Text.blankChar c = true
  | siret => ¬ States 14 draft.siret
  | nda => ¬ States 11 draft.ndaNumber
  | qualiopi => draft.qualiopiCertified = none

def message : Problem → String
  | name => "Organization name is required."
  | siret => draft.siret.elim "SIRET is required." fun text =>
      "SIRET \"" ++ text ++ "\" is invalid, expected 14 digits."
  | nda => draft.ndaNumber.elim "Activity declaration number (NDA) is required." fun text =>
      "Activity declaration number (NDA) \"" ++ text ++ "\" is invalid, expected 11 digits."
  | qualiopi => "Qualiopi certification status must be stated."

/-- The words with which the messages of a problem begin. -/
def lead : Problem → List Char
  | name => "Organization name".toList
  | siret => "SIRET".toList
  | nda => "Activity declaration number (NDA)".toList
  | qualiopi => "Qualiopi certification status".toList

def complaint? : Problem → Option String
  | name => draft.nameComplaint?
  | siret => draft.siretComplaint?
  | nda => draft.ndaComplaint?
  | qualiopi => draft.qualiopiComplaint?

end Problem

/-- The errors are the messages of the problems that a draft has, in their order, and
the words that begin a message tell its problem. There is one warning if the
certification is denied, and none otherwise. -/
structure Reported (draft : OrganizationDraft) (v : Verdict) : Prop where
  errors : ∃ found : List Problem, found.Sublist Problem.all ∧
    (∀ p, p ∈ found ↔ p.Applies draft) ∧ v.errors = found.map (Problem.message draft)
  leads : ∀ p q : Problem, p.lead <+: (q.message draft).toList ↔ p = q
  warned : draft.qualiopiCertified = some false → ∃ message, v.warnings = [message]
  unwarned : draft.qualiopiCertified ≠ some false → v.warnings = []
  isSuccess : v.isSuccess = true ↔ ∀ p : Problem, ¬ p.Applies draft

@[simp] theorem states_none {count : Nat} : ¬ States count none := by
  rintro ⟨_, hstated, _⟩
  cases hstated

@[simp] theorem states_some {count : Nat} {text : String} :
    States count (some text) ↔ IsSpacedNumber count text := by
  simp [States]

namespace Problem

variable {draft : OrganizationDraft}

theorem complaint?_eq_some_iff {p : Problem} {message : String} :
    p.complaint? draft = some message ↔ p.Applies draft ∧ message = p.message draft := by
  cases p with
  | name =>
    have hblank : Text.isBlank draft.name = true ↔ name.Applies draft := List.all_eq_true
    rw [← hblank, complaint?, nameComplaint?, Problem.message]
    cases Text.isBlank draft.name <;> simp [eq_comm]
  | siret =>
    rw [complaint?, siretComplaint?, Applies, Problem.message]
    cases draft.siret with
    | none => simp [eq_comm]
    | some text =>
      simp only [states_some, ← isNumber_compact_iff, ← Siret.normalizes.accepts, Option.elim]
      cases Siret.ofText text <;> simp [eq_comm]
  | nda =>
    rw [complaint?, ndaComplaint?, Applies, Problem.message]
    cases draft.ndaNumber with
    | none => simp [eq_comm]
    | some text =>
      simp only [states_some, ← isNumber_compact_iff, ← Nda.normalizes.accepts, Option.elim]
      cases Nda.ofText text <;> simp [eq_comm]
  | qualiopi =>
    rw [complaint?, qualiopiComplaint?, Applies, Problem.message]
    cases draft.qualiopiCertified <;> simp [eq_comm]

theorem isSome_complaint? {p : Problem} : (p.complaint? draft).isSome = true ↔ p.Applies draft := by
  simp [Option.isSome_iff_exists, complaint?_eq_some_iff]

/-- The problems of a draft, in the order of the reports. -/
def found (draft : OrganizationDraft) : List Problem :=
  all.filter fun p => (p.complaint? draft).isSome

theorem mem_found {p : Problem} : p ∈ found draft ↔ p.Applies draft := by
  have hall : p ∈ all := by cases p <;> decide
  simp [found, hall, isSome_complaint?]

theorem errors_eq_map_found : draft.verdict.errors = (found draft).map (message draft) := by
  have herrors : draft.verdict.errors = all.filterMap (complaint? draft) := rfl
  rw [herrors, found, ← List.filterMap_eq_map, List.filterMap_filter]
  refine List.filterMap_congr fun p _ => ?_
  cases hp : p.complaint? draft with
  | none => rfl
  | some told => exact congrArg some (complaint?_eq_some_iff.mp hp).2

/-- The message about a number begins alike whether the number is missing or not one. -/
theorem isPrefix_elim {cs : List Char} {missing opening ending : String} (stated : Option String)
    (hmissing : cs <+: missing.toList) (hinvalid : cs <+: opening.toList) :
    cs <+: (stated.elim missing fun text => opening ++ text ++ ending).toList := by
  cases stated with
  | none => exact hmissing
  | some text =>
    rw [Option.elim, String.toList_append, String.toList_append, List.append_assoc]
    exact List.prefix_append_of_prefix hinvalid

theorem lead_isPrefix (draft : OrganizationDraft) (p : Problem) :
    p.lead <+: (p.message draft).toList := by
  cases p with
  | name =>
    have hlead : name.lead <+: "Organization name is required.".toList := by decide
    exact hlead
  | siret => exact isPrefix_elim draft.siret (by decide) (by decide)
  | nda => exact isPrefix_elim draft.ndaNumber (by decide) (by decide)
  | qualiopi =>
    have hlead : qualiopi.lead <+: "Qualiopi certification status must be stated.".toList := by
      decide
    exact hlead

/-- The character with which the lead of a problem begins. -/
def initial : Problem → Char
  | name => 'O'
  | siret => 'S'
  | nda => 'A'
  | qualiopi => 'Q'

theorem head?_lead_append (p : Problem) (cs : List Char) :
    (p.lead ++ cs).head? = some p.initial := by
  cases p <;> rfl

theorem initial_inj {p q : Problem} (h : p.initial = q.initial) : p = q := by
  cases p <;> cases q <;> first | rfl | exact absurd h (by decide)

theorem lead_isPrefix_iff {p q : Problem} : p.lead <+: (q.message draft).toList ↔ p = q := by
  constructor
  · rintro ⟨cs, hp⟩
    obtain ⟨ds, hq⟩ := lead_isPrefix draft q
    have hheads := congrArg List.head? (hp.trans hq.symm)
    rw [head?_lead_append, head?_lead_append, Option.some.injEq] at hheads
    exact initial_inj hheads
  · rintro rfl
    exact lead_isPrefix draft p

end Problem

theorem isSuccess_iff_forall {draft : OrganizationDraft} :
    draft.verdict.isSuccess = true ↔ ∀ p : Problem, ¬ p.Applies draft := by
  rw [Verdict.isSuccess, List.isEmpty_iff, Problem.errors_eq_map_found, List.map_eq_nil_iff,
    List.eq_nil_iff_forall_not_mem]
  simp only [Problem.mem_found]

theorem reported (draft : OrganizationDraft) : draft.Reported draft.verdict where
  errors := ⟨Problem.found draft, List.filter_sublist, fun _ => Problem.mem_found,
    Problem.errors_eq_map_found⟩
  leads _ _ := Problem.lead_isPrefix_iff
  warned hdenied := by
    rw [verdict, qualiopiWarning?, hdenied]
    exact ⟨_, rfl⟩
  unwarned := warnings_eq_nil.mpr
  isSuccess := isSuccess_iff_forall

end OrganizationDraft

/-! ### Sites -/

namespace SiteDraft

/-- A site that needs no code, or states one in its form between blanks. -/
def Passes (site : SiteDraft) (tenant : Organization) : Prop :=
  (site.kind = .standard ∧ tenant.kind ≠ .apprenticeshipCenter) ∨
    ∃ code ∈ site.uaiCode, IsSite (Text.trim code)

/-- One error if the site does not pass, none if it does, and never a warning. -/
structure Settled (site : SiteDraft) (tenant : Organization) (v : Verdict) : Prop where
  isSuccess : v.isSuccess = true ↔ site.Passes tenant
  errors : ¬ site.Passes tenant →
    ∃ message, v.errors = [message] ∧ uaiRequired.toList <+: message.toList
  warnings : v.warnings = []

variable {site : SiteDraft}

theorem not_isSite_empty : ¬ IsSite "" := by
  rintro ⟨digits, capital, hempty, -⟩
  exact List.append_ne_nil_of_right_ne_nil digits (List.cons_ne_nil capital []) hempty.symm

/-- Either the code is in its form and nothing is said of it, or it is not and one
error says so. -/
theorem codeComplaint?_cases (site : SiteDraft) :
    ((∃ code ∈ site.uaiCode, IsSite (Text.trim code)) ∧ site.codeComplaint? = none) ∨
      (¬ ∃ code ∈ site.uaiCode, IsSite (Text.trim code)) ∧
        ∃ message, site.codeComplaint? = some message ∧ uaiRequired.toList <+: message.toList := by
  rw [codeComplaint?]
  cases site.uaiCode with
  | none => exact .inr ⟨by simp, _, rfl, by simp⟩
  | some code =>
    simp only [Option.mem_def, Option.some.injEq, exists_eq_left', Option.map_some]
    generalize Text.trim code = trimmed
    by_cases hempty : trimmed = ""
    · subst hempty
      exact .inr ⟨not_isSite_empty, _, rfl, by simp⟩
    · by_cases hsite : IsSite trimmed
      · have hread : Uai.ofText trimmed = .ok ⟨trimmed⟩ := Uai.ofText_eq_ok_iff.mpr ⟨hsite, rfl⟩
        exact .inl ⟨hsite, by simp [hread]⟩
      · have hread : Uai.ofText trimmed = .error (.uai trimmed) :=
          (ofChecked_eq_error_iff isSiteCode_iff).mpr ⟨hsite, rfl⟩
        exact .inr ⟨hsite, by simp [hread]⟩

/-- A site that needs no code is a standard one of another tenant than a center. -/
theorem needsCode_eq_false_iff {site : SiteDraft} {tenant : Organization} :
    (site.isRegistered || tenant.kind == .apprenticeshipCenter) = false ↔
      site.kind = .standard ∧ tenant.kind ≠ .apprenticeshipCenter := by
  rw [isRegistered]
  cases site.kind <;> simp

theorem settled (site : SiteDraft) (tenant : Organization) :
    site.Settled tenant (site.verdict tenant) := by
  cases hneeds : site.isRegistered || tenant.kind == .apprenticeshipCenter with
  | false =>
    have hpasses : site.Passes tenant := .inl (needsCode_eq_false_iff.mp hneeds)
    have hverdict : site.verdict tenant = ⟨[], []⟩ := by
      rw [verdict, hneeds]
      rfl
    rw [hverdict]
    exact ⟨iff_of_true rfl hpasses, fun hfails => absurd hpasses hfails, rfl⟩
  | true =>
    have hverdict : site.verdict tenant = ⟨site.codeComplaint?.toList, []⟩ := by
      rw [verdict, hneeds]
      rfl
    have hpasses : site.Passes tenant ↔ ∃ code ∈ site.uaiCode, IsSite (Text.trim code) := by
      rw [Passes, ← needsCode_eq_false_iff, hneeds]
      simp
    rw [hverdict]
    rcases codeComplaint?_cases site with ⟨hcode, hnone⟩ | ⟨hcode, message, hmessage, hlead⟩
    · rw [hnone]
      exact ⟨iff_of_true rfl (hpasses.mpr hcode),
        fun hfails => absurd (hpasses.mpr hcode) hfails, rfl⟩
    · rw [hmessage]
      exact ⟨iff_of_false nofun (hcode ∘ hpasses.mp), fun _ => ⟨message, rfl, hlead⟩, rfl⟩

end SiteDraft

/-! ### Calls -/

/-- What the check of a site answers to what the store says of its tenant. -/
inductive SiteDraft.Answered (site : SiteDraft) (tenantId : String) :
    Except StoreError (Option Organization) → Except EngineError Verdict → Prop where
  | stored {tenant : Organization} {v : Verdict} (h : site.Settled tenant v) :
    Answered site tenantId (.ok (some tenant)) (.ok v)
  | unknown : Answered site tenantId (.ok none) (.error (.noOrganization tenantId))
  | failed (why : StoreError) : Answered site tenantId (.error why) (.error (.store why))

/-- No call of a program writes, and neither store is changed by running it. -/
structure Program.KeepsStores {α : Type} (p : Program α) : Prop where
  reads : p.Reads
  memory : ∀ supply n (s : MemoryStore), (p.runFrom MemoryStore.handle supply n s).2 = s
  database : ∀ supply n (db : Database), (p.runFrom Database.handle supply n db).2 = db

theorem Program.Reads.keepsStores {α : Type} {p : Program α} (hp : p.Reads) : p.KeepsStores where
  reads := hp
  memory := hp.runFrom MemoryStore.handle_of_reads
  database := hp.runFrom Database.handle_of_reads

namespace Engine

theorem reads_checkSite (tenantId : String) (site : SiteDraft) :
    (checkSite tenantId site).Reads := by
  refine ⟨rfl, fun reply => ?_⟩
  rcases reply with why | none | tenant <;> trivial

/-- The one question to the store decides the answer and leaves the store as it says. -/
theorem runFrom_checkSite {σ : Type} (h : StoreHandler σ) (supply : Supply) (n : Nat) (s : σ)
    (tenantId : String) (site : SiteDraft) :
    let outcome := (checkSite tenantId site).runFrom h supply n s
    site.Answered tenantId (h (.findOrganization tenantId) s).1 outcome.1 ∧
      outcome.2 = (h (.findOrganization tenantId) s).2 := by
  dsimp only
  rw [Program.runFrom_eq_trace, checkSite, Program.trace_bind, Program.trace_store]
  dsimp only
  rcases (h (.findOrganization tenantId) s).1 with why | none | tenant
  · exact ⟨.failed why, rfl⟩
  · exact ⟨.unknown, rfl⟩
  · exact ⟨.stored (site.settled tenant), rfl⟩

end Engine

namespace Endpoint

theorem reads_validations {endpoint : Endpoint}
    (hendpoint : endpoint ∈ [validateSite, validateOrganization]) (e : Engine)
    (parameter : Option String) (r : Request) : (endpoint.respond e parameter r).Reads := by
  have htransition : endpoint ≠ .validateTransition := by
    rintro rfl
    simp at hendpoint
  have hresolve : endpoint ≠ .resolveAlert := by
    rintro rfl
    simp at hendpoint
  exact reads_respond htransition hresolve e parameter r

end Endpoint

/-- What the checks report. Of a draft of an organization, every problem that it has
is told once; the answer to a request depends on the draft alone. Of a site, that its
tenant is stored settles whether it passes or has its one error, and that it is not is
the answer whatever the draft. Neither check writes, nor does the service in serving it. -/
theorem drafts_reported :
    (∀ draft : OrganizationDraft, draft.Reported draft.verdict) ∧
    (∀ {σ : Type} (h : StoreHandler σ) (supply : Supply) (n : Nat) (s : σ) (tenantId : String)
        (site : SiteDraft),
      site.Answered tenantId (h (.findOrganization tenantId) s).1
        ((Engine.checkSite tenantId site).runFrom h supply n s).1) ∧
    (∀ (tenantId : String) (site : SiteDraft), (Engine.checkSite tenantId site).KeepsStores) ∧
    (∀ endpoint ∈ [Endpoint.validateSite, Endpoint.validateOrganization],
      ∀ (e : Engine) (parameter : Option String) (r : Request),
        (endpoint.respond e parameter r).KeepsStores) := by
  refine ⟨OrganizationDraft.reported, ?_, ?_, ?_⟩
  · intro σ h supply n s tenantId site
    exact (Engine.runFrom_checkSite h supply n s tenantId site).1
  · intro tenantId site
    exact (Engine.reads_checkSite tenantId site).keepsStores
  · intro endpoint hendpoint e parameter r
    exact (Endpoint.reads_validations hendpoint e parameter r).keepsStores

/-- A draft with nothing in order, and a site that states the code it needs with a
small letter: four errors, one error, and a store that is left as it was. -/
theorem reported_of_blank :
    let blank : OrganizationDraft := ⟨" ", .trainingProvider, none, some "12", none⟩
    let tenant := OrganizationDraft.fundedDossier.organization
    let s := MemoryStore.empty.upsertOrganization tenant
    let campus : SiteDraft := ⟨"Campus", .regional, some " 0751234a "⟩
    let supply := Supply.ofSeed ⟨⟨2026, 3, 2, by decide⟩, 28800, 0, by decide⟩ []
    let outcome := (Engine.checkSite "org-1" campus).runFrom MemoryStore.handle supply 0 s
    (∀ p : OrganizationDraft.Problem, p.Applies blank) ∧ blank.verdict.isSuccess = false ∧
      (∃ v message, outcome.1 = .ok v ∧ v.errors = [message]) ∧ outcome.2 = s := by
  intro blank tenant s campus supply outcome
  obtain ⟨hdraft, hsite, hkeeps, -⟩ := drafts_reported
  have happlies (p : OrganizationDraft.Problem) : p.Applies blank := by
    cases p with
    | name => exact List.all_eq_true.mp (by decide)
    | siret => exact OrganizationDraft.states_none
    | nda =>
      rw [OrganizationDraft.Problem.Applies, OrganizationDraft.states_some, ← isNumber_compact_iff,
        ← isDigits_iff]
      decide
    | qualiopi => rfl
  have hfails : ¬ campus.Passes tenant := by
    rintro (⟨hkind, -⟩ | ⟨code, hcode, hform⟩)
    · cases hkind
    · cases hcode
      exact absurd (isSiteCode_iff.mpr hform) (by decide)
  have hfound : (MemoryStore.handle (.findOrganization "org-1") s).1 = .ok (some tenant) := rfl
  have hanswer := hsite MemoryStore.handle supply 0 s "org-1" campus
  rw [hfound] at hanswer
  refine ⟨happlies, ?_, ?_, (hkeeps "org-1" campus).memory supply 0 s⟩
  · rw [← Bool.not_eq_true, (hdraft blank).isSuccess]
    intro hnone
    exact hnone .name (happlies .name)
  · change campus.Answered "org-1" _ outcome.1 at hanswer
    generalize outcome.1 = answer at hanswer ⊢
    cases hanswer with
    | stored hsettled =>
      obtain ⟨message, herrors, -⟩ := hsettled.errors hfails
      exact ⟨_, message, rfl, herrors⟩

end DossierCompliance
