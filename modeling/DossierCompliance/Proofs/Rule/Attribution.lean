import DossierCompliance.Proofs.Rule.Editing
import DossierCompliance.Proofs.Rule.StandardText

/-!
Which check or rule a finding comes from. A finding has the id of the one that
raised it. Loading tells the rules of a document apart, but does not know the
ids of the checks: an id is found twice exactly when a check and a rule of the
same id both complain. Where no rule has the id of a check, an id tells its one
source.
-/

namespace DossierCompliance

/-- What may complain about a change. -/
inductive Source where
  | check (c : Check)
  | rule (r : Rule)

namespace Source

def id : Source → String
  | .check c => c.ruleId
  | .rule r => r.id

def finding? (input : CheckInput) : Source → Option Finding
  | .check c => (c.violation? input).map .violation
  | .rule r => r.finding? input.dossier.snapshot

/-- The source has something to say of the change. -/
def Complains (s : Source) (input : CheckInput) : Prop :=
  (s.finding? input).isSome = true

instance (s : Source) (input : CheckInput) : Decidable (s.Complains input) :=
  inferInstanceAs (Decidable (_ = true))

/-- The checks, and behind them some rules. -/
def all (rules : List Rule) : List Source :=
  Regulation.checks.map .check ++ rules.map .rule

theorem ids_all (rules : List Rule) :
    (all rules).map id = Regulation.checks.map (·.ruleId) ++ rules.map (·.id) := by
  simp [all, Function.comp_def, id]

theorem check_mem_all {rules : List Rule} {c : Check} :
    .check c ∈ all rules ↔ c ∈ Regulation.checks := by
  simp [all]

theorem ruleId_of_finding? {rules : List Rule} {input : CheckInput} {s : Source} {f : Finding}
    (hs : s ∈ all rules) (hf : s.finding? input = some f) : f.ruleId = s.id := by
  cases s with
  | check c =>
    obtain ⟨v, hv, rfl⟩ := Option.map_eq_some_iff.mp hf
    obtain ⟨message, details, rfl⟩ :=
      Regulation.eq_blocking_of_check (check_mem_all.mp hs) hv
    rfl
  | rule r =>
    have hdecided := r.decided_finding? input.dossier.snapshot
    rw [show r.finding? input.dossier.snapshot = some f from hf] at hdecided
    cases hdecided <;> rfl

/-- What the sources say bears their ids, in their order. -/
theorem ruleIds_filterMap {rules : List Rule} {input : CheckInput} {ss : List Source}
    (hss : ss ⊆ all rules) :
    (ss.filterMap (·.finding? input)).map (·.ruleId) =
      (ss.filter (·.Complains input)).map id := by
  induction ss with
  | nil => rfl
  | cons s ss ih =>
    obtain ⟨hs, hrest⟩ := List.cons_subset.mp hss
    cases hf : s.finding? input with
    | none =>
      have hsilent : ¬ s.Complains input := by simp [Complains, hf]
      rw [List.filterMap_cons_none hf, List.filter_cons_of_neg (by simpa using hsilent)]
      exact ih hrest
    | some f =>
      have hcomplains : s.Complains input := by simp [Complains, hf]
      rw [List.filterMap_cons_some hf, List.filter_cons_of_pos (by simpa using hcomplains),
        List.map_cons, List.map_cons, ruleId_of_finding? hs hf, ih hrest]

end Source

namespace RuleDocument

open Source (all Complains)

variable {d : RuleDocument} {input : CheckInput}

theorem findings_eq_filterMap (d : RuleDocument) (input : CheckInput) :
    (assess d input).findings =
      (all (boundTo input.target d.rules)).filterMap (·.finding? input) := by
  rw [all, List.filterMap_append, List.filterMap_map, List.filterMap_map]
  rfl

theorem ruleIds_assess (d : RuleDocument) (input : CheckInput) :
    (assess d input).findings.map (·.ruleId) =
      ((all (boundTo input.target d.rules)).filter (·.Complains input)).map Source.id := by
  rw [findings_eq_filterMap]
  exact Source.ruleIds_filterMap (List.Subset.refl _)

theorem checkIds_nodup : (Regulation.checks.map (·.ruleId)).Nodup := by
  decide

/-- Rules whose ids are distinct share ids with checks only. -/
theorem nodup_ruleIds_iff (h : (d.rules.map (·.id)).Nodup) (input : CheckInput) :
    ((assess d input).findings.map (·.ruleId)).Nodup ↔
      ∀ c ∈ Regulation.checks, ∀ r ∈ boundTo input.target d.rules,
        Complains (.check c) input → Complains (.rule r) input → c.ruleId ≠ r.id := by
  have hbound : ((boundTo input.target d.rules).map (·.id)).Nodup :=
    h.sublist (List.filter_sublist.map _)
  rw [List.Nodup, List.pairwise_map] at hbound
  have hchecks := checkIds_nodup
  rw [List.Nodup, List.pairwise_map] at hchecks
  rw [ruleIds_assess, List.Nodup, List.pairwise_map, List.pairwise_filter, all,
    List.pairwise_append, List.pairwise_map, List.pairwise_map]
  simp only [decide_eq_true_eq, List.forall_mem_map]
  constructor
  · rintro ⟨-, -, hdistinct⟩ c hc r hr
    exact hdistinct c hc r hr
  · intro hdistinct
    exact ⟨hchecks.imp fun hne _ _ => hne, hbound.imp fun hne _ _ => hne, hdistinct⟩

/-- No rule of the document has the id of a check. -/
def AvoidsChecks (d : RuleDocument) : Prop :=
  ∀ r ∈ d.rules, ∀ c ∈ Regulation.checks, c.ruleId ≠ r.id

theorem AvoidsChecks.ids_nodup (havoids : d.AvoidsChecks) (h : (d.rules.map (·.id)).Nodup) :
    ((all d.rules).map Source.id).Nodup := by
  rw [Source.ids_all, List.nodup_append]
  refine ⟨checkIds_nodup, h, ?_⟩
  simp only [List.forall_mem_map]
  exact fun c hc r hr => havoids r hr c hc

theorem all_boundTo_subset (target : Status) (rules : List Rule) :
    all (boundTo target rules) ⊆ all rules :=
  (List.Sublist.append_left (List.filter_sublist.map _) _).subset

/-- The findings of a loaded document have distinct ids unless a check and a rule
of one id both complain. No rule of a document that avoids the ids of the checks
does so; then there is one check or rule that has the id of a finding, and it is
the one that found it. -/
theorem attribution (h : d.IsLoaded) (input : CheckInput) :
    (((assess d input).findings.map (·.ruleId)).Nodup ↔
      ∀ c ∈ Regulation.checks, ∀ r ∈ boundTo input.target d.rules,
        Complains (.check c) input → Complains (.rule r) input → c.ruleId ≠ r.id) ∧
    (d.AvoidsChecks →
      ((assess d input).findings.map (·.ruleId)).Nodup ∧
      ∀ f ∈ (assess d input).findings, ∃ s ∈ all (boundTo input.target d.rules),
        s.finding? input = some f ∧ ∀ t ∈ all d.rules, t.id = f.ruleId ↔ t = s) := by
  have hdistinct := h.areValid.distinct
  refine ⟨nodup_ruleIds_iff hdistinct input, fun havoids => ⟨?_, fun f hf => ?_⟩⟩
  · rw [nodup_ruleIds_iff hdistinct]
    exact fun c hc r hr _ _ => havoids r (List.mem_of_mem_filter hr) c hc
  · rw [findings_eq_filterMap] at hf
    obtain ⟨s, hs, hfound⟩ := List.mem_filterMap.mp hf
    have hid := Source.ruleId_of_finding? hs hfound
    -- Uniqueness is among all rules of the document, not only those bound to the target.
    refine ⟨s, hs, hfound, fun t ht => ⟨fun hsame => ?_, fun hsame => hsame ▸ hid.symm⟩⟩
    exact List.inj_on_of_nodup_map (havoids.ids_nodup hdistinct) ht
      (all_boundTo_subset _ _ hs) (hsame.trans hid)

/-- A dossier to be invoiced, of an organization without a declaration number. -/
def undeclared : CheckInput where
  dossier :=
    { id := "dos-1"
      tenantId := "org-1"
      status := .completed
      learner := ⟨"Ana", "Lopes", none⟩
      organization := ⟨"org-1", "Horizon", none, false, none, .trainingProvider, none⟩
      contracts := []
      session := none
      proofs := []
      attendance := []
      certificateGenerated := false
      employerReference := none
      supervisorName := none }
  target := .invoiced
  today := ⟨2026, 6, 1, rfl⟩

theorem attribution_standard :
    standard.IsLoaded ∧ standard.AvoidsChecks ∧
      ((assess standard undeclared).findings.map (·.ruleId)).Nodup := by
  have havoids : standard.AvoidsChecks := by
    unfold AvoidsChecks
    decide +kernel
  exact ⟨.standard, havoids, ((attribution .standard undeclared).2 havoids).1⟩

/-- An operator's own rule for the declaration number, under the id of the check. -/
def namesake : RuleDocument where
  version := none
  rules := [⟨"RULE_NDA_REQUIRED", "", ⟨.invoiced⟩, .warning, "There is no declaration number.",
    .single ⟨"organization.nda_number", .equals, none⟩⟩]

/-- Loading takes a rule with the id of a check, and then both are found. -/
theorem namesake_found_twice :
    ofJson namesake.toJson = .ok namesake ∧
      (assess namesake undeclared).findings.map (·.ruleId) =
        ["RULE_NDA_REQUIRED", "RULE_NDA_REQUIRED"] ∧
      ¬ ((assess namesake undeclared).findings.map (·.ruleId)).Nodup := by
  have hnormal : namesake.toJson.Normal := Json.normal_sorted _
  have hspelled : Spelled namesake.toJson namesake := (decodeValue_eq_ok_iff hnormal).mp (by cbv)
  have hfilled : ∀ r ∈ namesake.rules, r.IsFilled := by
    simp only [namesake, List.forall_mem_singleton]
    refine ⟨Text.isBlank_ofList_cons rfl, Text.isBlank_ofList_cons rfl, ?_⟩
    exact (List.forall_mem_singleton).mpr (Text.isBlank_ofList_cons rfl)
  have hids : (assess namesake undeclared).findings.map (·.ruleId) =
      ["RULE_NDA_REQUIRED", "RULE_NDA_REQUIRED"] := rfl
  refine ⟨?_, hids, hids ▸ by decide⟩
  rw [ofJson_of_spelled hnormal hspelled]
  exact checked_eq_ok_iff.mpr ⟨rfl, hfilled, List.nodup_singleton _⟩

end RuleDocument

end DossierCompliance
