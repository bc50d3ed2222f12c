import DossierCompliance.Proofs.Dossier.Channels
import DossierCompliance.Proofs.Dossier.Snapshots
import DossierCompliance.Proofs.Named
import DossierCompliance.Proofs.Regulation
import DossierCompliance.Proofs.Value.Resolution

/-!
The fields that the snapshot of a dossier has beside its lists. A path cannot
search a list, so what rules ask of the contracts, the supporting documents and
the attendance as a whole stands in fields of its own. Each of them says what
is found in the list, and the channel among them is the one that the complaint
about the certification names first.
-/

namespace DossierCompliance

/-! ### Paths into lists -/

namespace Value

theorem resolve_cons {key : String} (v : Value) (hkey : '.' ∉ key.toList) (path : String) :
    v.resolve (key ++ "." ++ path) = (v.step key).resolve path := by
  rw [resolve, segments_cons hkey, resolveSegments_cons, resolve]

/-- A path into a list goes on from its first item, and finds null when there is none. -/
theorem resolve_list {items : List Value} (hitems : ∀ item ∈ items, ¬ item.IsList)
    (path : String) : (list items).resolve path = (items.head?.getD .null).resolve path := by
  have hsegments := segments_ne_nil path
  cases items with
  | nil =>
    have hempty : (list []).resolveSegments (segments path) = .null :=
      resolveSegments_of_find?_none (fun _ => rfl) hsegments
    rw [resolve, hempty]
    exact (null_resolveSegments _).symm
  | cons first others =>
    exact resolveSegments_first (hitems first List.mem_cons_self) others hsegments

/-- The fields of a snapshot say what its lists of contracts, of supporting
documents and of attendance hold. -/
structure Flattens (v : Value) (contracts proofs attendance : List Value) : Prop where
  lists : v.resolve "contracts" = .list contracts ∧ v.resolve "proofs" = .list proofs ∧
    v.resolve "attendance" = .list attendance
  contract : ∀ path : String, v.resolve ("contracts." ++ path) = v.resolve ("contract." ++ path)
  financer : v.resolve "financer" =
    match contracts.find? fun c => !(c.resolve "financer").isNull with
    | some c => c.resolve "financer"
    | none => .null
  channel : v.resolve "funding_channel" = v.resolve "financer.channel"
  signed : ∃ b, v.resolve "has_signed_contract" = .bool b ∧
    (b = true ↔ ∃ c ∈ contracts, c.resolve "status" = .text "SIGNED")
  justified : ∃ b, v.resolve "has_justified_absence_proof" = .bool b ∧
    (b = true ↔ ∃ p ∈ proofs, p.resolve "kind" = .text "ABSENCE_JUSTIFICATION")
  attended : v.resolve "attendance.date" = .null ↔ attendance = []

end Value

/-! ### Fields of the parts -/

theorem Financer.resolve_channel (f : Financer) :
    f.snapshot.resolve "channel" = .text (Named.name f.channel) := by
  rw [f.snapshot.resolve_key (by decide)]
  simp [snapshot, Value.step_ofEntries, Members.get?_cons]

theorem Contract.resolve_status (c : Contract) :
    c.snapshot.resolve "status" = .text (Named.name c.status) := by
  rw [c.snapshot.resolve_key (by decide)]
  simp [snapshot, Value.step_ofEntries, Members.get?_cons]

theorem Contract.resolve_financer (c : Contract) :
    c.snapshot.resolve "financer" = .ofOption Financer.snapshot c.financer := by
  rw [c.snapshot.resolve_key (by decide)]
  simp [snapshot, Value.step_ofEntries, Members.get?_cons]

theorem Proof.resolve_kind (p : Proof) :
    p.snapshot.resolve "kind" = .text (Named.name p.kind) := by
  rw [p.snapshot.resolve_key (by decide)]
  simp [snapshot, Value.step_ofEntries, Members.get?_cons]

namespace Dossier

variable (d : Dossier)

/-- The lists of a snapshot, and the fields that stand beside them. -/
theorem step_snapshot_lists :
    d.snapshot.step "contracts" = .list (d.contracts.map Contract.snapshot) ∧
    d.snapshot.step "contract" = .ofOption Contract.snapshot d.contracts.head? ∧
    d.snapshot.step "financer" = .ofOption Financer.snapshot d.financer? ∧
    d.snapshot.step "funding_channel" =
      .ofText? (d.financer?.map fun f => Named.name f.channel) ∧
    d.snapshot.step "proofs" = .list (d.proofs.map Proof.snapshot) ∧
    d.snapshot.step "has_justified_absence_proof" = .bool d.hasJustifiedAbsenceProof := by
  simp [snapshot, Value.step_ofEntries, Members.get?_cons]

/-! ### Fields and lists -/

theorem resolve_contracts (path : String) :
    d.snapshot.resolve ("contracts." ++ path) = d.snapshot.resolve ("contract." ++ path) := by
  have hmaps : ∀ item ∈ d.contracts.map Contract.snapshot, ¬ item.IsList := by
    intro item hitem
    obtain ⟨c, -, rfl⟩ := List.mem_map.mp hitem
    exact not_false
  have hfirst : (d.contracts.map Contract.snapshot).head?.getD .null =
      .ofOption Contract.snapshot d.contracts.head? := by
    cases d.contracts <;> rfl
  have hlist : '.' ∉ "contracts".toList := by decide
  have hone : '.' ∉ "contract".toList := by decide
  calc d.snapshot.resolve ("contracts" ++ "." ++ path)
      = (d.snapshot.step "contracts").resolve path := d.snapshot.resolve_cons hlist path
    _ = (d.snapshot.step "contract").resolve path := by
        rw [d.step_snapshot_lists.1, Value.resolve_list hmaps, hfirst, d.step_snapshot_lists.2.1]
    _ = d.snapshot.resolve ("contract" ++ "." ++ path) :=
        (d.snapshot.resolve_cons hone path).symm

theorem resolve_financer :
    d.snapshot.resolve "financer" = .ofOption Financer.snapshot d.financer? := by
  rw [d.snapshot.resolve_key (by decide), d.step_snapshot_lists.2.2.1]

/-- The first contract with a financer, in the dossier and in what is seen of it. -/
theorem ofOption_financer? (contracts : List Contract) :
    .ofOption Financer.snapshot (contracts.findSome? (·.financer)) =
      match (contracts.map Contract.snapshot).find? fun c => !(c.resolve "financer").isNull with
      | some c => c.resolve "financer"
      | none => .null := by
  induction contracts with
  | nil => rfl
  | cons c rest ih =>
    rw [List.map_cons, List.find?_cons, List.findSome?_cons, c.resolve_financer]
    cases hfinancer : c.financer with
    | none => exact ih
    | some f => exact (c.resolve_financer.trans (by rw [hfinancer])).symm

theorem resolve_funding_channel :
    d.snapshot.resolve "funding_channel" =
      .ofText? (d.financer?.map fun f => Named.name f.channel) := by
  rw [d.snapshot.resolve_key (by decide), d.step_snapshot_lists.2.2.2.1]

theorem resolve_financer_channel :
    d.snapshot.resolve "financer.channel" = d.snapshot.resolve "funding_channel" := by
  have hkey : '.' ∉ "financer".toList := by decide
  have hpath : d.snapshot.resolve "financer.channel" =
      (d.snapshot.step "financer").resolve "channel" :=
    d.snapshot.resolve_cons hkey "channel"
  rw [hpath, d.step_snapshot_lists.2.2.1, d.resolve_funding_channel]
  cases d.financer? with
  | none => exact Value.null_resolveSegments _
  | some f => exact f.resolve_channel

theorem snapshot_flattens :
    d.snapshot.Flattens (d.contracts.map Contract.snapshot) (d.proofs.map Proof.snapshot)
      (d.attendance.map Attendance.snapshot) where
  lists := by
    obtain ⟨hcontracts, -, -, -, hproofs, -⟩ := d.step_snapshot_lists
    refine ⟨?_, ?_, ?_⟩
    · rw [d.snapshot.resolve_key (by decide), hcontracts]
    · rw [d.snapshot.resolve_key (by decide), hproofs]
    · rw [d.snapshot.resolve_key (by decide), d.step_snapshot.2.2.2.1]
  contract := d.resolve_contracts
  financer := d.resolve_financer.trans (ofOption_financer? d.contracts)
  channel := d.resolve_financer_channel.symm
  signed := by
    have hname (c : Contract) :
        c.snapshot.resolve "status" = .text "SIGNED" ↔ c.status = .signed := by
      have hsigned : "SIGNED" = Named.name ContractStatus.signed := rfl
      rw [c.resolve_status, Value.text.injEq, hsigned, Named.name_inj]
    refine ⟨d.hasSignedContract, ?_, ?_⟩
    · rw [d.snapshot.resolve_key (by decide), d.step_snapshot.2.1]
    · simp [hasSignedContract, hname]
  justified := by
    have hname (p : Proof) : p.snapshot.resolve "kind" = .text "ABSENCE_JUSTIFICATION" ↔
        p.kind = .absenceJustification := by
      have hjustified : "ABSENCE_JUSTIFICATION" = Named.name ProofKind.absenceJustification := rfl
      rw [p.resolve_kind, Value.text.injEq, hjustified, Named.name_inj]
    refine ⟨d.hasJustifiedAbsenceProof, ?_, ?_⟩
    · rw [d.snapshot.resolve_key (by decide), d.step_snapshot_lists.2.2.2.2.2]
    · simp [hasJustifiedAbsenceProof, hname]
  attended := by
    rw [d.resolve_date, Value.ofOption_eq_null_iff (fun _ => Value.noConfusion),
      List.head?_eq_none_iff, List.map_eq_nil_iff]

/-- The fields of a snapshot agree with its lists, and the channel in it, when it
is a regulated one, is the first that is listed by any complaint about the
certification. -/
theorem snapshot_agrees :
    d.snapshot.Flattens (d.contracts.map Contract.snapshot) (d.proofs.map Proof.snapshot)
        (d.attendance.map Attendance.snapshot) ∧
      ∀ (rules : RuleDocument) (target : Status) (today : Date) (v : Violation),
        (assess rules ⟨d, target, today⟩).HasComplaint Regulation.qualiopiRequired v →
        ∀ channel : FundingChannel, channel.isRegulated = true →
          d.snapshot.resolve "funding_channel" = .text (Named.name channel) →
          ∃ others : List String, v.details.get? "funding_channels" =
            some (.texts (Named.name channel :: others)) := by
  refine ⟨d.snapshot_flattens, ?_⟩
  intro rules target today v hcomplaint channel hregulated hchannel
  rw [d.resolve_funding_channel] at hchannel
  cases hfinancer : d.financer? with
  | none =>
    rw [hfinancer] at hchannel
    cases hchannel
  | some f =>
    rw [hfinancer] at hchannel
    obtain rfl : f.channel = channel := Named.name_inj.mp (Value.text.inj hchannel)
    obtain ⟨others, hchannels⟩ := regulatedChannels_of_financer? hfinancer hregulated
    have hcheck := (Regulation.hasComplaint_iff rules ⟨d, target, today⟩
      Regulation.qualiopi_mem_checks).mp hcomplaint
    refine ⟨others.map Named.name, ?_⟩
    rw [(Regulation.named_of_checkQualiopi hcheck).1, hchannels, List.map_cons]

/-- The channel in the snapshot is that of the second contract, and the complaint
lists it first. -/
theorem refinanced_agrees :
    let a := assess ⟨none, []⟩ ⟨Regulation.refinanced, .invoiced, ⟨2026, 7, 1, rfl⟩⟩
    Regulation.refinanced.snapshot.resolve "funding_channel" = .text "OPCO" ∧
      ∃ v others, a.HasComplaint Regulation.qualiopiRequired v ∧
        v.details.get? "funding_channels" = some (.texts ("OPCO" :: others)) := by
  intro a
  have hchannel : Regulation.refinanced.snapshot.resolve "funding_channel" = .text "OPCO" :=
    resolve_funding_channel _
  have hfires : a.Violates Regulation.qualiopiRequired := by
    rw [Regulation.violates_qualiopi_iff, hasFunding_iff, ← Organization.qualiopiActiveOn_iff]
    decide
  obtain ⟨v, hv⟩ := hfires
  obtain ⟨others, hothers⟩ := (snapshot_agrees Regulation.refinanced).2 ⟨none, []⟩ .invoiced
    ⟨2026, 7, 1, rfl⟩ v hv .opco rfl hchannel
  exact ⟨hchannel, v, others, hv, hothers⟩

end Dossier

end DossierCompliance
