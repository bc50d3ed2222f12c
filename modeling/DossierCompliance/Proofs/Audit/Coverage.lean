import DossierCompliance.Proofs.Audit.Chain
import DossierCompliance.Proofs.Audit.Preimage
import DossierCompliance.Proofs.Digest.Bytes
import DossierCompliance.Proofs.Json.Normal
import DossierCompliance.Proofs.Text.Utf8

/-!
What the hash of an entry covers. Two entries that are hashed from the same
bytes agree on what was attempted and found. They agree on everything when
each free text of the one holds as many separators as that of the other, and
only then: a separator inside of a free text is not told from one that closes
a part. Up to that, no entry of an accepted chain can be exchanged for another
of the same hash unless two texts are shown to collide.
-/

namespace DossierCompliance

namespace AuditEntry

/-- What the digest is computed from. -/
def hashedBytes (e : AuditEntry) : List UInt8 :=
  e.preimage.toUTF8.toList

/-- The same change was attempted, and the same was found. -/
structure SameOutcome (e₁ e₂ : AuditEntry) : Prop where
  phase : e₁.phase = e₂.phase
  isForced : e₁.isForced = e₂.isForced
  previousState : e₁.previousState = e₂.previousState
  newState : e₁.newState = e₂.newState
  details : Json.SameValue e₁.details e₂.details
  timestamp : Instant.SameMicros e₁.timestamp e₂.timestamp

/-- All fields but the hash agree: the details up to the order of members, the
time up to the microsecond. -/
structure SameContent (e₁ e₂ : AuditEntry) : Prop extends SameOutcome e₁ e₂ where
  id : e₁.id = e₂.id
  tenantId : e₁.tenantId = e₂.tenantId
  actorId : e₁.actorId = e₂.actorId
  actorRole : e₁.actorRole = e₂.actorRole
  action : e₁.action = e₂.action
  entityType : e₁.entityType = e₂.entityType
  entityId : e₁.entityId = e₂.entityId
  previousHash : e₁.previousHash = e₂.previousHash

/-- Each free text holds as many separators as that of the other entry. -/
structure SameSeparators (e₁ e₂ : AuditEntry) : Prop where
  previousHash : separators e₁.previousHash = separators e₂.previousHash
  tenantId : separators e₁.tenantId = separators e₂.tenantId
  actorId : separators e₁.actorId = separators e₂.actorId
  actorRole : separators (e₁.actorRole.getD "") = separators (e₂.actorRole.getD "")
  entityType : separators e₁.entityType = separators e₂.entityType
  entityId : separators e₁.entityId = separators e₂.entityId

/-- The details of an entry that is read back are in normal form. -/
theorem normal_details_of_decode {r : Json.Reading} {e : AuditEntry} (h : decode r = .ok e) :
    e.details.Normal := by
  refine Json.of_record (p := fun e : AuditEntry => e.details.Normal) (fun fs => ?_) h
  -- time and hashes stand behind the details, ten fields before them
  iterate 3 apply Json.Placed.Gives.seq
  refine Json.Placed.Gives.seq_of ?_ (Json.gives_value fs "details")
  iterate 10 apply Json.Placed.Gives.seq
  apply Json.Placed.Gives.map
  intro id tenantId actorId actorRole action entityType entityId phase isForced previousState
    newState details hnormal timestamp previousHash entryHash
  exact hnormal

/-- The hash out of the characters that are hashed. -/
theorem hash_eq (e : AuditEntry) :
    e.hash = hexText (Digest.sha256
      ((closed e.parts ++ e.timestamp.microsText.toList).flatMap String.utf8EncodeChar)) := by
  rw [hash, Text.Utf8.toUTF8_toList, preimage_toList]

variable {e₁ e₂ : AuditEntry}

theorem hashedBytes_eq_iff : e₁.hashedBytes = e₂.hashedBytes ↔ e₁.preimage = e₂.preimage := by
  constructor
  · intro h
    exact Text.Utf8.toUTF8_toList_inj h
  · intro h
    rw [hashedBytes, hashedBytes, h]

/-! ### From the bytes to the fields -/

/-- The outcome stands behind all free texts, so it is read back from the end. -/
theorem outcomeParts_eq (h : e₁.preimage = e₂.preimage) :
    closed e₁.subjectParts = closed e₂.subjectParts ∧ e₁.outcomeParts = e₂.outcomeParts ∧
      e₁.timestamp.microsText = e₂.timestamp.microsText := by
  have hlists := congrArg String.toList h
  simp only [preimage_toList, parts_eq, closed_append, List.append_assoc] at hlists
  have hcount := (count_outcome e₁).trans (count_outcome e₂).symm
  obtain ⟨hsubject, hrest⟩ := Text.framed_cut (by simp [subjectParts]) (by simp [subjectParts])
    hcount hlists
  obtain ⟨houtcome, hmicros⟩ := closed_inj (by simp [outcomeParts]) hrest
  exact ⟨hsubject, houtcome, String.toList_injective hmicros⟩

theorem sameOutcome_of_preimage_eq (hkeys₁ : e₁.details.UniqueKeys)
    (hkeys₂ : e₂.details.UniqueKeys) (h : e₁.preimage = e₂.preimage) : SameOutcome e₁ e₂ := by
  obtain ⟨_, houtcome, hmicros⟩ := outcomeParts_eq h
  simp only [outcomeParts, List.cons.injEq, and_true] at houtcome
  obtain ⟨hphase, hforced, hprevious, hnew, hdetails⟩ := houtcome
  exact {
    phase := Named.name_inj.mp hphase
    isForced := flag_inj hforced
    previousState := Named.name_inj.mp hprevious
    newState := Named.name_inj.mp hnew
    details := (Json.render_sorted_eq_iff hkeys₁ hkeys₂).mp hdetails
    timestamp := Instant.microsText_eq_iff.mp hmicros }

theorem role_inj {r s : Option String} (hflag : flag r.isSome = flag s.isSome)
    (htext : r.getD "" = s.getD "") : r = s := by
  have hsome := flag_inj hflag
  cases r <;> cases s <;> simp_all

/-- With the same separators in the free texts, the parts before the outcome
are read back. -/
theorem subjectParts_eq (hseparators : SameSeparators e₁ e₂) (h : e₁.preimage = e₂.preimage) :
    e₁.subjectParts = e₂.subjectParts := by
  obtain ⟨hsubject, _, _⟩ := outcomeParts_eq h
  have hcounts : e₁.subjectParts.map separators = e₂.subjectParts.map separators := by
    simp [subjectParts, hseparators.previousHash, hseparators.tenantId, hseparators.actorId,
      hseparators.actorRole, hseparators.entityType, hseparators.entityId]
  have hframes : closed e₁.subjectParts ++ [] = closed e₂.subjectParts ++ [] := by
    rw [hsubject]
  exact (closed_inj hcounts hframes).1

/-- With the same separators in the free texts, everything is read back. -/
theorem sameContent_of_preimage_eq (hkeys₁ : e₁.details.UniqueKeys)
    (hkeys₂ : e₂.details.UniqueKeys) (hseparators : SameSeparators e₁ e₂)
    (h : e₁.preimage = e₂.preimage) : SameContent e₁ e₂ := by
  have hparts := subjectParts_eq hseparators h
  simp only [subjectParts, List.cons.injEq, and_true] at hparts
  obtain ⟨hprevious, hid, htenant, hactor, hflag, hrole, haction, htype, hentity⟩ := hparts
  exact {
    toSameOutcome := sameOutcome_of_preimage_eq hkeys₁ hkeys₂ h
    id := Uuid.text_inj hid
    tenantId := htenant
    actorId := hactor
    actorRole := role_inj hflag hrole
    action := Named.name_inj.mp haction
    entityType := htype
    entityId := hentity
    previousHash := hprevious }

/-! ### From the fields to the bytes -/

theorem SameContent.sameSeparators (h : SameContent e₁ e₂) : SameSeparators e₁ e₂ where
  previousHash := by rw [h.previousHash]
  tenantId := by rw [h.tenantId]
  actorId := by rw [h.actorId]
  actorRole := by rw [h.actorRole]
  entityType := by rw [h.entityType]
  entityId := by rw [h.entityId]

theorem SameContent.preimage_eq (hkeys₁ : e₁.details.UniqueKeys)
    (hkeys₂ : e₂.details.UniqueKeys) (h : SameContent e₁ e₂) : e₁.preimage = e₂.preimage := by
  have hcanonical : canonical e₁.details = canonical e₂.details :=
    (Json.render_sorted_eq_iff hkeys₁ hkeys₂).mpr h.details
  have hparts : e₁.parts = e₂.parts := by
    simp only [parts, h.previousHash, h.id, h.tenantId, h.actorId, h.actorRole, h.action,
      h.entityType, h.entityId, h.phase, h.isForced, h.previousState, h.newState, hcanonical]
  have hmicros : e₁.timestamp.microsText = e₂.timestamp.microsText :=
    Instant.microsText_eq_iff.mpr h.timestamp
  rw [preimage, preimage, hparts, hmicros]

/-- The hash covers an entry up to the places of separators in its free texts. -/
theorem sameContent_iff (hkeys₁ : e₁.details.UniqueKeys) (hkeys₂ : e₂.details.UniqueKeys) :
    SameContent e₁ e₂ ↔ e₁.hashedBytes = e₂.hashedBytes ∧ SameSeparators e₁ e₂ := by
  rw [hashedBytes_eq_iff]
  constructor
  · intro h
    exact ⟨h.preimage_eq hkeys₁ hkeys₂, h.sameSeparators⟩
  · rintro ⟨hpreimage, hseparators⟩
    exact sameContent_of_preimage_eq hkeys₁ hkeys₂ hseparators hpreimage

/-! ### Entries without separators -/

/-- No free text of the entry holds a separator. -/
def SeparatorFree (e : AuditEntry) : Prop :=
  separators e.previousHash = 0 ∧ separators e.tenantId = 0 ∧ separators e.actorId = 0 ∧
    separators (e.actorRole.getD "") = 0 ∧ separators e.entityType = 0 ∧
      separators e.entityId = 0

/-- What is hashed from the bytes of an entry without separators has none either. -/
theorem sameSeparators_of_separatorFree (hfree : e₁.SeparatorFree)
    (h : e₁.preimage = e₂.preimage) : SameSeparators e₁ e₂ := by
  have hcount := congrArg (fun s => s.toList.count separator) h
  simp only [count_preimage] at hcount
  obtain ⟨hprevious, htenant, hactor, hrole, htype, hentity⟩ := hfree
  constructor <;> omega

/-- No other entry, of whatever texts, is hashed from the bytes of an entry
whose free texts hold no separator. -/
theorem sameContent_of_separatorFree (hkeys₁ : e₁.details.UniqueKeys)
    (hkeys₂ : e₂.details.UniqueKeys) (hfree : e₁.SeparatorFree)
    (h : e₁.hashedBytes = e₂.hashedBytes) : SameContent e₁ e₂ :=
  (sameContent_iff hkeys₁ hkeys₂).mpr
    ⟨h, sameSeparators_of_separatorFree hfree (hashedBytes_eq_iff.mp h)⟩

/-! ### Entries with separators -/

/-- Two neighbouring texts of which one holds a separator can be cut at another
place. -/
theorem exists_other_cut {x y : String} (h : 0 < separators x + separators y) :
    ∃ x' y' : String, x'.toList ++ separator :: y'.toList = x.toList ++ separator :: y.toList ∧
      x' ≠ x ∧ y' ≠ y := by
  have hmem : separator ∈ x.toList ∨ separator ∈ y.toList := by
    by_contra hnone
    rw [not_or] at hnone
    have hx : separators x = 0 := List.count_eq_zero.mpr hnone.1
    have hy : separators y = 0 := List.count_eq_zero.mpr hnone.2
    omega
  rcases hmem with hx | hy
  · obtain ⟨a, b, hab⟩ := List.append_of_mem hx
    refine ⟨String.ofList a, String.ofList (b ++ separator :: y.toList), by simp [hab], ?_, ?_⟩
    · apply ne_of_apply_ne String.length
      simp [← String.length_toList, hab]
    · apply ne_of_apply_ne String.length
      simp only [← String.length_toList, String.toList_ofList, List.length_append,
        List.length_cons]
      omega
  · obtain ⟨a, b, hab⟩ := List.append_of_mem hy
    refine ⟨String.ofList (x.toList ++ separator :: a), String.ofList b, by simp [hab], ?_, ?_⟩
    · apply ne_of_apply_ne String.length
      simp [← String.length_toList]
    · apply ne_of_apply_ne String.length
      simp only [← String.length_toList, String.toList_ofList, hab, List.length_append,
        List.length_cons]
      omega

theorem cut_append {x y x' y' : String}
    (h : x'.toList ++ separator :: y'.toList = x.toList ++ separator :: y.toList)
    (rest : List Char) :
    x'.toList ++ separator :: (y'.toList ++ rest) =
      x.toList ++ separator :: (y.toList ++ rest) := by
  simpa using congrArg (· ++ rest) h

/-- Tenant and actor go into the hash as one text with a separator in between. -/
theorem preimage_congr_actor {e : AuditEntry} {tenantId actorId : String}
    (h : tenantId.toList ++ separator :: actorId.toList =
      e.tenantId.toList ++ separator :: e.actorId.toList) :
    { e with tenantId := tenantId, actorId := actorId }.preimage = e.preimage := by
  have hlists := cut_append h
  simp [preimage, parts, hlists]

/-- So do the type and the name of the entity. -/
theorem preimage_congr_entity {e : AuditEntry} {entityType entityId : String}
    (h : entityType.toList ++ separator :: entityId.toList =
      e.entityType.toList ++ separator :: e.entityId.toList) :
    { e with entityType := entityType, entityId := entityId }.preimage = e.preimage := by
  have hlists := cut_append h
  simp [preimage, parts, hlists]

/-- An entry with a separator in its tenant, actor or entity shares its bytes
with another one, which differs from it in two of these texts. -/
theorem exists_other_of_separator {e : AuditEntry}
    (h : 0 < separators e.tenantId + separators e.actorId + separators e.entityType
      + separators e.entityId) :
    ∃ other : AuditEntry, e.hashedBytes = other.hashedBytes ∧
      (e.tenantId ≠ other.tenantId ∧ e.actorId ≠ other.actorId ∨
        e.entityType ≠ other.entityType ∧ e.entityId ≠ other.entityId) := by
  have hpairs : 0 < separators e.tenantId + separators e.actorId ∨
      0 < separators e.entityType + separators e.entityId := by omega
  rcases hpairs with hactor | hentity
  · obtain ⟨tenantId, actorId, hcut, htenant, hactor⟩ := exists_other_cut hactor
    exact ⟨{ e with tenantId := tenantId, actorId := actorId },
      hashedBytes_eq_iff.mpr (preimage_congr_actor hcut).symm,
      Or.inl ⟨htenant.symm, hactor.symm⟩⟩
  · obtain ⟨entityType, entityId, hcut, htype, hid⟩ := exists_other_cut hentity
    exact ⟨{ e with entityType := entityType, entityId := entityId },
      hashedBytes_eq_iff.mpr (preimage_congr_entity hcut).symm,
      Or.inr ⟨htype.symm, hid.symm⟩⟩

end AuditEntry

namespace AuditChain

open AuditEntry (SameOutcome SameContent SameSeparators separators)

/-- An entry of an accepted chain that is exchanged for another of the same
stored hash leaves a broken link, or the two are hashed from the same bytes, or
these collide. -/
theorem exchanged_entry {before after : List AuditEntry} {e₁ e₂ : AuditEntry}
    (hvalid : (verify (before ++ e₁ :: after)).isValid = true)
    (hhash : e₂.entryHash = e₁.entryHash) :
    (verify (before ++ e₂ :: after)).isValid = false ∨ e₁.hashedBytes = e₂.hashedBytes ∨
      Digest.Collision e₁.hashedBytes e₂.hashedBytes := by
  cases hchanged : (verify (before ++ e₂ :: after)).isValid with
  | false => exact Or.inl rfl
  | true =>
    right
    rw [isValid_verify_iff, linkedAfter_append] at hvalid hchanged
    have hlinked₁ := isLinked_iff.mp hvalid.2.1
    have hlinked₂ := isLinked_iff.mp hchanged.2.1
    have hsame : e₁.hash = e₂.hash := by
      rw [hlinked₁.2, hlinked₂.2, hhash]
    exact Digest.eq_or_collision hsame

/-- What the hash of an entry covers. Entries that are hashed from the same
bytes have the same outcome, and the same content exactly when their free texts
hold the same numbers of separators; that is certain when those of one of them
hold none. Hence a change that the bytes show is found out in a chain. There is
always one that they do not show if the tenant, the actor or the entity holds a
separator. -/
theorem hash_coverage {e₁ e₂ : AuditEntry} (hkeys₁ : e₁.details.UniqueKeys)
    (hkeys₂ : e₂.details.UniqueKeys) :
    (e₁.hashedBytes = e₂.hashedBytes → SameOutcome e₁ e₂) ∧
    (SameContent e₁ e₂ ↔ e₁.hashedBytes = e₂.hashedBytes ∧ SameSeparators e₁ e₂) ∧
    (e₁.SeparatorFree → e₁.hashedBytes = e₂.hashedBytes → SameContent e₁ e₂) ∧
    (∀ before after, (verify (before ++ e₁ :: after)).isValid = true →
      e₂.entryHash = e₁.entryHash →
      ¬ SameOutcome e₁ e₂ ∨
        ¬ SameContent e₁ e₂ ∧ (SameSeparators e₁ e₂ ∨ e₁.SeparatorFree) →
      (verify (before ++ e₂ :: after)).isValid = false ∨
        Digest.Collision e₁.hashedBytes e₂.hashedBytes) ∧
    (0 < separators e₁.tenantId + separators e₁.actorId + separators e₁.entityType
        + separators e₁.entityId →
      ∃ other : AuditEntry, e₁.hashedBytes = other.hashedBytes ∧
        (e₁.tenantId ≠ other.tenantId ∧ e₁.actorId ≠ other.actorId ∨
          e₁.entityType ≠ other.entityType ∧ e₁.entityId ≠ other.entityId)) := by
  have houtcome (h : e₁.hashedBytes = e₂.hashedBytes) : SameOutcome e₁ e₂ :=
    AuditEntry.sameOutcome_of_preimage_eq hkeys₁ hkeys₂ (AuditEntry.hashedBytes_eq_iff.mp h)
  have hcontent := AuditEntry.sameContent_iff hkeys₁ hkeys₂
  have hfree := AuditEntry.sameContent_of_separatorFree hkeys₁ hkeys₂
  refine ⟨houtcome, hcontent, hfree, ?_, AuditEntry.exists_other_of_separator⟩
  intro before after hvalid hhash hchange
  rcases exchanged_entry hvalid hhash with hbroken | hbytes | hcollision
  · exact Or.inl hbroken
  · rcases hchange with hother | ⟨hother, hsame | hnone⟩
    · exact absurd (houtcome hbytes) hother
    · exact absurd (hcontent.mpr ⟨hbytes, hsame⟩) hother
    · exact absurd (hfree hnone hbytes) hother
  · exact Or.inr hcollision

/-- The first entry of a chain, on behalf of some tenant and actor. -/
def firstEntry (tenantId actorId : String) : AuditEntry :=
  AuditDraft.chain
    { tenantId := tenantId
      actor := ⟨actorId, some "ADMIN"⟩
      action := .transitionBlocked
      entityType := "DOSSIER"
      entityId := "dos-1"
      phase := .billing
      isForced := false
      previousState := .completed
      newState := .invoiced
      details := .object [("blocked", .bool true), ("errors", .texts ["no NDA"])]
      timestamp := ⟨⟨2026, 6, 1, by decide⟩, 36001, 0, by decide⟩ }
    ⟨List.replicate 32 '0', by decide⟩ genesisHash

theorem uniqueKeys_firstEntry (tenantId actorId : String) :
    (firstEntry tenantId actorId).details.UniqueKeys := by
  refine ⟨?_, trivial, ⟨trivial, trivial⟩, trivial⟩
  decide

theorem isValid_firstEntry (tenantId actorId : String) :
    (verify [firstEntry tenantId actorId]).isValid = true :=
  (isValid_verify_iff _).mpr ⟨isLinked_chain _ _ _, trivial⟩

/-- A separator that is moved from the tenant to the actor leaves the bytes as
they were. -/
theorem firstEntry_moved :
    (firstEntry "org-1\x1fa" "user-7").hashedBytes =
      (firstEntry "org-1" "a\x1fuser-7").hashedBytes :=
  AuditEntry.hashedBytes_eq_iff.mpr
    (AuditEntry.preimage_congr_actor (e := firstEntry "org-1" "a\x1fuser-7") (by decide))

theorem entryHash_moved :
    (firstEntry "org-1\x1fa" "user-7").entryHash =
      (firstEntry "org-1" "a\x1fuser-7").entryHash := by
  rw [firstEntry, firstEntry, ← hash_chain, ← hash_chain]
  exact congrArg (fun bytes => AuditEntry.hexText (Digest.sha256 bytes)) firstEntry_moved

/-- The outcome is covered all the same, and the content is not. -/
theorem firstEntry_moved_covered :
    SameOutcome (firstEntry "org-1\x1fa" "user-7") (firstEntry "org-1" "a\x1fuser-7") ∧
      ¬ SameSeparators (firstEntry "org-1\x1fa" "user-7") (firstEntry "org-1" "a\x1fuser-7") := by
  have hcoverage := hash_coverage (uniqueKeys_firstEntry "org-1\x1fa" "user-7")
    (uniqueKeys_firstEntry "org-1" "a\x1fuser-7")
  refine ⟨hcoverage.1 firstEntry_moved, ?_⟩
  intro hseparators
  have hcontent := hcoverage.2.1.mpr ⟨firstEntry_moved, hseparators⟩
  exact absurd hcontent.tenantId (by decide)

/-- A chain does not show that tenant and actor were changed in this way. -/
theorem moved_separator_undetected :
    let e₁ := firstEntry "org-1\x1fa" "user-7"
    let e₂ := firstEntry "org-1" "a\x1fuser-7"
    e₁.hashedBytes = e₂.hashedBytes ∧ e₁.entryHash = e₂.entryHash ∧
      (verify [e₁]).isValid = true ∧ (verify [e₂]).isValid = true ∧
      e₁.tenantId ≠ e₂.tenantId ∧ e₁.actorId ≠ e₂.actorId := by
  exact ⟨firstEntry_moved, entryHash_moved, isValid_firstEntry _ _, isValid_firstEntry _ _,
    by decide, by decide⟩

end AuditChain

end DossierCompliance
