import DossierCompliance.Proofs.Audit.Selection

/-!
What the last hash of a chain commits to. The hash that an entry names stands
first among the bytes that it is hashed from, and its id second, and in a chain
that is accepted neither holds a separator, so they can be read back. Hence two
chains with the same last hash are told from their ends to have the same history,
unless two different texts collide on the way or an entry has the hash of zeros,
where the shorter chain begins.
-/

namespace DossierCompliance

open Text (NoControls)

namespace AuditEntry

theorem noControls_hexText (bytes : List UInt8) : NoControls (hexText bytes).toList := by
  have hdigit : ∀ n < 16, Text.uncontrolled (Text.lowerHexDigit n) = true := by
    decide
  intro c hc
  rw [hexText, String.toList_ofList, List.mem_flatMap] at hc
  obtain ⟨b, _, hc⟩ := hc
  have hb := b.toNat_lt
  simp only [List.mem_cons, List.not_mem_nil, or_false] at hc
  rcases hc with rfl | rfl
  · exact hdigit _ (by omega)
  · exact hdigit _ (by omega)

@[simp]
theorem separators_hash (e : AuditEntry) : separators e.hash = 0 :=
  separators_eq_zero (noControls_hexText _)

@[simp]
theorem separators_genesisHash : separators genesisHash = 0 := by
  decide

/-- The hash that an entry names and its id stand in front of what is hashed. -/
theorem preimage_eq_append (e : AuditEntry) :
    ∃ rest, e.preimage.toList = closed [e.previousHash, e.id.text] ++ rest := by
  have hsubject : closed e.subjectParts =
      closed [e.previousHash, e.id.text] ++ closed (e.subjectParts.drop 2) :=
    closed_append [e.previousHash, e.id.text] (e.subjectParts.drop 2)
  rw [preimage_toList, parts_eq, closed_append, hsubject, List.append_assoc, List.append_assoc]
  exact ⟨_, rfl⟩

/-- A named hash without separators is read back from the bytes, and the id behind it. -/
theorem previousHash_and_id_eq {e f : AuditEntry} (he : separators e.previousHash = 0)
    (hf : separators f.previousHash = 0) (h : e.hashedBytes = f.hashedBytes) :
    e.previousHash = f.previousHash ∧ e.id = f.id := by
  obtain ⟨r, hr⟩ := preimage_eq_append e
  obtain ⟨t, ht⟩ := preimage_eq_append f
  rw [hashedBytes_eq_iff.mp h, ht] at hr
  obtain ⟨hsame, _⟩ := closed_inj (by simp [he, hf]) hr
  obtain ⟨hprevious, hid, _⟩ : f.previousHash = e.previousHash ∧ f.id.text = e.id.text ∧ True := by
    simpa using hsame
  exact ⟨hprevious.symm, (Uuid.text_inj hid).symm⟩

/-- Two entries name the same hash, have the same id and the same hash, and are
hashed from the same bytes. -/
structure SameRecord (e f : AuditEntry) : Prop where
  previousHash : e.previousHash = f.previousHash
  id : e.id = f.id
  entryHash : e.entryHash = f.entryHash
  hashedBytes : e.hashedBytes = f.hashedBytes

end AuditEntry

namespace AuditChain

open AuditEntry (SameRecord separators)

variable {xs ys : List AuditEntry}

/-- Whatever the next entry of a linked list has to name holds no separator. -/
theorem separators_hashAfter (h : LinkedAfter genesisHash xs) :
    separators (hashAfter genesisHash xs) = 0 := by
  rcases List.eq_nil_or_concat' xs with rfl | ⟨xs, e, rfl⟩
  · simp
  · obtain ⟨_, hlinked, _⟩ := (linkedAfter_append _ _ _).mp h
    rw [hashAfter_concat, ← (isLinked_iff.mp hlinked).2, AuditEntry.separators_hash]

/-- Entries of one hash, each linked at the end of a chain, are the same record
of the same hash before it, or they collide. -/
theorem sameRecord_or_collision {e f : AuditEntry} (hx : LinkedAfter genesisHash (xs ++ [e]))
    (hy : LinkedAfter genesisHash (ys ++ [f])) (hhash : e.entryHash = f.entryHash) :
    SameRecord e f ∧ hashAfter genesisHash xs = hashAfter genesisHash ys ∨
      Digest.Collision e.hashedBytes f.hashedBytes := by
  obtain ⟨hxs, he, _⟩ := (linkedAfter_append _ _ _).mp hx
  obtain ⟨hys, hf, _⟩ := (linkedAfter_append _ _ _).mp hy
  rw [isLinked_iff] at he hf
  have hdigest : e.hash = f.hash := by
    rw [he.2, hf.2, hhash]
  rcases Digest.eq_or_collision hdigest with hbytes | hcollision
  · left
    obtain ⟨hprevious, hid⟩ : e.previousHash = f.previousHash ∧ e.id = f.id := by
      apply AuditEntry.previousHash_and_id_eq _ _ hbytes
      · rw [he.1, separators_hashAfter hxs]
      · rw [hf.1, separators_hashAfter hys]
    exact ⟨⟨hprevious, hid, hhash, hbytes⟩, by rw [← he.1, ← hf.1, hprevious]⟩
  · exact Or.inr hcollision

/-- Entries of one chain with the same hash have the same id, or they collide. -/
theorem id_eq_or_collision (h : LinkedAfter genesisHash xs) {e f : AuditEntry} (he : e ∈ xs)
    (hf : f ∈ xs) (hhash : e.entryHash = f.entryHash) :
    e.id = f.id ∨ Digest.Collision e.hashedBytes f.hashedBytes := by
  have hupTo {a : AuditEntry} (ha : a ∈ xs) : ∃ before, LinkedAfter genesisHash (before ++ [a]) := by
    obtain ⟨before, after, rfl⟩ := List.append_of_mem ha
    rw [← List.singleton_append, ← List.append_assoc, linkedAfter_append] at h
    exact ⟨before, h.1⟩
  obtain ⟨_, hx⟩ := hupTo he
  obtain ⟨_, hy⟩ := hupTo hf
  exact (sameRecord_or_collision hx hy hhash).imp (fun hsame => hsame.1.id) id

/-- Some entry of one list and some entry of the other are hashed from
different bytes with the same digest. -/
def Colliding (xs ys : List AuditEntry) : Prop :=
  ∃ e ∈ xs, ∃ f ∈ ys, Digest.Collision e.hashedBytes f.hashedBytes

/-- Chains of the same last hash, walked back from their ends. -/
theorem history_walk (hx : LinkedAfter genesisHash xs) (hy : LinkedAfter genesisHash ys)
    (hlast : hashAfter genesisHash xs = hashAfter genesisHash ys) :
    List.Forall₂ SameRecord xs ys ∨ Colliding xs ys ∨
      ∃ e ∈ xs ++ ys, e.entryHash = genesisHash := by
  induction xs using List.reverseRecOn generalizing ys with
  | nil =>
    rcases List.eq_nil_or_concat' ys with rfl | ⟨ys, f, rfl⟩
    · exact Or.inl .nil
    · refine Or.inr (Or.inr ⟨f, by simp, ?_⟩)
      simpa using hlast.symm
  | append_singleton xs e ih =>
    rcases List.eq_nil_or_concat' ys with rfl | ⟨ys, f, rfl⟩
    · refine Or.inr (Or.inr ⟨e, by simp, ?_⟩)
      simpa using hlast
    · have hhash : e.entryHash = f.entryHash := by
        simpa using hlast
      rcases sameRecord_or_collision hx hy hhash with ⟨hrecord, hbefore⟩ | hcollision
      · have hxs := ((linkedAfter_append _ _ _).mp hx).1
        have hys := ((linkedAfter_append _ _ _).mp hy).1
        rcases ih hxs hys hbefore with hsame | ⟨a, ha, b, hb, hab⟩ | ⟨a, ha, hzeros⟩
        · exact Or.inl (List.rel_append hsame (.cons hrecord .nil))
        · refine Or.inr (Or.inl ⟨a, ?_, b, ?_, hab⟩)
          · exact List.mem_append_left _ ha
          · exact List.mem_append_left _ hb
        · refine Or.inr (Or.inr ⟨a, ?_, hzeros⟩)
          rw [List.mem_append] at ha ⊢
          exact ha.imp (List.mem_append_left _) (List.mem_append_left _)
      · exact Or.inr (Or.inl ⟨e, by simp, f, by simp, hcollision⟩)

/-- The last hash of a chain commits to all of it: two chains whose last entries
have the same hash have the same records from the first entry on, or entries of
theirs collide, or the hash of one of their entries is the one of zeros. -/
theorem history_of_last_hash {e f : AuditEntry} (hx : (verify xs).brokenLinks = 0)
    (hy : (verify ys).brokenLinks = 0) (he : xs.getLast? = some e) (hf : ys.getLast? = some f)
    (hhash : e.entryHash = f.entryHash) :
    List.Forall₂ SameRecord xs ys ∨ Colliding xs ys ∨
      ∃ a ∈ xs ++ ys, a.entryHash = genesisHash := by
  have hlast : hashAfter genesisHash xs = hashAfter genesisHash ys := by
    simp [hashAfter, he, hf, hhash]
  exact history_walk ((brokenAfter_eq_zero_iff _ _).mp hx) ((brokenAfter_eq_zero_iff _ _).mp hy)
    hlast

/-- Two chains that differ in the tenant and the actor of their first entry, and
end with the same hash. -/
theorem history_of_moved_separator :
    let second := secondEntry (firstEntry "org-1" "a\x1fuser-7").entryHash
    let xs := [firstEntry "org-1\x1fa" "user-7", second]
    let ys := [firstEntry "org-1" "a\x1fuser-7", second]
    (verify xs).brokenLinks = 0 ∧ (verify ys).brokenLinks = 0 ∧
      (List.Forall₂ SameRecord xs ys ∨ Colliding xs ys ∨
        ∃ a ∈ xs ++ ys, a.entryHash = genesisHash) := by
  intro second xs ys
  have hsecond (tenantId actorId : String)
      (hhash : (firstEntry "org-1" "a\x1fuser-7").entryHash =
        (firstEntry tenantId actorId).entryHash) :
      (verify [firstEntry tenantId actorId, second]).brokenLinks = 0 := by
    refine (brokenAfter_eq_zero_iff _ _).mpr ⟨isLinked_chain _ _ _, ?_, trivial⟩
    rw [← hhash]
    exact isLinked_chain _ _ _
  have hx := hsecond _ _ entryHash_moved.symm
  have hy := hsecond _ _ rfl
  exact ⟨hx, hy, history_of_last_hash hx hy rfl rfl rfl⟩

end AuditChain

end DossierCompliance
