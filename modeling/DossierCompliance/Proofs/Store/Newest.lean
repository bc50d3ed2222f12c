import DossierCompliance.Calendar.Instant
import Mathlib.Data.List.Induction
import Mathlib.Data.List.Sort

/-!
Items from the newest to the oldest. They are sorted by their times, from the
last one to the first, so of items of one time the last stands first. A query
that orders rows by their times and then by their numbers gives them in the
same order. Both are told from one step: an item that is added at the end finds
its place behind those that are later and before all others.
-/

namespace DossierCompliance.Instant

variable {α β : Type} (time : α → Instant) {time' : β → Instant} {f : α → β}

theorem le_total_of_not {t u : Instant} (h : ¬ t ≤ u) : u ≤ t :=
  Int.le_of_not_le h

/-! ### One more item -/

/-- Puts an item behind those of a later time. -/
def insertByAge (a : α) : List α → List α
  | [] => [a]
  | b :: rest => if time b ≤ time a then a :: b :: rest else b :: insertByAge a rest

theorem insertByAge_perm (a : α) (items : List α) :
    (insertByAge time a items).Perm (a :: items) := by
  induction items with
  | nil => exact List.Perm.refl [a]
  | cons b rest ih =>
    rw [insertByAge]
    split
    · exact List.Perm.refl _
    · exact (ih.cons b).trans (List.Perm.swap a b rest)

/-- An item finds its place between those that are later and the others. -/
theorem insertByAge_append {a : α} {later others : List α} (hlater : ∀ b ∈ later, ¬ time b ≤ time a)
    (hothers : ∀ b ∈ others, time b ≤ time a) :
    insertByAge time a (later ++ others) = later ++ a :: others := by
  induction later with
  | nil =>
    cases others with
    | nil => rfl
    | cons b rest => exact if_pos (hothers b List.mem_cons_self)
  | cons b rest ih =>
    obtain ⟨hb, hrest⟩ := List.forall_mem_cons.mp hlater
    rw [List.cons_append, insertByAge, if_neg hb, ih hrest, List.cons_append]

/-- What is added last is the first of its time. -/
theorem newestFirst_concat (items : List α) (a : α) :
    newestFirst time (items ++ [a]) = insertByAge time a (newestFirst time items) := by
  have htrans : ∀ a b c : α, decide (time b ≤ time a) = true → decide (time c ≤ time b) = true →
      decide (time c ≤ time a) = true := by
    intro a b c hab hbc
    exact decide_eq_true (Int.le_trans (of_decide_eq_true hbc) (of_decide_eq_true hab))
  have htotal : ∀ a b : α, (decide (time b ≤ time a) || decide (time a ≤ time b)) = true := by
    intro a b
    rw [Bool.or_eq_true, decide_eq_true_iff, decide_eq_true_iff]
    exact Int.le_total _ _
  obtain ⟨later, others, hwith, hwithout, hlater⟩ :=
    List.mergeSort_cons htrans htotal a items.reverse
  have hsorted := List.pairwise_mergeSort htrans htotal (a :: items.reverse)
  rw [newestFirst, newestFirst, List.reverse_append, List.reverse_singleton,
    List.singleton_append, hwithout, hwith]
  rw [hwith] at hsorted
  refine (insertByAge_append time (fun b hb => ?_) fun b hb => ?_).symm
  · simpa using hlater b hb
  · have hbehind := (List.pairwise_append.mp hsorted).2.1
    exact of_decide_eq_true ((List.pairwise_cons.mp hbehind).1 b hb)

theorem newestFirst_perm (items : List α) : (newestFirst time items).Perm items :=
  (List.mergeSort_perm _ _).trans items.reverse_perm

/-! ### The order -/

/-- Of two items the first is the later one, or as late and added behind the
second. -/
def Precedes (items : List α) (a b : α) : Prop :=
  time b ≤ time a ∧ (time a ≤ time b → [b, a].Sublist items)

theorem Precedes.mono {items more : List α} (hmore : items.Sublist more) {a b : α}
    (h : Precedes time items a b) : Precedes time more a b :=
  ⟨h.1, fun hsame => (h.2 hsame).trans hmore⟩

/-- An item finds its place behind those that are later and before all others. -/
theorem pairwise_insertByAge {R : α → α → Prop} {a : α} {sorted : List α}
    (hsorted : sorted.Pairwise R) (htime : ∀ b c, R b c → time c ≤ time b)
    (hnewer : ∀ b ∈ sorted, time b ≤ time a → R a b)
    (holder : ∀ b ∈ sorted, ¬ time b ≤ time a → R b a) :
    (insertByAge time a sorted).Pairwise R := by
  induction sorted with
  | nil => exact List.pairwise_singleton R a
  | cons b rest ih =>
    obtain ⟨hb, hrest⟩ := List.pairwise_cons.mp hsorted
    rw [insertByAge]
    split
    case isTrue hle =>
      refine List.pairwise_cons.mpr ⟨?_, hsorted⟩
      intro c hc
      rcases List.mem_cons.mp hc with rfl | hmem
      · exact hnewer c List.mem_cons_self hle
      · exact hnewer c hc (Int.le_trans (htime b c (hb c hmem)) hle)
    case isFalse hlater =>
      have hplaced := ih hrest (fun c hc => hnewer c (List.mem_cons_of_mem b hc))
        (fun c hc => holder c (List.mem_cons_of_mem b hc))
      refine List.pairwise_cons.mpr ⟨?_, hplaced⟩
      intro c hc
      rcases List.mem_cons.mp ((insertByAge_perm time a rest).mem_iff.mp hc) with rfl | hmem
      · exact holder b List.mem_cons_self hlater
      · exact hb c hmem

/-- The invariant of the insertions: what is sorted so far is in order with
regard to the items so far, and the next item stands behind all of them. -/
theorem newestFirst_pairwise (items : List α) :
    (newestFirst time items).Pairwise (Precedes time items) := by
  induction items using List.reverseRecOn with
  | nil =>
    rw [newestFirst, List.reverse_nil, List.mergeSort_nil]
    exact List.Pairwise.nil
  | append_singleton items a ih =>
    rw [newestFirst_concat]
    have hbehind {b : α} (hb : b ∈ newestFirst time items) : [b, a].Sublist (items ++ [a]) := by
      have hmem := (newestFirst_perm time items).mem_iff.mp hb
      exact (List.singleton_sublist.mpr hmem).append (List.Sublist.refl [a])
    refine pairwise_insertByAge time
      (ih.imp fun h => h.mono time (List.sublist_append_left items [a])) (fun b c h => h.1) ?_ ?_
    · intro b hb hle
      exact ⟨hle, fun _ => hbehind hb⟩
    · intro b hb hlater
      exact ⟨le_total_of_not hlater, fun hle => absurd hle hlater⟩

/-! ### Rows of items -/

variable {time}

/-- The order depends on the times alone. -/
theorem newestFirst_map {items : List α} (h : ∀ a ∈ items, time' (f a) = time a) :
    newestFirst time' (items.map f) = (newestFirst time items).map f := by
  rw [newestFirst, newestFirst, ← List.map_reverse]
  refine (List.map_mergeSort fun a ha b hb => ?_).symm
  rw [h a (List.mem_reverse.mp ha), h b (List.mem_reverse.mp hb)]

theorem IsBefore.trans {a b c : α × Nat} (hab : IsBefore time a b) (hbc : IsBefore time b c) :
    IsBefore time a c := by
  refine ⟨Int.le_trans hbc.1 hab.1, fun hac => ?_⟩
  exact (hbc.2 (Int.le_trans hab.1 hac)).trans (hab.2 (Int.le_trans hac hbc.1))

theorem IsBefore.total (a b : α × Nat) : IsBefore time a b ∨ IsBefore time b a := by
  by_cases hle : time a.1 ≤ time b.1
  · by_cases hge : time b.1 ≤ time a.1
    · exact (Nat.le_total b.2 a.2).imp (fun h => ⟨hge, fun _ => h⟩) fun h => ⟨hle, fun _ => h⟩
    · exact .inr ⟨hle, fun h => absurd h hge⟩
  · exact .inl ⟨le_total_of_not hle, fun h => absurd h hle⟩

/-- Rows that are ordered by their times and numbers stand from the newest to the
oldest. -/
theorem newestRows_eq (rows : List α) : newestRows time rows = newestFirst time rows := by
  have hnumbers : rows.zipIdx.Pairwise fun a b => a.2 < b.2 := by
    rw [← List.pairwise_map, List.zipIdx_map_snd]
    exact List.pairwise_lt_range'
  have hsorted : (newestFirst (fun a => time a.1) rows.zipIdx).Pairwise (IsBefore time) := by
    refine (newestFirst_pairwise _ rows.zipIdx).imp fun {a b} hprecedes => ?_
    refine ⟨hprecedes.1, fun hle => ?_⟩
    have hadded := hnumbers.sublist (hprecedes.2 hle)
    exact Nat.le_of_lt (List.rel_of_pairwise_cons hadded (List.mem_singleton_self a))
  have htrans (a b c : α × Nat) (hab : decide (IsBefore time a b) = true)
      (hbc : decide (IsBefore time b c) = true) : decide (IsBefore time a c) = true :=
    decide_eq_true ((of_decide_eq_true hab).trans (of_decide_eq_true hbc))
  have htotal (a b : α × Nat) :
      (decide (IsBefore time a b) || decide (IsBefore time b a)) = true := by
    simpa using IsBefore.total a b
  have hmerged := List.pairwise_mergeSort htrans htotal rows.zipIdx
  have hperm := (newestFirst_perm (fun a : α × Nat => time a.1) rows.zipIdx).trans
    (List.mergeSort_perm rows.zipIdx fun a b => IsBefore time a b).symm
  -- two rows that are each before the other have the same number
  have heq := hperm.eq_of_pairwise ?_ hsorted (hmerged.imp of_decide_eq_true)
  · rw [newestRows, ← heq, ← newestFirst_map (fun _ _ => rfl), List.zipIdx_map_fst]
  rintro ⟨a, i⟩ ⟨b, j⟩ ha hb hab hba
  have hi := List.mem_zipIdx_iff_getElem?.mp ((newestFirst_perm _ _).mem_iff.mp ha)
  have hj := List.mem_zipIdx_iff_getElem?.mp ((List.mergeSort_perm _ _).mem_iff.mp hb)
  have hij : i = j := Nat.le_antisymm (hba.2 hab.1) (hab.2 hba.1)
  subst hij
  exact congrArg (·, i) (Option.some.inj (hi.symm.trans hj))

end DossierCompliance.Instant
