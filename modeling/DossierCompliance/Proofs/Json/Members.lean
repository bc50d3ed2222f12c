import DossierCompliance.Json.Basic
import Mathlib.Data.List.Sort
import Mathlib.Data.String.Basic
import Mathlib.Tactic

/-!
Members of an object in ascending order. Putting a member at its place changes
what is found under its key and nothing else; sorting keeps the members when
no key comes twice, and keeps the last of those with one key otherwise.
-/

namespace DossierCompliance.Members

variable {α β : Type}

/-! ### Finding -/

@[simp]
theorem get?_nil (key : String) : get? ([] : Members α) key = none := rfl

theorem get?_cons (k : String) (v : α) (ms : Members α) (key : String) :
    get? ((k, v) :: ms) key = if k = key then some v else get? ms key := by
  by_cases h : k = key <;> simp [get?, h]

theorem get?_append (xs ys : Members α) (key : String) :
    get? (xs ++ ys) key = (get? xs key).or (get? ys key) := by
  induction xs with
  | nil => simp
  | cons entry xs ih =>
    obtain ⟨k, v⟩ := entry
    rw [List.cons_append, get?_cons, get?_cons, ih]
    by_cases hk : k = key <;> simp [hk]

theorem get?_map (f : α → β) (ms : Members α) (key : String) :
    get? (ms.map fun entry => (entry.1, f entry.2)) key = (get? ms key).map f := by
  induction ms with
  | nil => rfl
  | cons entry ms ih =>
    obtain ⟨k, v⟩ := entry
    rw [List.map_cons, get?_cons, get?_cons, ih]
    by_cases hk : k = key <;> simp [hk]

theorem get?_eq_none_iff {ms : Members α} {key : String} : get? ms key = none ↔ key ∉ ms.keys := by
  induction ms with
  | nil => simp [keys]
  | cons entry ms ih =>
    obtain ⟨k, v⟩ := entry
    rw [get?_cons, keys, List.map_cons, ← keys, List.mem_cons]
    by_cases hk : k = key
    · simp [hk]
    · simp [hk, ih, Ne.symm hk]

theorem mem_of_get? {ms : Members α} {key : String} {value : α} (h : get? ms key = some value) :
    (key, value) ∈ ms := by
  obtain ⟨entry, hentry, rfl⟩ := Option.map_eq_some_iff.mp h
  have hkey : entry.1 = key := by simpa using List.find?_some hentry
  exact hkey ▸ List.mem_of_find?_eq_some hentry

theorem get?_of_mem {ms : Members α} (hkeys : ms.keys.Nodup) {key : String} {value : α}
    (h : (key, value) ∈ ms) : get? ms key = some value := by
  induction ms with
  | nil => cases h
  | cons entry ms ih =>
    obtain ⟨k, v⟩ := entry
    obtain ⟨hk, hrest⟩ := List.nodup_cons.mp hkeys
    rw [get?_cons]
    rcases List.mem_cons.mp h with heq | htail
    · cases heq
      rw [if_pos rfl]
    · have hkey : key ∈ keys ms := List.mem_map_of_mem (f := Prod.fst) htail
      have hne : k ≠ key := fun h => hk (h ▸ hkey)
      rw [if_neg hne, ih hrest htail]

/-- What is put is found under its key, and what other keys have stays. -/
theorem get?_put (key : String) (value : α) (ms : Members α) (other : String) :
    get? (put key value ms) other = if key = other then some value else get? ms other := by
  induction ms with
  | nil => simp [put, get?_cons]
  | cons entry ms ih =>
    obtain ⟨k, v⟩ := entry
    unfold put
    by_cases hlt : key < k
    · rw [if_pos hlt, get?_cons]
    rw [if_neg hlt]
    by_cases heq : key = k
    · subst heq
      by_cases hother : key = other <;> simp [get?_cons, hother]
    · rw [if_neg (by simpa using heq), get?_cons, ih, get?_cons]
      by_cases hk : k = other
      · subst hk
        simp [heq]
      · simp [hk]

theorem get?_foldl_put (entries ms : Members α) (key : String) :
    get? (entries.foldl (fun ms entry => put entry.1 entry.2 ms) ms) key =
      (get? entries.reverse key).or (get? ms key) := by
  induction entries generalizing ms with
  | nil => simp
  | cons entry entries ih =>
    obtain ⟨k, v⟩ := entry
    rw [List.foldl_cons, ih, get?_put, List.reverse_cons, get?_append, get?_cons]
    by_cases hk : k = key <;> simp [hk]

/-- Under a key there is what came last with it. -/
theorem get?_sorted (entries : Members α) (key : String) :
    get? (sorted entries) key = get? entries.reverse key := by
  simp [sorted, get?_foldl_put]

/-! ### Order -/

theorem mem_put {key : String} {value : α} {ms : Members α} {entry : String × α}
    (h : entry ∈ put key value ms) : entry = (key, value) ∨ entry ∈ ms := by
  induction ms with
  | nil => simpa [put] using h
  | cons head ms ih =>
    obtain ⟨k, v⟩ := head
    unfold put at h
    split at h
    · simpa using h
    split at h
    · rcases List.mem_cons.mp h with h | h
      · exact Or.inl h
      · exact Or.inr (List.mem_cons_of_mem _ h)
    · rcases List.mem_cons.mp h with h | h
      · exact Or.inr (h ▸ List.mem_cons_self)
      · exact (ih h).imp id (List.mem_cons_of_mem _)

/-- Only what was there to be sorted is there afterwards. -/
theorem mem_of_mem_sorted {entries : Members α} {entry : String × α} (h : entry ∈ sorted entries) :
    entry ∈ entries := by
  have hfold (ms : Members α)
      (hmem : entry ∈ entries.foldl (fun ms entry => put entry.1 entry.2 ms) ms) :
      entry ∈ entries ∨ entry ∈ ms := by
    clear h
    induction entries generalizing ms with
    | nil => exact .inr hmem
    | cons head entries ih =>
      rcases ih _ hmem with hrest | hput
      · exact .inl (List.mem_cons_of_mem _ hrest)
      · rcases mem_put hput with rfl | hold
        · exact .inl List.mem_cons_self
        · exact .inr hold
  exact (hfold [] h).resolve_right List.not_mem_nil

theorem ascending_put (key : String) (value : α) {ms : Members α} (hms : Ascending ms) :
    Ascending (put key value ms) := by
  induction ms with
  | nil => exact List.pairwise_singleton _ _
  | cons head ms ih =>
    obtain ⟨k, v⟩ := head
    obtain ⟨hhead, htail⟩ := List.pairwise_cons.mp hms
    unfold put
    split
    · next hlt =>
      refine List.pairwise_cons.mpr ⟨?_, hms⟩
      intro l hl
      rcases List.mem_cons.mp hl with rfl | hl
      · exact hlt
      · exact hlt.trans (hhead l hl)
    split
    · next heq =>
      obtain rfl : key = k := by simpa using heq
      exact hms
    · next hlt hne =>
      have hgt : k < key := lt_of_le_of_ne (not_lt.mp hlt) (fun h => hne (by simp [h]))
      refine List.pairwise_cons.mpr ⟨?_, ih htail⟩
      intro l hl
      obtain ⟨entry, hentry, rfl⟩ := List.mem_map.mp hl
      rcases mem_put hentry with rfl | hold
      · exact hgt
      · exact hhead _ (List.mem_map_of_mem hold)

/-- Sorted members have strictly ascending keys. -/
theorem ascending_sorted (entries : Members α) : Ascending (sorted entries) := by
  have hfold (ms : Members α) (hms : Ascending ms) :
      Ascending (entries.foldl (fun ms entry => put entry.1 entry.2 ms) ms) := by
    induction entries generalizing ms with
    | nil => exact hms
    | cons entry entries ih => exact ih _ (ascending_put _ _ hms)
  exact hfold [] List.Pairwise.nil

theorem Ascending.nodup {ms : Members α} (hms : Ascending ms) : ms.keys.Nodup :=
  hms.imp ne_of_lt

theorem put_perm {key : String} (value : α) {ms : Members α} (hkey : key ∉ ms.keys) :
    (put key value ms).Perm ((key, value) :: ms) := by
  induction ms with
  | nil => exact List.Perm.refl _
  | cons head ms ih =>
    obtain ⟨k, v⟩ := head
    have hne : key ≠ k := by
      rintro rfl
      exact hkey List.mem_cons_self
    have hrest : key ∉ keys ms := fun h => hkey (List.mem_cons_of_mem _ h)
    unfold put
    split
    · exact List.Perm.refl _
    · rw [if_neg (by simpa using hne)]
      exact ((ih hrest).cons _).trans (List.Perm.swap _ _ _)

/-- Sorting members without a repeated key moves them and changes none. -/
theorem sorted_perm {entries : Members α} (hkeys : entries.keys.Nodup) :
    (sorted entries).Perm entries := by
  have hfold (ms : Members α) (hnodup : (keys (entries ++ ms)).Nodup) :
      (entries.foldl (fun ms entry => put entry.1 entry.2 ms) ms).Perm (entries ++ ms) := by
    induction entries generalizing ms with
    | nil => exact List.Perm.refl _
    | cons entry entries ih =>
      obtain ⟨k, v⟩ := entry
      simp only [keys, List.cons_append, List.map_cons, List.map_append, List.nodup_cons] at hnodup
      obtain ⟨hk, hrest⟩ := hnodup
      have hput : (put k v ms).Perm ((k, v) :: ms) :=
        put_perm v fun h => hk (List.mem_append_right _ h)
      have hmoved : (entries ++ put k v ms).Perm ((k, v) :: (entries ++ ms)) :=
        (hput.append_left entries).trans List.perm_middle
      have hkeys' : (keys (entries ++ put k v ms)).Nodup := by
        refine ((hmoved.map Prod.fst).nodup_iff).mpr ?_
        simpa [keys] using And.intro (by simpa using hk) hrest
      have htail : (keys entries).Nodup := (List.nodup_cons.mp hkeys).2
      exact (ih htail _ hkeys').trans hmoved
  simpa [sorted] using hfold [] (by simpa using hkeys)

theorem sorted_eq_self {ms : Members α} (hms : Ascending ms) : sorted ms = ms := by
  have hleft : (sorted ms).Pairwise fun a b => a.1 < b.1 :=
    List.pairwise_map.mp (ascending_sorted ms)
  have hright : ms.Pairwise fun a b => a.1 < b.1 := List.pairwise_map.mp hms
  refine (sorted_perm hms.nodup).eq_of_pairwise (fun a b _ _ hab hba => ?_) hleft hright
  exact absurd hab hba.asymm

/-- Where no key comes twice, sorting changes nothing that is found. -/
theorem get?_sorted_of_nodup {ms : Members α} (hkeys : ms.keys.Nodup) (key : String) :
    get? (sorted ms) key = get? ms key := by
  have hperm := sorted_perm hkeys
  have hsorted : (sorted ms).keys.Nodup := (hperm.map Prod.fst).nodup_iff.mpr hkeys
  cases h : get? ms key with
  | none =>
    rw [get?_eq_none_iff] at h ⊢
    exact fun hmem => h ((hperm.map Prod.fst).mem_iff.mp hmem)
  | some value => exact get?_of_mem hsorted (hperm.mem_iff.mpr (mem_of_get? h))

/-! ### Members side by side -/

section Paired

variable {p : α → β → Prop} {ms : Members α} {ns : Members β}

theorem keys_eq_of_forall₂ (h : List.Forall₂ (fun m n => m.1 = n.1 ∧ p m.2 n.2) ms ns) :
    ms.keys = ns.keys := by
  induction h with
  | nil => rfl
  | cons hhead _ ih => exact congrArg₂ List.cons hhead.1 ih

/-- What is found under a key has its counterpart under this key. -/
theorem get?_of_forall₂ (h : List.Forall₂ (fun m n => m.1 = n.1 ∧ p m.2 n.2) ms ns)
    (key : String) : Option.Rel p (get? ms key) (get? ns key) := by
  induction h with
  | nil => exact Option.Rel.none
  | @cons m n _ _ hhead _ ih =>
    obtain ⟨k, v⟩ := m
    obtain ⟨l, w⟩ := n
    obtain ⟨rfl, hp⟩ : k = l ∧ p v w := hhead
    rw [get?_cons, get?_cons]
    by_cases hk : k = key
    · simpa [hk] using Option.Rel.some hp
    · simpa [hk] using ih

end Paired

/-! ### Names given to items -/

theorem keys_zip_sublist (names : List String) (items : List α) :
    (keys (names.zip items)).Sublist names := by
  induction names generalizing items with
  | nil => exact List.Sublist.slnil
  | cons name names ih =>
    cases items with
    | nil => exact List.nil_sublist _
    | cons item items => exact (ih items).cons_cons name

theorem forall₂_zip {p : α → β → Prop} {items : List α} {values : List β}
    (h : List.Forall₂ p items values) (names : List String) :
    List.Forall₂ (fun m n => m.1 = n.1 ∧ p m.2 n.2) (names.zip items) (names.zip values) := by
  induction h generalizing names with
  | nil => simp
  | cons hhead _ ih =>
    cases names with
    | nil => exact .nil
    | cons name names => exact .cons ⟨rfl, hhead⟩ (ih names)

end DossierCompliance.Members
