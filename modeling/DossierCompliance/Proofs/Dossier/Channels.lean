import DossierCompliance.Dossier.Basic
import Mathlib.Data.List.Induction
import Mathlib.Tactic

/-!
The funding channels of a dossier. Each channel is listed once, where it first
appears among the contracts. What is listed and in which order leaves one list
only, so the regulated channels are told without the way they are collected.
-/

namespace DossierCompliance

/-! ### Lists without repetition -/

section Distinct

variable {α β : Type} [DecidableEq α] {items : List α} {a : α}

/-- A further item is kept when it is new. -/
theorem distinct_concat (items : List α) (item : α) :
    distinct (items ++ [item]) =
      if item ∈ distinct items then distinct items else distinct items ++ [item] :=
  List.foldl_concat _ _ _ _

theorem mem_distinct : a ∈ distinct items ↔ a ∈ items := by
  induction items using List.reverseRecOn with
  | nil => rfl
  | append_singleton items item ih =>
    rw [distinct_concat, List.mem_append, List.mem_singleton]
    by_cases hitem : item ∈ distinct items
    · have hold : a = item → a ∈ items := by
        rintro rfl
        exact ih.mp hitem
      rw [if_pos hitem, ih, or_iff_left_of_imp hold]
    · rw [if_neg hitem, List.mem_append, List.mem_singleton, ih]

/-- The first item is always kept, and in front. -/
theorem head?_distinct (items : List α) : (distinct items).head? = items.head? := by
  induction items using List.reverseRecOn with
  | nil => rfl
  | append_singleton items item ih =>
    rw [distinct_concat, List.head?_append]
    split
    · next hitem =>
      have hsome : items.head?.isSome = true :=
        List.isSome_head?.mpr (List.ne_nil_of_mem (mem_distinct.mp hitem))
      rw [ih, Option.or_of_isSome hsome]
    · rw [List.head?_append, ih]

/-- The place of the first item that a value is drawn from. -/
def firstPlace (f : β → Option α) (items : List β) (a : α) : Nat :=
  items.findIdx fun item => f item = some a

theorem firstPlace_lt_length {f : β → Option α} {items : List β} {a : α} :
    firstPlace f items a < items.length ↔ a ∈ items.filterMap f := by
  simp [firstPlace, List.findIdx_lt_length]

/-- Later items do not matter once a value has been drawn. -/
theorem firstPlace_concat_of_mem {f : β → Option α} {items : List β} {a : α}
    (h : a ∈ items.filterMap f) (item : β) :
    firstPlace f (items ++ [item]) a = firstPlace f items a := by
  rw [firstPlace, List.findIdx_append, ← firstPlace, if_pos (firstPlace_lt_length.mpr h)]

theorem length_le_firstPlace_concat {f : β → Option α} {items : List β} {a : α}
    (h : a ∉ items.filterMap f) (item : β) :
    items.length ≤ firstPlace f (items ++ [item]) a := by
  rw [firstPlace, List.findIdx_append, ← firstPlace, if_neg (mt firstPlace_lt_length.mp h)]
  exact Nat.le_add_left _ _

/-- The values drawn from a list stand in the order in which they are first drawn. -/
theorem pairwise_distinct (f : β → Option α) (items : List β) :
    (distinct (items.filterMap f)).Pairwise fun a b =>
      firstPlace f items a < firstPlace f items b := by
  induction items using List.reverseRecOn with
  | nil => exact List.Pairwise.nil
  | append_singleton items item ih =>
    have hkept : (distinct (items.filterMap f)).Pairwise fun a b =>
        firstPlace f (items ++ [item]) a < firstPlace f (items ++ [item]) b := by
      refine ih.imp_of_mem fun ha hb hlt => ?_
      rwa [firstPlace_concat_of_mem (mem_distinct.mp ha),
        firstPlace_concat_of_mem (mem_distinct.mp hb)]
    rw [List.filterMap_append]
    cases hitem : f item with
    | none => simpa [hitem] using hkept
    | some b =>
      rw [List.filterMap_cons_some hitem, List.filterMap_nil, distinct_concat]
      split
      · exact hkept
      · next hnew =>
        refine List.pairwise_append.mpr ⟨hkept, List.pairwise_singleton _ _, ?_⟩
        intro a ha c hc
        obtain rfl := List.mem_singleton.mp hc
        rw [mem_distinct] at ha hnew
        calc firstPlace f (items ++ [item]) a
            = firstPlace f items a := firstPlace_concat_of_mem ha item
          _ < items.length := firstPlace_lt_length.mpr ha
          _ ≤ firstPlace f (items ++ [item]) c := length_le_firstPlace_concat hnew item

example : distinct [2, 0, 1, 0, 2] = [2, 0, 1] := by
  decide

end Distinct

/-- The channel that a contract is financed through, if it is financed. -/
def Contract.channel? (c : Contract) : Option FundingChannel :=
  c.financer.map (·.channel)

namespace Dossier

/-! ### Channels of a dossier -/

/-- The regulated channels that contracts are financed through, each once, in the
order in which the contracts first name them. -/
structure ListsRegulated (d : Dossier) (channels : List FundingChannel) : Prop where
  nodup : channels.Nodup
  mem_iff : ∀ channel, channel ∈ channels ↔
    channel.isRegulated = true ∧ ∃ c ∈ d.contracts, c.channel? = some channel
  inOrder : channels.Pairwise fun a b =>
    firstPlace Contract.channel? d.contracts a < firstPlace Contract.channel? d.contracts b

variable {d : Dossier}

theorem listsRegulated (d : Dossier) : d.ListsRegulated d.regulatedChannels := by
  have hinOrder : d.regulatedChannels.Pairwise fun a b =>
      firstPlace Contract.channel? d.contracts a < firstPlace Contract.channel? d.contracts b :=
    (pairwise_distinct Contract.channel? d.contracts).filter _
  refine ⟨hinOrder.imp fun hlt heq => ?_, fun channel => ?_, hinOrder⟩
  · exact hlt.ne (congrArg _ heq)
  · have hfunds : d.fundingChannels = distinct (d.contracts.filterMap Contract.channel?) := rfl
    rw [regulatedChannels, List.mem_filter, hfunds, mem_distinct, List.mem_filterMap, and_comm]

/-- There is one such list. -/
theorem ListsRegulated.eq_regulatedChannels {channels : List FundingChannel}
    (h : d.ListsRegulated channels) : channels = d.regulatedChannels := by
  have hown := d.listsRegulated
  have hperm : channels.Perm d.regulatedChannels :=
    (List.perm_ext_iff_of_nodup h.nodup hown.nodup).mpr fun channel => by
      rw [h.mem_iff, hown.mem_iff]
  exact hperm.eq_of_pairwise (fun a b _ _ hab hba => absurd hab hba.asymm) h.inOrder hown.inOrder

theorem regulatedChannels_eq_nil (d : Dossier) :
    d.regulatedChannels = [] ↔
      ∀ c ∈ d.contracts, ∀ f ∈ c.financer, f.channel.isRegulated = false := by
  rw [List.eq_nil_iff_forall_not_mem]
  constructor
  · intro h c hc f hf
    have hchannel : c.channel? = some f.channel := Option.map_eq_some_iff.mpr ⟨f, hf, rfl⟩
    rw [Bool.eq_false_iff]
    exact fun hregulated => h _ ((d.listsRegulated.mem_iff _).mpr ⟨hregulated, c, hc, hchannel⟩)
  · intro h channel hmem
    obtain ⟨hregulated, c, hc, hchannel⟩ := (d.listsRegulated.mem_iff channel).mp hmem
    obtain ⟨f, hf, rfl⟩ := Option.map_eq_some_iff.mp hchannel
    rw [h c hc f hf] at hregulated
    cases hregulated

/-- The channel of the first financed contract is the first of all channels. -/
theorem head?_fundingChannels (d : Dossier) :
    d.fundingChannels.head? = d.financer?.map (·.channel) := by
  rw [fundingChannels, head?_distinct, List.head?_filterMap, financer?, List.map_findSome?]
  rfl

/-- When that channel is regulated it is the first of the regulated ones. -/
theorem regulatedChannels_of_financer? {f : Financer} (hfinancer : d.financer? = some f)
    (hregulated : f.channel.isRegulated = true) :
    ∃ others, d.regulatedChannels = f.channel :: others := by
  have hhead : d.fundingChannels.head? = some f.channel := by
    rw [head?_fundingChannels, hfinancer, Option.map_some]
  obtain ⟨others, hothers⟩ := List.head?_eq_some_iff.mp hhead
  exact ⟨_, by rw [regulatedChannels, hothers, List.filter_cons_of_pos hregulated]⟩

end Dossier

end DossierCompliance
