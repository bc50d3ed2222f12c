import DossierCompliance.Proofs.Rule.StandardText
import Mathlib.Data.List.Perm.Basic

/-!
Selecting rules. A rule is bound to one status, so that the selections of all
statuses share out the rules of a document among them; and in a loaded document
an id tells one rule. Nothing else is used of the text of a trigger than the
status in it, which the text gives back.
-/

namespace DossierCompliance

/-! ### Statuses and triggers -/

theorem Named.mem_all {α : Type} [Named α] [LawfulNamed α] (a : α) : a ∈ (Named.all : List α) :=
  List.mem_of_find?_eq_some (LawfulNamed.ofName?_name a)

theorem Status.nodup_all : (Named.all : List Status).Nodup := by
  decide

namespace Trigger

theorem fires_iff {t : Trigger} {s : Status} : t.fires s = true ↔ s = t.target := by
  rw [fires, beq_iff_eq, eq_comm]

theorem parse_text (t : Trigger) : parse t.text = .ok t := by
  rw [parse, ofText?_eq_some_iff.mpr rfl]

theorem decodeValue_toJson (t : Trigger) : Json.decodeValue decode t.toJson = .ok t := by
  have hnormal : t.toJson.Normal := trivial
  exact (Json.decodeValue_eq_ok_iff reads_decode hnormal).mpr (congrArg Json.string (text_eq t))

/-- Among all statuses a trigger fires for one. -/
theorem flatMap_fires {α : Type} (t : Trigger) (a : α) :
    (Named.all : List Status).flatMap (fun s => if t.fires s then [a] else []) = [a] := by
  obtain ⟨target⟩ := t
  cases target <;> rfl

end Trigger

/-- The rule with the trigger that its text is read as. -/
def Rule.respelled (r : Rule) : Except String Rule := do
  let trigger ← Trigger.parse r.trigger.text
  return { r with trigger := trigger }

namespace RuleDocument

/-- The document with all triggers written and read again. -/
def respelled (d : RuleDocument) : Except String RuleDocument := do
  let rules ← d.rules.mapM Rule.respelled
  return { d with rules := rules }

theorem respelled_eq (d : RuleDocument) : d.respelled = .ok d := by
  have hrule : Rule.respelled = pure := by
    funext r
    rw [Rule.respelled, Trigger.parse_text]
    rfl
  rw [respelled, hrule, List.mapM_pure]
  simp only [List.map_id']
  rfl

/-! ### Selections -/

variable {d : RuleDocument}

theorem mem_rulesFor {r : Rule} {s : Status} :
    r ∈ d.rulesFor s ↔ r ∈ d.rules ∧ s = r.trigger.target := by
  rw [rulesFor, List.mem_filter, Trigger.fires_iff]

/-- All selections together are the rules, in an order by status. -/
theorem perm_flatMap_rulesFor (d : RuleDocument) :
    ((Named.all : List Status).flatMap d.rulesFor).Perm d.rules := by
  obtain ⟨version, rules⟩ := d
  induction rules with
  | nil => exact List.Perm.refl _
  | cons r rules ih =>
    have hcons : rulesFor ⟨version, r :: rules⟩ = fun s =>
        (if r.trigger.fires s then [r] else []) ++ rulesFor ⟨version, rules⟩ s := by
      funext s
      rw [rulesFor, rulesFor, List.filter_cons]
      split <;> rfl
    rw [hcons]
    refine (List.flatMap_append_perm _ _ _).symm.trans ?_
    rw [Trigger.flatMap_fires]
    exact ih.cons r

/-- In a loaded document the id of a rule tells the rule. -/
theorem IsLoaded.get?_id (h : d.IsLoaded) {r : Rule} (hr : r ∈ d.rules) :
    d.get? r.id = some r := by
  cases hfound : d.get? r.id with
  | none => simpa using List.find?_eq_none.mp hfound r hr
  | some other =>
    have hid : other.id = r.id := by simpa using List.find?_some hfound
    have hother := List.mem_of_find?_eq_some hfound
    rw [List.inj_on_of_nodup_map h.areValid.distinct hother hr hid]

theorem get?_eq_none_iff {id : String} : d.get? id = none ↔ ∀ r ∈ d.rules, r.id ≠ id := by
  simp [get?]

/-- Selecting rules of a loaded document loses none and repeats none. Every rule
is selected for the one status that its trigger names, in the order of the
document; the selections for all eight statuses are the rules of the document
up to order, and as many. Under its id every rule is found, and nothing under
other texts. A trigger that is written and read, as a text or as a value, is the
same one, so that a document with all triggers read again selects the same. -/
theorem IsLoaded.selects_each_once (h : d.IsLoaded) :
    (∀ r ∈ d.rules, ∀ s, r ∈ d.rulesFor s ↔ s = r.trigger.target) ∧
    (∀ s, (d.rulesFor s).Sublist d.rules ∧ ∀ r ∈ d.rulesFor s, r.trigger.target = s) ∧
    ((∀ s : Status, s ∈ (Named.all : List Status)) ∧ (Named.all : List Status).Nodup ∧
      (Named.all : List Status).length = 8) ∧
    ((Named.all : List Status).flatMap d.rulesFor).Perm d.rules ∧
    ((Named.all : List Status).map fun s => (d.rulesFor s).length).sum = d.size ∧
    (∀ r ∈ d.rules, d.get? r.id = some r) ∧
    (∀ id, d.get? id = none ↔ ∀ r ∈ d.rules, r.id ≠ id) ∧
    (∀ t : Trigger, t.text = "TO_" ++ t.target.name ∧ Trigger.parse t.text = .ok t ∧
      Json.decodeValue Trigger.decode t.toJson = .ok t) ∧
    ∃ e, d.respelled = .ok e ∧ ∀ s, e.rulesFor s = d.rulesFor s := by
  refine ⟨?_, ?_, ⟨Named.mem_all, Status.nodup_all, rfl⟩, perm_flatMap_rulesFor d, ?_, ?_, ?_, ?_,
    ⟨d, respelled_eq d, fun _ => rfl⟩⟩
  · intro r hr s
    rw [mem_rulesFor, and_iff_right hr]
  · exact fun s => ⟨List.filter_sublist, fun r hr => (mem_rulesFor.mp hr).2.symm⟩
  · rw [size, ← (perm_flatMap_rulesFor d).length_eq, List.length_flatMap]
  · exact fun r hr => h.get?_id hr
  · exact fun id => get?_eq_none_iff
  · exact fun t => ⟨t.text_eq, t.parse_text, t.decodeValue_toJson⟩

/-- The standard document has three rules for closing and none for drafts. -/
theorem selects_standard :
    standard.IsLoaded ∧ standard.size = 13 ∧ (standard.rulesFor .closed).length = 3 ∧
      (standard.rulesFor .draft).length = 0 ∧
      ((Named.all : List Status).map fun s => (standard.rulesFor s).length).sum = 13 ∧
      ∀ r ∈ standard.rules, standard.get? r.id = some r := by
  obtain ⟨_, _, _, _, hsum, hget, _⟩ := IsLoaded.standard.selects_each_once
  exact ⟨.standard, rfl, rfl, rfl, hsum, hget⟩

end RuleDocument

end DossierCompliance
