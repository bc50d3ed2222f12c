import DossierCompliance.Proofs.Json.Members
import DossierCompliance.Proofs.Value.Paths

/-!
Walking down a value. A walk may be broken off anywhere and taken up from the
value that it led to. Each step passes through one level of lists at most, and
only to the first item, so a list that holds a value in front stands for that
value on the way down: a value that is no list may be wrapped in one wherever
the walk goes on from it.
-/

namespace DossierCompliance.Value

def IsList : Value → Prop
  | .list _ => True
  | _ => False

/-- Neither a list nor a map. -/
def IsScalar : Value → Prop
  | .list _ | .map _ => False
  | _ => True

/-- The value under a key of a map, if there is one. -/
def find? (v : Value) (key : String) : Option Value :=
  match v with
  | .map entries => Members.get? entries key
  | _ => none

theorem step_eq (v : Value) (key : String) :
    v.step key = (v.container.find? key).getD .null := by
  rw [step]
  cases v.container <;> rfl

theorem resolveSegments_cons (v : Value) (key : String) (rest : List String) :
    v.resolveSegments (key :: rest) = (v.step key).resolveSegments rest := rfl

theorem resolveSegments_append (v : Value) (p q : List String) :
    v.resolveSegments (p ++ q) = (v.resolveSegments p).resolveSegments q :=
  List.foldl_append

/-- Null is never left. -/
theorem null_resolveSegments (p : List String) : null.resolveSegments p = .null := by
  induction p with
  | nil => rfl
  | cons key rest ih => exact ih

/-- Where there is nothing to look a key up in, every further walk leads to null. -/
theorem resolveSegments_of_find?_none {v : Value} (h : ∀ key, v.container.find? key = none)
    {p : List String} (hp : p ≠ []) : v.resolveSegments p = .null := by
  obtain ⟨key, rest, rfl⟩ := List.exists_cons_of_ne_nil hp
  rw [resolveSegments_cons, step_eq, h]
  exact null_resolveSegments rest

theorem resolveSegments_scalar {v : Value} (h : v.IsScalar) {p : List String} (hp : p ≠ []) :
    v.resolveSegments p = .null := by
  refine resolveSegments_of_find?_none (fun key => ?_) hp
  cases v with
  | list | map => cases h
  | _ => rfl

theorem container_of_not_isList {v : Value} (h : ¬ v.IsList) : v.container = v := by
  cases v with
  | list => exact absurd trivial h
  | _ => rfl

/-- A list stands for its first item when that is no list itself. -/
theorem resolveSegments_first {x : Value} (h : ¬ x.IsList) (others : List Value)
    {p : List String} (hp : p ≠ []) :
    (list (x :: others)).resolveSegments p = x.resolveSegments p := by
  obtain ⟨key, rest, rfl⟩ := List.exists_cons_of_ne_nil hp
  have hstep : (list (x :: others)).step key = x.step key := by
    rw [step, step, container_of_not_isList h]
    rfl
  rw [resolveSegments_cons, resolveSegments_cons, hstep]

/-! ### Replacing a value at its place -/

/-- A map with what stands under a key changed. -/
def changeKey (key : String) (f : Value → Value) : Value → Value
  | .map entries =>
    .map (entries.map fun entry => (entry.1, if entry.1 = key then f entry.2 else entry.2))
  | v => v

/-- The value with a change where one step leads: in the map, or in the map that
stands first in the list. -/
def changeStep (key : String) (f : Value → Value) : Value → Value
  | .list (first :: others) => .list (first.changeKey key f :: others)
  | v => v.changeKey key f

/-- The value with a change at the place to which segments lead, if there is one. -/
def changeAt (f : Value → Value) : List String → Value → Value
  | [] => f
  | key :: rest => changeStep key (changeAt f rest)

def replaceAt (v : Value) (p : List String) (y : Value) : Value :=
  changeAt (fun _ => y) p v

/-- There is a value at the place to which segments lead, if only null. -/
def Leads : List String → Value → Prop
  | [], _ => True
  | key :: rest, v => ∃ x, v.container.find? key = some x ∧ Leads rest x

theorem find?_changeKey (key : String) (f : Value → Value) (v : Value) :
    (v.changeKey key f).find? key = (v.find? key).map f := by
  cases v with
  | map entries =>
    change Members.get? _ key = (Members.get? entries key).map f
    induction entries with
    | nil => rfl
    | cons entry rest ih =>
      obtain ⟨k, v⟩ := entry
      rw [List.map_cons, Members.get?_cons, Members.get?_cons, ih]
      by_cases hk : k = key <;> simp [hk]
  | _ => rfl

theorem container_changeStep (key : String) (f : Value → Value) (v : Value) :
    (v.changeStep key f).container = v.container.changeKey key f := by
  cases v with
  | list items => cases items <;> rfl
  | _ => rfl

/-- Only what the key leads to is changed on the way down. -/
theorem step_changeStep (key : String) (f : Value → Value) (v : Value) :
    (v.changeStep key f).step key = ((v.container.find? key).map f).getD .null := by
  rw [step_eq, container_changeStep, find?_changeKey]

/-- A change does not show on a walk that goes on as before from where it is. -/
theorem resolveSegments_changeAt {f : Value → Value} {p q : List String} {v : Value}
    (h : (f (v.resolveSegments p)).resolveSegments q =
      (v.resolveSegments p).resolveSegments q) :
    (changeAt f p v).resolveSegments (p ++ q) = v.resolveSegments (p ++ q) := by
  induction p generalizing v with
  | nil => exact h
  | cons key rest ih =>
    rw [resolveSegments_cons, step_eq] at h
    rw [changeAt, List.cons_append, resolveSegments_cons, resolveSegments_cons, step_changeStep,
      step_eq]
    cases hfound : v.container.find? key with
    | none => rfl
    | some x =>
      rw [hfound] at h
      exact ih h

/-- The new value stands where the old one stood. -/
theorem resolveSegments_replaceAt {p : List String} {v : Value} (h : Leads p v) (y : Value) :
    (v.replaceAt p y).resolveSegments p = y := by
  induction p generalizing v with
  | nil => rfl
  | cons key rest ih =>
    obtain ⟨x, hfound, hrest⟩ := h
    rw [replaceAt, changeAt, resolveSegments_cons, step_changeStep, hfound]
    exact ih hrest

/-! ### Laws of walking -/

/-- What a walk down a value leads to. It may be taken in two parts. As long as
it goes on, a list stands for its first item unless that is a list too, an empty
list, a list in front of a list and every scalar lead to null, and a map leads
on from what stands under the next key. A path is walked by its segments. And a
value that is no list may be replaced, at its place, by a list in which it comes
first: a walk that goes on from there leads to the same value. -/
theorem resolution_laws :
    (∀ (v : Value) (p q : List String),
      v.resolveSegments (p ++ q) = (v.resolveSegments p).resolveSegments q) ∧
    (∀ p : List String, p ≠ [] →
      (∀ (x : Value) (others : List Value), ¬ x.IsList →
        (list (x :: others)).resolveSegments p = x.resolveSegments p) ∧
      (list []).resolveSegments p = null ∧
      (∀ inner others : List Value, (list (list inner :: others)).resolveSegments p = null) ∧
      ∀ v : Value, v.IsScalar → v.resolveSegments p = null) ∧
    (∀ (entries : List (String × Value)) (key : String) (rest : List String),
      (map entries).resolveSegments (key :: rest) =
        ((Members.get? entries key).getD null).resolveSegments rest) ∧
    (∀ (v : Value) (segments : List String), segments ≠ [] →
      (∀ segment ∈ segments, '.' ∉ segment.toList) →
      v.resolve (".".intercalate segments) = v.resolveSegments segments) ∧
    (∀ (v : Value) (p q : List String) (others : List Value), q ≠ [] →
      ¬ (v.resolveSegments p).IsList →
      (v.replaceAt p (list (v.resolveSegments p :: others))).resolveSegments (p ++ q) =
        v.resolveSegments (p ++ q)) ∧
    ∀ (v : Value) (p : List String) (y : Value), Leads p v →
      (v.replaceAt p y).resolveSegments p = y := by
  refine ⟨resolveSegments_append, fun p hp => ⟨?_, ?_, ?_, ?_⟩, ?_, ?_, ?_, ?_⟩
  · exact fun x others hx => resolveSegments_first hx others hp
  · exact resolveSegments_of_find?_none (fun _ => rfl) hp
  · exact fun inner others => resolveSegments_of_find?_none (fun _ => rfl) hp
  · exact fun v hv => resolveSegments_scalar hv hp
  · exact fun entries key rest => resolveSegments_cons (map entries) key rest
  · intro v segments hsegments hdots
    rw [resolve, segments_intercalate hsegments hdots]
  · intro v p q others hq hx
    exact resolveSegments_changeAt (resolveSegments_first hx others hq)
  · exact fun v p y hleads => resolveSegments_replaceAt hleads y

/-- The channel of the first financer of the first contract, also when the
financer stands in a list; not when it stands in a list within a list. -/
theorem resolution_of_channel :
    let financer : Value := .map [("channel", .text "OPCO"), ("name", .text "Atlas")]
    let v : Value := .map [("contracts", .list [.map [("financer", financer)], .null])]
    let wrapped := v.replaceAt ["contracts", "financer"] (.list [financer, .null])
    v.resolve "contracts.financer.channel" = .text "OPCO" ∧
      wrapped = .map [("contracts", .list [.map [("financer", .list [financer, .null])], .null])] ∧
      wrapped.resolveSegments ["contracts", "financer", "channel"] = .text "OPCO" ∧
      wrapped.resolveSegments ["contracts", "financer"] = .list [financer, .null] ∧
      (list [financer]).resolveSegments ["channel"] = .text "OPCO" ∧
      (list [.list [financer]]).resolveSegments ["channel"] = .null ∧
      (text "OPCO").resolveSegments ["length"] = .null := by
  intro financer v wrapped
  obtain ⟨_, hwalks, _, hpath, hwrapped, hplace⟩ := resolution_laws
  obtain ⟨hfirst, _, hnested, hscalar⟩ := hwalks ["channel"] (List.cons_ne_nil _ _)
  refine ⟨?_, rfl, ?_, ?_, ?_, ?_, ?_⟩
  · exact hpath v ["contracts", "financer", "channel"] (List.cons_ne_nil _ _) (by decide)
  · exact hwrapped v ["contracts", "financer"] ["channel"] [.null] (List.cons_ne_nil _ _) id
  · exact hplace v ["contracts", "financer"] _ ⟨_, rfl, _, rfl, trivial⟩
  · exact hfirst financer [] id
  · exact hnested [financer] []
  · exact (hwalks ["length"] (List.cons_ne_nil _ _)).2.2.2 (.text "OPCO") trivial

end DossierCompliance.Value
