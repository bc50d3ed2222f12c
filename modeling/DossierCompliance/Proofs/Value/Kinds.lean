import DossierCompliance.Value

/-!
Values without a mark of their kind. Of a value in JSON one kind takes each part
and none before it does, so a value is read in every case, and as what it is
converted to.
-/

namespace DossierCompliance.Value

/-- Items and entries count only where the value is a list or a map. -/
theorem firstKind?_eq {j : Json} {asList asMap : Option Value}
    (hlist : ∀ items, j = .array items → asList = some (ofJson j))
    (hmap : ∀ members, j = .object members → asList = none ∧ asMap = some (ofJson j)) :
    firstKind? j asList asMap = some (ofJson j) := by
  cases j with
  | null | bool _ | number _ | string _ => rfl
  | array items =>
    rw [hlist items rfl]
    rfl
  | object members =>
    obtain ⟨hnone, hsome⟩ := hmap members rfl
    rw [hnone, hsome]
    rfl

mutual

theorem ofAnyKind?_eq : ∀ j : Json, ofAnyKind? j = some (ofJson j)
  | .null | .bool _ | .number _ | .string _ => rfl
  | .array items => by
    refine firstKind?_eq (fun _ _ => ?_) (fun _ h => by cases h)
    rw [listOf?, itemsOf?_eq items]
    rfl
  | .object members => by
    refine firstKind?_eq (fun _ h => by cases h) (fun _ _ => ⟨rfl, ?_⟩)
    rw [mapOf?, entriesOf?_eq members]
    rfl

theorem itemsOf?_eq : ∀ items : List Json, itemsOf? items = some (ofItems items)
  | [] => rfl
  | item :: rest => by
    have hitem := ofAnyKind?_eq item
    rw [ofAnyKind?] at hitem
    rw [itemsOf?, hitem, itemsOf?_eq rest]
    rfl

theorem entriesOf?_eq : ∀ members : List (String × Json),
    entriesOf? members = some (ofMembers members)
  | [] => rfl
  | (_, item) :: rest => by
    have hitem := ofAnyKind?_eq item
    rw [ofAnyKind?] at hitem
    rw [entriesOf?, hitem, entriesOf?_eq rest]
    rfl

end

/-- What is read is converted, kind by kind. -/
theorem decode_eq : decode = fun r => return ofJson (← Json.Decoder.value r) := by
  funext r
  unfold decode
  cases Json.Decoder.value r with
  | error why => rfl
  | ok j =>
    dsimp only [bind, Except.bind]
    rw [ofAnyKind?_eq]

end DossierCompliance.Value
