import DossierCompliance.Proofs.Json.Readings
import DossierCompliance.Proofs.Value.Writing

/-!
The views of a snapshot value in JSON. A value is read kind by kind and written
part by part, or converted as a whole in either direction. Both ways agree on
every value: on what is read, and on the tree and the characters that are
written. What is converted there and back equals what it was if its numbers are
finite.
-/

namespace DossierCompliance

namespace Json.Sink

/-- The parts behind the first one, each behind a comma, and the closing bracket. -/
def behind (closing : Char) (parts : List (List Char)) : List Char :=
  parts.flatMap (',' :: ·) ++ [closing]

theorem bracketed_cons (opening closing : Char) (part : List Char) (parts : List (List Char)) :
    bracketed opening closing (part :: parts) = opening :: part ++ behind closing parts := by
  induction parts generalizing part with
  | nil => simp [bracketed, behind, List.intercalate]
  | cons next parts ih =>
    have hrest := ih next
    simp only [bracketed, behind, List.intercalate, List.cons_append, List.cons.injEq,
      true_and] at hrest ⊢
    simp [hrest]

theorem itemChars_eq (items : List Json) :
    itemChars items = behind ']' (items.map chars) := by
  induction items with
  | nil => rfl
  | cons item items ih => simp [itemChars, ih, behind]

theorem memberChars_eq (members : List (String × Json)) :
    memberChars members =
      behind closeBrace (members.map fun m => stringChars m.1 ++ ':' :: m.2.chars) := by
  induction members with
  | nil => rfl
  | cons member members ih =>
    obtain ⟨key, value⟩ := member
    simp [memberChars, ih, behind]

theorem array_text (items : List Json) :
    text.array (items.map chars) = chars (.array items) := by
  cases items with
  | nil => rfl
  | cons item items =>
    rw [chars, itemChars_eq]
    exact bracketed_cons _ _ _ _

theorem object_text (members : List (String × Json)) :
    text.object (members.map fun m => (m.1, m.2.chars)) = chars (.object members) := by
  cases members with
  | nil => rfl
  | cons member members =>
    obtain ⟨key, value⟩ := member
    have hparts := bracketed_cons openBrace closeBrace (stringChars key ++ ':' :: value.chars)
      (members.map fun m => stringChars m.1 ++ ':' :: m.2.chars)
    rw [chars, memberChars_eq]
    exact (congrArg (bracketed openBrace closeBrace) List.map_map).trans hparts

end Json.Sink

namespace Value

open Json (Sink)

/-! ### Numbers -/

/-- Whole numbers beyond the exact ones are converted as all other finite ones. -/
theorem numberJson_eq (x : Float) :
    numberJson x = match exactWhole? x with
      | some n => .number (.whole n)
      | none => Json.ofReal x := by
  unfold numberJson exactWhole?
  cases hwhole : Decimal.whole? x with
  | none => rfl
  | some n =>
    have hfinite := Decimal.isFinite_of_whole? hwhole
    dsimp only
    rw [Option.filter_some]
    by_cases hsmall : n.natAbs ≤ largestExact <;> simp [hsmall, Json.ofReal, hfinite]

theorem writeNumber_tree (x : Float) : writeNumber .tree x = numberJson x := by
  rw [numberJson_eq, writeNumber]
  cases exactWhole? x with
  | some n => rfl
  | none => cases hfinite : x.isFinite <;> simp [Sink.tree, Json.ofReal, hfinite]

theorem writeNumber_text (x : Float) : writeNumber .text x = (numberJson x).chars := by
  rw [numberJson_eq, writeNumber]
  cases exactWhole? x with
  | some n => rfl
  | none => cases hfinite : x.isFinite <;> simp [Sink.text, Json.ofReal, hfinite] <;> rfl

/-! ### Whole values -/

mutual

/-- A value of ascending keys is written into a tree as it is converted. -/
theorem writeTo_tree : ∀ {v : Value}, v.Ordered → v.writeTo .tree = v.toJson
  | .null, _ | .bool _, _ | .text _, _ => rfl
  | .number x, _ => writeNumber_tree x
  | .list _, h => congrArg Json.array (writeItems_tree h)
  | .map entries, h => by
    have hkeys : Members.Ascending (entriesJson entries) := by
      rw [Members.Ascending, keys_entriesJson]
      exact h.1
    rw [writeTo, writeEntries_tree h.2, toJson]
    exact congrArg Json.object (Members.sorted_eq_self hkeys)

theorem writeItems_tree : ∀ {items : List Value}, OrderedItems items →
    writeItems .tree items = itemsJson items
  | [], _ => rfl
  | _ :: _, h => congrArg₂ List.cons (writeTo_tree h.1) (writeItems_tree h.2)

theorem writeEntries_tree : ∀ {entries : List (String × Value)}, OrderedEntries entries →
    writeEntries .tree entries = entriesJson entries
  | [], _ => rfl
  | (key, _) :: _, h =>
    congrArg₂ (fun value rest => (key, value) :: rest) (writeTo_tree h.1) (writeEntries_tree h.2)

end

mutual

/-- The characters that are written are those of the value that it is converted to. -/
theorem writeTo_text : ∀ v : Value, v.writeTo .text = v.toJson.chars
  | .null | .text _ => rfl
  | .bool true | .bool false => rfl
  | .number x => writeNumber_text x
  | .list items => by
    rw [writeTo, writeItems_text items, Sink.array_text, toJson]
  | .map entries => by
    rw [writeTo, writeEntries_text entries, Sink.object_text, toJson]

theorem writeItems_text : ∀ items : List Value,
    writeItems .text items = (itemsJson items).map Json.chars
  | [] => rfl
  | item :: rest => congrArg₂ List.cons (writeTo_text item) (writeItems_text rest)

theorem writeEntries_text : ∀ entries : List (String × Value),
    writeEntries .text entries = (entriesJson entries).map fun m => (m.1, m.2.chars)
  | [] => rfl
  | (key, value) :: rest =>
    congrArg₂ (fun cs more => (key, cs) :: more) (writeTo_text value) (writeEntries_text rest)

end

theorem decodeValue_decode {j : Json} (hj : j.Normal) :
    Json.decodeValue decode j = .ok (ofJson j) := by
  have hvalue : Json.Decoder.value j.toReading = .ok j := by
    rw [Json.Decoder.value, Json.toJson_toReading hj]
    rfl
  rw [Json.decodeValue, decode_eq]
  dsimp only
  rw [hvalue]
  rfl

/-- The views agree. A value in JSON is always read, as what it is converted to.
A value is written, into a tree and as characters, as what it is converted to,
whatever its numbers are. And it equals what it is converted to and back from, if
they are finite. -/
theorem views_agree :
    (∀ j : Json, j.Normal → Json.decodeValue decode j = .ok (ofJson j)) ∧
    (∀ v : Value, v.Ordered → v.writeTo .tree = v.toJson ∧ v.render = v.toJson.render) ∧
    (∀ v : Value, v.Ordered → v.AllFinite → (ofJson v.toJson == v) = true) := by
  refine ⟨fun j hj => ?_, fun v hv => ⟨writeTo_tree hv, ?_⟩, fun v hv hfinite => ?_⟩
  · exact decodeValue_decode hj
  · exact congrArg String.ofList (writeTo_text v)
  · exact ofJson_toJson hv hfinite

/-- A number that is none, and a zero with a sign inside a map. -/
theorem views_of_numbers :
    let v (x : Float) : Value := .list [.number x, .map [("n", .number (-0.0))]]
    let j (x : Json) : Json := .array [x, .object [("n", .number (.whole 0))]]
    (v (0.0 / 0.0)).Ordered ∧ (v (0.0 / 0.0)).writeTo .tree = j .null ∧
      (v (0.0 / 0.0)).render = "[null,\x7b\"n\":0\x7d]" ∧
      (v 80).AllFinite ∧ (ofJson (j (.number (.whole 80))) == v 80) = true ∧
      Json.decodeValue decode (j .null) = .ok (ofJson (j .null)) := by
  intro v j
  obtain ⟨hread, hwritten, hback⟩ := views_agree
  have hordered (x : Float) : (v x).Ordered :=
    ⟨trivial, ⟨List.pairwise_singleton _ _, trivial, trivial⟩, trivial⟩
  have hnormal : (j .null).Normal :=
    ⟨trivial, ⟨List.pairwise_singleton _ _, trivial, trivial⟩, trivial⟩
  have hfinite : (v 80).AllFinite :=
    ⟨show (80 : Float).isFinite = true by decide,
      ⟨show (-0.0 : Float).isFinite = true by decide, trivial⟩, trivial⟩
  have hzero : numberJson (-0.0) = .number (.whole 0) := by
    have hwhole : exactWhole? (-0.0) = some 0 := by decide +kernel
    rw [numberJson_eq, hwhole]
  have hnone : numberJson (0.0 / 0.0) = .null := by
    have hreal : exactWhole? (0.0 / 0.0) = none := by decide +kernel
    rw [numberJson_eq, hreal]
    exact if_neg (by decide)
  have hwhole : numberJson 80 = .number (.whole 80) := by
    have hwhole : exactWhole? 80 = some 80 := by decide +kernel
    rw [numberJson_eq, hwhole]
  have hjson (x : Float) : (v x).toJson = j (numberJson x) := by
    simp only [v, j, toJson, itemsJson, entriesJson, hzero]
  obtain ⟨htree, htext⟩ := hwritten _ (hordered (0.0 / 0.0))
  rw [hjson, hnone] at htree htext
  have hequal := hback _ (hordered 80) hfinite
  rw [hjson, hwhole] at hequal
  refine ⟨hordered _, htree, htext.trans ?_, hfinite, hequal, hread _ hnormal⟩
  cbv

end Value

end DossierCompliance
