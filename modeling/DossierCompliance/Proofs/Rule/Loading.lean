import DossierCompliance.Proofs.Rule.Shape
import DossierCompliance.Proofs.Text.Blank
import DossierCompliance.Rule.File

/-!
What loading accepts. A document is taken exactly when it spells rules that
leave no required text blank and share no id, and the rules are then those it
spells. Of the flaws of a refused document the first is told, in the order of
the rules and of the texts of a rule. A text is taken only where its value is,
and gives the same rules.
-/

namespace DossierCompliance

/-! ### Valid rules -/

/-- No text that a rule has to have is blank. -/
structure Rule.IsFilled (r : Rule) : Prop where
  id : Text.isBlank r.id = false
  message : Text.isBlank r.message = false
  fields : ∀ path ∈ r.condition.fields, Text.isBlank path = false

structure Rule.AreValid (rules : List Rule) : Prop where
  filled : ∀ r ∈ rules, r.IsFilled
  distinct : (rules.map (·.id)).Nodup

/-- What is wrong with a rule that comes after others: the first of its texts
that is blank, or else an id that one of the others has. -/
inductive Rule.FlawedAfter (earlier : List Rule) (r : Rule) : RuleFlaw → Prop where
  | id (h : Text.isBlank r.id = true) : FlawedAfter earlier r (.blank r.id .id)
  | message (hid : Text.isBlank r.id = false) (h : Text.isBlank r.message = true) :
      FlawedAfter earlier r (.blank r.id .message)
  | field (hid : Text.isBlank r.id = false) (hmessage : Text.isBlank r.message = false)
      (h : ∃ path ∈ r.condition.fields, Text.isBlank path = true) :
      FlawedAfter earlier r (.blank r.id .field)
  | repeated (hfilled : r.IsFilled) (h : r.id ∈ earlier.map (·.id)) :
      FlawedAfter earlier r (.duplicateId r.id)

/-- A flaw of a rule before which there is none. -/
def Rule.FirstFlaw (rules : List Rule) (why : RuleFlaw) : Prop :=
  ∃ earlier r later, rules = earlier ++ r :: later ∧ AreValid earlier ∧ r.FlawedAfter earlier why

namespace Rule

theorem blankPart?_eq_none_iff {r : Rule} : r.blankPart? = none ↔ r.IsFilled := by
  rw [blankPart?]
  constructor
  · intro h
    split at h
    · cases h
    · next hid =>
      split at h
      · cases h
      · next hmessage =>
        split at h
        · cases h
        · next hfields =>
          exact ⟨by simpa using hid, by simpa using hmessage, by simpa using hfields⟩
  · intro h
    have hfields : r.condition.fields.any Text.isBlank = false := by simpa using h.fields
    simp [h.id, h.message, hfields]

theorem flawedAfter_of_blankPart? {r : Rule} {part : RequiredText} (earlier : List Rule)
    (h : r.blankPart? = some part) : r.FlawedAfter earlier (.blank r.id part) := by
  rw [blankPart?] at h
  split at h
  · next hid =>
    cases h
    exact .id hid
  · next hid =>
    have hid' : Text.isBlank r.id = false := by simpa using hid
    split at h
    · next hmessage =>
      cases h
      exact .message hid' hmessage
    · next hmessage =>
      split at h
      · next hfields =>
        cases h
        exact .field hid' (by simpa using hmessage) (by simpa using hfields)
      · cases h

theorem areValid_nil : AreValid [] := ⟨by simp, by simp⟩

theorem areValid_concat_iff {earlier : List Rule} {r : Rule} :
    AreValid (earlier ++ [r]) ↔
      AreValid earlier ∧ r.IsFilled ∧ r.id ∉ earlier.map (·.id) := by
  constructor
  · rintro ⟨hfilled, hdistinct⟩
    simp only [List.map_append, List.map_cons, List.map_nil] at hdistinct
    rw [List.nodup_append_comm, List.singleton_append, List.nodup_cons] at hdistinct
    exact ⟨⟨fun s hs => hfilled s (List.mem_append_left _ hs), hdistinct.2⟩,
      hfilled r (by simp), hdistinct.1⟩
  · rintro ⟨⟨hfilled, hdistinct⟩, hr, hnew⟩
    refine ⟨?_, ?_⟩
    · simpa [or_imp, forall_and] using ⟨hfilled, hr⟩
    · rw [List.map_append, List.map_singleton, List.nodup_append_comm, List.singleton_append]
      exact List.nodup_cons.mpr ⟨hnew, hdistinct⟩

/-- A rule passes after others, or else something is wrong with it. -/
theorem filled_or_flawedAfter (earlier : List Rule) (r : Rule) :
    r.IsFilled ∧ r.id ∉ earlier.map (·.id) ∨ ∃ why, r.FlawedAfter earlier why := by
  cases hpart : r.blankPart? with
  | some part => exact .inr ⟨_, flawedAfter_of_blankPart? earlier hpart⟩
  | none =>
    have hfilled := blankPart?_eq_none_iff.mp hpart
    by_cases hid : r.id ∈ earlier.map (·.id)
    · exact .inr ⟨_, .repeated hfilled hid⟩
    · exact .inl ⟨hfilled, hid⟩

theorem areValid_or_firstFlaw (rules : List Rule) :
    AreValid rules ∨ ∃ why, FirstFlaw rules why := by
  induction rules using List.reverseRecOn with
  | nil => exact .inl areValid_nil
  | append_singleton earlier r ih =>
    rcases ih with hearlier | ⟨why, before, s, after, rfl, hbefore, hflawed⟩
    · rcases filled_or_flawedAfter earlier r with ⟨hfilled, hnew⟩ | ⟨why, hflawed⟩
      · exact .inl (areValid_concat_iff.mpr ⟨hearlier, hfilled, hnew⟩)
      · exact .inr ⟨why, earlier, r, [], rfl, hearlier, hflawed⟩
    · exact .inr ⟨why, before, s, after ++ [r], by simp, hbefore, hflawed⟩

/-! ### The check of all rules -/

/-- The ids that the check keeps when it has passed some rules. -/
def keptIds (earlier : List Rule) : List String :=
  (earlier.map (·.id)).reverse

theorem mem_keptIds {earlier : List Rule} {id : String} :
    id ∈ keptIds earlier ↔ id ∈ earlier.map (·.id) :=
  List.mem_reverse

theorem firstFlaw?_cons {earlier rest : List Rule} {r : Rule} (hfilled : r.IsFilled)
    (hnew : r.id ∉ earlier.map (·.id)) :
    firstFlaw? (keptIds earlier) (r :: rest) = firstFlaw? (keptIds (earlier ++ [r])) rest := by
  have hkept : keptIds (earlier ++ [r]) = r.id :: keptIds earlier := by simp [keptIds]
  have hunseen : ¬ (keptIds earlier).contains r.id = true := by
    rw [List.contains_iff_mem, mem_keptIds]
    exact hnew
  rw [firstFlaw?, blankPart?_eq_none_iff.mpr hfilled, hkept]
  exact if_neg hunseen

theorem FlawedAfter.firstFlaw?_cons {earlier rest : List Rule} {r : Rule} {why : RuleFlaw}
    (h : r.FlawedAfter earlier why) : firstFlaw? (keptIds earlier) (r :: rest) = some why := by
  rw [firstFlaw?]
  cases h with
  | id hid => simp [blankPart?, hid]
  | message hid hmessage => simp [blankPart?, hid, hmessage]
  | field hid hmessage hfields =>
    have hany : r.condition.fields.any Text.isBlank = true := by simpa using hfields
    simp [blankPart?, hid, hmessage, hany]
  | repeated hfilled hid =>
    have hseen : (keptIds earlier).contains r.id = true :=
      List.contains_iff_mem.mpr (mem_keptIds.mpr hid)
    rw [blankPart?_eq_none_iff.mpr hfilled]
    exact if_pos hseen

/-- Valid rules are passed. -/
theorem firstFlaw?_append (earlier : List Rule) {more : List Rule} (rest : List Rule)
    (h : AreValid (earlier ++ more)) :
    firstFlaw? (keptIds earlier) (more ++ rest) = firstFlaw? (keptIds (earlier ++ more)) rest := by
  induction more generalizing earlier with
  | nil => rw [List.append_nil, List.nil_append]
  | cons r more ih =>
    -- `r` passes and joins the rules whose ids are kept for the rest.
    rw [List.append_cons] at h ⊢
    have hnext : AreValid (earlier ++ [r]) :=
      ⟨fun s hs => h.filled s (List.mem_append_left _ hs),
        h.distinct.sublist ((List.sublist_append_left _ more).map _)⟩
    obtain ⟨-, hfilled, hnew⟩ := areValid_concat_iff.mp hnext
    rw [List.cons_append, Rule.firstFlaw?_cons hfilled hnew]
    exact ih _ h

theorem firstFlaw?_of_areValid {rules : List Rule} (h : AreValid rules) :
    firstFlaw? [] rules = none := by
  have hpassed := firstFlaw?_append [] [] h
  rwa [List.append_nil] at hpassed

theorem firstFlaw?_of_firstFlaw {rules : List Rule} {why : RuleFlaw} (h : FirstFlaw rules why) :
    firstFlaw? [] rules = some why := by
  obtain ⟨earlier, r, later, rfl, hearlier, hflawed⟩ := h
  exact (firstFlaw?_append [] (r :: later) hearlier).trans hflawed.firstFlaw?_cons

theorem firstFlaw?_eq_none_iff {rules : List Rule} :
    firstFlaw? [] rules = none ↔ AreValid rules := by
  refine ⟨fun h => ?_, firstFlaw?_of_areValid⟩
  rcases areValid_or_firstFlaw rules with hvalid | ⟨why, hflaw⟩
  · exact hvalid
  · rw [firstFlaw?_of_firstFlaw hflaw] at h
    cases h

theorem firstFlaw?_eq_some_iff {rules : List Rule} {why : RuleFlaw} :
    firstFlaw? [] rules = some why ↔ FirstFlaw rules why := by
  refine ⟨fun h => ?_, firstFlaw?_of_firstFlaw⟩
  rcases areValid_or_firstFlaw rules with hvalid | ⟨other, hflaw⟩
  · rw [firstFlaw?_of_areValid hvalid] at h
    cases h
  · obtain rfl := Option.some.inj ((firstFlaw?_of_firstFlaw hflaw).symm.trans h)
    exact hflaw

end Rule

/-! ### Checked documents -/

namespace RuleDocument

theorem checked_eq_ok_iff {d e : RuleDocument} :
    d.checked = .ok e ↔ d = e ∧ Rule.AreValid d.rules := by
  rw [checked, ← Rule.firstFlaw?_eq_none_iff]
  cases Rule.firstFlaw? [] d.rules <;> simp

theorem checked_eq_error_iff {d : RuleDocument} {why : LoadError} :
    d.checked = .error why ↔ ∃ flaw, why = .flaw flaw ∧ Rule.FirstFlaw d.rules flaw := by
  rw [checked]
  simp only [← Rule.firstFlaw?_eq_some_iff]
  cases Rule.firstFlaw? [] d.rules <;> simp [eq_comm]

/-! ### Values -/

theorem decodeValue_eq_ok_iff {j : Json} (hj : j.Normal) {d : RuleDocument} :
    Json.decodeValue decode j = .ok d ↔ d.Spelled j :=
  Json.decodeValue_eq_ok_iff reads_decode hj

/-- A value spells one document at most. -/
theorem Spelled.unique {j : Json} (hj : j.Normal) {d e : RuleDocument} (hd : Spelled j d)
    (he : Spelled j e) : d = e := by
  rw [← decodeValue_eq_ok_iff hj] at hd he
  exact Except.ok.inj (hd.symm.trans he)

/-- A value that spells a document is checked as the document is. -/
theorem ofJson_of_spelled {j : Json} (hj : j.Normal) {d : RuleDocument} (hd : Spelled j d) :
    ofJson j = d.checked := by
  rw [ofJson, (decodeValue_eq_ok_iff hj).mpr hd]
  rfl

theorem ofJson_of_not_spelled {j : Json} (hj : j.Normal) (h : ¬ ∃ d, Spelled j d) :
    ∃ why, ofJson j = .error (.json why) := by
  rw [ofJson]
  cases hread : Json.decodeValue decode j with
  | ok d => exact absurd ⟨d, (decodeValue_eq_ok_iff hj).mp hread⟩ h
  | error why => exact ⟨why, rfl⟩

/-- A value is taken exactly when it spells a document of valid rules, and gives
that document. One that spells another document is refused for the first flaw of
its rules, and any other value for its shape. -/
theorem ofJson_spec {j : Json} (hj : j.Normal) :
    (∀ d, ofJson j = .ok d ↔ Spelled j d ∧ Rule.AreValid d.rules) ∧
    (∀ d, Spelled j d → ¬ Rule.AreValid d.rules → ∃ why, ofJson j = .error (.flaw why)) ∧
    (∀ d why, Spelled j d → (ofJson j = .error (.flaw why) ↔ Rule.FirstFlaw d.rules why)) ∧
    ((∃ why, ofJson j = .error (.json why)) ↔ ¬ ∃ d, Spelled j d) := by
  refine ⟨fun d => ⟨fun h => ?_, fun h => ?_⟩, fun d hd hinvalid => ?_, fun d why hd => ?_,
    ?_, ofJson_of_not_spelled hj⟩
  · by_cases hspelled : ∃ e, Spelled j e
    · obtain ⟨e, he⟩ := hspelled
      rw [ofJson_of_spelled hj he] at h
      obtain ⟨rfl, hvalid⟩ := checked_eq_ok_iff.mp h
      exact ⟨he, hvalid⟩
    · obtain ⟨why, hwhy⟩ := ofJson_of_not_spelled hj hspelled
      rw [hwhy] at h
      cases h
  · rw [ofJson_of_spelled hj h.1]
    exact checked_eq_ok_iff.mpr ⟨rfl, h.2⟩
  · rcases Rule.areValid_or_firstFlaw d.rules with hvalid | ⟨why, hwhy⟩
    · exact absurd hvalid hinvalid
    · rw [ofJson_of_spelled hj hd]
      exact ⟨why, checked_eq_error_iff.mpr ⟨why, rfl, hwhy⟩⟩
  · rw [ofJson_of_spelled hj hd, checked_eq_error_iff]
    simp
  · rintro ⟨why, hwhy⟩ ⟨d, hd⟩
    rw [ofJson_of_spelled hj hd] at hwhy
    obtain ⟨flaw, habsurd, _⟩ := checked_eq_error_iff.mp hwhy
    cases habsurd

/-- The second of two rules that are alike repeats the id of the first. -/
theorem ofJson_twice :
    let rule : Rule := ⟨"SESSION", "", ⟨.enrolled⟩, .blocking, "There is no session.",
      .single ⟨"session", .equals, none⟩⟩
    let twice : RuleDocument := ⟨some "1", [rule, rule]⟩
    twice.toJson.Normal ∧ ofJson twice.toJson = .error (.flaw (.duplicateId "SESSION")) := by
  intro rule twice
  have hnormal : twice.toJson.Normal := Json.normal_sorted _
  have hspelled : Spelled twice.toJson twice := (decodeValue_eq_ok_iff hnormal).mp (by cbv)
  have hfilled : rule.IsFilled := ⟨by decide, by decide, by decide⟩
  have hflaw : Rule.FirstFlaw twice.rules (.duplicateId "SESSION") :=
    ⟨[rule], rule, [], rfl, ⟨by simpa using hfilled, by simp⟩, .repeated hfilled (by simp)⟩
  exact ⟨hnormal, ((ofJson_spec hnormal).2.2.1 twice _ hspelled).mpr hflaw⟩

/-! ### Texts -/

theorem ofJsonText_of_decodeText {text : String} {d : RuleDocument}
    (h : Json.decodeText decode text = .ok d) : ofJsonText text = d.checked := by
  rw [ofJsonText, h]
  rfl

/-- A text that is taken holds a value that is taken as the same document. -/
theorem exists_parse_of_ofJsonText {text : String} {d : RuleDocument}
    (h : ofJsonText text = .ok d) : ∃ j, Json.parse text = .ok j ∧ ofJson j = .ok d := by
  cases hread : Json.decodeText decode text with
  | error why =>
    rw [ofJsonText, hread] at h
    cases h
  | ok e =>
    rw [ofJsonText_of_decodeText hread] at h
    obtain ⟨j, hparse, hnormal, hspelled⟩ := Json.exists_parse_of_decodeText reads_decode hread
    exact ⟨j, hparse, (ofJson_of_spelled hnormal hspelled).trans h⟩

/-- In the nested record the operand comes first, and a key of the operand twice. -/
theorem parse_shuffled :
    let text := "\x7b\"rules\":[[\"A\",\"\",\"TO_DRAFT\",\"WARNING\",\"m\",\x7b\"value\":\x7b" ++
      "\"a\":true,\"a\":null\x7d,\"operator\":\"EQUALS\",\"field\":\"f\"\x7d]]\x7d"
    let d : RuleDocument := ⟨none, [⟨"A", "", ⟨.draft⟩, .warning, "m",
      .single ⟨"f", .equals, some (.map [("a", .null)])⟩⟩]⟩
    ofJsonText text = .ok d ∧ ∃ j, Json.parse text = .ok j ∧ ofJson j = .ok d := by
  intro text d
  have htaken : ofJsonText text = .ok d := by
    dsimp only [text, d]
    cbv
  exact ⟨htaken, exists_parse_of_ofJsonText htaken⟩

/-! ### Loaded documents -/

/-- A document out of one of the loaders. -/
inductive IsLoaded : RuleDocument → Prop where
  | value {j : Json} {d : RuleDocument} (h : ofJson j = .ok d) : IsLoaded d
  | jsonText {text : String} {d : RuleDocument} (h : ofJsonText text = .ok d) : IsLoaded d
  | yamlText {text : String} {d : RuleDocument} (h : ofYamlText text = .ok d) : IsLoaded d
  | file {files : Files} {path : String} {d : RuleDocument} (h : load files path = .ok d) :
      IsLoaded d

variable {d : RuleDocument}

theorem areValid_of_ofJson {j : Json} (h : ofJson j = .ok d) : Rule.AreValid d.rules := by
  obtain ⟨e, -, hchecked⟩ := Json.bind_eq_ok h
  obtain ⟨rfl, hvalid⟩ := checked_eq_ok_iff.mp hchecked
  exact hvalid

theorem areValid_of_ofJsonText {text : String} (h : ofJsonText text = .ok d) :
    Rule.AreValid d.rules := by
  obtain ⟨j, -, hj⟩ := exists_parse_of_ofJsonText h
  exact areValid_of_ofJson hj

theorem areValid_of_ofYamlText {text : String} (h : ofYamlText text = .ok d) :
    Rule.AreValid d.rules := by
  rw [ofYamlText] at h
  split at h
  · obtain ⟨rfl, hvalid⟩ := checked_eq_ok_iff.mp h
    exact hvalid
  · cases h

theorem areValid_of_ofNotation {kind : RuleNotation} {text : String}
    (h : ofNotation kind text = .ok d) : Rule.AreValid d.rules := by
  cases kind with
  | json => exact areValid_of_ofJsonText h
  | yaml => exact areValid_of_ofYamlText h

/-- A file is loaded through one of the notations of texts. -/
theorem exists_ofNotation_of_load {files : Files} {path : String} (h : load files path = .ok d) :
    ∃ kind text, ofNotation kind text = .ok d := by
  rw [load] at h
  split at h
  · cases h
  · dsimp only at h
    split at h
    · next kind _ =>
      obtain ⟨text, -, hread⟩ := Json.bind_eq_ok h
      cases hgiven : ofNotation kind text with
      | ok e =>
        rw [hgiven] at hread
        obtain rfl := Except.ok.inj hread
        exact ⟨kind, text, hgiven⟩
      | error why =>
        rw [hgiven] at hread
        cases why <;> cases hread
    · cases h

theorem IsLoaded.areValid (h : IsLoaded d) : Rule.AreValid d.rules := by
  cases h with
  | value h => exact areValid_of_ofJson h
  | jsonText h => exact areValid_of_ofJsonText h
  | yamlText h => exact areValid_of_ofYamlText h
  | file h =>
    obtain ⟨kind, text, h⟩ := exists_ofNotation_of_load h
    exact areValid_of_ofNotation h

end RuleDocument

end DossierCompliance
