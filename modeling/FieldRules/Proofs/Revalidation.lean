import FieldRules.Proofs.RuleAgain

namespace FieldRules

theorem Document.get?_ofMembers (name : String) (members : List (String × Json)) :
    Entries.get? name (Value.ofMembers members) = (Entries.get? name members).map Value.ofJson := by
  rw [Value.ofMembers_eq, Entries.get?_map]

theorem Document.get?_written (name : String) (values : Document) :
    Entries.get? name (Value.ofMembers (Value.toMembers values)) =
      (values.get? name).map fun v => Value.ofJson v.toJson := by
  rw [get?_ofMembers, Value.toMembers_eq, Entries.get?_map, Option.map_map]
  rfl

theorem exists_head_of_verb {rule name : String}
    (h : (scan rule).head?.map Call.verb = some name) :
    ∃ head rest, scan rule = head :: rest ∧ head.verb = name := by
  obtain ⟨head, hhead, hname⟩ := Option.map_eq_some_iff.mp h
  obtain ⟨rest, hscan⟩ := List.head?_eq_some_iff.mp hhead
  exact ⟨head, rest, hscan, hname⟩

theorem Json.Plain.of_get? {depth : Nat} {members : List (String × Json)}
    (h : Json.Plain (depth + 2) (.object members)) (name : String) :
    ∀ i ∈ Entries.get? name members, Json.Plain (depth + 1) i := by
  intro i hi
  cases h with
  | object _ hmembers => exact hmembers (name, i) (Entries.mem_of_get? hi)

namespace Validator

theorem validate_of_read (v : Validator) (now : Instant) {text : String} (rules : List String)
    {members : List (String × Json)} (hread : Json.read text = .ok (.object members)) :
    v.validate now text rules =
      (v.validateDocument now (Value.ofMembers members) rules).mapError .failed := by
  have hdocument : readDocument text = .ok (Value.ofMembers members) := by
    simp [readDocument, hread, Document.ofJson?]
  simp only [validate, hdocument]

theorem validate_eq_ok_iff (v : Validator) {now : Instant} {text : String} {rules : List String}
    {members : List (String × Json)} {values : Document}
    (hread : Json.read text = .ok (.object members)) :
    v.validate now text rules = .ok values ↔
      v.validateDocument now (Value.ofMembers members) rules = .ok values := by
  rw [v.validate_of_read now rules hread]
  cases v.validateDocument now (Value.ofMembers members) rules <;> simp [Except.mapError]

theorem ends_of_isSelfContained {catalog : Catalog} {now : Instant} {d : Document}
    {rules : List String} (hself : ∀ rule ∈ rules, isSelfContained rule = true) :
    ({ catalog } : Validator).ends now d rules = true :=
  (ends_iff _ now d rules).mpr fun rule hrule => Registry.outcome_ne_endless (hself rule hrule)

section Written

variable {catalog : Catalog} {now : Instant} {members : List (String × Json)} {rules : List String}
  {values : Document} {depth : Nat} (hmembers : Json.Plain (depth + 2) (.object members))
  (hself : ∀ rule ∈ rules, isSelfContained rule = true)
  (hnames : (rules.filterMap fun rule => (scan rule).head?.map Call.verb).Nodup)
  (hok : ({ catalog } : Validator).validateDocument now (Value.ofMembers members) rules =
    .ok values)
include hmembers hself hnames hok

/-- The values of a run that has passed are written as a document that is read back. -/
theorem plain_values : Json.Plain (depth + 2) (Document.toJson values) := by
  obtain ⟨-, hsorted, hvalues⟩ :=
    (validateDocument_eq_ok_iff Registry.standard_keeps_name hnames
      (ends_of_isSelfContained hself)).mp hok
  rw [Document.toJson, Value.toMembers_eq]
  refine .object (List.pairwise_map.mpr hsorted) fun m hm => ?_
  obtain ⟨⟨name, x⟩, hx, rfl⟩ := List.mem_map.mp hm
  obtain ⟨rule, hrule, hverb, houtcome⟩ := (hvalues name x).mp (Entries.get?_of_mem hsorted hx)
  obtain ⟨head, rest, hscan, rfl⟩ := exists_head_of_verb hverb
  exact Registry.plain_of_outcome hscan (hself rule hrule) (hmembers.of_get? head.verb)
    (Document.get?_ofMembers head.verb members) houtcome

/-- What a rule comes to on the written values, by the value that it came to. -/
theorem outcome_written_iff (hnow : now.IsProper) {rule : String} (hrule : rule ∈ rules)
    {head : Call} {rest : List Call} {x : Value} (hscan : scan rule = head :: rest)
    (hx : Registry.standard.outcome now (Value.ofMembers members) rule = some (.ok x)) :
    Registry.standard.outcome now (Value.ofMembers (Value.toMembers values)) rule =
        some (.ok x) ↔
      x.HasPlainYear ∧ ¬(requiresImage rule head.verb = true ∧
        Entries.get? head.verb members = some (.text "data:")) := by
  obtain ⟨-, -, hvalues⟩ := (validateDocument_eq_ok_iff Registry.standard_keeps_name hnames
    (ends_of_isSelfContained hself)).mp hok
  have hvalue : values.get? head.verb = some x :=
    (hvalues head.verb x).mpr ⟨rule, hrule, by simp [hscan], hx⟩
  have hwritten : Entries.get? head.verb (Value.ofMembers (Value.toMembers values)) =
      some (Value.ofJson x.toJson) := by
    rw [Document.get?_written, hvalue]
    rfl
  exact Registry.outcome_again_iff hnow hscan (hself rule hrule)
    (fun i hi => (hmembers.of_get? head.verb i hi).numberless)
    (Document.get?_ofMembers head.verb members) hwritten hx

end Written

end Validator

/-- Validating the written values again with the same rules and the same clock gives the same
values, for a document without numbers and rules of no number that look at one field each, except
that an instant with a signed year is refused and that an image given as `data:` alone, which is
written as an empty text, is not there for `required`. -/
theorem revalidate_iff (catalog : Catalog) {now : Instant} (hnow : now.IsProper) {text : String}
    {members : List (String × Json)} {rules : List String} {values : Document}
    (hread : Json.read text = .ok (.object members)) (hmembers : (Json.object members).Numberless)
    (hself : ∀ rule ∈ rules, isSelfContained rule = true)
    (hnames : (rules.filterMap fun rule => (scan rule).head?.map Call.verb).Nodup)
    (hok : ({ catalog } : Validator).validate now text rules = .ok values) :
    ({ catalog } : Validator).validate now (Document.toJson values).write rules = .ok values ↔
      (∀ name t, values.get? name = some (.timestamp t) →
        0 ≤ t.date.year ∧ t.date.year ≤ 9999) ∧
      ∀ rule ∈ rules, ∀ name, requiresImage rule name = true →
        Entries.get? name members ≠ some (.text "data:") := by
  have hplain : Json.Plain Json.depthLimit (.object members) := Json.plain_of_read hread hmembers
  rw [Validator.validate_eq_ok_iff _ hread] at hok
  have hwritten : Json.read (Document.toJson values).write =
      .ok (.object (Value.toMembers values)) :=
    Json.read_write (Validator.plain_values hplain hself hnames hok)
  have hagain {rule : String} (hrule : rule ∈ rules) {head : Call} {rest : List Call} {x : Value} :=
    @Validator.outcome_written_iff catalog now members rules values _ hplain hself hnames hok hnow
      rule hrule head rest x
  have hends : ({ catalog } : Validator).ends now (Value.ofMembers members) rules = true :=
    Validator.ends_of_isSelfContained hself
  obtain ⟨hpass, -, hvalues⟩ :=
    (Validator.validateDocument_eq_ok_iff Registry.standard_keeps_name hnames hends).mp hok
  rw [Validator.validate_eq_ok_iff _ hwritten, Validator.validateDocument_again_iff
    Registry.standard_keeps_name hnames hends (Validator.ends_of_isSelfContained hself) hok]
  constructor
  · intro hsame
    constructor
    · intro name t ht
      obtain ⟨rule, hrule, hverb, hx⟩ := (hvalues name _).mp ht
      obtain ⟨head, rest, hscan, rfl⟩ := exists_head_of_verb hverb
      exact ((hagain hrule hscan hx).mp ((hsame rule hrule).trans hx)).1 t rfl
    · intro rule hrule name hrequires hbare
      cases hscan : scan rule with
      | nil => simp [requiresImage, hscan] at hrequires
      | cons head rest =>
        obtain ⟨rfl, -⟩ := (requiresImage_iff hscan).mp hrequires
        obtain ⟨x, hx⟩ := Validator.exists_value_of_passed hends hrule hscan (hpass rule hrule)
        exact ((hagain hrule hscan hx).mp ((hsame rule hrule).trans hx)).2 ⟨hrequires, hbare⟩
  · rintro ⟨hyears, himages⟩ rule hrule
    cases hscan : scan rule with
    | nil => rw [Registry.outcome_of_scan_nil _ _ _ hscan, Registry.outcome_of_scan_nil _ _ _ hscan]
    | cons head rest =>
      obtain ⟨x, hx⟩ := Validator.exists_value_of_passed hends hrule hscan (hpass rule hrule)
      have hvalue : values.get? head.verb = some x :=
        (hvalues head.verb x).mpr ⟨rule, hrule, by simp [hscan], hx⟩
      have hyear : x.HasPlainYear := fun t ht => hyears head.verb t (ht ▸ hvalue)
      have hfilled : ¬(requiresImage rule head.verb = true ∧
          Entries.get? head.verb members = some (.text "data:")) := by
        rintro ⟨hrequires, hbare⟩
        exact himages rule hrule head.verb hrequires hbare
      exact ((hagain hrule hscan hx).mpr ⟨hyear, hfilled⟩).trans hx.symm

/-- The bytes of an image, the start of a day, and a field that is not there. -/
theorem revalidate_iff_of_image_and_day :
    let now : Instant := ⟨2000000000, 0⟩
    let text := "\x7b\"i\":\"data:eA==\",\"t\":\"today\"\x7d"
    let rules := ["i image required", "t date before(now)", "s string nullable min(2)"]
    let values : Document :=
      [("i", .bytes [120] none), ("s", .null), ("t", .timestamp ⟨1999987200, 0⟩)]
    ({} : Validator).validate now text rules = .ok values ∧
      ({} : Validator).validate now (Document.toJson values).write rules = .ok values := by
  intro now text rules values
  have hnow : now.IsProper := ⟨by decide, by decide⟩
  have hplain : Json.Plain Json.depthLimit
      (.object [("i", .text "data:eA=="), ("t", .text "today")]) :=
    Json.plain_texts (by decide : [("i", "data:eA=="), ("t", "today")].Pairwise _)
  have hread : Json.read text = .ok (.object [("i", .text "data:eA=="), ("t", .text "today")]) :=
    Json.read_of_write hplain rfl
  have hself : ∀ rule ∈ rules, isSelfContained rule = true := by decide
  have hnames : (rules.filterMap fun rule => (scan rule).head?.map Call.verb).Nodup := by decide
  have hrun : ({} : Validator).validateDocument ⟨2000000000, 0⟩
      [("i", .text "data:eA=="), ("t", .text "today")]
      ["i image required", "t date before(now)", "s string nullable min(2)"] =
      .ok [("i", .bytes [120] none), ("s", .null), ("t", .timestamp ⟨1999987200, 0⟩)] := by
    with_unfolding_all rfl
  have hok : ({} : Validator).validate now text rules = .ok values :=
    (Validator.validate_eq_ok_iff _ hread).mpr hrun
  refine ⟨hok, (revalidate_iff .builtin hnow hread hplain.numberless hself hnames hok).mpr ⟨?_, ?_⟩⟩
  · intro name t ht
    have hmem := Entries.mem_of_get? ht
    have ht' : name = "t" ∧ t = ⟨1999987200, 0⟩ := by simpa [values] using hmem
    rw [ht'.2]
    decide
  · intro rule _ name _ hbare
    have hmem := Entries.mem_of_get? hbare
    simp at hmem

/-- An image given as `data:` alone has no bytes, so it is written as an empty text, and that is a
field that is not there. -/
theorem revalidate_bare_image :
    let text := "\x7b\"a\":\"data:\"\x7d"
    let rules := ["a image required"]
    let values : Document := [("a", .bytes [] none)]
    Json.read text = .ok (.object [("a", .text "data:")]) ∧
      (∀ rule ∈ rules, isSelfContained rule = true) ∧
      ({} : Validator).validate ⟨0, 0⟩ text rules = .ok values ∧
      (Document.toJson values).write = "\x7b\"a\":\"\"\x7d" ∧
      ({} : Validator).validate ⟨0, 0⟩ (Document.toJson values).write rules =
        .error (.failed [("a", (Failure.ofField "required" "a").render .builtin)]) := by
  intro text rules values
  have hplain (s : String) : Json.Plain Json.depthLimit (.object [("a", .text s)]) :=
    Json.plain_texts (List.pairwise_singleton _ ("a", s))
  have hread : Json.read text = .ok (.object [("a", .text "data:")]) :=
    Json.read_of_write (hplain _) rfl
  have hwrite : (Document.toJson values).write = "\x7b\"a\":\"\"\x7d" := rfl
  have hagain : Json.read "\x7b\"a\":\"\"\x7d" = .ok (.object [("a", .text "")]) :=
    Json.read_of_write (hplain _) hwrite
  have hrun : Registry.standard.runRule ⟨0, 0⟩ (Value.ofMembers [("a", .text "")])
      "a image required" = some ⟨"a", .image, some (.bytes [] none), false, "required", [], none,
        some (.ofField "required" "a"), false⟩ := rfl
  refine ⟨hread, by decide, (Validator.validate_eq_ok_iff _ hread).mpr rfl, hwrite, ?_⟩
  rw [hwrite, Validator.validate_of_read _ _ _ hagain, Validator.validateDocument_single]
  simp only [hrun]
  rfl

end FieldRules
