import FieldRules.Proofs.NumberlessJson
import FieldRules.Proofs.Payload
import FieldRules.Proofs.ReadInstant

namespace FieldRules

namespace Base64

theorem eq_nil_of_decode? {cs : List Char} (h : decode? cs = some []) : cs = [] := by
  unfold decode? at h
  split at h
  · rfl
  · obtain ⟨w, -, h⟩ := Option.bind_eq_some_iff.mp h
    obtain ⟨x, -, h⟩ := Option.bind_eq_some_iff.mp h
    split at h
    · split at h
      · cases h
      · cases h
    · obtain ⟨y, -, h⟩ := Option.bind_eq_some_iff.mp h
      split at h
      · split at h
        · cases h
        · cases h
      · obtain ⟨z, -, h⟩ := Option.bind_eq_some_iff.mp h
        obtain ⟨bytes, -, h⟩ := Option.bind_eq_some_iff.mp h
        cases h
  · cases h

/-- A text is empty when the bytes it stands for are. -/
theorem decode?_nil_iff {cs : List Char} {data : List UInt8} (h : decode? cs = some data) :
    data = [] ↔ cs = [] := by
  constructor
  · rintro rfl
    exact eq_nil_of_decode? h
  · rintro rfl
    cases h
    rfl

theorem encode_nil_iff {data : List UInt8} : encode data = [] ↔ data = [] :=
  (decode?_nil_iff (decode?_encode data)).symm

end Base64

theorem bytesText_none_eq_empty_iff {data : List UInt8} :
    Value.bytesText data none = "" ↔ data = [] := by
  rw [← Base64.encode_nil_iff, ← String.toList_inj]
  simp [Value.bytesText]

/-- Of the images whose text is not empty, the one without bytes behind `data:` alone is written as
an empty text. -/
theorem bytesText_eq_empty_iff {s : String} {data : List UInt8} {mime : Option String}
    (h : decodeImage? s.toList = some (data, mime)) :
    Value.bytesText data mime = "" ↔ s = "" ∨ s = "data:" := by
  have hempty : s = "" → mime = none := by
    rintro rfl
    cases h
    rfl
  have hbare : s = "data:" → mime = none := by
    rintro rfl
    cases h
    rfl
  rcases decodeImage?_cases h with ⟨rfl, hdata⟩ | ⟨rest, hs, rfl, hdata⟩ | ⟨m, rfl, -⟩
  · have hne : s ≠ "data:" := by
      rintro rfl
      cases hdata
    rw [bytesText_none_eq_empty_iff, Base64.decode?_nil_iff hdata]
    simp [hne, String.toList_eq_nil_iff]
  · rw [bytesText_none_eq_empty_iff, Base64.decode?_nil_iff hdata]
    rw [← String.toList_inj, ← String.toList_inj, hs]
    simp
  · have hne : Value.bytesText data (some (String.ofList m)) ≠ "" := by
      rw [ne_eq, ← String.toList_inj, bytesText_some]
      simp
    have hsome : some (String.ofList m) ≠ none := by simp
    simp only [hne, false_iff, not_or]
    exact ⟨fun hs => hsome (hempty hs), fun hs => hsome (hbare hs)⟩

namespace Value

open Json (Numberless Plain)

theorem ofItems_eq (items : List Json) : ofItems items = items.map ofJson := by
  induction items with
  | nil => rfl
  | cons j js ih => rw [ofItems, ih, List.map_cons]

theorem ofMembers_eq (members : List (String × Json)) :
    ofMembers members = members.map fun m => (m.1, ofJson m.2) := by
  induction members with
  | nil => rfl
  | cons m ms ih => rw [ofMembers, ih, List.map_cons]

theorem toItems_eq (items : List Value) : toItems items = items.map toJson := by
  induction items with
  | nil => rfl
  | cons v vs ih => rw [toItems, ih, List.map_cons]

theorem toMembers_eq (entries : List (String × Value)) :
    toMembers entries = entries.map fun e => (e.1, toJson e.2) := by
  induction entries with
  | nil => rfl
  | cons e es ih => rw [toMembers, ih, List.map_cons]

theorem toJson_ofJson {j : Json} (h : Numberless j) : (ofJson j).toJson = j := by
  induction h with
  | null => rfl
  | bool b => rfl
  | text s => rfl
  | @list items _ ih =>
    have hitems : (items.map ofJson).map toJson = items := by
      rw [List.map_map]
      exact (List.map_congr_left ih).trans (List.map_id _)
    rw [ofJson, toJson, ofItems_eq, toItems_eq, hitems]
  | @object members _ ih =>
    have hmembers : (members.map fun m => (m.1, ofJson m.2)).map (fun e => (e.1, toJson e.2)) =
        members := by
      have hmember : ∀ m ∈ members,
          ((fun e => (e.1, toJson e.2)) ∘ fun m => (m.1, ofJson m.2)) m = id m :=
        fun m hm => Prod.ext rfl (ih m hm)
      rw [List.map_map, List.map_congr_left hmember, List.map_id]
    rw [ofJson, toJson, ofMembers_eq, toMembers_eq, hmembers]

/-- What coercion makes of a JSON value that it accepts: the value as it is, or the instant or the
bytes that a text stands for. -/
inductive Taken (now : Instant) : TypeTag → Json → Coerced → Prop
  | same {type : TypeTag} {j : Json} :
      (ofJson j).coerce type now = ⟨true, ofJson j, none⟩ → Taken now type j ⟨true, ofJson j, none⟩
  | date {s : String} {t : Instant} :
      readDatePhrase s now = .ok t → Taken now .date (.text s) ⟨true, .timestamp t, none⟩
  | file {s : String} {data : List UInt8} : Base64.decode? s.toList = some data →
      Taken now .file (.text s) ⟨true, .bytes data none, none⟩
  | image {s : String} {data : List UInt8} {mime : Option String} :
      decodeImage? s.toList = some (data, mime) →
      Taken now .image (.text s) ⟨true, .bytes data mime, some mime⟩

theorem taken_of_coerce {now : Instant} {type : TypeTag} {j : Json} (htype : type ≠ .number)
    (hok : ((ofJson j).coerce type now).ok = true) :
    Taken now type j ((ofJson j).coerce type now) := by
  cases type with
  | number => exact absurd rfl htype
  | date =>
    cases j with
    | text s =>
      cases hread : readDatePhrase s now with
      | ok t =>
        rw [ofJson, coerce_date hread]
        exact .date hread
      | error e => simp [ofJson, coerce, hread] at hok
    | _ => cases hok
  | file =>
    cases j with
    | text s =>
      cases hread : Base64.decode? s.toList with
      | some data =>
        rw [ofJson, coerce_file hread]
        exact .file hread
      | none => simp [ofJson, coerce, hread] at hok
    | _ => cases hok
  | image =>
    cases j with
    | text s =>
      cases hread : decodeImage? s.toList with
      | some image =>
        rw [ofJson, coerce_image hread]
        exact .image hread
      | none => simp [ofJson, coerce, hread] at hok
    | _ => cases hok
  | _ =>
    cases j with
    | _ => first | exact .same rfl | cases hok

/-- Values of a JSON text are no instants. -/
theorem ofJson_ne_timestamp (j : Json) (t : Instant) : ofJson j ≠ .timestamp t := by
  cases j <;> simp [ofJson]

/-- An instant that is not written with a signed year. -/
def HasPlainYear (v : Value) : Prop :=
  ∀ t, v = .timestamp t → 0 ≤ t.date.year ∧ t.date.year ≤ 9999

theorem hasPlainYear_timestamp {t : Instant} :
    (timestamp t).HasPlainYear ↔ 0 ≤ t.date.year ∧ t.date.year ≤ 9999 := by
  constructor
  · intro h
    exact h t rfl
  · rintro h t ⟨⟩
    exact h

theorem hasPlainYear_bytes (data : List UInt8) (mime : Option String) :
    (bytes data mime).HasPlainYear := by
  rintro t ⟨⟩

/-- The second coercion of a value comes to what the first came to, or refuses the signed year of an
instant. -/
theorem Taken.coerce_written {now : Instant} {type : TypeTag} {j : Json} {c : Coerced}
    (hnow : now.IsProper) (hj : Numberless j) (h : Taken now type j c) :
    c.value.HasPlainYear ∧ (ofJson c.value.toJson).coerce type now = c ∨
    ¬c.value.HasPlainYear ∧ ((ofJson c.value.toJson).coerce type now).ok = false := by
  cases h with
  | same hsame =>
    rw [toJson_ofJson hj]
    exact .inl ⟨fun t ht => absurd ht (ofJson_ne_timestamp j t), hsame⟩
  | @date s t hread =>
    have hproper := isProper_of_readDatePhrase hnow hread
    rw [hasPlainYear_timestamp]
    by_cases hyear : 0 ≤ t.date.year ∧ t.date.year ≤ 9999
    · have hback := (readDatePhrase_write t now).trans (Rfc3339.read_write hproper hyear)
      exact .inl ⟨hyear, coerce_date hback⟩
    · obtain ⟨e, he⟩ := Rfc3339.read_write_of_signed_year hyear
      have hback := (readDatePhrase_write t now).trans he
      refine .inr ⟨hyear, ?_⟩
      simp [toJson, ofJson, coerce, hback]
  | @file s data hread =>
    have hback : Base64.decode? (bytesText data none).toList = some data := by
      simp [bytesText, Base64.decode?_encode]
    exact .inl ⟨hasPlainYear_bytes data _, coerce_file hback⟩
  | @image s data mime hread =>
    have hback : decodeImage? (bytesText data mime).toList = some (data, mime) :=
      decodeImage?_bytesText (semicolon_notMem_of_decodeImage? hread)
    exact .inl ⟨hasPlainYear_bytes data _, coerce_image hback⟩

theorem isEmpty_text {s t : String} (h : s = "" ↔ t = "") (nullable : Bool) :
    (text s).isEmpty nullable = (text t).isEmpty nullable := by
  rw [isEmpty, isEmpty, Bool.eq_iff_iff, String.isEmpty_iff, String.isEmpty_iff]
  exact h

/-- The written value is empty when the given one was, but for an image of no bytes. -/
theorem Taken.isEmpty_written {now : Instant} {type : TypeTag} {j : Json} {c : Coerced}
    (hj : Numberless j) (h : Taken now type j c) (nullable : Bool) :
    (ofJson c.value.toJson).isEmpty nullable = (ofJson j).isEmpty nullable ∨
    type = .image ∧ j = .text "data:" := by
  cases h with
  | same => exact .inl (by rw [toJson_ofJson hj])
  | @date s t hread =>
    have hwritten : Rfc3339.write t ≠ "" := by
      intro heq
      have hlength := Rfc3339.length_writeChars t
      rw [Rfc3339.write, ← String.toList_inj, String.toList_ofList] at heq
      simp [heq] at hlength
    have hgiven : s ≠ "" := by
      rintro rfl
      cases hread
    exact .inl (isEmpty_text (by simp [hwritten, hgiven]) nullable)
  | @file s data hread =>
    have hiff : bytesText data none = "" ↔ s = "" := by
      rw [bytesText_none_eq_empty_iff, Base64.decode?_nil_iff hread, String.toList_eq_nil_iff]
    exact .inl (isEmpty_text hiff nullable)
  | @image s data mime hread =>
    have hiff := bytesText_eq_empty_iff hread
    by_cases hs : s = "data:"
    · exact .inr ⟨rfl, by rw [hs]⟩
    · exact .inl (isEmpty_text (hiff.trans (by simp [hs])) nullable)

theorem Taken.written_empty {now : Instant} {c : Coerced}
    (h : Taken now .image (.text "data:") c) : c.value.toJson = .text "" := by
  cases h with
  | same hsame => cases hsame
  | @image _ data mime hread =>
    have hempty := (bytesText_eq_empty_iff hread).mpr (.inr rfl)
    rw [toJson, hempty]

theorem Taken.ok {now : Instant} {type : TypeTag} {j : Json} {c : Coerced}
    (h : Taken now type j c) : c.ok = true := by
  cases h <;> rfl

theorem Taken.plain_written {now : Instant} {type : TypeTag} {depth : Nat} {j : Json} {c : Coerced}
    (hj : Plain depth j) (h : Taken now type j c) : Plain depth c.value.toJson := by
  cases h with
  | same => rwa [toJson_ofJson hj.numberless]
  | date => exact .text depth _
  | file => exact .text depth _
  | image => exact .text depth _

theorem Taken.written_isNull {now : Instant} {type : TypeTag} {j : Json} {c : Coerced}
    (hj : Numberless j) (h : Taken now type j c) :
    (ofJson c.value.toJson).isNull = (ofJson j).isNull := by
  cases h with
  | same => rw [toJson_ofJson hj]
  | date => rfl
  | file => rfl
  | image => rfl

end Value

namespace Field

open Json (Numberless Plain)

/-- The field as the values of a run hold it: null stands for no value. -/
def reported (f : Field) : Field := { f with value := some (f.value.getD .null) }

theorem reported_eq_self {f : Field} {v : Value} (h : f.value = some v) : f.reported = f := by
  cases f
  cases h
  rfl

theorem coerce_of_null {now : Instant} {f : Field} (h : f.value.getD .null = .null) :
    f.coerce now = (f, if f.type = .object then some f.mismatch else none) := by
  unfold coerce
  cases hv : f.value with
  | none => rfl
  | some v =>
    rw [hv] at h
    cases h
    rfl

/-- What a passing coercion makes of a JSON value, or of none. -/
theorem taken_of_coerce {now : Instant} {f g : Field} {j : Option Json} (htype : f.type ≠ .number)
    (hvalue : f.value = j.map Value.ofJson) (h : f.coerce now = (g, none)) :
    (g = f ∧ f.value.getD .null = .null ∧ f.type ≠ .object) ∨
    ∃ i c, j = some i ∧ (Value.ofJson i).isNull = false ∧
      (Value.ofJson i).coerce f.type now = c ∧ Value.Taken now f.type i c ∧
      g = { f with value := some c.value, mime := c.mime.getD f.mime } := by
  cases hf : f.hasValue with
  | false =>
    have hnull : f.value.getD .null = .null := by
      cases hv : f.value with
      | none => rfl
      | some v => simpa [hasValue, hv, Value.isNull_iff] using hf
    rw [coerce_of_null hnull] at h
    refine .inl ⟨(congrArg Prod.fst h).symm, hnull, fun hobject => ?_⟩
    rw [if_pos hobject] at h
    cases h
  | true =>
    obtain ⟨v, hv, hnull⟩ := hasValue_iff.mp hf
    obtain ⟨i, rfl, rfl⟩ : ∃ i, j = some i ∧ Value.ofJson i = v := by
      rw [hv] at hvalue
      exact Option.map_eq_some_iff.mp hvalue.symm
    rw [coerce_of_value hv hnull] at h
    have hok : ((Value.ofJson i).coerce f.type now).ok = true := by
      simpa using congrArg Prod.snd h
    exact .inr ⟨i, _, rfl, hnull, rfl, Value.taken_of_coerce htype hok, (congrArg Prod.fst h).symm⟩

section Again

variable {now : Instant} {f g : Field} {j : Option Json} (hj : ∀ i ∈ j, Numberless i)
  (htype : f.type ≠ .number) (hvalue : f.value = j.map Value.ofJson)
  (h : f.coerce now = (g, none))
include hj htype hvalue h

/-- A field that is given what its value is written as comes to the same state again, unless its
value is an instant that is written with a signed year. -/
theorem coerce_written (hnow : now.IsProper) :
    (g.value.getD .null).HasPlainYear ∧
      { f with value := some (Value.ofJson (g.value.getD .null).toJson) }.coerce now =
        (g.reported, none) ∨
    ¬(g.value.getD .null).HasPlainYear ∧
      ({ f with value := some (Value.ofJson (g.value.getD .null).toJson) }.coerce
        now).2.isSome := by
  rcases taken_of_coerce htype hvalue h with
    ⟨rfl, hnull, hobject⟩ | ⟨i, c, rfl, hnull, hc, htaken, rfl⟩
  · left
    have hwritten : Value.ofJson (g.value.getD .null).toJson = .null := by rw [hnull]; rfl
    rw [hwritten, coerce_of_null rfl, if_neg hobject, reported, hnull]
    exact ⟨fun t ht => (nomatch ht), rfl⟩
  · have hwritten : (Value.ofJson c.value.toJson).isNull = false := by
      rw [htaken.written_isNull (hj i rfl), hnull]
    rw [Option.getD_some, coerce_of_value rfl hwritten, reported_eq_self rfl]
    rcases htaken.coerce_written hnow (hj i rfl) with ⟨hyear, hback⟩ | ⟨hyear, hbad⟩
    · left
      simp only [hback, htaken.ok, if_true]
      exact ⟨hyear, trivial⟩
    · right
      exact ⟨hyear, by simp [hbad]⟩

/-- What is written of a field that is not empty is not empty either, but for an image of no
bytes. -/
theorem isEmpty_written (himage : ¬(f.type = .image ∧ j = some (.text "data:"))) {v : Value}
    {nullable : Bool} (hv : f.value = some v) (hfilled : v.isEmpty nullable = false) :
    (Value.ofJson (g.value.getD .null).toJson).isEmpty nullable = false := by
  rcases taken_of_coerce htype hvalue h with ⟨rfl, hnull, -⟩ | ⟨i, c, rfl, -, -, htaken, rfl⟩
  · rw [hv] at hnull ⊢
    cases hnull
    exact hfilled
  · rw [hvalue] at hv
    cases hv
    rcases htaken.isEmpty_written (hj i rfl) nullable with hsame | ⟨hf, hi⟩
    · exact hsame.trans hfilled
    · exact absurd ⟨hf, by rw [hi]⟩ himage

theorem written_of_bare_image (himage : f.type = .image) (hbare : j = some (.text "data:")) :
    (g.value.getD .null).toJson = .text "" := by
  rcases taken_of_coerce htype hvalue h with ⟨-, hnull, -⟩ | ⟨i, c, rfl, -, -, htaken, rfl⟩
  · rw [hvalue, hbare] at hnull
    cases hnull
  · cases hbare
    rw [himage] at htaken
    exact htaken.written_empty

theorem plain_written {depth : Nat} (hplain : ∀ i ∈ j, Plain depth i) :
    Plain depth (g.value.getD .null).toJson := by
  rcases taken_of_coerce htype hvalue h with ⟨rfl, hnull, -⟩ | ⟨i, c, rfl, -, -, htaken, rfl⟩
  · rw [hnull]
    exact .null depth
  · exact htaken.plain_written (hplain i rfl)

end Again

end Field
end FieldRules
