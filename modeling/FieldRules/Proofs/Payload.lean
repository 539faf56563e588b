import FieldRules.Proofs.CanonicalValue
import FieldRules.Value.Json
import Mathlib.Data.List.TakeWhile

namespace FieldRules

namespace Base64

theorem letter_ne {n : Nat} {c : Char} (h : n < 64) (hc : value? c = none) : letter n ≠ c := by
  intro heq
  have hvalue := value?_letter n h
  rw [heq, hc] at hvalue
  cases hvalue

theorem letter_ne_pad {n : Nat} (h : n < 64) : letter n ≠ '=' := letter_ne h (by decide)

theorem ofNat_eq {n : Nat} {a : UInt8} (h : n = a.toNat) : UInt8.ofNat n = a := by
  rw [h, UInt8.ofNat_toNat]

/-- Three bytes of eight bits are four letters of six. -/
theorem decode?_encode (data : List UInt8) : decode? (encode data) = some data := by
  induction data using encode.induct with
  | case1 => rfl
  | case2 a =>
    have ha := a.toNat_lt
    have hw := value?_letter (a.toNat / 4) (by omega)
    have hx := value?_letter (a.toNat % 4 * 16) (by omega)
    have hrest : a.toNat % 4 * 16 % 16 = 0 := by omega
    have h1 : UInt8.ofNat (4 * (a.toNat / 4) + a.toNat % 4 * 16 / 16) = a := ofNat_eq (by omega)
    simp only [encode, decode?, hw, hx, hrest, h1, Option.bind_eq_bind, Option.bind_some,
      and_self, if_true]
  | case3 a b =>
    have ha := a.toNat_lt
    have hb := b.toNat_lt
    have hw := value?_letter (a.toNat / 4) (by omega)
    have hx := value?_letter (a.toNat % 4 * 16 + b.toNat / 16) (by omega)
    have hy := value?_letter (b.toNat % 16 * 4) (by omega)
    have hpad : letter (b.toNat % 16 * 4) ≠ '=' := letter_ne_pad (by omega)
    have hrest : b.toNat % 16 * 4 % 4 = 0 := by omega
    have h1 : UInt8.ofNat (4 * (a.toNat / 4) + (a.toNat % 4 * 16 + b.toNat / 16) / 16) = a :=
      ofNat_eq (by omega)
    have h2 : UInt8.ofNat ((a.toNat % 4 * 16 + b.toNat / 16) % 16 * 16 + b.toNat % 16 * 4 / 4) =
        b := ofNat_eq (by omega)
    simp only [encode, decode?, hw, hx, hy, hpad, hrest, h1, h2, Option.bind_eq_bind,
      Option.bind_some, false_and, and_self, if_true, if_false]
  | case4 a b c rest ih =>
    have ha := a.toNat_lt
    have hb := b.toNat_lt
    have hc := c.toNat_lt
    have hw := value?_letter (a.toNat / 4) (by omega)
    have hx := value?_letter (a.toNat % 4 * 16 + b.toNat / 16) (by omega)
    have hy := value?_letter (b.toNat % 16 * 4 + c.toNat / 64) (by omega)
    have hz := value?_letter (c.toNat % 64) (by omega)
    have hypad : letter (b.toNat % 16 * 4 + c.toNat / 64) ≠ '=' := letter_ne_pad (by omega)
    have hzpad : letter (c.toNat % 64) ≠ '=' := letter_ne_pad (by omega)
    have h1 : UInt8.ofNat (4 * (a.toNat / 4) + (a.toNat % 4 * 16 + b.toNat / 16) / 16) = a :=
      ofNat_eq (by omega)
    have h2 : UInt8.ofNat ((a.toNat % 4 * 16 + b.toNat / 16) % 16 * 16 +
        (b.toNat % 16 * 4 + c.toNat / 64) / 4) = b := ofNat_eq (by omega)
    have h3 : UInt8.ofNat ((b.toNat % 16 * 4 + c.toNat / 64) % 4 * 64 + c.toNat % 64) = c :=
      ofNat_eq (by omega)
    simp only [encode, decode?, hw, hx, hy, hz, hypad, hzpad, h1, h2, h3, ih,
      Option.bind_eq_bind, Option.bind_some, false_and, if_false]
    rfl

/-- No letter and no padding is of use outside base64. -/
theorem notMem_encode {c : Char} (hc : value? c = none) (hpad : c ≠ '=') (data : List UInt8) :
    c ∉ encode data := by
  have hletter (n : Nat) (h : n < 64) : c ≠ letter n := (letter_ne h hc).symm
  induction data using encode.induct with
  | case1 => simp [encode]
  | case2 a =>
    have ha := a.toNat_lt
    simp [encode, hpad, hletter (a.toNat / 4) (by omega), hletter (a.toNat % 4 * 16) (by omega)]
  | case3 a b =>
    have ha := a.toNat_lt
    have hb := b.toNat_lt
    simp [encode, hpad, hletter (a.toNat / 4) (by omega),
      hletter (a.toNat % 4 * 16 + b.toNat / 16) (by omega),
      hletter (b.toNat % 16 * 4) (by omega)]
  | case4 a b c' rest ih =>
    have ha := a.toNat_lt
    have hb := b.toNat_lt
    have hc' := c'.toNat_lt
    simp [encode, ih, hletter (a.toNat / 4) (by omega),
      hletter (a.toNat % 4 * 16 + b.toNat / 16) (by omega),
      hletter (b.toNat % 16 * 4 + c'.toNat / 64) (by omega), hletter (c'.toNat % 64) (by omega)]

end Base64

theorem Text.eq_append_of_after? {head cs rest : List Char} (h : after? head cs = some rest) :
    cs = head ++ rest := by
  induction head generalizing cs with
  | nil => exact Option.some.inj h
  | cons c head ih =>
    cases cs with
    | nil => cases h
    | cons d cs =>
      simp only [after?] at h
      split at h
      · rename_i hcd
        rw [ih h, hcd, List.cons_append]
      · cases h

/-- Base64 has no colon, so it is not taken for an address. -/
theorem after?_encode (data : List UInt8) :
    Text.after? "data:".toList (Base64.encode data) = none := by
  cases h : Text.after? "data:".toList (Base64.encode data) with
  | none => rfl
  | some rest =>
    have hcolon : ':' ∉ Base64.encode data := Base64.notMem_encode (by decide) (by decide) data
    rw [Text.eq_append_of_after? h] at hcolon
    simp at hcolon

theorem dropBytes?_marker (payload : List Char) :
    Text.dropBytes? 8 (";base64,".toList ++ payload) = some payload := by
  simp [Text.dropBytes?, Char.utf8Size]

theorem bytesText_some (data : List UInt8) (mime : String) :
    (Value.bytesText data (some mime)).toList =
      "data:".toList ++ (mime.toList ++ (";base64,".toList ++ Base64.encode data)) := by
  simp [Value.bytesText]

theorem decodeImage?_bytesText {data : List UInt8} {mime : Option String}
    (h : ∀ m ∈ mime, ';' ∉ m.toList) :
    decodeImage? (Value.bytesText data mime).toList = some (data, mime) := by
  cases mime with
  | none =>
    have htext : (Value.bytesText data none).toList = Base64.encode data := by
      simp [Value.bytesText]
    rw [htext, decodeImage?, after?_encode]
    simp [Base64.decode?_encode]
  | some m =>
    have hm : ∀ c ∈ m.toList, c ≠ ';' := fun c hc heq => h m rfl (heq ▸ hc)
    have hrest : (";base64,".toList ++ Base64.encode data) =
        ';' :: ("base64,".toList ++ Base64.encode data) := rfl
    have hdrop : (m.toList ++ (";base64,".toList ++ Base64.encode data)).dropWhile (· ≠ ';') =
        ";base64,".toList ++ Base64.encode data := by
      rw [List.dropWhile_append_of_pos (by simpa using hm), hrest]
      simp
    have htake : (m.toList ++ (";base64,".toList ++ Base64.encode data)).takeWhile (· ≠ ';') =
        m.toList := by
      rw [List.takeWhile_append_of_pos (by simpa using hm), hrest]
      simp
    rw [bytesText_some, decodeImage?, Text.after?_append]
    simp only [hdrop, htake]
    rw [hrest]
    simp only [← hrest, dropBytes?_marker]
    simp [Base64.decode?_encode]

/-- The forms of an image: base64 alone, the same behind `data:`, or with a mime type that ends at
the first semicolon. -/
theorem decodeImage?_cases {text : List Char} {data : List UInt8} {mime : Option String}
    (h : decodeImage? text = some (data, mime)) :
    mime = none ∧ Base64.decode? text = some data ∨
    (∃ rest, text = "data:".toList ++ rest ∧ mime = none ∧ Base64.decode? rest = some data) ∨
    ∃ m, mime = some (String.ofList m) ∧ ';' ∉ m := by
  unfold decodeImage? at h
  split at h
  · obtain ⟨bytes, hbytes, heq⟩ := Option.bind_eq_some_iff.mp h
    cases heq
    exact .inl ⟨rfl, hbytes⟩
  · rename_i rest hrest
    split at h
    · obtain ⟨bytes, hbytes, heq⟩ := Option.bind_eq_some_iff.mp h
      cases heq
      exact .inr (.inl ⟨rest, Text.eq_append_of_after? hrest, rfl, hbytes⟩)
    · obtain ⟨payload, -, h⟩ := Option.bind_eq_some_iff.mp h
      obtain ⟨bytes, -, heq⟩ := Option.bind_eq_some_iff.mp h
      cases heq
      refine .inr (.inr ⟨_, rfl, fun hmem => ?_⟩)
      simpa using List.mem_takeWhile_imp hmem

theorem semicolon_notMem_of_decodeImage? {text : List Char} {data : List UInt8}
    {mime : Option String} (h : decodeImage? text = some (data, mime)) :
    ∀ m ∈ mime, ';' ∉ m.toList := by
  intro m hm
  rcases decodeImage?_cases h with ⟨rfl, -⟩ | ⟨-, -, rfl, -⟩ | ⟨cs, rfl, hcs⟩
  · cases hm
  · cases hm
  · cases hm
    simpa using hcs

theorem Value.coerce_image {now : Instant} {s : String} {image : List UInt8 × Option String}
    (h : decodeImage? s.toList = some image) :
    (text s).coerce .image now = ⟨true, .bytes image.1 image.2, some image.2⟩ := by
  simp [coerce, h]

theorem Value.coerce_file {now : Instant} {s : String} {data : List UInt8}
    (h : Base64.decode? s.toList = some data) :
    (text s).coerce .file now = ⟨true, .bytes data none, none⟩ := by
  simp [coerce, h]

namespace Field

variable {now : Instant} {f : Field} {s : String}

theorem coerce_image {data : List UInt8} {mime : Option String} (htype : f.type = .image)
    (hvalue : f.value = some (.text s)) (h : decodeImage? s.toList = some (data, mime)) :
    f.coerce now = ({ f with value := some (.bytes data mime), mime := mime }, none) := by
  rw [coerce_of_value hvalue rfl, htype, Value.coerce_image h]
  rfl

theorem coerce_file {data : List UInt8} (htype : f.type = .file)
    (hvalue : f.value = some (.text s)) (h : Base64.decode? s.toList = some data) :
    f.coerce now = ({ f with value := some (.bytes data none) }, none) := by
  rw [coerce_of_value hvalue rfl, htype, Value.coerce_file h]
  rfl

/-- An image that passes has been decoded. -/
theorem exists_of_coerce_image {g : Field} (htype : f.type = .image)
    (hvalue : f.value = some (.text s)) (h : f.coerce now = (g, none)) :
    ∃ data, decodeImage? s.toList = some (data, g.mime) ∧
      g = { f with value := some (.bytes data g.mime), mime := g.mime } := by
  cases hdecode : decodeImage? s.toList with
  | none =>
    rw [coerce_of_value hvalue rfl, htype] at h
    simp [Value.coerce, hdecode] at h
  | some image =>
    obtain ⟨data, mime⟩ := image
    rw [coerce_image htype hvalue hdecode] at h
    cases h
    exact ⟨data, rfl, rfl⟩

theorem exists_of_coerce_file {g : Field} (htype : f.type = .file)
    (hvalue : f.value = some (.text s)) (h : f.coerce now = (g, none)) :
    ∃ data, Base64.decode? s.toList = some data ∧
      g = { f with value := some (.bytes data none) } := by
  cases hdecode : Base64.decode? s.toList with
  | none =>
    rw [coerce_of_value hvalue rfl, htype] at h
    simp [Value.coerce, hdecode] at h
  | some data =>
    rw [coerce_file htype hvalue hdecode] at h
    cases h
    exact ⟨data, rfl, rfl⟩

end Field

/-- Whatever form an image or a file is given in, the text that its bytes are written as is accepted
and comes to the same bytes and mime type. A mime type is kept exactly when it has no semicolon. -/
theorem payload_written_reads_back (now : Instant) :
    (∀ (f g : Field) (s : String), f.type = .image → f.value = some (.text s) →
      f.coerce now = (g, none) →
      ∃ data mime w, g.value = some (.bytes data mime) ∧ g.mime = mime ∧
        (Value.bytes data mime).toJson = .text w ∧
        ∀ f' : Field, f'.type = .image → f'.value = some (.text w) →
          f'.coerce now = ({ f' with value := some (.bytes data mime), mime := mime }, none)) ∧
    (∀ (f g : Field) (s : String), f.type = .file → f.value = some (.text s) →
      f.coerce now = (g, none) →
      ∃ data w, g.value = some (.bytes data none) ∧ (Value.bytes data none).toJson = .text w ∧
        ∀ f' : Field, f'.type = .file → f'.value = some (.text w) →
          f'.coerce now = ({ f' with value := some (.bytes data none) }, none)) ∧
    ∀ data mime, decodeImage? (Value.bytesText data mime).toList = some (data, mime) ↔
      ∀ m ∈ mime, ';' ∉ m.toList := by
  refine ⟨?_, ?_, fun data mime => ⟨semicolon_notMem_of_decodeImage?, decodeImage?_bytesText⟩⟩
  · intro f g s htype hvalue h
    obtain ⟨data, hdecode, hg⟩ := Field.exists_of_coerce_image htype hvalue h
    have hread : decodeImage? (Value.bytesText data g.mime).toList = some (data, g.mime) :=
      decodeImage?_bytesText (semicolon_notMem_of_decodeImage? hdecode)
    refine ⟨data, g.mime, Value.bytesText data g.mime, by rw [hg], rfl, rfl, ?_⟩
    intro f' htype' hvalue'
    exact Field.coerce_image htype' hvalue' hread
  · intro f g s htype hvalue h
    obtain ⟨data, hdecode, hg⟩ := Field.exists_of_coerce_file htype hvalue h
    have hread : Base64.decode? (Value.bytesText data none).toList = some data := by
      simp [Value.bytesText, Base64.decode?_encode]
    refine ⟨data, Value.bytesText data none, by rw [hg], rfl, ?_⟩
    intro f' htype' hvalue'
    exact Field.coerce_file htype' hvalue' hread

/-- The eight characters behind the mime type are passed over, whatever they are. -/
theorem payload_written_reads_back_past_any_marker :
    let f : Field := { name := "a", type := .image, value := some (.text "data:é;1234567QQ==") }
    let g : Field := { f with value := some (.bytes [65] (some "é")), mime := some "é" }
    f.coerce ⟨0, 0⟩ = (g, none) ∧ Value.bytesText [65] (some "é") = "data:é;base64,QQ==" ∧
      ∃ data mime w, g.value = some (.bytes data mime) ∧ g.mime = mime ∧
        (Value.bytes data mime).toJson = .text w ∧
        ∀ f' : Field, f'.type = .image → f'.value = some (.text w) →
          f'.coerce ⟨0, 0⟩ =
            ({ f' with value := some (.bytes data mime), mime := mime }, none) := by
  intro f g
  have hdecode : decodeImage? "data:é;1234567QQ==".toList = some ([65], some "é") := by
    decide +kernel
  have hcoerce : f.coerce ⟨0, 0⟩ = (g, none) := Field.coerce_image rfl rfl hdecode
  exact ⟨hcoerce, by decide +kernel, (payload_written_reads_back ⟨0, 0⟩).1 f g _ rfl rfl hcoerce⟩

end FieldRules
