import FieldRules.Proofs.PassedValues
import FieldRules.Proofs.WrittenValue

namespace FieldRules

/-- Verbs that look at another field of the document. -/
def siblingVerbs : List String :=
  ["requiredWith", "requiredWithout", "confirmed", "same", "different", "inArray"]

namespace Field

theorem hasValue_reported (f : Field) : f.reported.hasValue = f.hasValue := by
  cases hv : f.value <;> simp [hasValue, reported, hv, Value.isNull]

theorem reported_of_hasValue {f : Field} (h : f.hasValue = true) : f.reported = f := by
  obtain ⟨v, hv, -⟩ := hasValue_iff.mp h
  exact reported_eq_self hv

end Field

/-- The document `d'` has the field, and where one has to be filled, it is if it is in `d`. -/
structure Document.Retains (d d' : Document) (name : String) (required : Prop) : Prop where
  present : d'.contains name = true
  filled : required → ∀ f : Field, f.name = name → SharedVerb.isMissing d f = false →
    SharedVerb.isMissing d' f = false

theorem Document.Retains.mono {d d' : Document} {name : String} {required fewer : Prop}
    (h : d.Retains d' name required) (himp : fewer → required) : d.Retains d' name fewer :=
  ⟨h.present, fun hfewer => h.filled (himp hfewer)⟩

section Runs

variable {now : Instant} {d d' : Document} {f g m : Field} {c : Call}

theorem SharedVerb.isMissing_of_required (h : SharedVerb.required.run now d f = .ok g) :
    isMissing d f = false := by
  cases hmissing : isMissing d f with
  | false => rfl
  | true => simp [run, hmissing, Field.verify] at h

/-- A verb that passes on a field passes on what is reported of it, also in another document that
has the field. -/
theorem Verb.run_reported {v : Verb} (hname : v.name ∉ siblingVerbs) (hnumber : ∀ n, v ≠ .number n)
    (hvalue : v.readsValue = true → f.hasValue = true)
    (hd : d.Retains d' f.name (v.name = "required")) (h : v.run now d f = .ok g) :
    v.run now d' f.reported = .ok g.reported := by
  cases v with
  | number n => exact absurd rfl (hnumber n)
  | shared v =>
    cases v with
    | nullable =>
      cases h
      rfl
    | present =>
      have hg : g = f := Field.verify_ok h
      rw [hg]
      change f.reported.verify (d'.contains f.name) _ = _
      rw [hd.present]
      rfl
    | required =>
      have hg : g = f := Field.verify_ok h
      have hrun : SharedVerb.required.run now d f = .ok g := h
      have hfilled := hd.filled rfl f rfl (SharedVerb.isMissing_of_required hrun)
      rw [hg]
      change f.reported.verify (!SharedVerb.isMissing d' f) _ = _
      rw [hfilled]
      rfl
    | _ => exact absurd (by decide) hname
  | date v =>
    have hg : g = f := DateVerb.run_ok h
    rw [hg] at h ⊢
    rw [Field.reported_of_hasValue (hvalue rfl), ← h]
    cases v <;> rfl
  | text v =>
    have hg : g = f := TextVerb.run_ok h
    cases v with
    | same => exact absurd (by decide) hname
    | different => exact absurd (by decide) hname
    | inArray => exact absurd (by decide) hname
    | _ =>
      rw [hg] at h ⊢
      rw [Field.reported_of_hasValue (hvalue rfl), ← h]
      rfl

namespace Registry

theorem performShared_reported (hc : c.verb ∉ siblingVerbs)
    (hd : d.Retains d' f.name (c.verb = "required"))
    (h : standard.performShared now d f c = .ok m) :
    standard.performShared now d' f.reported c = .ok m.reported := by
  unfold performShared at h ⊢
  split at h
  · cases h
    rfl
  · rename_i run hrun
    obtain ⟨v, hname, rfl⟩ := shared?_standard.mp hrun
    rw [← hname] at hc hd
    have hnumber : ∀ n, Verb.shared v ≠ .number n := fun n => by simp
    have hbegun : d.Retains d' (f.begin c.verb c.args).name (v.name = "required") := hd
    exact Verb.run_reported (v := .shared v) hc hnumber (fun hreads => by cases hreads) hbegun h

theorem performTyped_reported (hc : c.verb ∉ siblingVerbs) (htype : m.type ≠ .number)
    (hd : d.Retains d' m.name (c.verb = "required"))
    (h : standard.performTyped now d m.type m c.verb = .ok g) :
    standard.performTyped now d' m.type m.reported c.verb = .ok g.reported := by
  unfold performTyped at h ⊢
  split at h
  · cases h
    rfl
  · rename_i run hrun
    obtain ⟨v, hname, hserves, rfl, heager⟩ := exists_verb_of_typed? hrun
    rw [← hname] at hc hd
    have hnumber : ∀ n, v ≠ .number n := by
      rintro n rfl
      exact htype hserves
    simp only [heager, Field.hasValue_reported] at h ⊢
    split at h
    · rename_i hruns
      have hvalue : v.readsValue = true → m.hasValue = true := by
        intro hreads
        simpa [hreads] using hruns
      rw [if_pos hruns]
      exact Verb.run_reported hc hnumber hvalue hd h
    · rename_i hskips
      cases h
      rw [if_neg hskips]

/-- The step: a call that passes on a field passes on what is reported of it. -/
theorem perform_reported (hc : c.verb ∉ siblingVerbs) (htype : f.type ≠ .number)
    (hd : d.Retains d' f.name (c.verb = "required"))
    (h : standard.perform now d f.type f c = .ok g) :
    standard.perform now d' f.type f.reported c = .ok g.reported := by
  obtain ⟨m, hm, hmends, hg, hgends⟩ := perform_ok.mp h
  have hmtype : m.type = f.type := performShared_keeps standard_keeps_type (fun _ _ _ => rfl) hm
  have hmname : m.name = f.name := performShared_keeps standard_keeps_name (fun _ _ _ => rfl) hm
  have hm' := performShared_reported hc hd hm
  rw [← hmtype] at hg htype ⊢
  rw [← hmname] at hd
  exact perform_ok.mpr
    ⟨m.reported, hm', hmends, performTyped_reported hc htype hd hg, hgends⟩

/-- The run: calls that pass on a field pass on what is reported of it. -/
theorem foldlM_reported {calls : List Call} {f₀ : Field}
    (hcalls : ∀ c ∈ calls, c.verb ∉ siblingVerbs) (htype : f₀.type ≠ .number)
    (hd : d.Retains d' f₀.name (∃ c ∈ calls, c.verb = "required")) (hf : f₀.KeepsShape f)
    (h : calls.foldlM (standard.perform now d f₀.type) f = .ok g) :
    calls.foldlM (standard.perform now d' f₀.type) f.reported = .ok g.reported := by
  induction calls generalizing f with
  | nil =>
    cases h
    rfl
  | cons c cs ih =>
    obtain ⟨m, hm, hg⟩ := bind_ok.mp h
    have hmshape : f₀.KeepsShape m := perform_keepsShape hf hm
    rw [← hf.type] at hm htype ⊢
    rw [← hf.name] at hd
    have hm' := perform_reported (hcalls c (by simp)) htype (hd.mono fun h => ⟨c, by simp, h⟩) hm
    rw [foldlM_cons_of_ok hm']
    rw [hf.type] at htype ⊢
    rw [hf.name] at hd
    exact ih (fun b hb => hcalls b (by simp [hb]))
      (hd.mono fun ⟨b, hb, hverb⟩ => ⟨b, by simp [hb], hverb⟩) hmshape hg

/-- Where `required` is among calls that pass, the document does not miss the field. -/
theorem exists_filled_of_foldlM {calls : List Call} {f₀ : Field} (hf : f₀.KeepsShape f)
    (h : calls.foldlM (standard.perform now d f₀.type) f = .ok g)
    (hrequired : ∃ c ∈ calls, c.verb = "required") :
    ∃ b : Field, b.name = f₀.name ∧ SharedVerb.isMissing d b = false := by
  induction calls generalizing f with
  | nil => simp at hrequired
  | cons c cs ih =>
    obtain ⟨b, hb, hg⟩ := bind_ok.mp h
    by_cases hc : c.verb = "required"
    · obtain ⟨m, hm, -⟩ := perform_ok.mp hb
      have hrun : standard.shared? c.verb = some SharedVerb.required.run :=
        shared?_standard.mpr ⟨.required, hc.symm, rfl⟩
      simp only [performShared, hrun] at hm
      exact ⟨f.begin c.verb c.args, hf.name, SharedVerb.isMissing_of_required hm⟩
    · refine ih (perform_keepsShape hf hb) hg ?_
      simpa [hc] using hrequired

end Registry

end Runs

/-- The rule declares no number, and no verb of it looks at another field. -/
def isSelfContained (rule : String) : Bool :=
  match scan rule with
  | [] => true
  | head :: rest =>
    let (tag, calls) := declaredType head rest
    declared? tag != some .number && calls.all fun c => !siblingVerbs.contains c.verb

/-- The rule is about the image `name`, which it requires. -/
def requiresImage (rule name : String) : Bool :=
  match scan rule with
  | [] => false
  | head :: rest =>
    let (tag, calls) := declaredType head rest
    head.verb == name && declared? tag == some .image && calls.any fun c => c.verb == "required"

theorem isSelfContained_iff {rule : String} {head : Call} {rest : List Call}
    (hscan : scan rule = head :: rest) :
    isSelfContained rule = true ↔ declared? (declaredType head rest).1 ≠ some .number ∧
      ∀ c ∈ (declaredType head rest).2, c.verb ∉ siblingVerbs := by
  simp [isSelfContained, hscan]

theorem requiresImage_iff {rule name : String} {head : Call} {rest : List Call}
    (hscan : scan rule = head :: rest) :
    requiresImage rule name = true ↔ head.verb = name ∧
      declared? (declaredType head rest).1 = some .image ∧
      ∃ c ∈ (declaredType head rest).2, c.verb = "required" := by
  simp [requiresImage, hscan, and_assoc]

namespace Registry

variable {now : Instant} {d d' : Document}

theorem outcome_ne_endless {rule : String} (hself : isSelfContained rule = true) :
    standard.outcome now d rule ≠ some .endless := by
  intro h
  cases hscan : scan rule with
  | nil => simp [outcome_of_scan_nil _ now d hscan] at h
  | cons head rest =>
    exact ((isSelfContained_iff hscan).mp hself).1 (declared_of_outcome_endless hscan h)

/-- A rule that passes on an empty text does not require its field. -/
theorem not_required_of_empty {rule : String} {head : Call} {rest : List Call} {v : Value}
    (hscan : scan rule = head :: rest) (hd : d.get? head.verb = some (.text ""))
    (h : standard.outcome now d rule = some (.ok v)) :
    ¬∃ c ∈ (declaredType head rest).2, c.verb = "required" := by
  intro hrequired
  obtain ⟨type, f, g, htag, hcoerce, hrun, -⟩ := (outcome_eq_ok_iff hscan).mp h
  obtain ⟨hshape, rfl, hname⟩ := keepsShape_of_coerce hscan htag hcoerce
  obtain ⟨b, hb, hfilled⟩ := exists_filled_of_foldlM hshape hrun hrequired
  simp [SharedVerb.isMissing, hb, hname, hd, Value.isEmpty] at hfilled

/-- The document that holds what was written of a field retains the field. -/
theorem retains_written {f f' : Field} {j : Option Json} {required : Prop}
    (hj : ∀ i ∈ j, Json.Numberless i) (htype : f.type ≠ .number)
    (hvalue : f.value = j.map Value.ofJson) (hd : d.get? f.name = f.value)
    (h : f.coerce now = (f', none))
    (hd' : d'.get? f.name = some (Value.ofJson (f'.value.getD .null).toJson))
    (himage : required → ¬(f.type = .image ∧ j = some (.text "data:"))) :
    d.Retains d' f.name required := by
  refine ⟨by simp [Entries.contains, hd'], fun hrequired b hname hfilled => ?_⟩
  rw [SharedVerb.isMissing, hname, hd] at hfilled
  obtain ⟨v, hv, hfilled⟩ : ∃ v, f.value = some v ∧ v.isEmpty b.nullable = false := by
    cases hv : f.value with
    | none => simp [hv] at hfilled
    | some v => exact ⟨v, rfl, by simpa [hv] using hfilled⟩
  have hwritten := Field.isEmpty_written hj htype hvalue h (himage hrequired) hv hfilled
  simp [SharedVerb.isMissing, hname, hd', hwritten]

/-- A rule that has passed passes again on the written value, and comes to the same value, unless
the value is an instant with a signed year, or an image of no bytes that the rule requires. -/
theorem outcome_again_iff {rule : String} {head : Call} {rest : List Call} {j : Option Json}
    {v : Value} (hnow : now.IsProper) (hscan : scan rule = head :: rest)
    (hself : isSelfContained rule = true) (hj : ∀ i ∈ j, Json.Numberless i)
    (hd : d.get? head.verb = j.map Value.ofJson)
    (hd' : d'.get? head.verb = some (Value.ofJson v.toJson))
    (h : standard.outcome now d rule = some (.ok v)) :
    standard.outcome now d' rule = some (.ok v) ↔
      v.HasPlainYear ∧ ¬(requiresImage rule head.verb = true ∧ j = some (.text "data:")) := by
  obtain ⟨hnumber, hcalls⟩ := (isSelfContained_iff hscan).mp hself
  obtain ⟨type, f, g, htag, hcoerce, hrun, rfl⟩ := (outcome_eq_ok_iff hscan).mp h
  obtain ⟨hshape, rfl, hname⟩ := keepsShape_of_coerce hscan htag hcoerce
  have hkept : f.type ≠ .number := fun hf => hnumber (htag.trans (congrArg some hf))
  have htype : ((Field.ofDocument head.verb d).withType f.type).type ≠ .number := hkept
  have hg : g.value = f.value := foldlM_value hkept hshape hrun
  rw [hg] at hd' ⊢
  have hagain : (Field.ofDocument head.verb d').withType f.type =
      { (Field.ofDocument head.verb d).withType f.type with
        value := some (Value.ofJson (f.value.getD .null).toJson) } := by
    simp [Field.ofDocument, Field.withType, hd']
  have himage : requiresImage rule head.verb = true ↔ f.type = .image ∧
      ∃ c ∈ (declaredType head rest).2, c.verb = "required" := by
    rw [requiresImage_iff hscan, htag]
    simp
  rcases Field.coerce_written hj htype hd hcoerce hnow with ⟨hyear, hback⟩ | ⟨hyear, hbad⟩
  · rw [← hagain] at hback
    constructor
    · intro hpass
      refine ⟨hyear, fun ⟨hrequires, hbare⟩ => ?_⟩
      obtain ⟨hf, hrequired⟩ := himage.mp hrequires
      rw [Field.written_of_bare_image hj htype hd hcoerce hf hbare] at hd'
      exact not_required_of_empty hscan hd' hpass hrequired
    · rintro ⟨-, hfilled⟩
      have hretains : d.Retains d' head.verb
          (∃ c ∈ (declaredType head rest).2, c.verb = "required") := by
        refine retains_written hj htype hd rfl hcoerce hd' fun hrequired ⟨hf, hbare⟩ => ?_
        exact hfilled ⟨himage.mpr ⟨hf, hrequired⟩, hbare⟩
      rw [← hname] at hretains
      have hrun' := foldlM_reported hcalls hkept hretains hshape hrun
      rw [outcome_eq_ok_iff hscan]
      exact ⟨f.type, f.reported, g.reported, htag, hback, hrun', by rw [Field.reported, hg]; rfl⟩
  · rw [← hagain] at hbad
    rw [outcome_eq_ok_iff hscan]
    constructor
    · rintro ⟨type, f', g', htag', hcoerce', -⟩
      have hsame : type = f.type := Option.some.inj (htag'.symm.trans htag)
      rw [hsame] at hcoerce'
      rw [hcoerce'] at hbad
      cases hbad
    · rintro ⟨hplain, -⟩
      exact absurd hplain hyear

/-- The value of a rule that has passed is written as a value that is read back. -/
theorem plain_of_outcome {rule : String} {head : Call} {rest : List Call} {depth : Nat}
    {j : Option Json} {v : Value} (hscan : scan rule = head :: rest)
    (hself : isSelfContained rule = true) (hj : ∀ i ∈ j, Json.Plain depth i)
    (hd : d.get? head.verb = j.map Value.ofJson)
    (h : standard.outcome now d rule = some (.ok v)) : Json.Plain depth v.toJson := by
  obtain ⟨hnumber, -⟩ := (isSelfContained_iff hscan).mp hself
  obtain ⟨type, f, g, htag, hcoerce, hrun, rfl⟩ := (outcome_eq_ok_iff hscan).mp h
  obtain ⟨hshape, rfl, -⟩ := keepsShape_of_coerce hscan htag hcoerce
  have hkept : f.type ≠ .number := fun hf => hnumber (htag.trans (congrArg some hf))
  have htype : ((Field.ofDocument head.verb d).withType f.type).type ≠ .number := hkept
  rw [foldlM_value hkept hshape hrun]
  exact Field.plain_written (fun i hi => (hj i hi).numberless) htype hd hcoerce hj

end Registry

end FieldRules
