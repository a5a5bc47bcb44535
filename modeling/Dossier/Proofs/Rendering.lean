import Dossier.Proofs.Amount
import Dossier.Proofs.DateText
import Dossier.Proofs.Double
import Dossier.Proofs.TypedValue
import Dossier.Proofs.Uuid

/-!
# Conversion is stable under rendering

A value that a field of any kind but `date` made out of a document has a document form that the
field makes the same value out of (`convert_render`).

**Two ways to be stable.** Some values are rendered as the document they came from: then conversion
runs again as it did (`Stable.of_render_eq`). The others are rendered in a form of their own, which
is read back: a number by its value, an amount without its trailing zeros, an identifier in its
hyphenated spelling, a choice of several options as an array of texts.

**Dates** are read back when their year has four digits, and refused when it does not
(`convert_render_date`). An offset can take a date of the one sort into the other.
-/

namespace Dossier

/-! ## Equality of a document with itself -/

namespace Json

theorem Number.same_refl (n : Number) : n.same n = true := by
  cases n <;> simp [Number.same, Double.sameValue]

mutual

theorem same_refl : (document : Json) → document.same document = true
  | .null => by rw [same]
  | .bool _ => by rw [same]; exact beq_self_eq_true _
  | .number n => by rw [same]; exact n.same_refl
  | .string _ => by rw [same]; exact beq_self_eq_true _
  | .array items => by rw [same]; exact sameItems_refl items
  | .object members => by rw [same]; exact sameMembers_refl members

theorem sameItems_refl : (items : List Json) → sameItems items items = true
  | [] => by rw [sameItems]
  | item :: rest => by rw [sameItems, same_refl item, sameItems_refl rest]; rfl

theorem sameMembers_refl : (members : List (String × Json)) → sameMembers members members = true
  | [] => by rw [sameMembers]
  | (key, member) :: rest => by
    rw [sameMembers, same_refl member, sameMembers_refl rest, beq_self_eq_true]
    rfl

end

end Json

namespace Value

/-- Finite numbers are the same when they have the same value. -/
theorem same_number {a b : Double} (h : a.signedUnits = b.signedUnits) :
    (number (.finite a)).same (number (.finite b)) = true := by
  have hcmp : a.cmp b = .eq := by
    rw [Double.cmp, h]
    exact Std.ReflCmp.compare_self
  simp [same, Binary64.cmp?, hcmp]

end Value

namespace Field

variable {f : Field} {raw : Json} {v : Value}

/-- The field makes the same value out of the document form of a value. -/
def Stable (f : Field) (v : Value) : Prop :=
  ∃ w, f.convert v.render = .ok (some w) ∧ v.same w = true

/-! ## Values rendered as they came -/

theorem Stable.of_render_eq (h : f.convert raw = .ok (some v)) (hraw : v.render = raw)
    (hsame : v.same v = true) : f.Stable v :=
  ⟨v, by rw [hraw, h], hsame⟩

theorem expectText_ok {s : String} (h : f.expectText raw = .ok s) : raw = .string s := by
  cases raw <;> cases h
  rfl

/-- A text that is checked for its form or against the options is kept. -/
theorem render_eq_of_expectForm {form : ExpectedForm} {holds : String → Bool}
    (h : f.expectForm form holds raw = .ok v) : ∃ s, v = .text s ∧ v.render = raw := by
  obtain ⟨s, hs, h⟩ := bind_ok h
  split at h
  · cases h
    exact ⟨s, rfl, (expectText_ok hs).symm⟩
  · cases h

theorem render_eq_of_expectOption (h : f.expectText raw >>= f.expectOption = .ok v) :
    ∃ s, v = .text s ∧ v.render = raw := by
  obtain ⟨s, hs, h⟩ := bind_ok h
  obtain ⟨rfl, -⟩ := expectOption_ok h
  exact ⟨s, rfl, (expectText_ok hs).symm⟩

/-! ## Values rendered in a form of their own -/

theorem convert_of_present (hpresent : f.isAbsent raw = false) (h : f.convertPresent raw = .ok v) :
    f.convert raw = .ok (some v) := by
  rw [convert, hpresent, h]
  rfl

/-- A text that is not empty is a value for every kind. -/
theorem isAbsent_string {s : String} (hs : s ≠ "") : f.isAbsent (.string s) = false := by
  simp [isAbsent, hs]

theorem stable_text (hkind : f.kind = .text ∨ f.kind = .textarea) (s : String) :
    f.Stable (.text s) := by
  refine ⟨.text s, convert_of_present ?_ ?_, Value.same_text s⟩
  · rcases hkind with hkind | hkind <;> simp [Value.render, isAbsent, hkind, FieldKind.keepsEmpty]
  · rcases hkind with hkind | hkind <;> rw [convertPresent, hkind] <;> rfl

theorem stable_number (hkind : f.kind = .number) (d : Double) :
    f.Stable (.number (.finite d)) := by
  obtain ⟨n, e, hrender, hread, hvalue⟩ := renderNumber_toDouble? d
  refine ⟨.number (.finite e), convert_of_present ?_ ?_, Value.same_number hvalue⟩
  · rw [Value.render, hrender]
    rfl
  · simp [convertPresent, hkind, Value.render, hrender, Json.asNumber?, hread, expect, Except.map]

theorem stable_bool (hkind : f.kind = .boolean) (b : Bool) : f.Stable (.bool b) := by
  refine ⟨.bool b, convert_of_present rfl ?_, by simp [Value.same]⟩
  rw [convertPresent, hkind]
  rfl

theorem stable_currency (hkind : f.kind = .currency) (d : Decimal) : f.Stable (.currency d) := by
  refine ⟨.currency d.normalize, convert_of_present ?_ ?_, ?_⟩
  · exact isAbsent_string d.normalize.text_ne_empty
  · have hread : (Value.currency d).render.asAmount? = some d.normalize := by
      rw [Value.render, Json.asAmount?, Decimal.trimBlanks_text, Decimal.read?_text]
    simp [convertPresent, hkind, hread, expect, Except.map]
  · rw [Value.same]
    exact d.sameValue_normalize

theorem expectOption_of_offers {s : String} (h : f.Offers s) :
    f.expectOption s = .ok (.text s) := by
  refine if_pos ?_
  unfold admits
  split
  · rename_i options hoptions
    have hmem := h options hoptions
    cases options <;> simp_all
  · rfl

theorem expectOptions_of_offers {ss : List String} (h : ∀ s ∈ ss, f.Offers s) :
    ((ss.map Json.string).mapM fun item =>
      f.expect (.wrongType .textList) item.text? >>= f.expectOption) = .ok (ss.map .text) := by
  induction ss with
  | nil => rfl
  | cons s ss ih =>
    obtain ⟨hs, hss⟩ := List.forall_mem_cons.1 h
    rw [List.map_cons, List.mapM_cons, ih hss]
    change (f.expectOption s >>= fun value => Except.ok (value :: ss.map Value.text)) = _
    rw [expectOption_of_offers hs]
    rfl

theorem stable_multiselect (hkind : f.kind = .multiselect) {ss : List String}
    (h : ∀ s ∈ ss, f.Offers s) : f.Stable (.list (ss.map .text)) := by
  refine ⟨.list (ss.map .text), convert_of_present rfl ?_, ?_⟩
  · rw [convertPresent, hkind, Value.render, Value.renderItems_texts]
    change Except.map Value.list (List.mapM _ (ss.map Json.string)) = _
    rw [expectOptions_of_offers h]
    rfl
  · rw [Value.same]
    exact Value.sameItems_texts ss

theorem asReference?_render_ref (id : String) : (Value.ref id).render.asReference? = some id := by
  rw [Value.render, Json.asReference?]

theorem stable_lookup (hkind : f.kind = .lookup) (id : Uuid) : f.Stable (.ref id.text) := by
  refine ⟨.ref id.text, convert_of_present (isAbsent_string id.text_ne_empty) ?_, Value.same_ref _⟩
  simp only [convertPresent, hkind, asReference?_render_ref, expect, bind, Except.bind,
    id.read?_text, Except.map]

theorem stable_file (hkind : f.kind = .file ∨ f.kind = .image) {id : String}
    (hid : trimmed id ≠ "") : f.Stable (.ref id) := by
  have hne : id ≠ "" := by
    rintro rfl
    exact hid rfl
  have hblank : (trimmed id).isEmpty = false := by simpa using hid
  refine ⟨.ref id, convert_of_present (isAbsent_string hne) ?_, Value.same_ref _⟩
  rcases hkind with hkind | hkind <;>
    simp [convertPresent, hkind, asReference?_render_ref, expect, bind, Except.bind, hblank]

/-! ## All kinds -/

theorem convert_readable_date (hkind : f.kind = .date) {s : String} {t : Instant}
    (h : Instant.read? s = some t) : f.convert (.string s) = .ok (some (.date t)) := by
  have hne : s ≠ "" := by
    rintro rfl
    cases h
  refine convert_of_present (isAbsent_string hne) ?_
  simp only [convertPresent, hkind, Json.asInstant?, h, expect, Except.map]

/-- **A value that a field made out of a document is stable**, if it is not a date of a year without four
digits. -/
theorem stable_of_convert (h : f.convert raw = .ok (some v))
    (hyear : f.kind = .date → ∀ t, v = .date t → t.InFourDigitYear) : f.Stable v := by
  have hholds := convert_holds h
  have hpresent := (convert_ok h).2
  unfold Holds at hholds
  unfold convertPresent at hpresent
  cases hk : f.kind <;> simp only [hk] at hholds hpresent
  case text =>
    obtain ⟨s, rfl⟩ := hholds
    exact stable_text (.inl hk) s
  case textarea =>
    obtain ⟨s, rfl⟩ := hholds
    exact stable_text (.inr hk) s
  case number =>
    obtain ⟨d, rfl⟩ := hholds
    exact stable_number hk d
  case boolean =>
    obtain ⟨b, rfl⟩ := hholds
    exact stable_bool hk b
  case date =>
    obtain ⟨t, rfl⟩ := hholds
    have hread := t.read?_text
    rw [if_pos (hyear hk t rfl)] at hread
    exact ⟨.date t, convert_readable_date hk hread, by simp [Value.same]⟩
  case email | url | phone =>
    obtain ⟨s, rfl, hraw⟩ := render_eq_of_expectForm hpresent
    exact .of_render_eq h hraw (Value.same_text s)
  case currency =>
    obtain ⟨d, rfl⟩ := hholds
    exact stable_currency hk d
  case select =>
    obtain ⟨s, rfl, hraw⟩ := render_eq_of_expectOption hpresent
    exact .of_render_eq h hraw (Value.same_text s)
  case multiselect =>
    obtain ⟨ss, rfl, hss⟩ := hholds
    exact stable_multiselect hk hss
  case lookup =>
    obtain ⟨id, rfl⟩ := hholds
    exact stable_lookup hk id
  case file =>
    obtain ⟨id, rfl, hid⟩ := hholds
    exact stable_file (.inl hk) hid
  case image =>
    obtain ⟨id, rfl, hid⟩ := hholds
    exact stable_file (.inr hk) hid
  case other =>
    cases hpresent
    exact .of_render_eq h rfl (by rw [Value.same]; exact raw.same_refl)

/-- **What a field made out of a document, it makes out of the document form again**, dates
aside. -/
theorem convert_render (hkind : f.kind ≠ .date) (h : f.convert raw = .ok (some v)) :
    ∃ w, f.convert v.render = .ok (some w) ∧ v.same w = true :=
  stable_of_convert h fun hdate => absurd hdate hkind

/-- An amount that came with a zero at its end is rendered without it and read back by value. -/
theorem trailing_zero_dropped :
    (plain "price" .currency).convert (.string "10.50") =
      .ok (some (.currency ⟨1050, 2, by decide, by decide⟩)) ∧
    ∃ w, (plain "price" .currency).convert
        (Value.currency ⟨1050, 2, by decide, by decide⟩).render = .ok (some w) ∧
      (Value.currency ⟨1050, 2, by decide, by decide⟩).same w = true :=
  have h : (plain "price" .currency).convert (.string "10.50") =
      .ok (some (.currency ⟨1050, 2, by decide, by decide⟩)) := by rfl
  ⟨h, convert_render (by decide) h⟩

/-! ## Dates -/

theorem convert_unreadable_date (hkind : f.kind = .date) {s : String} (hne : s ≠ "")
    (h : Instant.read? s = none) : f.convert (.string s) = .error (.of f (.wrongForm .date)) := by
  rw [convert, isAbsent_string hne]
  simp [convertPresent, hkind, Json.asInstant?, h, expect, Except.map]

/-- **A date that was accepted is read back exactly when its year has four digits.** Any other year
is written with a sign, and a field that holds such a date refuses the document form of it. -/
theorem convert_render_date (hkind : f.kind = .date) {s : String} {t : Instant}
    (h : Instant.read? s = some t) :
    f.convert (.string s) = .ok (some (.date t)) ∧
    Instant.read? t.text = (if t.InFourDigitYear then some t else none) ∧
    f.convert (Value.date t).render =
      if t.InFourDigitYear then .ok (some (.date t)) else .error (.of f (.wrongForm .date)) := by
  have hread := t.read?_text
  refine ⟨convert_readable_date hkind h, hread, ?_⟩
  rw [Value.render]
  split at hread <;> rename_i hyear
  · rw [if_pos hyear, convert_readable_date hkind hread]
  · rw [if_neg hyear, convert_unreadable_date hkind t.text_ne_empty hread]

/-- A leap second in a year of four digits is read back. -/
theorem leap_second_reread :
    (plain "due" .date).convert (.string "2016-12-31T23:59:60.25Z") =
      .ok (some (.date ⟨⟨2016, 12, 31, by decide, by decide, by decide, by decide⟩,
        86399, 1250000000, by decide, by decide⟩)) ∧
    Instant.read? "2016-12-31T23:59:60.250Z" =
      some ⟨⟨2016, 12, 31, by decide, by decide, by decide, by decide⟩,
        86399, 1250000000, by decide, by decide⟩ :=
  have h := convert_render_date (f := plain "due" .date) rfl
    (show Instant.read? "2016-12-31T23:59:60.25Z" = some _ by rfl)
  ⟨h.1, h.2.1⟩

/-- The last second of the year 9999 one minute west of UTC falls into the year 10000, which is
written with a sign and not read. -/
theorem year_ten_thousand_refused : ∃ t, Instant.read? "9999-12-31T23:59:59-00:01" = some t ∧
    t.text = "+10000-01-01T00:00:59Z" ∧ Instant.read? t.text = none :=
  ⟨⟨⟨10000, 1, 1, by decide, by decide, by decide, by decide⟩, 59, 0, by decide, by decide⟩,
    by rfl, by rfl, by rfl⟩

end Field

end Dossier
