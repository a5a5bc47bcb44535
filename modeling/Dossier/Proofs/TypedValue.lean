import Dossier.Service.Payload
import Dossier.Value.Conversion
import Mathlib.Data.List.Forall2

/-!
# Values of the kind of their field

What a field of each kind holds (`Field.Holds`), and that conversion gives nothing else
(`convert_holds`).

**Absence.** A payload clears a field by a document that stands for no value. Such a document is
blank (`isBlank_of_absent`), and a blank document is refused for a required field, so a required
field is never cleared.
-/

namespace Dossier

/-! ## Results -/

section Results

variable {ε α β : Type}

theorem map_ok {g : α → β} {result : Except ε α} {b : β} (h : result.map g = .ok b) :
    ∃ a, result = .ok a ∧ b = g a := by
  cases result with
  | ok a =>
    cases h
    exact ⟨a, rfl, rfl⟩
  | error error => cases h

theorem exists_map_iff {g : α → β} {result : Except ε α} :
    (∃ b, result.map g = .ok b) ↔ ∃ a, result = .ok a := by
  cases result with
  | ok a => exact iff_of_true ⟨g a, rfl⟩ ⟨a, rfl⟩
  | error error => exact iff_of_false nofun nofun

theorem bind_ok {result : Except ε α} {g : α → Except ε β} {b : β} (h : result >>= g = .ok b) :
    ∃ a, result = .ok a ∧ g a = .ok b := by
  cases result with
  | ok a => exact ⟨a, rfl, h⟩
  | error error => cases h

theorem mapM_ok {g : α → Except ε β} {xs : List α} {ys : List β} (h : xs.mapM g = .ok ys) :
    List.Forall₂ (fun x y => g x = .ok y) xs ys := by
  induction xs generalizing ys with
  | nil =>
    cases h
    exact .nil
  | cons x xs ih =>
    rw [List.mapM_cons] at h
    obtain ⟨y, hy, h⟩ := bind_ok h
    obtain ⟨ys', hys, h⟩ := bind_ok h
    cases h
    exact .cons hy (ih hys)

/-- Items that are each converted are converted together. -/
theorem mapM_of_forall₂ {g : α → Except ε β} {xs : List α} {ys : List β}
    (h : List.Forall₂ (fun x y => g x = .ok y) xs ys) : xs.mapM g = .ok ys := by
  induction h with
  | nil => rfl
  | cons hx _ ih =>
    rw [List.mapM_cons, hx, ih]
    rfl

/-- What a converted list holds comes from its items. -/
theorem exists_of_mem_mapM {g : α → Except ε β} {xs : List α} {ys : List β} (h : xs.mapM g = .ok ys)
    {y : β} (hy : y ∈ ys) : ∃ x ∈ xs, g x = .ok y := by
  have hall := mapM_ok h
  clear h
  induction hall with
  | nil => cases hy
  | cons hx _ ih =>
    rcases List.mem_cons.1 hy with rfl | hy
    · exact ⟨_, .head _, hx⟩
    · obtain ⟨x, hmem, hx⟩ := ih hy
      exact ⟨x, .tail _ hmem, hx⟩

/-- Each item of a list that is converted comes out of it. -/
theorem exists_mem_of_mapM {g : α → Except ε β} {xs : List α} {ys : List β} (h : xs.mapM g = .ok ys)
    {x : α} (hx : x ∈ xs) : ∃ y ∈ ys, g x = .ok y := by
  have hall := mapM_ok h
  clear h
  induction hall with
  | nil => cases hx
  | cons hy _ ih =>
    rcases List.mem_cons.1 hx with rfl | hx
    · exact ⟨_, .head _, hy⟩
    · obtain ⟨y, hmem, hy⟩ := ih hx
      exact ⟨y, .tail _ hmem, hy⟩

/-- **A list is converted exactly when each of its items is.** -/
theorem exists_mapM_iff {g : α → Except ε β} {xs : List α} :
    (∃ ys, xs.mapM g = .ok ys) ↔ ∀ x ∈ xs, ∃ y, g x = .ok y := by
  constructor
  · rintro ⟨ys, h⟩ x hx
    obtain ⟨y, -, hy⟩ := exists_mem_of_mapM h hx
    exact ⟨y, hy⟩
  · intro h
    induction xs with
    | nil => exact ⟨[], rfl⟩
    | cons x xs ih =>
      obtain ⟨y, hy⟩ := h x (.head _)
      obtain ⟨ys, hys⟩ := ih fun x hx => h x (.tail _ hx)
      refine ⟨y :: ys, ?_⟩
      rw [List.mapM_cons, hy, hys]
      rfl

end Results

/-! ## Values of a field -/

namespace Field

/-- Where a field declares options, a text is one of them. -/
def Offers (f : Field) (s : String) : Prop :=
  ∀ options, f.options = some options → options ≠ [] → s ∈ options

def Holds (f : Field) (v : Value) : Prop :=
  match f.kind with
  | .text | .textarea => ∃ s, v = .text s
  | .number => ∃ d, v = .number (.finite d)
  | .boolean => ∃ b, v = .bool b
  | .date => ∃ t, v = .date t
  | .email => ∃ s, v = .text s ∧ isEmailAddress s = true
  | .url => ∃ s, v = .text s ∧ isWebAddress s = true
  | .phone => ∃ s, v = .text s ∧ isPhoneNumber s = true
  | .currency => ∃ d, v = .currency d
  | .select => ∃ s, v = .text s ∧ f.Offers s
  | .multiselect => ∃ ss : List String, v = .list (ss.map .text) ∧ ∀ s ∈ ss, f.Offers s
  | .lookup => ∃ id : Uuid, v = .ref id.text
  | .file | .image => ∃ s, v = .ref s ∧ trimmed s ≠ ""
  | .other => ∃ document, v = .json document ∧ document ≠ .null ∧ document ≠ .string ""

variable {f : Field} {raw : Json} {v : Value}

theorem Holds.ne_null (h : f.Holds v) : v ≠ .null := by
  rintro rfl
  unfold Holds at h
  split at h <;> simp at h

/-! ## Parts of a conversion -/

theorem expect_ok {α : Type} {flaw : Flaw} {reading : Option α} {a : α}
    (h : f.expect flaw reading = .ok a) : reading = some a := by
  cases reading with
  | none => cases h
  | some b => cases h; rfl

theorem expectForm_ok {form : ExpectedForm} {holds : String → Bool}
    (h : f.expectForm form holds raw = .ok v) :
    ∃ s, v = .text s ∧ holds s = true := by
  obtain ⟨s, -, h⟩ := bind_ok h
  split at h
  · rename_i hs
    cases h
    exact ⟨s, rfl, hs⟩
  · cases h

theorem offers_of_admits {s : String} (h : f.admits s = true) : f.Offers s := by
  intro options hoptions hne
  unfold admits at h
  rw [hoptions] at h
  simpa [hne] using h

theorem admits_of_offers {s : String} (h : f.Offers s) : f.admits s = true := by
  unfold admits
  cases hoptions : f.options with
  | none => rfl
  | some options =>
    by_cases hempty : options = []
    · simp [hempty]
    · simp [h options hoptions hempty]

theorem expectOption_ok {s : String} (h : f.expectOption s = .ok v) : v = .text s ∧ f.Offers s := by
  unfold expectOption at h
  split at h
  · rename_i hs
    cases h
    exact ⟨rfl, offers_of_admits hs⟩
  · cases h

theorem expectOptions_ok {items : List Json} {vs : List Value}
    (h : items.mapM (fun item => f.expect (.wrongType .textList) item.text? >>= f.expectOption) =
      .ok vs) :
    ∃ ss : List String, vs = ss.map .text ∧ ∀ s ∈ ss, f.Offers s := by
  have hall := mapM_ok h
  clear h
  induction hall with
  | nil => exact ⟨[], rfl, by simp⟩
  | cons hv _ ih =>
    obtain ⟨s, -, hs⟩ := bind_ok hv
    obtain ⟨rfl, hoffers⟩ := expectOption_ok hs
    obtain ⟨ss, rfl, hss⟩ := ih
    exact ⟨s :: ss, rfl, List.forall_mem_cons.2 ⟨hoffers, hss⟩⟩

/-! ## Conversion -/

theorem convertPresent_holds (hpresent : f.isAbsent raw = false)
    (h : f.convertPresent raw = .ok v) :
    f.Holds v := by
  unfold convertPresent at h
  unfold Holds
  cases hkind : f.kind <;> simp only [hkind] at h ⊢
  case text | textarea | number | boolean | date | currency =>
    obtain ⟨a, -, rfl⟩ := map_ok h
    exact ⟨a, rfl⟩
  case email | url | phone => exact expectForm_ok h
  case select =>
    obtain ⟨s, -, h⟩ := bind_ok h
    exact ⟨s, expectOption_ok h⟩
  case multiselect =>
    obtain ⟨vs, hvs, rfl⟩ := map_ok h
    obtain ⟨ss, rfl, hss⟩ := expectOptions_ok hvs
    exact ⟨ss, rfl, hss⟩
  case lookup =>
    obtain ⟨text, -, h⟩ := bind_ok h
    obtain ⟨id, -, rfl⟩ := map_ok h
    exact ⟨id, rfl⟩
  case file | image =>
    obtain ⟨text, -, h⟩ := bind_ok h
    split at h
    · cases h
    · rename_i htext
      cases h
      exact ⟨text, rfl, fun hempty => htext (by rw [hempty]; rfl)⟩
  case other =>
    cases h
    refine ⟨raw, rfl, ?_, ?_⟩
    · rintro rfl
      cases hpresent
    · rintro rfl
      simp [isAbsent, hkind, FieldKind.keepsEmpty] at hpresent

/-- A value comes from a document that is not absent. -/
theorem convert_ok (h : f.convert raw = .ok (some v)) :
    f.isAbsent raw = false ∧ f.convertPresent raw = .ok v := by
  unfold convert at h
  split at h
  · cases h
  · rename_i hpresent
    obtain ⟨value, hvalue, heq⟩ := map_ok h
    cases heq
    exact ⟨by simpa using hpresent, hvalue⟩

/-- A document that is not absent is converted to a value. -/
theorem exists_of_convert {value : Option Value} (hpresent : f.isAbsent raw = false)
    (h : f.convert raw = .ok value) : ∃ v, value = some v := by
  rw [convert, hpresent] at h
  obtain ⟨v, -, rfl⟩ := map_ok h
  exact ⟨v, rfl⟩

/-- **Conversion gives values of the kind of the field.** -/
theorem convert_holds (h : f.convert raw = .ok (some v)) : f.Holds v :=
  convertPresent_holds (convert_ok h).1 (convert_ok h).2

/-- A document that stands for no value is blank. -/
theorem isBlank_of_absent (h : f.convert raw = .ok none) : raw.isBlank = true := by
  unfold convert at h
  split at h
  · rename_i habsent
    unfold isAbsent at habsent
    split at habsent
    · rfl
    · rename_i s
      rw [Bool.and_eq_true] at habsent
      have hempty : s = "" := by simpa using habsent.1
      rw [hempty]
      rfl
    · cases habsent
  · obtain ⟨value, -, heq⟩ := map_ok h
    cases heq

end Field

end Dossier
