import Dossier.Proofs.Origin
import Dossier.Proofs.Rendering
import Dossier.Proofs.Shortest
import Mathlib.Data.List.DropRight

/-!
# Values of required fields

A required field of a stored record always has a value. A payload must not leave it blank, so what is left
is whether a document that is not blank can become a value that is rendered as a blank one.

**Kinds.** Texts are kept as they are. Numbers, amounts, dates and identifiers are written with at least one
character that is not blank; a document that a field keeps is what it was. Only a choice of several options
can come to nothing: a text of commas and blanks is not blank, but names no option
(`Field.blank_of_convert`).

Main result: `World.run_stores_required_values`.
-/

namespace Dossier

/-! ## Blank texts -/

theorem dropBlanks_eq_nil {cs : List Char} : dropBlanks cs = [] ↔ ∀ c ∈ cs, isBlank c = true :=
  List.dropWhile_eq_nil_iff

/-- What is left after the blanks at the front does not begin with one. -/
theorem dropBlanks_blank {cs : List Char} (h : ∀ c ∈ dropBlanks cs, isBlank c = true) :
    dropBlanks cs = [] := by
  have hagain : dropBlanks (dropBlanks cs) = dropBlanks cs := List.dropWhile_idempotent ..
  rw [← hagain]
  exact dropBlanks_eq_nil.2 h

theorem trimBlanks_eq_nil {cs : List Char} : trimBlanks cs = [] ↔ ∀ c ∈ cs, isBlank c = true := by
  rw [trimBlanks, List.reverse_eq_nil_iff, dropBlanks_eq_nil]
  simp only [List.mem_reverse]
  exact ⟨fun h => dropBlanks_eq_nil.1 (dropBlanks_blank h), fun h => by simp [dropBlanks_eq_nil.2 h]⟩

theorem trimmed_eq_empty {s : String} : trimmed s = "" ↔ ∀ c ∈ s.toList, isBlank c = true := by
  rw [← trimBlanks_eq_nil, trimmed, ← String.toList_inj, String.toList_ofList]
  rfl

theorem Json.isBlank_string {s : String} : (Json.string s).isBlank = true ↔ trimmed s = "" := by
  simp [isBlank]

/-- A text with a character that is not blank. -/
theorem Json.not_isBlank_of_mem {s : String} {c : Char} (hmem : c ∈ s.toList)
    (hc : Dossier.isBlank c = false) :
    (Json.string s).isBlank = false := by
  rw [Bool.eq_false_iff]
  intro h
  rw [trimmed_eq_empty.1 (isBlank_string.1 h) c hmem] at hc
  cases hc

theorem Numeral.read?_blank {cs : List Char} (h : ∀ c ∈ cs, isBlank c = true) : read? cs = none := by
  cases cs with
  | nil => rfl
  | cons c rest =>
    have hc := h c List.mem_cons_self
    have hdigit : c.isDigit = false := by
      rw [Bool.eq_false_iff]
      intro hdigit
      rw [isBlank_of_isDigit hdigit] at hc
      cases hc
    have hsign : splitSign (c :: rest) = (false, c :: rest) := by
      unfold splitSign
      split
      · next heq => cases heq; cases hc
      · next heq => cases heq; cases hc
      · rfl
    have hpoint : c ≠ '.' := by
      rintro rfl
      cases hc
    simp [read?, hsign, splitDigits, hdigit, hpoint]

namespace Json

theorem Number.not_blank (n : Number) : (Json.string n.text).isBlank = false := by
  rw [Bool.eq_false_iff]
  intro h
  obtain ⟨m, hread, -⟩ := n.read?_text
  rw [Numeral.read?_blank (trimmed_eq_empty.1 (isBlank_string.1 h))] at hread
  cases hread

/-- A document that is not blank and has no values in it is a text whose parts between commas are blank. -/
theorem splitValues_eq_nil {raw : Json} (hraw : raw.isBlank = false) (h : raw.splitValues = []) :
    ∃ text, raw = .string text ∧ ∀ part ∈ commaSeparated text, trimmed part = "" := by
  cases raw with
  | string text =>
    refine ⟨text, rfl, fun part hpart => ?_⟩
    rw [splitValues, List.map_eq_nil_iff, List.filter_eq_nil_iff] at h
    simpa using h _ (List.mem_map_of_mem hpart)
  | array items =>
    rw [splitValues] at h
    rw [h] at hraw
    cases hraw
  | null => cases hraw
  | bool => cases h
  | number => cases h
  | object => cases h

end Json

/-! ## Values of each kind -/

namespace Field

variable {f : Field} {raw : Json} {v : Value}

/-- A text that a document holds is blank only if the document is. -/
theorem not_blank_of_asText? {s : String} (h : raw.asText? = some s) (hraw : raw.isBlank = false) :
    (Json.string s).isBlank = false := by
  cases raw with
  | string => cases h; exact hraw
  | number n => cases h; exact n.not_blank
  | bool b => cases h; cases b <;> decide
  | null => cases h
  | array => cases h
  | object => cases h

/-- **A document that is not blank becomes a blank value only where it names none of several options.** -/
theorem blank_of_convert (h : f.convert raw = .ok (some v)) (hraw : raw.isBlank = false)
    (hv : v.render.isBlank = true) :
    f.kind = .multiselect ∧ v = .list [] ∧
      ∃ text, raw = .string text ∧ ∀ part ∈ commaSeparated text, trimmed part = "" := by
  have hholds := convert_holds h
  obtain ⟨-, hpresent⟩ := convert_ok h
  unfold Holds at hholds
  unfold convertPresent at hpresent
  cases hk : f.kind <;> simp only [hk] at hholds hpresent
  case text | textarea =>
    obtain ⟨s, hs, rfl⟩ := map_ok hpresent
    have hnot := not_blank_of_asText? (expect_ok hs) hraw
    rw [Value.render, hnot] at hv
    cases hv
  case number =>
    obtain ⟨d, rfl⟩ := hholds
    obtain ⟨n, e, hrender, -⟩ := renderNumber_toDouble? d
    rw [Value.render, hrender] at hv
    cases hv
  case boolean =>
    obtain ⟨b, rfl⟩ := hholds
    cases hv
  case date =>
    obtain ⟨t, rfl⟩ := hholds
    have hlast : 'Z' ∈ t.text.toList := by
      rw [Instant.text, String.toList_ofList]
      exact List.mem_of_getLast? t.getLast?_chars
    rw [Value.render, Json.not_isBlank_of_mem hlast (by decide)] at hv
    cases hv
  case email | url | phone =>
    obtain ⟨s, rfl, rfl⟩ := render_eq_of_expectForm hpresent
    rw [hv] at hraw
    cases hraw
  case currency =>
    obtain ⟨d, rfl⟩ := hholds
    have hempty : trimmed d.normalize.text = "" := Json.isBlank_string.1 hv
    rw [trimmed, Decimal.trimBlanks_text, String.ofList_toList] at hempty
    exact absurd hempty d.normalize.text_ne_empty
  case select =>
    obtain ⟨s, rfl, rfl⟩ := render_eq_of_expectOption hpresent
    rw [hv] at hraw
    cases hraw
  case multiselect =>
    obtain ⟨vs, hvs, rfl⟩ := map_ok hpresent
    obtain rfl : vs = [] := by
      cases vs with
      | nil => rfl
      | cons => cases hv
    have hnone : raw.splitValues = [] := List.forall₂_nil_right_iff.1 (mapM_ok hvs)
    obtain ⟨text, rfl, hparts⟩ := Json.splitValues_eq_nil hraw hnone
    exact ⟨rfl, rfl, text, rfl, hparts⟩
  case lookup =>
    obtain ⟨id, rfl⟩ := hholds
    have hhyphen : '-' ∈ id.text.toList := by simp [Uuid.text, Uuid.chars]
    rw [Value.render, Json.not_isBlank_of_mem hhyphen (by decide)] at hv
    cases hv
  case file | image =>
    obtain ⟨id, rfl, hid⟩ := hholds
    exact absurd (Json.isBlank_string.1 hv) hid
  case other =>
    cases hpresent
    rw [Value.render, hraw] at hv
    cases hv

end Field

/-! ## Stored records -/

namespace World

variable {s : Service}

/-- **Required fields of stored records have values**, in every store that came about through the service,
and the only blank one among them is the choice of no option, which someone asked for by a text of nothing
but commas and blanks. -/
theorem run_stores_required_values (hs : s.schema.Registered) (events : List Event) (id : Uuid)
    (r : Record) (hr : ((quiet .empty).run s events).store.find? id = some r) :
    ∃ entity, s.schema.find r.entity = .ok entity ∧ ∀ f ∈ entity.fields, f.required = true →
      ∃ v, r.data.get? f.name = some v ∧ (v.render.isBlank = true →
        f.kind = .multiselect ∧ v = .list [] ∧ ∃ q text, .arrive q ∈ events ∧
          s.schema.find q.entity = .ok entity ∧ q.Sends f.name (.string text) ∧
          ∀ part ∈ commaSeparated text, trimmed part = "") := by
  obtain ⟨entity, hfind, hfits⟩ := (typed_of_run hs events).typed id r hr
  refine ⟨entity, hfind, fun f hf hrequired => ?_⟩
  obtain ⟨v, hv⟩ := Option.isSome_iff_exists.1 (hfits.required f hf hrequired)
  refine ⟨v, hv, fun hblank => ?_⟩
  obtain ⟨q, raw, hmade⟩ := run_stores_sent_values hs events hr hfind hf hv
  obtain ⟨hkind, hnone, text, rfl, hparts⟩ :=
    Field.blank_of_convert hmade.converts (hmade.present hrequired) hblank
  exact ⟨hkind, hnone, q, text, mem_requests.1 hmade.asked, hmade.find, hmade.sends, hparts⟩

open Sample in
/-- The title of a created task is not blank, since it is a text. -/
theorem created_task_titled : service.schema.Registered ∧ ∃ r v,
    ((quiet .empty).run service creation).store.find? .nil = some r ∧
      r.data.get? "title" = some v ∧ v.render.isBlank = false := by
  have hstored : (((quiet .empty).run service creation).store.find? .nil).any
      (fun r => r.entity == task.name) = true := by
    decide +kernel
  obtain ⟨r, hr, hentity⟩ := (Option.any_eq_true ..).1 hstored
  obtain ⟨entity, hfind, hrequired⟩ := run_stores_required_values registered creation .nil r hr
  rw [eq_of_beq hentity] at hfind
  obtain rfl : task = entity := Except.ok.inj hfind
  obtain ⟨v, hv, hblank⟩ := hrequired _ List.mem_cons_self rfl
  refine ⟨registered, r, v, hr, hv, ?_⟩
  rw [Bool.eq_false_iff]
  intro h
  exact absurd (hblank h).1 (by decide)

end World

namespace Sample

def labelled : Entity :=
  ⟨"task", none, [{ Field.plain "tags" .multiselect with required := true }]⟩

def labelling : Service := { schema := ⟨(∅ : Dict String Entity).insert labelled.name labelled⟩ }

/-- A call that creates a task with a comma for its tags. -/
def unlabelled : List Event :=
  [.arrive ⟨ctx, "task", .create (.object [("tags", .string ",")])⟩, .proceed 0 (surroundings .nil),
    .proceed 0 (surroundings .nil), .proceed 0 (surroundings .nil)]

end Sample

open Sample in
/-- A comma is not blank, but what a required field makes of it is. -/
theorem World.comma_stored_blank : labelling.schema.Registered ∧
    (Json.string ",").isBlank = false ∧
    (((quiet .empty).run labelling unlabelled).store.find? .nil).any (fun r =>
      labelled.fields.any fun f =>
        f.required && (r.data.get? f.name).any fun v => v.render.isBlank) = true :=
  ⟨.register (e := labelled) .empty rfl, by decide, by decide +kernel⟩

end Dossier
