import Dossier.Filter.Sort
import Dossier.Proofs.TypedValue

/-!
# Names in sort orders

The fields of a sort order become identifiers in statements. So a name is to consist of ASCII letters,
digits, underscores and points, at least one of them (`SortSpec.Vetted`).

**Texts and members** are vetted: each name that leaves them has passed the check of names
(`vetted_of_readText`, `vetted_of_readMember`), however the text is cut by commas and blanks.

**Objects in an array** are not. Such an object is read as a structure of a field and a direction, and its
name goes into the sort order as it stands. This is the only way in: a name that is not vetted was given by
such an object, and every such object gets its name in (`vetted_or_givenByObject`).
-/

namespace Dossier

namespace SortSpec

/-- A name of ASCII letters, digits, underscores and points. -/
def Vetted (name : String) : Prop :=
  name ≠ "" ∧ ∀ c ∈ name.toList, c.isAlphanum = true ∨ c = '_' ∨ c = '.'

/-- A specification that is an object among the items of an array. -/
def GivenByObject (document : Json) (spec : SortSpec) : Prop :=
  ∃ items members, document = .array items ∧ .object members ∈ items ∧
    ofJson? (.object members) = some spec

variable {spec : SortSpec} {specs : List SortSpec}

/-! ## The check -/

theorem isNameChar_iff (c : Char) :
    isNameChar c = true ↔ c.isAlphanum = true ∨ c = '_' ∨ c = '.' := by
  simp [isNameChar, or_assoc]

theorem vetted_of_checkField {name : List Char} {field : String} (h : checkField name = .ok field) :
    Vetted field := by
  unfold checkField at h
  by_cases hvalid : (!name.isEmpty && name.all isNameChar) = true
  · rw [if_pos hvalid] at h
    cases h
    simp only [Bool.and_eq_true, Bool.not_eq_true', List.isEmpty_eq_false_iff, List.all_eq_true] at hvalid
    obtain ⟨hne, hall⟩ := hvalid
    refine ⟨?_, ?_⟩
    · intro hempty
      apply hne
      simpa using congrArg String.toList hempty
    · intro c hc
      rw [String.toList_ofList] at hc
      exact (isNameChar_iff c).1 (hall c hc)
  · rw [if_neg hvalid] at h
    cases h

/-! ## The ways of writing a sort order -/

/-- The first word of a part of a text is its field, and passes the check. -/
theorem readPart_ok {part : List Char} (h : readPart part = .ok spec) :
    ∃ word rest, blankSeparated part = word :: rest ∧ checkField word = .ok spec.field := by
  unfold readPart at h
  split at h
  · cases h
  · next word rest hparts =>
    refine ⟨word, rest, hparts, ?_⟩
    cases rest <;>
    · obtain ⟨direction, -, h⟩ := bind_ok h
      split at h
      · cases h
      · obtain ⟨name, hname, h⟩ := bind_ok h
        cases h
        exact hname

theorem vetted_of_readText {s : String} (h : readText s = .ok specs) :
    ∀ spec ∈ specs, Vetted spec.field := by
  intro spec hspec
  obtain ⟨part, -, hpart⟩ := exists_of_mem_mapM h hspec
  obtain ⟨word, rest, -, hword⟩ := readPart_ok hpart
  exact vetted_of_checkField hword

theorem vetted_of_readMember {member : String × Json} (h : readMember member = .ok spec) :
    Vetted spec.field := by
  obtain ⟨direction, -, h⟩ := bind_ok h
  obtain ⟨name, hname, h⟩ := bind_ok h
  cases h
  exact vetted_of_checkField hname

/-- **An object among the items of an array is taken as it stands**, if it is a specification at all. -/
theorem readItem_object {members : List (String × Json)} (h : readItem (.object members) = .ok specs) :
    ∃ spec, ofJson? (.object members) = some spec ∧ specs = [spec] := by
  rw [readItem] at h
  cases hspec : ofJson? (.object members) with
  | none =>
    rw [hspec] at h
    cases h
  | some spec =>
    rw [hspec] at h
    cases h
    exact ⟨spec, rfl, rfl⟩

/-- An item of an array is a text or an object. -/
theorem readItem_cases {item : Json} (h : readItem item = .ok specs) :
    (∃ s, item = .string s ∧ readText s = .ok specs) ∨
      ∃ members spec, item = .object members ∧ ofJson? item = some spec ∧ specs = [spec] := by
  cases item with
  | string s => exact .inl ⟨s, rfl, h⟩
  | object members =>
    obtain ⟨spec, hspec, hspecs⟩ := readItem_object h
    exact .inr ⟨members, spec, rfl, hspec, hspecs⟩
  | null | bool | number | array => cases h

/-! ## Whole documents -/

theorem readAll_array {items : List Json} (h : readAll (.array items) = .ok specs) :
    ∃ groups, items.mapM readItem = .ok groups ∧ specs = groups.flatten := map_ok h

/-- **A name that is not vetted comes from an object in an array, and every such object brings its name
in**, whatever it is. -/
theorem vetted_or_givenByObject {document : Json} (h : readAll document = .ok specs) :
    (∀ spec ∈ specs, Vetted spec.field ∨ GivenByObject document spec) ∧
      ∀ spec, GivenByObject document spec → spec ∈ specs := by
  refine ⟨?_, ?_⟩
  · intro spec hspec
    cases document with
    | null =>
      cases h
      cases hspec
    | string s => exact .inl (vetted_of_readText h spec hspec)
    | object members =>
      obtain ⟨member, -, hmember⟩ := exists_of_mem_mapM h hspec
      exact .inl (vetted_of_readMember hmember)
    | array items =>
      obtain ⟨groups, hgroups, rfl⟩ := readAll_array h
      obtain ⟨group, hgroup, hin⟩ := List.mem_flatten.1 hspec
      obtain ⟨item, hitem, hread⟩ := exists_of_mem_mapM hgroups hgroup
      rcases readItem_cases hread with ⟨s, rfl, htext⟩ | ⟨members, given, rfl, hgiven, rfl⟩
      · exact .inl (vetted_of_readText htext spec hin)
      · obtain rfl := List.mem_singleton.1 hin
        exact .inr ⟨items, members, rfl, hitem, hgiven⟩
    | bool | number => cases h
  · rintro spec ⟨items, members, rfl, hmem, hgiven⟩
    obtain ⟨groups, hgroups, rfl⟩ := readAll_array h
    obtain ⟨group, hgroup, hread⟩ := exists_mem_of_mapM hgroups hmem
    obtain ⟨given, hgiven', rfl⟩ := readItem_object hread
    rw [hgiven] at hgiven'
    cases hgiven'
    exact List.mem_flatten.2 ⟨_, hgroup, List.mem_singleton_self _⟩

/-- An order by the name of a person, and one by a text that is no name. -/
def mixedOrder : Json :=
  .array [.string "name desc", .object [("direction", .string "asc"), ("field", .string "age; drop table x")]]

/-- The order that the two stand for. -/
def mixedSpecs : List SortSpec := [⟨"name", .desc⟩, ⟨"age; drop table x", .asc⟩]

/-- The order is read as the two, of which the second is no vetted name but was given by an object. -/
theorem mixed_order_read : readAll mixedOrder = .ok mixedSpecs ∧
    (∀ spec ∈ mixedSpecs, Vetted spec.field ∨ GivenByObject mixedOrder spec) ∧
    ∀ spec, GivenByObject mixedOrder spec → spec ∈ mixedSpecs := by
  have hread : readAll mixedOrder = .ok mixedSpecs := by decide +kernel
  exact ⟨hread, vetted_or_givenByObject hread⟩

/-- **Not every name that leaves the reader is vetted.** -/
theorem unvetted_name_let_in : ¬∀ (document : Json) (specs : List SortSpec), readAll document = .ok specs →
    ∀ spec ∈ specs, Vetted spec.field := by
  intro hall
  have hread : readAll (.array [.object [("direction", .string "asc"), ("field", .string "name; drop")]]) =
      .ok [⟨"name; drop", .asc⟩] := by decide +kernel
  have hvetted : Vetted "name; drop" := hall _ _ hread ⟨"name; drop", .asc⟩ (.head _)
  exact absurd (hvetted.2 ';' (by decide)) (by decide)

end SortSpec

end Dossier
