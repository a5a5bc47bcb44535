import Dossier.Proofs.Dict
import Dossier.Record.Basic
import Dossier.Schema.Definitions
import Mathlib.Data.List.Nodup
import Mathlib.Tactic.SplitIfs

/-!
# Schemas come about by registration

Every schema starts empty and grows by taking in entities that pass their check
(`Schema.Registered`). So each entity of a schema is found under its own name and is sound
(`Entity.Sound`): its fields have distinct names, none of which belongs to the engine.
-/

namespace Dossier

/-- What the check of a definition establishes. -/
structure Entity.Sound (e : Entity) : Prop where
  identifiers : ∀ f ∈ e.fields, isIdentifier f.name.toList = true
  notSystem : ∀ f ∈ e.fields, isSystemField f.name = false
  distinct : (e.fields.map (·.name)).Nodup
  targets : ∀ f ∈ e.fields, f.kind = .lookup → f.lookup ≠ none

/-! ## The check -/

namespace Entity

theorem checkField_ok {entity : String} {seen : List String} {f : Field}
    (h : checkField entity seen f = .ok ()) :
    isIdentifier f.name.toList = true ∧ isSystemField f.name = false ∧ f.name ∉ seen ∧
      (f.kind = .lookup → f.lookup ≠ none) := by
  unfold checkField at h
  split_ifs at h with h₁ h₂ h₃ h₄
  exact ⟨by simpa using h₁, by simpa using h₂, by simpa using h₃, fun hk hl => h₄ ⟨hk, hl⟩⟩

/-- Fields that pass the check one after the other each pass their own, and no name repeats. -/
theorem checkFields_ok {entity : String} {seen : List String} {fields : List Field}
    (h : checkFields entity seen fields = .ok ()) :
    (∀ f ∈ fields, isIdentifier f.name.toList = true ∧ isSystemField f.name = false ∧
      f.name ∉ seen ∧ (f.kind = .lookup → f.lookup ≠ none)) ∧ (fields.map (·.name)).Nodup := by
  induction fields generalizing seen with
  | nil => simp
  | cons f rest ih =>
    rw [checkFields] at h
    split at h
    · rename_i hf
      obtain ⟨hrest, hnodup⟩ := ih h
      refine ⟨fun g hg => ?_, List.nodup_cons.2 ⟨fun hmem => ?_, hnodup⟩⟩
      · rcases List.mem_cons.1 hg with rfl | hg
        · exact checkField_ok hf
        · obtain ⟨h₁, h₂, h₃, h₄⟩ := hrest g hg
          exact ⟨h₁, h₂, fun hs => h₃ (List.mem_cons_of_mem _ hs), h₄⟩
      · obtain ⟨g, hg, hname⟩ := List.mem_map.1 hmem
        exact (hrest g hg).2.2.1 (hname ▸ List.mem_cons_self)
    · cases h

theorem sound_of_check {e : Entity} (h : e.check = .ok ()) : e.Sound := by
  unfold check at h
  split_ifs at h
  obtain ⟨hf, hnodup⟩ := checkFields_ok h
  exact ⟨fun f hm => (hf f hm).1, fun f hm => (hf f hm).2.1, hnodup, fun f hm => (hf f hm).2.2.2⟩

theorem mem_of_find? {e : Entity} {name : String} {f : Field} (h : e.find? name = some f) :
    f ∈ e.fields ∧ f.name = name :=
  ⟨List.mem_of_find?_eq_some h, by simpa using List.find?_some h⟩

/-- A declared field is the one found under its name. -/
theorem Sound.find?_name {e : Entity} (he : e.Sound) {f : Field} (hf : f ∈ e.fields) :
    e.find? f.name = some f := by
  obtain ⟨g, hg⟩ : ∃ g, e.find? f.name = some g := by
    have : (e.find? f.name).isSome := List.find?_isSome.2 ⟨f, hf, by simp⟩
    exact Option.isSome_iff_exists.1 this
  obtain ⟨hmem, hname⟩ := mem_of_find? hg
  rw [hg, List.inj_on_of_nodup_map he.distinct hmem hf hname]

end Entity

/-! ## Registration -/

/-- Schemas that come about by taking in entities. -/
inductive Schema.Registered : Schema → Prop
  | empty : Registered .empty
  | register {s s' : Schema} {e : Entity} : Registered s → s.register e = .ok s' → Registered s'

namespace Schema

theorem register_ok {s s' : Schema} {e : Entity} (h : s.register e = .ok s') :
    e.check = .ok () ∧ s.entities.get? e.name = none ∧ s' = ⟨s.entities.insert e.name e⟩ := by
  unfold register at h
  split at h
  · cases h
  · rename_i hcheck
    split_ifs at h with hnew
    cases h
    exact ⟨hcheck, by simpa [Dict.contains] using hnew, rfl⟩

theorem find_eq_ok {s : Schema} {name : String} {e : Entity} :
    s.find name = .ok e ↔ s.entities.get? name = some e := by
  unfold find
  split <;> rename_i heq <;> simp [heq]

/-- **Each entity of a schema is found under its own name, and is sound.** -/
theorem Registered.sound {s : Schema} (hs : s.Registered) {name : String} {e : Entity}
    (h : s.find name = .ok e) : e.name = name ∧ e.Sound := by
  rw [find_eq_ok] at h
  induction hs with
  | empty => cases h
  | register _ hreg ih =>
    obtain ⟨hcheck, -, rfl⟩ := register_ok hreg
    rw [Dict.get?_insert] at h
    split_ifs at h with hname
    · cases h
      exact ⟨hname.symm, Entity.sound_of_check hcheck⟩
    · exact ih h

theorem Registered.name_eq {s : Schema} (hs : s.Registered) {name : String} {e : Entity}
    (h : s.find name = .ok e) : e.name = name :=
  (hs.sound h).1

/-- An entity that a schema knows is found under its name. -/
theorem Registered.find_name {s : Schema} (hs : s.Registered) {name : String} {e : Entity}
    (h : s.find name = .ok e) : s.find e.name = .ok e :=
  (hs.name_eq h).symm ▸ h

theorem Registered.registerAll {s s' : Schema} (hs : s.Registered) {entities : List Entity}
    (h : s.registerAll entities = .ok s') : s'.Registered := by
  induction entities generalizing s with
  | nil =>
    cases h
    exact hs
  | cons e rest ih =>
    rw [Schema.registerAll] at h
    cases hreg : s.register e with
    | error error =>
      rw [hreg] at h
      cases h
    | ok after =>
      rw [hreg] at h
      exact ih (.register hs hreg) h

/-- The schema that a text defines is made by registration. -/
theorem registered_ofYaml {text : String} {s : Schema} (h : ofYaml text = .ok s) :
    s.Registered := by
  unfold ofYaml at h
  split at h
  · exact Registered.empty.registerAll h
  · cases h

end Schema

end Dossier
