import Dossier.Proofs.Dict
import Dossier.Proofs.Rendering
import Dossier.Record.Diff

/-!
# Change lists are patches

A change list can be applied to an object: an addition or a modification sets the field, a removal
takes it away (`replay`). This is how an audit trail is read.

**One list** (`get?_replay_between`). The list of the differences of two objects sets the fields in which
they differ to what the second one has, and leaves all others alone.

**Versions** (`Record.ShownBy.changes`). A call lists the changes from the copy that it has read to the
record that it has written; between the two, others may have written. The list still takes an object that
shows the record just before the write to one that shows it just after, unless the write has set a
field back to what the copy holds (`Record.overlooked`): such a field is changed and not listed.

Values are compared as documents are (`Json.same`), so `0` and `-0` count as one number.
-/

namespace Dossier

/-! ## Comparing documents -/

namespace Json

theorem Number.same_trans {a b c : Number} (hab : a.same b = true) (hbc : b.same c = true) :
    a.same c = true := by
  cases a <;> cases b <;> cases c <;>
    simp_all [Number.same, Double.sameValue]

mutual

theorem same_trans {b c : Json} : (a : Json) → a.same b = true → b.same c = true → a.same c = true
  | .null, hab, hbc => by
    cases b <;> simp [same] at hab
    exact hbc
  | .bool x, hab, hbc => by
    cases b <;> simp [same] at hab
    subst hab
    exact hbc
  | .number x, hab, hbc => by
    cases b <;> simp [same] at hab
    cases c <;> simp [same] at hbc
    simpa [same] using Number.same_trans hab hbc
  | .string x, hab, hbc => by
    cases b <;> simp [same] at hab
    subst hab
    exact hbc
  | .array items, hab, hbc => by
    cases b <;> simp [same] at hab
    cases c <;> simp [same] at hbc
    simpa [same] using sameItems_trans items hab hbc
  | .object members, hab, hbc => by
    cases b <;> simp [same] at hab
    cases c <;> simp [same] at hbc
    simpa [same] using sameMembers_trans members hab hbc

theorem sameItems_trans {bs cs : List Json} : (as : List Json) → sameItems as bs = true →
    sameItems bs cs = true → sameItems as cs = true
  | [], hab, hbc => by
    cases bs <;> simp [sameItems] at hab
    exact hbc
  | a :: as, hab, hbc => by
    cases bs <;> simp [sameItems] at hab
    cases cs <;> simp [sameItems] at hbc
    simpa [sameItems] using ⟨same_trans a hab.1 hbc.1, sameItems_trans as hab.2 hbc.2⟩

theorem sameMembers_trans {bs cs : List (String × Json)} : (as : List (String × Json)) →
    sameMembers as bs = true → sameMembers bs cs = true → sameMembers as cs = true
  | [], hab, hbc => by
    cases bs <;> simp [sameMembers] at hab
    exact hbc
  | (key, a) :: as, hab, hbc => by
    cases bs <;> simp [sameMembers] at hab
    cases cs <;> simp [sameMembers] at hbc
    simpa [sameMembers] using ⟨⟨hab.1.1.trans hbc.1.1, same_trans a hab.1.2 hbc.1.2⟩,
      sameMembers_trans as hab.2 hbc.2⟩

end

end Json

namespace Change

theorem between_self (value : Option Json) : between value value = none := by
  cases value with
  | none => rfl
  | some value => rw [between, value.same_refl, if_pos rfl]

/-- No change, and again no change. -/
theorem between_trans {a b c : Option Json} (hab : between a b = none) (hbc : between b c = none) :
    between a c = none := by
  cases a with
  | none =>
    cases b with
    | none => exact hbc
    | some y => cases hab
  | some x =>
    cases b with
    | none => cases hab
    | some y =>
      cases c with
      | none => cases hbc
      | some z =>
        rw [between, ite_eq_left_iff] at hab hbc ⊢
        have hsame := Json.same_trans x (by simpa using hab) (by simpa using hbc)
        exact fun hne => absurd hsame hne

theorem new?_between {old new : Option Json} {change : Change} (h : between old new = some change) :
    change.new? = new := by
  cases old <;> cases new <;> simp only [between] at h
  · cases h
  · cases h
    rfl
  · cases h
    rfl
  · split at h
    · cases h
    · cases h
      rfl

end Change

theorem Dict.nodup_keys {κ α : Type} [Ord κ] [Std.LawfulEqOrd κ] (d : Dict κ α) : d.keys.Nodup := by
  unfold Dict.keys List.Nodup
  rw [List.pairwise_map]
  exact d.sorted.imp fun h => Entries.ne_of_compare_ne (by simp [h])

/-! ## Replaying -/

/-- An object after a change of one of its fields. -/
def FieldChange.apply (object : Dict String Json) (c : FieldChange) : Dict String Json :=
  match c.change.new? with
  | some value => object.insert c.field value
  | none => object.erase c.field

/-- An object after some changes, one after the other. -/
def replay (changes : List FieldChange) (object : Dict String Json) : Dict String Json :=
  changes.foldl FieldChange.apply object

theorem FieldChange.get?_apply (object : Dict String Json) (c : FieldChange) (field : String) :
    (c.apply object).get? field = if field = c.field then c.change.new? else object.get? field := by
  unfold apply
  cases c.change.new? with
  | some value => exact Dict.get?_insert ..
  | none => exact Dict.get?_erase ..

theorem replay_append (earlier later : List FieldChange) (object : Dict String Json) :
    replay (earlier ++ later) object = replay later (replay earlier object) := List.foldl_append

/-- **A list of differences sets what differs and leaves the rest.** -/
theorem get?_replay_between (before after : String → Option Json) {names : List String}
    (hnames : names.Nodup) (object : Dict String Json) (field : String) :
    (replay (names.filterMap fun name =>
        (Change.between (before name) (after name)).map (⟨name, ·⟩)) object).get? field =
      if field ∈ names ∧ Change.between (before field) (after field) ≠ none then after field
      else object.get? field := by
  induction names generalizing object with
  | nil => simp [replay]
  | cons name rest ih =>
    obtain ⟨hnot, hrest⟩ := List.nodup_cons.1 hnames
    cases hchange : Change.between (before name) (after name) with
    | none =>
      rw [List.filterMap_cons, hchange, Option.map_none]
      dsimp only
      rw [ih hrest]
      by_cases hfield : field = name
      · subst hfield
        simp [hchange, hnot]
      · simp [hfield]
    | some change =>
      rw [List.filterMap_cons, hchange, Option.map_some]
      dsimp only
      rw [replay, List.foldl_cons]
      show (replay _ _).get? field = _
      rw [ih hrest, FieldChange.get?_apply, Change.new?_between hchange]
      by_cases hfield : field = name
      · subst hfield
        simp [hchange, hnot]
      · simp [hfield]

/-! ## Versions of a record -/

namespace Record

variable {copy before after : Record} {object : Dict String Json}

theorem mem_fieldNames {field : String} : field ∈ fieldNames before after ↔
    (before.data.get? field).isSome ∨ (after.data.get? field).isSome := by
  rw [fieldNames, Dict.mem_keys, Dict.exists_get?_ofList]
  simp [Option.isSome_iff_exists, Dict.mem_keys]

theorem get?_dataMembers (r : Record) (field : String) :
    r.dataMembers.get? field = (r.data.get? field).map Value.render :=
  Dict.get?_mapEntries ..

/-- An object that shows the data of a record and its mark of deletion; without a mark it shows a
live record. -/
structure ShownBy (r : Record) (object : Dict String Json) : Prop where
  data : ∀ field, field ≠ "deleted" →
    Change.between (object.get? field) (r.dataMembers.get? field) = none
  deleted : (object.get? "deleted").getD (.bool false) = .bool r.deleted

/-- The fields that a write changes and whose change is not seen from a copy of the record. -/
def overlooked (copy before after : Record) : List String :=
  (fieldNames before after).filter fun field =>
    (Change.between (before.dataMembers.get? field) (after.dataMembers.get? field)).isSome &&
      (Change.between (copy.dataMembers.get? field) (after.dataMembers.get? field)).isNone

theorem between_of_overlooked (h : overlooked copy before after = []) {field : String}
    (hsame : Change.between (copy.dataMembers.get? field) (after.dataMembers.get? field) = none) :
    Change.between (before.dataMembers.get? field) (after.dataMembers.get? field) = none := by
  by_cases hname : field ∈ fieldNames before after
  · have hfield := List.filter_eq_nil_iff.1 h field hname
    simpa [hsame] using hfield
  · rw [mem_fieldNames, not_or, Option.not_isSome_iff_eq_none, Option.not_isSome_iff_eq_none] at hname
    rw [get?_dataMembers, get?_dataMembers, hname.1, hname.2]
    rfl

/-- What a change list makes of an object: the fields that differ are set, the others are left, and
the mark of deletion is set if it differs. -/
theorem get?_replay_changes (copy after : Record) (object : Dict String Json) (field : String) :
    (replay (copy.changes after) object).get? field =
      if field = "deleted" ∧ copy.deleted ≠ after.deleted then some (.bool after.deleted)
      else if Change.between (copy.dataMembers.get? field) (after.dataMembers.get? field) = none then
        object.get? field
      else after.dataMembers.get? field := by
  have hdata := get?_replay_between copy.dataMembers.get? after.dataMembers.get?
    (show (fieldNames copy after).Nodup from Dict.nodup_keys _) object field
  have hmark (object : Dict String Json) : (replay (copy.deletionChange after) object).get? field =
      if field = "deleted" ∧ copy.deleted ≠ after.deleted then some (.bool after.deleted)
      else object.get? field := by
    unfold deletionChange
    by_cases hsame : copy.deleted = after.deleted
    · simp [hsame, replay]
    · rw [if_neg hsame, replay, List.foldl_cons, List.foldl_nil, FieldChange.get?_apply]
      simp [hsame, Change.new?]
  rw [changes, replay_append, hmark, hdata]
  congr 1
  by_cases hname : field ∈ fieldNames copy after
  · simp [hname]
  · have hnone := hname
    rw [mem_fieldNames, not_or, Option.not_isSome_iff_eq_none, Option.not_isSome_iff_eq_none] at hnone
    simp [hname, get?_dataMembers, hnone, Change.between]

/-- **The changes from a copy take an object that shows the record just before a write to one that
shows it just after**, if the write overlooks nothing. -/
theorem ShownBy.changes (h : before.ShownBy object) (hdeleted : copy.deleted = before.deleted)
    (hoverlooked : overlooked copy before after = []) (hcopy : copy.data.get? "deleted" = none)
    (hafter : after.data.get? "deleted" = none) :
    after.ShownBy (replay (copy.changes after) object) where
  data field hfield := by
    rw [get?_replay_changes, if_neg fun h => hfield h.1]
    split
    · rename_i hsame
      exact Change.between_trans (h.data field hfield) (between_of_overlooked hoverlooked hsame)
    · exact Change.between_self _
  deleted := by
    rw [get?_replay_changes, get?_dataMembers, get?_dataMembers, hcopy, hafter]
    by_cases hmark : copy.deleted = after.deleted
    · rw [if_neg fun h => h.2 hmark, ← hmark, hdeleted]
      exact h.deleted
    · rw [if_pos ⟨rfl, hmark⟩]
      rfl

/-- The additions of a new record are the differences from nothing at all. -/
theorem replay_additions (r : Record) : replay r.additions ∅ = r.dataMembers := by
  have hadditions : r.additions = r.dataMembers.keys.filterMap fun name =>
      (Change.between none (r.dataMembers.get? name)).map (⟨name, ·⟩) := by
    rw [additions, Dict.keys, List.filterMap_map, ← List.filterMap_eq_map]
    refine List.filterMap_congr fun entry hentry => ?_
    simp [Dict.mem_entries.1 hentry, Change.between]
  refine Dict.ext fun field => ?_
  rw [hadditions, get?_replay_between (fun _ => none) _ (Dict.nodup_keys _)]
  cases hvalue : r.dataMembers.get? field with
  | none => simp [Change.between]
  | some value => simp [Change.between, Dict.mem_keys, hvalue]

/-- The additions of a new record show it. -/
theorem shownBy_additions {r : Record} (hlive : r.deleted = false)
    (hdata : r.data.get? "deleted" = none) : r.ShownBy (replay r.additions ∅) := by
  rw [replay_additions]
  refine ⟨fun field _ => Change.between_self _, ?_⟩
  rw [get?_dataMembers, hdata, hlive]
  rfl

end Record

end Dossier
