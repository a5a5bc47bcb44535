import Dossier.Proofs.Patch
import Dossier.Proofs.TextOrder

/-!
# What a list of changes says

The changes from one version of a record to another are read in both directions: forward, each sets its
field to the new value (`replay`), and backward, each sets it to the old one (`rewind`). Where there is no
such value the field is taken away.

**What is shown** (`Record.shown`). A version shows its data and its mark of deletion. The mark has a name
of its own as long as no data field is called so.

**What is listed** (`Record.mem_changes_iff`). A field is listed just when one version shows it and the other
does not, or both show it and not the same, and the entry says which of these it is.

As each field is listed once, a walk through the list leaves in each listed field what its entry says
(`get?_foldl_of_nodup`), and the versions agree in all others.

Main result: `Record.changes_exact`.
-/

namespace Dossier

/-! ## Objects -/

/-- Two objects are the same document. -/
def Dict.Same (object other : Dict String Json) : Prop :=
  (Json.object object.entries).same (.object other.entries) = true

theorem Json.between_of_sameMembers {as bs : List (String × Json)} (h : sameMembers as bs = true)
    (key : String) : Change.between (Entries.get? key as) (Entries.get? key bs) = none := by
  induction as generalizing bs with
  | nil =>
    cases bs with
    | nil => rfl
    | cons b bs => cases h
  | cons a as ih =>
    cases bs with
    | nil => cases h
    | cons b bs =>
      obtain ⟨k, a⟩ := a
      obtain ⟨l, b⟩ := b
      rw [sameMembers, Bool.and_eq_true, Bool.and_eq_true, beq_iff_eq] at h
      obtain ⟨⟨rfl, hsame⟩, hrest⟩ := h
      rw [Entries.get?, Entries.get?]
      split
      · rw [Change.between, if_pos hsame]
      · exact ih hrest

theorem Json.sameMembers_of_between {as bs : List (String × Json)}
    (hkeys : as.map (·.1) = bs.map (·.1)) (hnodup : (as.map (·.1)).Nodup)
    (h : ∀ key ∈ as.map (·.1), Change.between (Entries.get? key as) (Entries.get? key bs) = none) :
    sameMembers as bs = true := by
  induction as generalizing bs with
  | nil =>
    cases bs with
    | nil => rfl
    | cons b bs => cases hkeys
  | cons a as ih =>
    cases bs with
    | nil => cases hkeys
    | cons b bs =>
      obtain ⟨k, a⟩ := a
      obtain ⟨l, b⟩ := b
      obtain ⟨rfl, htail⟩ := List.cons.inj hkeys
      obtain ⟨hnew, hnodup⟩ := List.nodup_cons.1 hnodup
      have hhead := h k List.mem_cons_self
      have hsame : a.same b = true := by simpa [Entries.get?, Change.between] using hhead
      rw [sameMembers, hsame, beq_self_eq_true, ih htail hnodup fun key hkey => ?_]
      · rfl
      · have hne : key ≠ k := ne_of_mem_of_not_mem hkey hnew
        simpa [Entries.get?, hne] using h key (List.mem_cons_of_mem _ hkey)

/-- Objects are the same when each field is in both of them, and there the same, or in neither. -/
theorem Dict.same_iff {object other : Dict String Json} :
    object.Same other ↔ ∀ field, Change.between (object.get? field) (other.get? field) = none := by
  unfold Same
  rw [Json.same]
  constructor
  · exact Json.between_of_sameMembers
  · intro h
    have hkeys : object.keys = other.keys := Dict.keys_eq fun field => by
      have hfield := h field
      generalize object.get? field = value at hfield ⊢
      generalize other.get? field = value' at hfield ⊢
      cases value <;> cases value' <;> first | rfl | cases hfield
    exact Json.sameMembers_of_between hkeys object.nodup_keys fun field _ => h field

/-! ## Single changes -/

namespace Change

/-- A change says how a field differs that has a value before, or none, and a value after, or none. -/
inductive Tells : Option Json → Option Json → Change → Prop
  | added (new : Json) : Tells none (some new) (.added new)
  | removed (old : Json) : Tells (some old) none (.removed old)
  | modified {old new : Json} (differ : old.same new = false) :
      Tells (some old) (some new) (.modified old new)

variable {old new : Option Json} {change : Change}

theorem between_eq_some : between old new = some change ↔ Tells old new change := by
  constructor
  · intro h
    cases old <;> cases new <;> simp only [between] at h
    · cases h
    · cases h
      exact .added _
    · cases h
      exact .removed _
    · split at h
      · cases h
      · rename_i hdiffer
        cases h
        exact .modified (by simpa using hdiffer)
  · rintro (new | old | hdiffer)
    · rfl
    · rfl
    · simp [between, hdiffer]

theorem Tells.new? (h : Tells old new change) : change.new? = new := by cases h <;> rfl

theorem Tells.old? (h : Tells old new change) : change.old? = old := by cases h <;> rfl

end Change

/-! ## Walks through a list -/

/-- An object before a change of one of its fields. -/
def FieldChange.undo (object : Dict String Json) (c : FieldChange) : Dict String Json :=
  match c.change.old? with
  | some value => object.insert c.field value
  | none => object.erase c.field

/-- An object before some changes, the last of which is taken back first. -/
def rewind (changes : List FieldChange) (object : Dict String Json) : Dict String Json :=
  changes.foldr (fun c object => c.undo object) object

theorem FieldChange.get?_undo (object : Dict String Json) (c : FieldChange) (field : String) :
    (c.undo object).get? field = if field = c.field then c.change.old? else object.get? field := by
  unfold undo
  cases c.change.old? with
  | some value => exact Dict.get?_insert ..
  | none => exact Dict.get?_erase ..

/-- A walk through changes of different fields leaves in each field what its change says, and the others
as they are. -/
theorem get?_foldl_of_nodup {step : Dict String Json → FieldChange → Dict String Json}
    {value : Change → Option Json}
    (hstep : ∀ object c field, (step object c).get? field =
      if field = c.field then value c.change else object.get? field)
    {changes : List FieldChange} (hnodup : (changes.map (·.field)).Nodup) (object : Dict String Json)
    (field : String) :
    (∃ change, ⟨field, change⟩ ∈ changes ∧ (changes.foldl step object).get? field = value change) ∨
      (∀ change, ⟨field, change⟩ ∉ changes) ∧
        (changes.foldl step object).get? field = object.get? field := by
  induction changes generalizing object with
  | nil => exact .inr ⟨nofun, rfl⟩
  | cons c rest ih =>
    obtain ⟨hnew, hrest⟩ := List.nodup_cons.1 hnodup
    rcases ih hrest (step object c) with ⟨change, hmem, hvalue⟩ | ⟨hnone, hvalue⟩
    · exact .inl ⟨change, List.mem_cons_of_mem _ hmem, hvalue⟩
    · rw [hstep] at hvalue
      by_cases hfield : field = c.field
      · subst hfield
        rw [if_pos rfl] at hvalue
        exact .inl ⟨c.change, List.mem_cons_self, hvalue⟩
      · rw [if_neg hfield] at hvalue
        refine .inr ⟨fun change hmem => ?_, hvalue⟩
        rcases List.mem_cons.1 hmem with rfl | hmem
        · exact hfield rfl
        · exact hnone change hmem

/-! ## Versions -/

namespace Record

/-- What a version of a record shows: its data and its mark of deletion. -/
def shown (r : Record) : Dict String Json := r.dataMembers.insert "deleted" (.bool r.deleted)

variable {before after : Record}

theorem get?_shown (r : Record) (field : String) : r.shown.get? field =
    if field = "deleted" then some (.bool r.deleted) else r.dataMembers.get? field :=
  Dict.get?_insert ..

theorem mem_dataChanges_iff {field : String} {change : Change} :
    (⟨field, change⟩ : FieldChange) ∈ (fieldNames before after).filterMap (fun field =>
        (Change.between (before.dataMembers.get? field) (after.dataMembers.get? field)).map
          fun change => (⟨field, change⟩ : FieldChange)) ↔
      Change.Tells (before.dataMembers.get? field) (after.dataMembers.get? field) change := by
  simp only [List.mem_filterMap, Option.map_eq_some_iff, FieldChange.mk.injEq, Change.between_eq_some]
  constructor
  · rintro ⟨_, -, _, htells, rfl, rfl⟩
    exact htells
  · intro htells
    refine ⟨field, ?_, change, htells, rfl, rfl⟩
    rw [mem_fieldNames]
    rw [get?_dataMembers, get?_dataMembers] at htells
    cases hbefore : before.data.get? field with
    | some value => exact .inl rfl
    | none =>
      cases hafter : after.data.get? field with
      | some value => exact .inr rfl
      | none =>
        rw [hbefore, hafter] at htells
        cases htells

/-- The fields of a list, in its order: those of the data, and the mark of deletion if it has changed. -/
theorem map_field_changes (before after : Record) : ∃ names : List String,
    (before.changes after).map (·.field) =
        names ++ (if before.deleted = after.deleted then [] else ["deleted"]) ∧
      names.Sublist (fieldNames before after) := by
  refine ⟨(fieldNames before after).filter fun field =>
    (Change.between (before.dataMembers.get? field) (after.dataMembers.get? field)).isSome, ?_,
    List.filter_sublist⟩
  rw [changes, List.map_append]
  congr 1
  · rw [List.map_filterMap, ← List.filterMap_eq_filter]
    refine List.filterMap_congr fun field _ => ?_
    rw [Option.guard]
    cases Change.between (before.dataMembers.get? field) (after.dataMembers.get? field) <;> rfl
  · unfold deletionChange
    split <;> rfl

section Unmarked

variable (hbefore : before.data.get? "deleted" = none) (hafter : after.data.get? "deleted" = none)

include hbefore hafter

theorem ne_deleted_of_mem_fieldNames {field : String} (h : field ∈ fieldNames before after) :
    field ≠ "deleted" := by
  rintro rfl
  rw [mem_fieldNames, hbefore, hafter] at h
  simp at h

/-- **A field is listed just when the versions show it differently**, and as what it is. -/
theorem mem_changes_iff {field : String} {change : Change} :
    ⟨field, change⟩ ∈ before.changes after ↔
      Change.Tells (before.shown.get? field) (after.shown.get? field) change := by
  rw [changes, List.mem_append, mem_dataChanges_iff, get?_shown, get?_shown]
  by_cases hfield : field = "deleted"
  · subst hfield
    rw [get?_dataMembers, get?_dataMembers, hbefore, hafter, if_pos rfl, if_pos rfl, deletionChange]
    constructor
    · rintro (h | h)
      · cases h
      · split at h
        · cases h
        · rename_i hdiffer
          cases List.mem_singleton.1 h
          exact .modified (by simpa [Json.same] using hdiffer)
    · rintro (_ | _ | hdiffer)
      have hdiffer : before.deleted ≠ after.deleted := by simpa [Json.same] using hdiffer
      rw [if_neg hdiffer]
      exact .inr List.mem_cons_self
  · rw [if_neg hfield, if_neg hfield, deletionChange]
    refine or_iff_left fun h => ?_
    split at h
    · cases h
    · cases List.mem_singleton.1 h
      exact hfield rfl

theorem nodup_changes : ((before.changes after).map (·.field)).Nodup := by
  obtain ⟨names, hmap, hnames⟩ := map_field_changes before after
  rw [hmap]
  refine List.nodup_append.2 ⟨hnames.nodup (Dict.nodup_keys _), by split <;> simp, ?_⟩
  intro field hfield last hlast
  split at hlast
  · cases hlast
  · rw [List.mem_singleton.1 hlast]
    exact ne_deleted_of_mem_fieldNames hbefore hafter (hnames.subset hfield)

/-- A field that is not listed is the same in both versions. -/
theorem between_shown_of_notMem {field : String}
    (h : ∀ change, ⟨field, change⟩ ∉ before.changes after) :
    Change.between (before.shown.get? field) (after.shown.get? field) = none := by
  cases hchange : Change.between (before.shown.get? field) (after.shown.get? field) with
  | none => rfl
  | some change =>
    exact absurd ((mem_changes_iff hbefore hafter).2 (Change.between_eq_some.1 hchange)) (h change)

theorem same_replay_changes : (replay (before.changes after) before.shown).Same after.shown := by
  refine Dict.same_iff.2 fun field => ?_
  rcases get?_foldl_of_nodup FieldChange.get?_apply (nodup_changes hbefore hafter) before.shown field with
    ⟨change, hmem, hvalue⟩ | ⟨hnone, hvalue⟩
  · rw [replay, hvalue, ((mem_changes_iff hbefore hafter).1 hmem).new?, Change.between_self]
  · rw [replay, hvalue]
    exact between_shown_of_notMem hbefore hafter hnone

theorem same_rewind_changes : before.shown.Same (rewind (before.changes after) after.shown) := by
  refine Dict.same_iff.2 fun field => ?_
  have hnodup : ((before.changes after).reverse.map (·.field)).Nodup := by
    rw [List.map_reverse]
    exact (List.reverse_perm _).nodup_iff.2 (nodup_changes hbefore hafter)
  rw [rewind, ← List.foldl_reverse]
  rcases get?_foldl_of_nodup FieldChange.get?_undo hnodup after.shown field with
    ⟨change, hmem, hvalue⟩ | ⟨hnone, hvalue⟩
  · rw [hvalue, ((mem_changes_iff hbefore hafter).1 (List.mem_reverse.1 hmem)).old?, Change.between_self]
  · rw [hvalue]
    exact between_shown_of_notMem hbefore hafter fun change hmem =>
      hnone change (List.mem_reverse.2 hmem)

/-- Versions that show the same have the same data and the same mark. -/
theorem same_shown_iff : before.shown.Same after.shown ↔
    before.dataMembers.Same after.dataMembers ∧ before.deleted = after.deleted := by
  have hmark : Change.between (some (.bool before.deleted)) (some (.bool after.deleted)) = none ↔
      before.deleted = after.deleted := by
    cases before.deleted <;> cases after.deleted <;> simp [Change.between, Json.same]
  simp only [Dict.same_iff, get?_shown]
  constructor
  · intro h
    refine ⟨fun field => ?_, hmark.1 (h "deleted")⟩
    by_cases hfield : field = "deleted"
    · rw [hfield, get?_dataMembers, get?_dataMembers, hbefore, hafter]
      rfl
    · simpa only [if_neg hfield] using h field
  · rintro ⟨hdata, hdeleted⟩ field
    split
    · exact hmark.2 hdeleted
    · exact hdata field

theorem changes_eq_nil_iff : before.changes after = [] ↔
    before.dataMembers.Same after.dataMembers ∧ before.deleted = after.deleted := by
  rw [← same_shown_iff hbefore hafter]
  constructor
  · intro h
    have hsame := same_replay_changes hbefore hafter
    rwa [h] at hsame
  · intro h
    rw [List.eq_nil_iff_forall_not_mem]
    rintro ⟨field, change⟩ hmem
    have hchange := Change.between_eq_some.2 ((mem_changes_iff hbefore hafter).1 hmem)
    rw [Dict.same_iff.1 h field] at hchange
    cases hchange

end Unmarked

/-! ## Lists of changes -/

/-- A list says exactly what changes from one version of a record to another. -/
structure Exact (before after : Record) (changes : List FieldChange) : Prop where
  /-- Forward, the list makes the version after out of the one before. -/
  forward : (replay changes before.shown).Same after.shown
  /-- Backward, it makes the version before out of the one after. -/
  backward : before.shown.Same (rewind changes after.shown)
  /-- No field is listed twice. -/
  once : (changes.map (·.field)).Nodup
  /-- Fields of the data stand in the order of the bytes of their names, and the mark of deletion last. -/
  ordered : ∃ names : List String,
    changes.map (·.field) = names ++ (if before.deleted = after.deleted then [] else ["deleted"]) ∧
      names.Pairwise fun name later => compare (utf8 name) (utf8 later) = .lt
  /-- Listed are the fields that are not shown alike, as what they are. -/
  listed : ∀ field change, ⟨field, change⟩ ∈ changes ↔
    Change.Tells (before.shown.get? field) (after.shown.get? field) change
  /-- Nothing is listed just when the versions have the same data and the same mark. -/
  unchanged : changes = [] ↔
    before.dataMembers.Same after.dataMembers ∧ before.deleted = after.deleted

/-- **The changes between versions say exactly what changes.** -/
theorem changes_exact {before after : Record} (hbefore : before.data.get? "deleted" = none)
    (hafter : after.data.get? "deleted" = none) : Exact before after (before.changes after) where
  forward := same_replay_changes hbefore hafter
  backward := same_rewind_changes hbefore hafter
  once := nodup_changes hbefore hafter
  ordered := by
    obtain ⟨names, hmap, hnames⟩ := map_field_changes before after
    refine ⟨names, hmap, List.Pairwise.sublist hnames ?_⟩
    simp only [compare_utf8]
    rw [fieldNames, Dict.keys, List.pairwise_map]
    exact Dict.sorted _
  listed _ _ := mem_changes_iff hbefore hafter
  unchanged := changes_eq_nil_iff hbefore hafter

def contact (deleted : Bool) (data : List (String × Value)) : Record :=
  { create .nil "acme" "contact" ⟨"ann", .epoch⟩ (.ofList data) with deleted := deleted }

/-- A null is a value: it is listed when it goes and when it comes. -/
theorem contact_changes_exact :
    let before := contact false [("name", .text "Ann"), ("age", .null)]
    let after := contact true [("name", .text "Anne"), ("city", .null)]
    Exact before after (before.changes after) ∧
      (before.changes after).map (fun c => (c.field, c.change.name)) =
        [("age", "removed"), ("city", "added"), ("name", "modified"), ("deleted", "modified")] :=
  ⟨changes_exact rfl rfl, by decide +kernel⟩

end Record

end Dossier
