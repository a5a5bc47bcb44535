import Dossier.Json.Reader
import Dossier.Proofs.Patch
import Dossier.Proofs.Sql.Update
import Dossier.Proofs.TypedStore

/-!
# Writes of a database simulate those in memory

A database carries out a write as one update statement, the store in memory as a change of a record. Here
the text that is sent is read back, run on the row of a record, and compared with what the same write makes
of the record.

**Rows.** A row represents a record (`Database.row`) when its system columns are the record's, its data
column is the data as a document, and its approval column is the state as a document or null.

**Databases.** Of a database it is assumed that taking keys out of a document and merging another into it
act on the members, key by key, with the values of the second document winning (`Database.get?_minus`,
`Database.get?_concat`). What it takes a guard for is left open, and so is what a column keeps of an
instant.

**Updates.** An update evaluates all that it sets for the row as it was. Its assignments are of different
columns, so it comes to the same as one assignment after the other (`foldlM_settings`), and those make the
row of the changed record (`assign_writeAssignments`).

Main result: `Database.writes_simulate`.
-/

namespace Dossier

theorem Json.same_null (document : Json) : document.same .null = document.isNull := by
  cases document <;> rfl

theorem Json.read?_null : Json.read? "null" = some .null := by
  rfl

/-- What a guarded change does to a record of the store, and what it answers. -/
theorem Store.change_record (entity : Entity) (id : Uuid) (guard : Predicate) {s : Store} {r : Record}
    (hr : s.find? r.id = some r) (f : Record → Record) :
    (s.change entity id guard f).2.find? r.id =
        some (if r.id == id && Store.concerns entity guard r then f r else r) ∧
      (r.id == id && Store.concerns entity guard r → (s.change entity id guard f).1 = some (f r)) := by
  obtain ⟨before, hbefore, hguard, hchange⟩ | ⟨hguard, hchange⟩ := s.change_cases entity id guard f
  · rw [hchange, Store.find?_insert]
    by_cases hid : r.id = id
    · rw [hid, hbefore] at hr
      cases hr
      simp [hid, hguard]
    · simp [hid, hr]
  · rw [hchange]
    by_cases hid : r.id = id
    · have hnot := hguard r (hid ▸ hr)
      simp [hnot, hr]
    · simp [hid, hr]

namespace Sql

open Statement

/-! ## Databases -/

/-- What is used of a database, and what is known of it. -/
structure Database where
  /-- What a column keeps of an instant. -/
  keep : Instant → Instant
  /-- A document without the members of some names. -/
  minus : Json → List String → Json
  /-- A document with the members of a second one put in. -/
  concat : Json → Json → Json
  /-- Whether a condition with values in the places of its parameters is true for a row. -/
  admits : List (Token (Option Param)) → Row → Bool
  get?_minus : ∀ (d : Dict String Json) (keys : List String), ∃ left : Dict String Json,
    minus (.ofDict d) keys = .ofDict left ∧
      ∀ key, left.get? key = if key ∈ keys then none else d.get? key
  get?_concat : ∀ d e : Dict String Json, ∃ both : Dict String Json,
    concat (.ofDict d) (.ofDict e) = .ofDict both ∧ ∀ key, both.get? key = (e.get? key <|> d.get? key)

/-- What a column holds or an expression gives, `none` for null. -/
abbrev Content := Option Param

/-- Whether two contents are equal, where they are identifiers, texts or truth values. -/
def Content.equals : Content → Content → Bool
  | some (.uuid a), some (.uuid b) => a == b
  | some (.text a), some (.text b) => a == b
  | some (.bool a), some (.bool b) => a == b
  | _, _ => false

namespace Content

def ofParam : Param → Content
  | .nothing => none
  | value => some value

/-- A cast, `none` where it is refused. -/
def cast? (type : String) : Content → Option Content
  | none => some none
  | some (.json document) => if type = "jsonb" then some (some (.json document)) else none
  | some (.textList items) => if type = "text[]" then some (some (.textList items)) else none
  | some (.text s) => if type = "jsonb" then (Json.read? s).map fun document => some (.json document) else none
  | some _ => none

/-- Nothing where both are equal, and else the first. -/
def nullIf? : Content → Content → Option Content
  | none, _ => some none
  | some a, none => some (some a)
  | some (.json a), some (.json b) => some (if a.same b then none else some (.json a))
  | _, _ => none

end Content

namespace Row

def content? (row : Row) : String → Option Content
  | "id" => some (some (.uuid row.id))
  | "tenant_id" => some (some (.text row.tenant))
  | "entity_name" => some (some (.text row.entity))
  | "data" => some (row.data.map .json)
  | "approval" => some (row.approval.map .json)
  | "created_at" => some (some (.timestamp row.createdAt))
  | "updated_at" => some (some (.timestamp row.updatedAt))
  | "created_by" => some (some (.text row.createdBy))
  | "updated_by" => some (some (.text row.updatedBy))
  | "deleted" => some (some (.bool row.deleted))
  | "deleted_at" => some (row.deletedAt.map .timestamp)
  | "deleted_by" => some (row.deletedBy.map .text)
  | _ => none

/-- The row with its instants as columns keep them. -/
def keeping (keep : Instant → Instant) (row : Row) : Row :=
  { row with
    createdAt := keep row.createdAt
    updatedAt := keep row.updatedAt
    deletedAt := row.deletedAt.map keep }

end Row

namespace Database

variable (db : Database)

/-- The row that represents a record: system columns as in the record, the data as a document, and the
approval state as one or nothing. -/
def row (r : Record) : Row := (Row.ofRecord r).keeping db.keep

/-- An operator between contents; null for null. -/
def operate? : String → Content → Content → Option Content
  | "-", some (.json document), some (.textList keys) => some (some (.json (db.minus document keys)))
  | "||", some (.json a), some (.json b) => some (some (.json (db.concat a b)))
  | "-", none, _ | "-", _, none | "||", none, _ | "||", _, none => some none
  | _, _, _ => none

/-- What an expression gives for a row, with values for its parameters; `none` where it is refused. -/
def value? (params : List Param) (row : Row) : Expression → Option Content
  | .name column => row.content? column
  | .text s => some (some (.text s))
  | .word "null" => some none
  | .word "true" => some (some (.bool true))
  | .word "false" => some (some (.bool false))
  | .param n => (valueAt params n).map Content.ofParam
  | .paren inner => value? params row inner
  | .cast inner type => (value? params row inner).bind (Content.cast? type)
  | .binary sign left right =>
    (value? params row left).bind fun a => (value? params row right).bind fun b => db.operate? sign a b
  | _ => none

def sourceValue? (params : List Param) (row : Row) : Source → Option Content
  | .expression e => db.value? params row e
  | .nullIf first second =>
    (db.value? params row first).bind fun a => (db.value? params row second).bind fun b => a.nullIf? b

/-- The row with a column set; `none` where the column does not take the content. -/
def set? (row : Row) : String → Content → Option Row
  | "id", some (.uuid id) => some { row with id }
  | "tenant_id", some (.text tenant) => some { row with tenant }
  | "entity_name", some (.text entity) => some { row with entity }
  | "data", some (.json document) => some { row with data := some document }
  | "approval", some (.json document) => some { row with approval := some document }
  | "approval", none => some { row with approval := none }
  | "created_at", some (.timestamp t) => some { row with createdAt := db.keep t }
  | "updated_at", some (.timestamp t) => some { row with updatedAt := db.keep t }
  | "created_by", some (.text user) => some { row with createdBy := user }
  | "updated_by", some (.text user) => some { row with updatedBy := user }
  | "deleted", some (.bool flag) => some { row with deleted := flag }
  | "deleted_at", some (.timestamp t) => some { row with deletedAt := some (db.keep t) }
  | "deleted_at", none => some { row with deletedAt := none }
  | "deleted_by", some (.text user) => some { row with deletedBy := some user }
  | "deleted_by", none => some { row with deletedBy := none }
  | _, _ => none

/-- The row with a column set to what a source gives for another row. -/
def setFrom? (params : List Param) (old next : Row) (setting : Setting) : Option Row :=
  (db.sourceValue? params old setting.2).bind (db.set? next setting.1)

def selects (params : List Param) (u : Update) (row : Row) : Bool :=
  u.tests.all (fun test => (row.content? test.1).any fun content => content.equals (valueAt params test.2)) &&
    db.admits (u.guard.map (lookUp params)) row

/-- What an update makes of a row: one that it does not select stays, and else each column is set to what
its source gives for the row as it was. No column can be set twice. -/
def update? (params : List Param) (u : Update) (row : Row) : Option Row :=
  if db.selects params u row then
    if (u.settings.map Prod.fst).Nodup then u.settings.foldlM (db.setFrom? params row) row else none
  else some row

end Database

/-! ## Changes of the data -/

section Changes

variable (changes : Changes)

theorem mem_removals {key : String} : key ∈ removals changes ↔ changes.get? key = some none := by
  rw [← Dict.mem_entries]
  simp [removals]

theorem additions_eq : additions changes = changes.entries.filterMap fun change =>
    (change.2.map Value.render).map fun document => (change.1, document) :=
  List.filterMap_congr fun _ _ => (Option.map_map ..).symm

theorem sorted_additions : Entries.Sorted (additions changes) := by
  rw [additions_eq]
  exact changes.sorted.filterMap fun _ change => change.map Value.render

theorem get?_additions (key : String) :
    Entries.get? key (additions changes) = (changes.get? key).join.map Value.render := by
  have hget := changes.sorted.get?_filterMap (fun _ change => change.map Value.render) key
  rw [additions_eq, hget]
  show (changes.get? key).bind _ = _
  cases changes.get? key <;> rfl

end Changes

/-- **Taking members out of a document and merging others in is what a merge does.** -/
theorem Database.concat_minus (db : Database) (d : Dict String Json) (removed : List String)
    {added : List (String × Json)} (hadded : Entries.Sorted added) :
    ∃ merged : Dict String Json, db.concat (db.minus (.ofDict d) removed) (.object added) = .ofDict merged ∧
      ∀ key, merged.get? key =
        (Entries.get? key added <|> if key ∈ removed then none else d.get? key) := by
  obtain ⟨left, hminus, hleft⟩ := db.get?_minus d removed
  obtain ⟨both, hconcat, hboth⟩ := db.get?_concat left ⟨added, hadded⟩
  refine ⟨both, ?_, fun key => ?_⟩
  · rw [hminus]
    exact hconcat
  · rw [hboth, hleft]
    rfl

/-! ## Documents as lists of members -/

/-- A database whose documents are lists of members, as they are in memory, and that keeps instants to the
microsecond. -/
def Database.plain (admits : List (Token (Option Param)) → Row → Bool) : Database where
  keep := Instant.toMicrosecond
  minus document keys := Assignment.mergeData keys [] document
  concat document other :=
    match other with
    | .object added => Assignment.mergeData [] added document
    | _ => document
  admits := admits
  get?_minus d keys :=
    ⟨keys.foldl Dict.erase d, congrArg Json.object (d.entries_foldl_erase keys).symm,
      d.get?_foldl_erase keys⟩
  get?_concat d e := by
    have hentries := d.entries_foldl_insert e.entries
    refine ⟨_, congrArg Json.object hentries.symm, fun key => ?_⟩
    have hget := Entries.get?_foldl_insert key e.entries d.entries
    rw [e.sorted.get?_reverse] at hget
    rw [Dict.get?, hentries]
    exact hget

/-- **Every database merges documents as assignments do.** -/
theorem Database.mergeData_eq (db : Database) (d : Dict String Json) (removed : List String)
    {added : List (String × Json)} (hadded : Entries.Sorted added) :
    db.concat (db.minus (.ofDict d) removed) (.object added) =
      Assignment.mergeData removed added (.ofDict d) := by
  obtain ⟨merged, hmerged, hget⟩ := db.concat_minus d removed hadded
  obtain ⟨other, hother, hgetother⟩ :=
    (Database.plain fun _ _ => true).concat_minus d removed hadded
  have heq : merged = other := Dict.ext fun key => (hget key).trans (hgetother key).symm
  rw [hmerged, heq]
  exact hother.symm

/-! ## Rows and records -/

/-- **Merging the changes into the document of a record gives the document of the changed record.** -/
theorem mergeData_dataMembers (r : Record) (changes : Changes) (stamp : Stamp) :
    Assignment.mergeData (removals changes) (additions changes) (.ofDict r.dataMembers) =
      .ofDict (r.update changes stamp).dataMembers := by
  obtain ⟨merged, hmerged, hget⟩ := (Database.plain fun _ _ => true).concat_minus r.dataMembers
    (removals changes) (sorted_additions changes)
  rw [Database.mergeData_eq _ _ _ (sorted_additions changes)] at hmerged
  rw [hmerged]
  refine congrArg Json.ofDict (Dict.ext fun key => ?_)
  have hremoved : key ∈ removals changes ↔ changes.get? key = some none := mem_removals changes
  simp only [hget, get?_additions, Record.get?_dataMembers, Record.get?_update]
  cases hchange : changes.get? key with
  | none => simp [hremoved, hchange]
  | some change => cases change <;> simp [hremoved, hchange]

/-- **The assignments of a write make the row of the record that the write makes.** -/
theorem assign_writeAssignments (r : Record) (w : Write) (stamp : Stamp) :
    assign (Row.ofRecord r) (writeAssignments stamp w) = Row.ofRecord (w.apply stamp r) := by
  cases w with
  | update changes =>
    have hdata := mergeData_dataMembers r changes stamp
    simp only [assign, writeAssignments, List.foldl_cons, List.foldl_nil, Assignment.apply,
      Row.ofRecord, Option.map_some, hdata]
    rfl
  | delete => rfl
  | restore => rfl

theorem assign_approvalAssignments (r : Record) (state : Option Approval) :
    assign (Row.ofRecord r) (approvalAssignments state) = Row.ofRecord (r.withApproval state) := by
  cases state <;> rfl

/-! ## Running the settings -/

section Settings

variable (db : Database) (before after : List Param)

theorem valueAt_first (v : Param) : valueAt (before ++ v :: after) (before.length + 1) = some v := by
  simp [valueAt]

theorem valueAt_second (u v : Param) : valueAt (before ++ u :: v :: after) (before.length + 2) = some v := by
  simp [valueAt]

/-- Whether the members that an assignment merges in are in order, as those of a dictionary are. -/
def Assignment.Ordered : Assignment → Prop
  | .data _ added => Entries.Sorted added
  | _ => True

/-- **An assignment sets its column to its contents**, wherever its parameters stand among others. -/
theorem setFrom?_assignment (a : Assignment) (ha : a.Ordered) {old next : Row} {d : Dict String Json}
    (hold : old.data = some (.ofDict d)) (hdata : a.column = "data" → next.data = old.data) :
    db.setFrom? (before ++ params a.statement ++ after) (old.keeping db.keep) (next.keeping db.keep)
      (a.column, a.source (before.length + 1)) = some ((a.apply next).keeping db.keep) := by
  have hparam (v : Param) : db.sourceValue? (before ++ [v] ++ after) (old.keeping db.keep)
      (.expression (.param (before.length + 1))) = some (.ofParam v) := by
    simp [Database.sourceValue?, Database.value?, valueAt_first]
  cases a with
  | data removed added =>
    have hparams : before ++ params (Assignment.data removed added).statement ++ after =
        before ++ .textList removed :: .json (.object added) :: after := List.append_assoc ..
    have hcolumn : (old.keeping db.keep).content? "data" = some (some (.json (.ofDict d))) :=
      congrArg (fun data : Option Json => some (data.map Param.json)) hold
    have hvalue : db.sourceValue? (before ++ .textList removed :: .json (.object added) :: after)
        (old.keeping db.keep) ((Assignment.data removed added).source (before.length + 1)) =
          some (some (.json (Assignment.mergeData removed added (.ofDict d)))) := by
      simp [Assignment.source, Database.sourceValue?, Database.value?, hcolumn, valueAt_first,
        valueAt_second, Content.ofParam, Content.cast?, Database.operate?, db.mergeData_eq d removed ha]
    have hnext : next.data = some (.ofDict d) := (hdata rfl).trans hold
    rw [hparams, Database.setFrom?, hvalue]
    show some _ = some _
    simp [Assignment.apply, Row.keeping, hnext]
  | approval document =>
    have hvalue : db.sourceValue? (before ++ [.json document] ++ after) (old.keeping db.keep)
        ((Assignment.approval document).source (before.length + 1)) =
          some (if document.isNull then none else some (.json document)) := by
      simp [Assignment.source, Database.sourceValue?, Database.value?, valueAt_first, Content.ofParam,
        Content.cast?, Json.read?_null, Content.nullIf?, Json.same_null]
    refine (congrArg (Option.bind · _) hvalue).trans ?_
    cases document <;> rfl
  | updatedAt t => exact congrArg (Option.bind · _) (hparam (.timestamp t))
  | updatedBy user => exact congrArg (Option.bind · _) (hparam (.text user))
  | deleted flag => cases flag <;> rfl
  | deletedAt t =>
    cases t with
    | none => rfl
    | some t => exact congrArg (Option.bind · _) (hparam (.timestamp t))
  | deletedBy user =>
    cases user with
    | none => rfl
    | some user => exact congrArg (Option.bind · _) (hparam (.text user))

/-- Only one assignment is about the data. -/
theorem Assignment.data_apply {a : Assignment} (ha : a.column ≠ "data") (row : Row) :
    (a.apply row).data = row.data := by
  cases a with
  | data removed added => exact absurd rfl ha
  | _ => rfl

/-- **Assignments of different columns set what they assign one after the other**, though each source is
evaluated for the row as it was. -/
theorem foldlM_settings (assignments : List Assignment) (hordered : ∀ a ∈ assignments, a.Ordered)
    (hcolumns : (assignments.map Assignment.column).Nodup) {old next : Row} {d : Dict String Json}
    (hold : old.data = some (.ofDict d))
    (hdata : "data" ∈ assignments.map Assignment.column → next.data = old.data) :
    (settings (before.length + 1) assignments).foldlM
      (db.setFrom? (before ++ assignments.flatMap (fun a => params a.statement) ++ after)
        (old.keeping db.keep)) (next.keeping db.keep) =
      some ((assign next assignments).keeping db.keep) := by
  induction assignments generalizing before next with
  | nil => rfl
  | cons a rest ih =>
    obtain ⟨ha, hrest⟩ := List.forall_mem_cons.1 hordered
    rw [List.map_cons, List.nodup_cons] at hcolumns
    have hfirst := setFrom?_assignment db before
      (rest.flatMap (fun a => params a.statement) ++ after) a ha hold fun hcolumn =>
        hdata (hcolumn ▸ List.mem_cons_self)
    have hkept (hmem : "data" ∈ rest.map Assignment.column) : (a.apply next).data = old.data := by
      have hcolumn : a.column ≠ "data" := fun heq => hcolumns.1 (heq ▸ hmem)
      rw [Assignment.data_apply hcolumn]
      exact hdata (List.mem_cons_of_mem _ hmem)
    have hothers := ih (before ++ params a.statement) hrest hcolumns.2 hkept
    rw [settings, List.flatMap_cons, List.foldlM_cons, ← List.append_assoc before,
      List.append_assoc _ _ after, hfirst]
    rw [List.length_append, Nat.add_right_comm, List.append_assoc _ _ after] at hothers
    exact hothers

end Settings

/-! ## Running an update -/

variable {db : Database} (entity : Entity) (id : Uuid) {guard : Predicate} {assignments : List Assignment}

/-- Assignments that a statement can make at once. -/
structure Assignable (assignments : List Assignment) : Prop where
  ne_nil : assignments ≠ []
  ordered : ∀ a ∈ assignments, a.Ordered
  distinct : (assignments.map Assignment.column).Nodup

theorem map_column_settings (n : Nat) :
    (settings n assignments).map Prod.fst = assignments.map Assignment.column := by
  induction assignments generalizing n with
  | nil => rfl
  | cons a rest ih => exact congrArg (a.column :: ·) (ih _)

theorem selects_guardedStatement (assignments : List Assignment) (r : Record)
    (hguard : db.admits (whereClause guard).valued (db.row r) = r.meets guard)
    (bound : List Param) (hbound : assignments.flatMap (fun a => params a.statement) = bound) :
    db.selects (params (guardedStatement entity id guard assignments))
      ⟨"entity_records", settings 1 assignments,
        [("id", bound.length + 1), ("entity_name", bound.length + 2)],
        tokens (bound.length + 3) (whereClause guard)⟩ (db.row r) =
      (r.id == id && Store.concerns entity guard r) := by
  have hparams : params (guardedStatement entity id guard assignments) =
      bound ++ .uuid id :: .text entity.name :: guard.bound := by
    rw [params_guardedStatement, hbound, List.append_assoc]
    rfl
  have hguarded : (tokens (bound.length + 3) (whereClause guard)).map
      (lookUp (bound ++ .uuid id :: .text entity.name :: guard.bound)) = (whereClause guard).valued := by
    have h := lookUp_tokens (plain_whereClause guard) (bound ++ [.uuid id, .text entity.name]) []
    rw [params_whereClause, List.append_nil, List.append_assoc, List.length_append] at h
    exact h
  rw [hparams, Database.selects, hguarded, hguard]
  simp [valueAt_first, valueAt_second, Database.row, Row.keeping, Row.ofRecord, Row.content?,
    Content.equals, Store.concerns, Bool.and_assoc]

/-- **An update of the store sets what it assigns in the row that its record has, if the record meets the
guard, and leaves every other row as it is.** -/
theorem update?_guardedStatement (h : Assignable assignments) (r : Record)
    (hguard : db.admits (whereClause guard).valued (db.row r) = r.meets guard)
    (bound : List Param) (hbound : assignments.flatMap (fun a => params a.statement) = bound) :
    db.update? (params (guardedStatement entity id guard assignments))
      ⟨"entity_records", settings 1 assignments,
        [("id", bound.length + 1), ("entity_name", bound.length + 2)],
        tokens (bound.length + 3) (whereClause guard)⟩ (db.row r) =
      some (if r.id == id && Store.concerns entity guard r
        then (assign (Row.ofRecord r) assignments).keeping db.keep else db.row r) := by
  have hdata : (Row.ofRecord r).data = some (.ofDict r.dataMembers) := rfl
  have hset := foldlM_settings db [] ([.uuid id, .text entity.name] ++ guard.bound) assignments
    h.ordered h.distinct hdata fun _ => hdata
  rw [Database.update?, selects_guardedStatement entity id assignments r hguard bound hbound]
  cases r.id == id && Store.concerns entity guard r with
  | false => rfl
  | true =>
    rw [if_pos rfl, if_pos rfl, map_column_settings, if_pos h.distinct, params_guardedStatement,
      List.append_assoc]
    exact hset

/-- A statement does to the row of a record what an operation of the store in memory does to the record: it
selects the row where the operation changes the record, and makes it the row of the record that is then in
the store, which is also what the operation answers. A row that it does not select stays, and so does its
record. -/
structure Database.Simulates (db : Database) (statement : Statement) (u : Update) (selected : Bool)
    (outcome : Except StoreError StoreResult × Store) (r after : Record) : Prop where
  selects : db.selects statement.params u (db.row r) = selected
  row : db.update? statement.params u (db.row r) = some (db.row after)
  stored : outcome.2.find? r.id = some after
  answered : selected = true → outcome.1 = .ok (.record (some after))
  unselected : selected = false → after = r

/-- An update whose assignments make the row of what a change makes of a record simulates that change
under the same guard. -/
theorem Database.simulates_change (db : Database) (entity : Entity) (id : Uuid) (guard : Predicate)
    (h : Assignable assignments) {f : Record → Record}
    (hf : ∀ r, assign (Row.ofRecord r) assignments = Row.ofRecord (f r)) :
    ∃ u, Update.read? (guardedStatement entity id guard assignments).text = some u ∧
      u.table = "entity_records" ∧
      ∀ (s : Store) (r : Record), s.find? r.id = some r →
        db.admits (whereClause guard).valued (db.row r) = r.meets guard →
          ∃ after, db.Simulates (guardedStatement entity id guard assignments) u
            (r.id == id && Store.concerns entity guard r)
            (.ok (.record (s.change entity id guard f).1), (s.change entity id guard f).2) r after := by
  refine ⟨_, Update.read?_guardedStatement entity id guard h.ne_nil _ rfl, rfl, fun s r hr hguard => ?_⟩
  obtain ⟨hstored, hanswer⟩ := Store.change_record entity id guard hr f
  have hupdate := update?_guardedStatement entity id h r hguard _ rfl
  refine ⟨if r.id == id && Store.concerns entity guard r then f r else r,
    selects_guardedStatement entity id assignments r hguard _ rfl, ?_, hstored, ?_, ?_⟩
  · rw [hupdate, hf]
    split <;> rfl
  · intro hselected
    rw [if_pos hselected]
    exact congrArg (Except.ok ∘ StoreResult.record) (hanswer hselected)
  · intro hselected
    rw [hselected]
    rfl

theorem assignable_write (w : Write) (stamp : Stamp) : Assignable (writeAssignments stamp w) where
  ne_nil := by cases w <;> exact List.cons_ne_nil _ _
  ordered := by
    cases w with
    | update changes => simp [writeAssignments, Assignment.Ordered, sorted_additions]
    | _ => simp [writeAssignments, Assignment.Ordered]
  distinct := by cases w <;> simp [writeAssignments, Assignment.column]

theorem assignable_approval (state : Option Approval) : Assignable (approvalAssignments state) where
  ne_nil := List.cons_ne_nil _ _
  ordered := by simp [approvalAssignments, Assignment.Ordered]
  distinct := List.nodup_singleton _

/-- **The writes of a database simulate those of the store in memory.**

The text that is sent for an update, a deletion, a restoration or a new state of approval reads as an
update of the table. Wherever the guard selects the row of a stored record exactly when the record meets
it, that update makes the row of the record the row of what the same operation leaves of the record in
memory, with the values bound to its parameters. Where it does not select the row, or the operation does
not concern the record, row and record stay as they are. -/
theorem Database.writes_simulate (db : Database) (entity : Entity) {q : StoreRequest} {c : Scope}
    (hq : q.scope? = some c) (htarget : c.target.isSome = true) :
    ∃ u, Update.read? (Query.ofRequest entity q).statement.text = some u ∧ u.table = "entity_records" ∧
      ∀ (s : Store) (r : Record), s.find? r.id = some r →
        db.admits (whereClause c.predicate).valued (db.row r) = r.meets c.predicate →
          ∃ after, db.Simulates (Query.ofRequest entity q).statement u (c.admits entity r)
            (s.perform entity q) r after := by
  cases q with
  | write id guard w stamp =>
    cases hq
    exact db.simulates_change entity id guard (assignable_write w stamp) fun r =>
      assign_writeAssignments r w stamp
  | setApproval id state =>
    cases hq
    exact db.simulates_change entity id .always (assignable_approval state) fun r =>
      assign_approvalAssignments r state
  | create r => cases hq
  | get p | count p | list p =>
    cases hq
    cases htarget

namespace DealSample

def priced : Record :=
  { openDeal with
    data := .ofList [("note", .text "call back"), ("stage", .text "open"), ("urgent", .bool true)] }

/-- Wins a deal, which is not urgent any more. -/
def won : StoreRequest :=
  .write .nil (.eq "deleted" (.bool false))
    (.update (.ofList [("stage", some (.text "won")), ("urgent", none)])) ⟨"bob", .epoch⟩

/-- A comparison of a column with a value. -/
def comparison : List (Token (Option Param)) → Row → Bool
  | [.name column, .sign "=", .placeholder value], row => (row.content? column).any (·.equals value)
  | _, _ => false

end DealSample

open DealSample in
/-- A deal is won: the row has the new stage and no mark of urgency, the note stays. -/
theorem won_deal_simulated : ∃ c : Scope, won.scope? = some c ∧ c.target.isSome = true ∧
    (Store.empty.put priced).find? priced.id = some priced ∧
    (Database.plain comparison).admits (whereClause c.predicate).valued
      ((Database.plain comparison).row priced) = priced.meets c.predicate ∧
    ∃ u after, Update.read? (Query.ofRequest deal won).statement.text = some u ∧
      (Database.plain comparison).update? (Query.ofRequest deal won).statement.params u
        ((Database.plain comparison).row priced) = some ((Database.plain comparison).row after) ∧
      after.data.get? "note" = some (.text "call back") ∧
      after.data.get? "stage" = some (.text "won") ∧ after.data.get? "urgent" = none := by
  have hfound : (Store.empty.put priced).find? priced.id = some priced := rfl
  have hadmits : (Database.plain comparison).admits
      (whereClause (.eq "deleted" (.bool false))).valued ((Database.plain comparison).row priced) =
        priced.meets (.eq "deleted" (.bool false)) := by decide +kernel
  obtain ⟨u, hread, -, hall⟩ := (Database.plain comparison).writes_simulate deal (q := won) rfl rfl
  obtain ⟨after, hsimulates⟩ := hall (Store.empty.put priced) priced hfound hadmits
  refine ⟨_, rfl, rfl, hfound, hadmits, u, after, hread, hsimulates.row, ?_⟩
  have hstored := hsimulates.stored
  cases hstored
  exact ⟨rfl, rfl, rfl⟩

end Sql

end Dossier
