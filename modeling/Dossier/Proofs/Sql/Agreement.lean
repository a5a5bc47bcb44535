import Dossier.Proofs.Sql.Truth

/-!
# Conditions of statements

The texts that are sent, read and evaluated as SQL does: the condition of a predicate alone, and the
condition behind `WHERE` in each statement of a store, which also asks for the entity and, for a change,
for the record. Both are true exactly where the store in memory finds a record (`condition_true_iff`).
-/

namespace Dossier

/-! ## The conditions of requests -/

structure Scope where
  /-- The record that is named, if one is. -/
  target : Option Uuid
  predicate : Predicate
  /-- The number of the first parameter. -/
  start : Nat

/-- The condition in the statement of a request; nothing restricts what is created. -/
def StoreRequest.scope? : StoreRequest → Option Scope
  | .create _ => none
  | .get p | .count p => some ⟨none, p, 1⟩
  | .list q => some ⟨none, q.predicate, 1⟩
  | .write id guard w stamp => some ⟨some id, guard, (w.bound stamp).length + 1⟩
  | .setApproval id _ => some ⟨some id, .always, 2⟩

namespace Scope

def guards (entity : Entity) (c : Scope) : List Leaf :=
  (c.target.map fun id => Leaf.equals "id" (.ref id.text)).toList ++
    [.equals "entity_name" (.text entity.name)]

def leaves (entity : Entity) (c : Scope) : List Leaf := c.guards entity ++ c.predicate.leaves

/-- Whether a record is the one that is named, if one is, and the request concerns it. -/
def admits (entity : Entity) (c : Scope) (r : Record) : Bool :=
  c.target.all (r.id == ·) && Store.concerns entity c.predicate r

end Scope

namespace Sql

open Statement

variable {R : Expression → Truth → Prop}

/-! ## Texts -/

/-- The expression that a text is, if it is one. -/
def expressionOf (s : String) : Option Expression :=
  match readExpression (lex s) with
  | some (e, []) => some e
  | _ => none

/-- The tokens behind the first `WHERE`. -/
def behindWhere : List (Token Nat) → List (Token Nat)
  | [] => []
  | t :: ts => if t = .word "where" then ts else behindWhere ts

/-- Whether a condition can end before some tokens. -/
def endsCondition (ts : List (Token Nat)) : Bool :=
  ts.head?.all fun t => [Token.word "order", .word "limit", .word "returning"].contains t

def conditionOf (s : String) : Option Expression :=
  match readExpression (behindWhere (lex s)) with
  | some (e, rest) => if endsCondition rest then some e else none
  | none => none

theorem expressionOf_spaced {a : Statement} {e : Expression} {n : Nat} (ha : a.Spaced)
    (h : Reads 1 (tokens n a) e []) : expressionOf (textFrom n a) = some e := by
  rw [expressionOf, ha.lex_textFrom, h.readExpression]

theorem expressionOf_whereClause {p : Predicate} (hp : p.full = true) (n : Nat) :
    expressionOf (textFrom n (whereClause p)) = some ((Clause.ofPredicate p).expression n) := by
  have h := Clause.tight_ofPredicate p hp n [] (by simp [Stops])
  rw [List.append_nil] at h
  exact expressionOf_spaced (whereClause_spaced p) h

theorem expressionOf_test (t : Test) (n : Nat) :
    expressionOf (textFrom n t.statement) = some (t.expression n) := by
  have htight : (Clause.test t).Tight 1 := (Clause.tight_test t).lower (by decide)
  have h := htight n [] (by simp [Stops])
  rw [List.append_nil] at h
  exact expressionOf_spaced t.spaced h

/-! ## Conditions of statements -/

/-- The tests of a text are true exactly when a record passes them. -/
def TestsAgree (R : Expression → Truth → Prop) (r : Record) (n : Nat) (leaves : List Leaf) : Prop :=
  ∀ l ∈ Leaf.numbered n leaves, ∀ e, expressionOf (textFrom l.1 l.2.test.statement) = some e →
    ∀ t, e.takes R t → (t = .true ↔ l.2.holds r.field = true)

theorem testsAgree_iff {r : Record} {n : Nat} {leaves : List Leaf} :
    TestsAgree R r n leaves ↔ LeavesDecided R r.field n leaves := by
  refine ⟨fun h l hl => h l hl _ (expressionOf_test _ _), fun h l hl e he => ?_⟩
  rw [expressionOf_test] at he
  cases he
  exact h l hl

def scopeClause (entity : Entity) (c : Scope) : Clause :=
  .and ((c.guards entity).map (fun leaf => .test leaf.test) ++ [.group (.ofPredicate c.predicate)])

section Scope

variable {entity : Entity} {c : Scope} {n : Nat}

theorem tight_scopeClause (h : c.predicate.full = true) : (scopeClause entity c).Tight 1 := by
  refine Clause.tight_and (by simp) fun part hpart => ?_
  rcases List.mem_append.1 hpart with hguard | hgroup
  · obtain ⟨leaf, -, rfl⟩ := List.mem_map.1 hguard
    exact (Clause.tight_test _).lower (by decide)
  · cases List.mem_singleton.1 hgroup
    exact Clause.tight_group (Clause.tight_ofPredicate _ h) 3

theorem decides_guards {source : FieldSource} {last : Clause} {b : Bool} {guards : List Leaf}
    (hguards : LeavesDecided R source n guards)
    (hlast : Decides R (last.expression (n + (guards.flatMap fun l => l.test.bound).length)) b) :
    List.Forall₂ (Decides R)
      (Clause.expressions n (guards.map (fun leaf => .test leaf.test) ++ [last]))
      (guards.map (Leaf.holds source) ++ [b]) := by
  induction guards generalizing n with
  | nil => exact .cons hlast .nil
  | cons leaf guards ih =>
    obtain ⟨hleaf, hrest⟩ := LeavesDecided.cons_iff.1 hguards
    have hparams : params (Clause.test leaf.test).statement = leaf.test.bound := Test.params _
    refine .cons hleaf ?_
    rw [hparams]
    rw [List.flatMap_cons, List.length_append, ← Nat.add_assoc] at hlast
    exact ih hrest hlast

theorem holds_guards (r : Record) :
    ((c.guards entity).map (Leaf.holds r.field)).all id =
      (c.target.all (r.id == ·) && r.entity == entity.name) := by
  have hentity : (Leaf.equals "entity_name" (.text entity.name)).holds r.field =
      (r.entity == entity.name) := Value.looseEq_text _ _
  have hid (id : Uuid) : (Leaf.equals "id" (.ref id.text)).holds r.field = (r.id == id) := by
    have hmeets := r.meets_byId id
    rw [beq_eq_decide, ← hmeets]
    rfl
  cases htarget : c.target <;> simp [Scope.guards, htarget, hentity, hid]

/-- **The condition of a request is decided by whether it admits the record.** -/
theorem decides_scopeClause {r : Record} (h : c.predicate.full = true)
    (hleaves : LeavesDecided R r.field n (c.leaves entity)) :
    Decides R ((scopeClause entity c).expression n) (c.admits entity r) := by
  obtain ⟨hguards, hpredicate⟩ := LeavesDecided.append_iff.1 hleaves
  have hgroup : Decides R ((Clause.group (.ofPredicate c.predicate)).expression _) _ :=
    (Clause.decides_ofPredicate c.predicate h _ hpredicate).paren
  have hall := Decides.joined_and (decides_guards hguards hgroup)
    (Clause.expressions_ne_nil (by simp))
  have hadmits : c.admits entity r =
      ((c.guards entity).map (Leaf.holds r.field) ++ [c.predicate.holds r.field]).all id := by
    rw [List.all_append, holds_guards]
    simp [Scope.admits, Store.concerns, Record.meets, Bool.and_assoc]
  rw [hadmits]
  exact hall

/-! ### The tokens behind `WHERE` -/

theorem equals_id (id : Uuid) :
    Test.equals "id" (.ref id.text) = .compares (.column .id) .eq (.uuid id) := by
  have hread := id.read?_text
  have hcolumn : SystemColumn.ofField? "id" = some .id := by decide +kernel
  simp [Test.equals, hcolumn, Operand.forValue, Operand.fitsColumn, SystemColumn.type, Param.ofValue,
    hread]

theorem equals_entityName (name : String) :
    Test.equals "entity_name" (.text name) = .compares (.column .entityName) .eq (.text name) := by
  have hcolumn : SystemColumn.ofField? "entity_name" = some .entityName := by decide +kernel
  simp [Test.equals, hcolumn, Operand.forValue, Operand.fitsColumn, SystemColumn.type, Param.ofValue]

/-- The tokens of the condition on an entity, from the name of the entity on. -/
def entityTokens (p : Predicate) (n : Nat) : List (Token Nat) :=
  .name "entity_name" :: .sign "=" :: .placeholder n :: .word "and" :: .mark '(' ::
    (tokens (n + 1) (whereClause p) ++ [.mark ')'])

theorem tokens_entity (p : Predicate) (start : Nat) :
    tokens n (scopeClause entity ⟨none, p, start⟩).statement = entityTokens p n := by
  have hname : lex "\"entity_name\"" = [.name "entity_name"] := lex_literal rfl
  have hsign : lex " = " = [.sign "="] := lex_literal rfl
  show tokens n ((Test.equals "entity_name" (.text entity.name)).statement ++
    .fixed " AND " :: .fixed "(" :: (whereClause p ++ [.fixed ")"])) = _
  rw [equals_entityName]
  show lex "\"entity_name\"" ++ (lex " = " ++ .placeholder n :: (lex " AND " ++ (lex "(" ++
    tokens (n + 1) (whereClause p ++ [.fixed ")"])))) = _
  rw [hname, hsign, Clause.lex_and, Clause.lex_opening, tokens_append, tokens, Piece.tokens,
    Clause.lex_closing]
  rfl

theorem tokens_target (p : Predicate) (id : Uuid) (start : Nat) :
    tokens n (scopeClause entity ⟨some id, p, start⟩).statement =
      .name "id" :: .sign "=" :: .placeholder n :: .word "and" :: entityTokens p (n + 1) := by
  have hname : lex "\"id\"" = [.name "id"] := lex_literal rfl
  have hsign : lex " = " = [.sign "="] := lex_literal rfl
  show tokens n ((Test.equals "id" (.ref id.text)).statement ++
    .fixed " AND " :: (scopeClause entity ⟨none, p, start⟩).statement) = _
  rw [equals_id]
  show lex "\"id\"" ++ (lex " = " ++ .placeholder n :: (lex " AND " ++
    tokens (n + 1) (scopeClause entity ⟨none, p, start⟩).statement)) = _
  rw [hname, hsign, Clause.lex_and, tokens_entity]
  rfl

theorem tokens_entityCondition (p : Predicate) :
    tokens n (entityCondition entity p) = .word "where" :: entityTokens p n := by
  have hwhere : lex " WHERE \"entity_name\" = " = [.word "where", .name "entity_name", .sign "="] := lex_literal rfl
  have hand : lex " AND (" = [.word "and", .mark '('] := lex_literal rfl
  show lex " WHERE \"entity_name\" = " ++ .placeholder n :: (lex " AND (" ++
    tokens (n + 1) (whereClause p ++ [.fixed ")"])) = _
  rw [hwhere, hand, tokens_append, tokens, Piece.tokens, Clause.lex_closing]
  rfl

theorem behindWhere_append {head ts : List (Token Nat)} (h : .word "where" ∉ head) :
    behindWhere (head ++ .word "where" :: ts) = ts := by
  induction head with
  | nil => rfl
  | cons t head ih =>
    rw [List.mem_cons, not_or] at h
    rw [List.cons_append, behindWhere, if_neg (Ne.symm h.1), ih h.2]

theorem stops_of_endsCondition {ts : List (Token Nat)} (h : endsCondition ts = true) : Stops 1 ts := by
  cases ts with
  | nil => simp [Stops]
  | cons t ts =>
    have ht : t = .word "order" ∨ t = .word "limit" ∨ t = .word "returning" := by
      simpa [endsCondition] using h
    rcases ht with rfl | rfl | rfl <;> simp [Stops, Token.operator?]

/-- A condition between `WHERE` and the end of a statement is read as it is. -/
theorem conditionOf_of_tokens (head rest : List (Token Nat)) {a : Statement} (ha : a.Spaced)
    (h : c.predicate.full = true) (hhead : .word "where" ∉ head) (hrest : endsCondition rest = true)
    (htokens : tokens 1 a =
      head ++ .word "where" :: (tokens n (scopeClause entity c).statement ++ rest)) :
    conditionOf a.text = some ((scopeClause entity c).expression n) := by
  have hreads : Reads 1 _ ((scopeClause entity c).expression n) rest :=
    tight_scopeClause h n rest (stops_of_endsCondition hrest)
  show (match readExpression (behindWhere (lex (textFrom 1 a))) with
    | some (e, rest) => if endsCondition rest then some e else none
    | none => none) = _
  rw [ha.lex_textFrom, htokens, behindWhere_append hhead, hreads.readExpression]
  exact if_pos hrest

theorem notMem_separated {parts : List Statement} {t : Token Nat} (ht : t ∉ lex ", ")
    (hparts : ∀ part ∈ parts, ∀ n, t ∉ tokens n part) (n : Nat) :
    t ∉ tokens n (separated ", " parts) := by
  induction parts generalizing n with
  | nil => exact List.not_mem_nil
  | cons part rest ih =>
    obtain ⟨hpart, hrest⟩ := List.forall_mem_cons.1 hparts
    cases rest with
    | nil => exact hpart n
    | cons second others =>
      show t ∉ tokens n (part ++ .fixed ", " :: separated ", " (second :: others))
      rw [tokens_append, tokens, List.mem_append, List.mem_append]
      exact not_or.2 ⟨hpart n, not_or.2 ⟨ht, ih hrest _⟩⟩

namespace Assignment

def column : Assignment → String
  | .data _ _ => "data"
  | .approval _ => "approval"
  | .updatedAt _ => "updated_at"
  | .updatedBy _ => "updated_by"
  | .deleted _ => "deleted"
  | .deletedAt _ => "deleted_at"
  | .deletedBy _ => "deleted_by"

/-- The tokens behind the column and its sign. -/
def sourceTokens (n : Nat) : Assignment → List (Token Nat)
  | .data _ _ =>
    [.mark '(', .name "data", .sign "-", .placeholder n, .sign "::", .word "text", .mark '[', .mark ']',
      .mark ')', .sign "||", .placeholder (n + 1), .sign "::", .word "jsonb"]
  | .approval _ =>
    [.word "nullif", .mark '(', .placeholder n, .sign "::", .word "jsonb", .mark ',', .text "null",
      .sign "::", .word "jsonb", .mark ')']
  | .updatedAt _ | .updatedBy _ | .deletedAt (some _) | .deletedBy (some _) => [.placeholder n]
  | .deleted flag => [.word (if flag then "true" else "false")]
  | .deletedAt none | .deletedBy none => [.word "null"]

theorem tokens_statement (n : Nat) (a : Assignment) :
    tokens n a.statement = .name a.column :: .sign "=" :: a.sourceTokens n := by
  have hparam {s : String} (column : String) (hs : lex s = [.name column, .sign "="]) (v : Param) :
      tokens n [.fixed s, .param v] = [.name column, .sign "=", .placeholder n] := by
    simp [tokens, Piece.tokens, Piece.count, hs]
  have hword {s : String} (column word : String) (hs : lex s = [.name column, .sign "=", .word word]) :
      tokens n [.fixed s] = [.name column, .sign "=", .word word] := by
    simp [tokens, Piece.tokens, hs]
  cases a with
  | data removed added =>
    have hfirst : lex "\"data\" = (\"data\" - " =
        [.name "data", .sign "=", .mark '(', .name "data", .sign "-"] := lex_literal rfl
    have hsecond : lex "::text[]) || " = [.sign "::", .word "text", .mark '[', .mark ']', .mark ')',
        .sign "||"] := lex_literal rfl
    have hthird : lex "::jsonb" = [.sign "::", .word "jsonb"] := lex_literal rfl
    simp [statement, tokens, Piece.tokens, Piece.count, hfirst, hsecond, hthird, column, sourceTokens]
  | approval document =>
    have hfirst : lex "\"approval\" = NULLIF(" =
        [.name "approval", .sign "=", .word "nullif", .mark '('] := lex_literal rfl
    have hsecond : lex "::jsonb, 'null'::jsonb)" = [.sign "::", .word "jsonb", .mark ',', .text "null",
        .sign "::", .word "jsonb", .mark ')'] := lex_literal rfl
    simp [statement, tokens, Piece.tokens, Piece.count, hfirst, hsecond, column, sourceTokens]
  | updatedAt t => exact hparam "updated_at" (lex_literal rfl) _
  | updatedBy user => exact hparam "updated_by" (lex_literal rfl) _
  | deleted flag =>
    cases flag with
    | true => exact hword "deleted" "true" (lex_literal rfl)
    | false => exact hword "deleted" "false" (lex_literal rfl)
  | deletedAt t =>
    cases t with
    | none => exact hword "deleted_at" "null" (lex_literal rfl)
    | some t => exact hparam "deleted_at" (lex_literal rfl) _
  | deletedBy user =>
    cases user with
    | none => exact hword "deleted_by" "null" (lex_literal rfl)
    | some user => exact hparam "deleted_by" (lex_literal rfl) _

theorem where_notMem (n : Nat) (a : Assignment) : .word "where" ∉ tokens n a.statement := by
  rw [a.tokens_statement]
  cases a with
  | deleted flag => cases flag <;> simp [sourceTokens]
  | deletedAt t => cases t <;> simp [sourceTokens]
  | deletedBy user => cases user <;> simp [sourceTokens]
  | _ => simp [sourceTokens]

end Assignment

/-- The tokens of the terms of a sort order, each with the comma behind it. -/
def termTokens (entity : Entity) (n : Nat) (sort : List SortSpec) : List (Token Nat) :=
  sort.flatMap fun spec => tokens n (sortTerm entity spec) ++ [.mark ',']

theorem params_sortTerm (entity : Entity) (spec : SortSpec) : params (sortTerm entity spec) = [] := by
  rw [sortTerm, params_append, Operand.params]
  rfl

theorem tokens_sortTerms (entity : Entity) (spec : SortSpec) (rest : List SortSpec) (n : Nat) :
    tokens n (separated ", " ((spec :: rest).map (sortTerm entity))) ++ [.mark ','] =
      termTokens entity n (spec :: rest) := by
  have hcomma : lex ", " = [.mark ','] := lex_literal rfl
  induction rest generalizing spec with
  | nil =>
    show tokens n (sortTerm entity spec) ++ [.mark ','] = _
    simp [termTokens]
  | cons second others ih =>
    show tokens n (sortTerm entity spec ++ .fixed ", " ::
      separated ", " ((second :: others).map (sortTerm entity))) ++ [.mark ','] = _
    rw [tokens_append, params_sortTerm, tokens, Piece.tokens, hcomma, List.append_assoc, List.append_assoc]
    show tokens n (sortTerm entity spec) ++ (.mark ',' :: (tokens n (separated ", "
      ((second :: others).map (sortTerm entity))) ++ [.mark ','])) = _
    rw [ih]
    simp [termTokens]

theorem tokens_totalOrder (entity : Entity) (sort : List SortSpec) (n : Nat) :
    tokens n (totalOrder entity sort) =
      .word "order" :: .word "by" :: (termTokens entity n sort ++ [.name "id", .word "asc"]) := by
  cases sort with
  | nil =>
    have horder : lex "ORDER BY \"id\" ASC" =
        [.word "order", .word "by", .name "id", .word "asc"] := lex_literal rfl
    exact (List.append_nil _).trans horder
  | cons spec rest =>
    have horder : lex "ORDER BY " = [.word "order", .word "by"] := lex_literal rfl
    have hid : lex ", \"id\" ASC" = [.mark ',', .name "id", .word "asc"] := lex_literal rfl
    show lex "ORDER BY " ++ tokens n (separated ", " ((spec :: rest).map (sortTerm entity)) ++
      [.fixed ", \"id\" ASC"]) = _
    rw [horder, ← tokens_sortTerms, tokens_append, tokens, Piece.tokens, hid, tokens]
    simp

/-- What stands behind the condition of a listing. -/
def orderAndPage (entity : Entity) (q : ListQuery) : Statement :=
  .fixed " " :: totalOrder entity q.sort ++
    [.fixed " LIMIT ", .param (.integer q.limit), .fixed " OFFSET ", .param (.integer q.offset)]

theorem listStatement_eq (entity : Entity) (q : ListQuery) : listStatement entity q =
    .fixed ("SELECT * FROM " ++ table) :: (entityCondition entity q.predicate ++ orderAndPage entity q) := by
  simp [listStatement, orderAndPage]

theorem tokens_orderAndPage (entity : Entity) (q : ListQuery) (n : Nat) :
    ∃ k, tokens n (orderAndPage entity q) =
      .word "order" :: .word "by" :: (termTokens entity n q.sort ++ .name "id" :: .word "asc" ::
        .word "limit" :: [.placeholder k, .word "offset", .placeholder (k + 1)]) := by
  have hblank : lex " " = [] := lex_literal rfl
  have hlimit : lex " LIMIT " = [.word "limit"] := lex_literal rfl
  have hoffset : lex " OFFSET " = [.word "offset"] := lex_literal rfl
  refine ⟨n + (params (totalOrder entity q.sort)).length, ?_⟩
  rw [orderAndPage, List.cons_append, tokens, Piece.tokens, hblank, tokens_append, tokens_totalOrder]
  simp [tokens, Piece.tokens, Piece.count, hlimit, hoffset]

theorem where_notMem_assignments (assignments : List Assignment) :
    .word "where" ∉ tokens 1 (separated ", " (assignments.map Assignment.statement)) := by
  refine notMem_separated (by decide +kernel) (fun part hpart n => ?_) 1
  obtain ⟨a, -, rfl⟩ := List.mem_map.1 hpart
  exact a.where_notMem n

/-- The tokens of an update, whose record has the number behind those of the assignments. -/
theorem tokens_guardedStatement (id : Uuid) (guard : Predicate) (assignments : List Assignment)
    (bound : List Param) (hbound : assignments.flatMap (fun a => params a.statement) = bound) :
    tokens 1 (guardedStatement entity id guard assignments) =
      lex ("UPDATE " ++ table ++ " SET ") ++
        tokens 1 (separated ", " (assignments.map Assignment.statement)) ++
        .word "where" :: .name "id" :: .sign "=" :: .placeholder (bound.length + 1) :: .word "and" ::
          (entityTokens guard (bound.length + 2) ++ [.word "returning", .sign "*"]) := by
  have hset : params (separated ", " (assignments.map Assignment.statement)) = bound := by
    rw [params_separated, List.flatMap_map, hbound]
  have hwhere : lex " WHERE \"id\" = " = [.word "where", .name "id", .sign "="] := lex_literal rfl
  have hentity : lex " AND \"entity_name\" = " = [.word "and", .name "entity_name", .sign "="] := lex_literal rfl
  have hand : lex " AND (" = [.word "and", .mark '('] := lex_literal rfl
  have hreturning : lex ") RETURNING *" = [.mark ')', .word "returning", .sign "*"] := lex_literal rfl
  simp only [guardedStatement, entityTokens, List.cons_append, tokens, tokens_append, Piece.tokens,
    Piece.count, params_cons, params_append, hset, hwhere, hentity, hand, hreturning]
  simp [params, Nat.add_comm, Nat.add_left_comm]

theorem conditionOf_guardedStatement (id : Uuid) (guard : Predicate) (h : guard.full = true)
    (assignments : List Assignment) (bound : List Param)
    (hbound : assignments.flatMap (fun a => params a.statement) = bound) :
    conditionOf (guardedStatement entity id guard assignments).text =
      some ((scopeClause entity ⟨some id, guard, bound.length + 1⟩).expression (bound.length + 1)) := by
  refine conditionOf_of_tokens
    (lex ("UPDATE " ++ table ++ " SET ") ++
      tokens 1 (separated ", " (assignments.map Assignment.statement)))
    [.word "returning", .sign "*"] (guardedStatement_spaced entity id guard assignments) h ?_ rfl ?_
  · rw [List.mem_append, not_or]
    exact ⟨by decide +kernel, where_notMem_assignments assignments⟩
  · rw [tokens_guardedStatement id guard assignments bound hbound, tokens_target]
    rfl

/-- **The condition in the statement of a request is the request's condition.** -/
theorem conditionOf_request {q : StoreRequest} (hq : q.scope? = some c)
    (h : c.predicate.full = true) :
    conditionOf (Query.ofRequest entity q).statement.text =
      some ((scopeClause entity c).expression c.start) := by
  have hspaced := Query.spaced entity q
  cases q with
  | create r => cases hq
  | get p =>
    cases hq
    refine conditionOf_of_tokens (lex ("SELECT * FROM " ++ table)) (lex " LIMIT 1")
      hspaced h (by decide +kernel) (by decide +kernel) ?_
    show lex _ ++ tokens 1 (entityCondition entity p ++ [.fixed " LIMIT 1"]) = _
    rw [tokens_append, tokens_entityCondition, tokens_entity]
    exact congrArg (_ ++ ·) (congrArg (_ ++ ·) (List.append_nil _))
  | count p =>
    cases hq
    refine conditionOf_of_tokens (lex ("SELECT COUNT(*) AS count FROM " ++ table)) []
      hspaced h (by decide +kernel) rfl ?_
    show lex _ ++ tokens 1 (entityCondition entity p) = _
    rw [tokens_entityCondition, tokens_entity, List.append_nil]
  | list q =>
    cases hq
    obtain ⟨k, hrest⟩ := tokens_orderAndPage entity q
      (1 + (params (entityCondition entity q.predicate)).length)
    refine conditionOf_of_tokens (lex ("SELECT * FROM " ++ table)) _ hspaced h (by decide +kernel)
      (congrArg endsCondition hrest) ?_
    have hstatement : (Query.ofRequest entity (.list q)).statement = listStatement entity q := rfl
    rw [hstatement, listStatement_eq, tokens, Piece.tokens, tokens_append, tokens_entityCondition,
      tokens_entity]
    rfl
  | write id guard w stamp =>
    cases hq
    exact conditionOf_guardedStatement id guard h _ _ (by cases w <;> rfl)
  | setApproval id state =>
    cases hq
    exact conditionOf_guardedStatement id .always h _ _ rfl

end Scope

/-! ## Both readings -/

/-- **A condition in SQL is true exactly when the predicate holds in memory**, whatever values its
comparisons take, as long as each test is true exactly when the record passes it. So is the condition of
a whole statement for the records that the request is about. -/
theorem condition_true_iff (R : Expression → Truth → Prop) (r : Record) :
    (∀ (p : Predicate) (n : Nat), p.full = true → TestsAgree R r n p.leaves →
      ∃ e, expressionOf (textFrom n (whereClause p)) = some e ∧
        ∀ t, e.takes R t → (t = .true ↔ r.meets p = true)) ∧
    ∀ (entity : Entity) (q : StoreRequest) (c : Scope), q.scope? = some c →
      c.predicate.full = true → TestsAgree R r c.start (c.leaves entity) →
        ∃ e, conditionOf (Query.ofRequest entity q).statement.text = some e ∧
          ∀ t, e.takes R t → (t = .true ↔ c.admits entity r = true) := by
  constructor
  · intro p n hp htests
    exact ⟨_, expressionOf_whereClause hp n,
      Clause.decides_ofPredicate p hp n (testsAgree_iff.1 htests)⟩
  · intro entity q c hq hp htests
    exact ⟨_, conditionOf_request hq hp, decides_scopeClause hp (testsAgree_iff.1 htests)⟩

namespace DealSample

def deal : Entity := ⟨"deal", none, []⟩

/-- A deal that is at no stage. -/
def openDeal : Record := .create .nil "acme" deal.name ⟨"ann", .epoch⟩ ∅

def notWon : Predicate := .and [.ne "stage" (.text "won"), .eq "deleted" (.bool false)]

/-- Comparisons of columns are true, all others unknown. -/
def comparisons (e : Expression) (t : Truth) : Prop :=
  t = match e with
    | .binary "=" (.name _) _ => .true
    | _ => .unknown

theorem exists_comparison (e : Expression) : ∃ t, comparisons e t := ⟨_, rfl⟩

theorem decides_columnTest {field : String} {value : Value} {c : SystemColumn} {v : Param} (n : Nat)
    (htest : Test.equals field value = .compares (.column c) .eq v) (hc : c ≠ .approvalStatus) :
    Decides comparisons ((Leaf.equals field value).test.expression n) true := by
  have hexpression : (Leaf.equals field value).test.expression n =
      .binary "=" (.name c.field) (.param n) := by
    rw [Leaf.test, htest, Test.expression, Operand.expression, SystemColumn.expression, if_neg hc]
    rfl
  rw [hexpression]
  rintro t rfl
  simp

theorem testsAgree_notWon (n : Nat) : TestsAgree comparisons openDeal n notWon.leaves := by
  have hstage : (Leaf.equals "stage" (.text "won")).holds openDeal.field = false := by decide +kernel
  have hdeleted : (Leaf.equals "deleted" (.bool false)).holds openDeal.field = true := by
    decide +kernel
  refine testsAgree_iff.2 (LeavesDecided.cons_iff.2 ⟨?_, LeavesDecided.cons_iff.2 ⟨?_, nofun⟩⟩)
  · rw [hstage]
    rintro t rfl
    simp
  · rw [hdeleted]
    exact decides_columnTest (c := .deleted) _ rfl (by decide)

theorem testsAgree_count (n : Nat) :
    TestsAgree comparisons openDeal n (Scope.leaves deal ⟨none, notWon, 1⟩) := by
  have hname : (Leaf.equals "entity_name" (.text "deal")).holds openDeal.field = true := by
    decide +kernel
  refine testsAgree_iff.2 (LeavesDecided.cons_iff.2 ⟨?_, testsAgree_iff.1 (testsAgree_notWon _)⟩)
  show Decides _ _ ((Leaf.equals "entity_name" (.text "deal")).holds openDeal.field)
  rw [hname]
  exact decides_columnTest _ (equals_entityName "deal") (by decide)

end DealSample

open DealSample in
/-- A deal at no stage has not been won, though the database does not know what to say of its stage: the
condition is true for it, alone and in a statement. -/
theorem open_deal_counts : notWon.full = true ∧ openDeal.meets notWon = true ∧
    TestsAgree comparisons openDeal 1 notWon.leaves ∧
    TestsAgree comparisons openDeal 1 (Scope.leaves deal ⟨none, notWon, 1⟩) ∧
    (∃ e, expressionOf (textFrom 1 (whereClause notWon)) = some e ∧ e.takes comparisons .true) ∧
    ∃ e, conditionOf (Query.ofRequest deal (.count notWon)).statement.text = some e ∧
      e.takes comparisons .true := by
  have hmeets : openDeal.meets notWon = true := by decide +kernel
  have hadmits : Scope.admits deal ⟨none, notWon, 1⟩ openDeal = true := by decide +kernel
  obtain ⟨e, he, htrue⟩ :=
    (condition_true_iff comparisons openDeal).1 notWon 1 rfl (testsAgree_notWon 1)
  obtain ⟨f, hf, hcounts⟩ := (condition_true_iff comparisons openDeal).2 deal (.count notWon)
    ⟨none, notWon, 1⟩ rfl rfl (testsAgree_count 1)
  obtain ⟨t, ht⟩ := Expression.exists_takes exists_comparison e
  obtain ⟨u, hu⟩ := Expression.exists_takes exists_comparison f
  cases (htrue t ht).2 hmeets
  cases (hcounts u hu).2 hadmits
  exact ⟨rfl, hmeets, testsAgree_notWon 1, testsAgree_count 1, ⟨e, he, ht⟩, ⟨f, hf, hu⟩⟩

end Sql

end Dossier
