import Dossier.Proofs.Sql.Spacing

/-!
# The placeholders of a statement

The text of a statement speaks of its parameters by number, and their values are sent beside it. Here
the numbers are read back from the text: in every text that is sent they count up from one, and to each
belongs the value that was meant for its place.

**Values.** Which values a request binds is said by recursion on the request (`Predicate.bound`,
`StoreRequest.bound`), with no regard to how the statement is printed.

**Places.** A statement with the values themselves in the places of its parameters has the tokens
`Statement.valued`. The text that is sent has the same tokens once each number is looked up in the list
of values (`Statement.lookUp_tokens`), as long as no fixed text has a dollar sign (`Statement.Plain`).
-/

namespace Dossier

/-! ## The values of a request -/

open Sql (Param SystemColumn)

/-- What is bound to compare a field with a value for equality: nothing for null, and a reference as
text where the field is not a system field. -/
def Value.boundFor (field : String) (v : Value) : List Param :=
  match v, SystemColumn.ofField? field with
  | .null, _ => []
  | .ref id, none => [.text id]
  | v, _ => [.ofValue v]

namespace Predicate

mutual

/-- The values that a predicate binds, from left to right. -/
def bound : Predicate → List Param
  | .always | .never => []
  | .compare field .eq value | .compare field .ne value => value.boundFor field
  | .compare _ _ value => [.ofValue value]
  | .among field values _ => values.flatMap (Value.boundFor field)
  | .text _ mode pattern => [.text (likePattern mode pattern)]
  | .between _ low high => [.ofValue low, .ofValue high]
  | .and parts | .or parts => allBound parts
  | .not inner => inner.bound

def allBound : List Predicate → List Param
  | [] => []
  | part :: rest => part.bound ++ allBound rest

end

end Predicate

def Write.bound (stamp : Stamp) : Write → List Param
  | .update changes =>
    [.textList (Sql.removals changes), .json (.object (Sql.additions changes)), .timestamp stamp.time,
      .text stamp.actor]
  | .delete | .restore => [.timestamp stamp.time, .text stamp.actor]

def StoreRequest.bound (entity : Entity) : StoreRequest → List Param
  | .create r =>
    [.uuid r.id, .text r.tenant, .text r.entity, .json (.ofDict r.dataMembers),
      .ofColumn (r.approval.map Approval.render), .timestamp r.createdAt, .timestamp r.updatedAt,
      .text r.createdBy, .text r.updatedBy]
  | .get p | .count p => .text entity.name :: p.bound
  | .list q => .text entity.name :: q.predicate.bound ++ [.integer q.limit, .integer q.offset]
  | .write id guard w stamp => w.bound stamp ++ [.uuid id, .text entity.name] ++ guard.bound
  | .setApproval id state =>
    [.json ((state.map Approval.render).getD .null), .uuid id, .text entity.name]

namespace Sql

open Statement

/-! ## Placeholders and values -/

/-- The numbers of the placeholders in a text, from left to right. -/
def placeholders (s : String) : List Nat := (lex s).filterMap Token.placeholder?

/-- The value for a number; numbers start from one. -/
def valueAt (values : List Param) : Nat → Option Param
  | 0 => none
  | i + 1 => values[i]?

/-- A token with the value for its number in the place of a placeholder. -/
def lookUp (values : List Param) : Token Nat → Token (Option Param) := Token.map (valueAt values)

/-- The tokens of a piece with its value in the place of a parameter. -/
def Piece.valued : Piece → List (Token (Option Param))
  | .fixed s => (lex s).map (Token.map fun _ => none)
  | .quoted s => [.text s]
  | .param v => [.placeholder (some v)]

/-- The tokens of a statement with its values in the places of the parameters. -/
def Statement.valued (statement : Statement) : List (Token (Option Param)) :=
  statement.flatMap Piece.valued

/-! ## Fixed text without placeholders -/

/-- Only a dollar sign starts a placeholder. -/
theorem Scan.start_of_ne {c : Char} (hc : c ≠ '$') :
    (∀ n, (start c).1 ≠ .placeholder n) ∧ (start c).2.filterMap Token.placeholder? = [] := by
  unfold start
  repeat' split
  all_goals simp_all [Token.placeholder?]

/-- Without a dollar sign there is no placeholder. -/
theorem placeholders_of_notMem {scan : Scan} {cs : List Char} (hscan : ∀ n, scan ≠ .placeholder n)
    (hcs : '$' ∉ cs) : (lexFrom scan cs).filterMap Token.placeholder? = [] := by
  have hfinish {scan : Scan} (h : ∀ n, scan ≠ .placeholder n) :
      scan.finish.filterMap Token.placeholder? = [] := by
    cases scan with
    | placeholder n => exact absurd rfl (h n)
    | _ => rfl
  induction cs generalizing scan with
  | nil => exact hfinish hscan
  | cons c cs ih =>
    rw [List.mem_cons, not_or] at hcs
    rw [lexFrom]
    cases hnext : scan.extend? c with
    | some next =>
      refine ih (fun n hn => ?_) hcs.2
      subst hn
      cases scan with
      | placeholder m => exact hscan m rfl
      | between => cases hnext
      | name cs | text cs =>
        simp only [Scan.extend?] at hnext
        split at hnext <;> cases hnext
      | _ => simp [Scan.extend?] at hnext
    | none =>
      obtain ⟨hscan', htoken⟩ := Scan.start_of_ne (Ne.symm hcs.1)
      show (scan.finish ++ (Scan.start c).2 ++ lexFrom (Scan.start c).1 cs).filterMap _ = []
      simp only [List.filterMap_append, hfinish hscan, htoken, ih hscan' hcs.2, List.append_nil]

/-- Whether a piece has no dollar sign but the one of a parameter. -/
def Piece.plain : Piece → Bool
  | .fixed s => !s.toList.contains '$'
  | _ => true

theorem Piece.placeholders_of_plain {s : String} (hs : (Piece.fixed s).plain = true) :
    (lex s).filterMap Token.placeholder? = [] := by
  have hnotMem : '$' ∉ s.toList := by simpa [plain] using hs
  exact placeholders_of_notMem (fun _ => Scan.noConfusion) hnotMem

theorem Piece.plain_literal {cs : List Char} (hcs : cs.contains '$' = false) :
    (Piece.fixed (String.ofList cs)).plain = true := by
  rw [plain, String.toList_ofList, hcs]
  rfl

theorem Piece.plain_join {s t : String} (hs : (Piece.fixed s).plain = true)
    (ht : (Piece.fixed t).plain = true) : (Piece.fixed (s ++ t)).plain = true := by
  simp only [plain, String.toList_append, Bool.not_eq_true', List.contains_eq_mem,
    decide_eq_false_iff_not, List.mem_append, not_or] at hs ht ⊢
  exact ⟨hs, ht⟩

/-- A fixed text without dollar signs has the same tokens whatever the values are. -/
theorem Piece.map_lookUp {s : String} (hs : (Piece.fixed s).plain = true) (values : List Param) :
    (lex s).map (lookUp values) = valued (.fixed s) := by
  refine List.map_congr_left fun t ht => ?_
  cases t with
  | placeholder n =>
    have hn : n ∈ (lex s).filterMap Token.placeholder? := List.mem_filterMap.2 ⟨_, ht, rfl⟩
    rw [placeholders_of_plain hs] at hn
    cases hn
  | _ => rfl

namespace Statement

/-- Whether the fixed text of a statement is free of dollar signs. -/
def plain (statement : Statement) : Bool := statement.all Piece.plain

theorem plain_fixed {cs : List Char} {rest : Statement} (hcs : cs.contains '$' = false)
    (hrest : plain rest = true) : plain (.fixed (String.ofList cs) :: rest) = true := by
  rw [plain, List.all_cons, Piece.plain, String.toList_ofList, hcs]
  exact hrest

theorem plain_quoted {s : String} {rest : Statement} (hrest : plain rest = true) :
    plain (.quoted s :: rest) = true := hrest

@[simp] theorem plain_append (a b : Statement) : plain (a ++ b) = (plain a && plain b) :=
  List.all_append

theorem plain_separated {s : String} (hs : (Piece.fixed s).plain = true) {parts : List Statement}
    (hparts : ∀ part ∈ parts, plain part = true) : plain (separated s parts) = true :=
  all_separated hs hparts

theorem params_separated (s : String) (parts : List Statement) :
    params (separated s parts) = parts.flatMap params :=
  filterMap_separated rfl parts

variable {a : Statement}

/-- The parameters of a statement are numbered through. -/
theorem placeholders_tokens (ha : plain a = true) (next : Nat) :
    (tokens next a).filterMap Token.placeholder? = List.range' next (params a).length := by
  induction a generalizing next with
  | nil => rfl
  | cons p rest ih =>
    obtain ⟨hp, hrest⟩ := Bool.and_eq_true_iff.1 ha
    rw [tokens, List.filterMap_append, ih hrest, length_params_cons]
    cases p with
    | fixed s => simp [Piece.tokens, Piece.placeholders_of_plain hp, Piece.count]
    | quoted s => simp [Piece.tokens, Piece.count, Token.placeholder?]
    | param v =>
      rw [Piece.count, Nat.add_comm 1, List.range'_succ]
      rfl

/-- **Each number stands for the value at its place**, whatever was bound before. -/
theorem lookUp_tokens (ha : plain a = true) (before after : List Param) :
    (tokens (before.length + 1) a).map (lookUp (before ++ params a ++ after)) = valued a := by
  induction a generalizing before with
  | nil => rfl
  | cons p rest ih =>
    obtain ⟨hp, hrest⟩ := Bool.and_eq_true_iff.1 ha
    cases p with
    | fixed s =>
      rw [tokens, List.map_append, Piece.tokens, Piece.map_lookUp hp]
      exact congrArg (_ ++ ·) (ih hrest before)
    | quoted s => exact congrArg (Token.text s :: ·) (ih hrest before)
    | param v =>
      have hvalue : valueAt (before ++ v :: params rest ++ after) (before.length + 1) = some v := by
        simp [valueAt]
      have hstep := ih hrest (before ++ [v])
      rw [List.length_append, List.append_assoc before] at hstep
      rw [tokens, Piece.tokens, Piece.count]
      exact congr (congrArg _ (congrArg Token.placeholder hvalue)) hstep

end Statement

/-! ## Conditions -/

theorem SystemColumn.plain_sql (c : SystemColumn) : (Piece.fixed c.sql).plain = true := by
  cases c <;> decide +kernel

theorem Operand.plain (o : Operand) : Statement.plain o.statement = true := by
  cases o with
  | column c => exact (Bool.and_true _).trans c.plain_sql
  | columnAsText c =>
    exact (Bool.and_true _).trans (Piece.plain_join c.plain_sql (Piece.plain_literal rfl))
  | dataJson key => rfl
  | dataText key cast =>
    cases cast with
    | none => rfl
    | some type => cases type <;> rfl

theorem Operand.params (o : Operand) : Statement.params o.statement = [] := by
  cases o with
  | dataText key cast => cases cast <;> rfl
  | _ => rfl

def Test.bound : Test → List Param
  | .columnIsNull _ | .dataIsNull _ => []
  | .dataHolds _ text => [.text text]
  | .dataIs _ document => [.json document]
  | .compares _ _ value => [value]
  | .between _ low high => [low, high]
  | .columnLike _ pattern | .dataLike _ pattern => [.text pattern]

namespace Test

set_option maxRecDepth 2000 in
theorem plain (t : Test) : Statement.plain t.statement = true := by
  cases t with
  | columnIsNull c | columnLike c =>
    exact (Bool.and_true _).trans (Piece.plain_join c.plain_sql (Piece.plain_literal rfl))
  | compares o relation =>
    rw [statement, plain_append, o.plain]
    cases relation <;> rfl
  | between o =>
    rw [statement, plain_append, o.plain]
    rfl
  | dataLike key =>
    refine plain_fixed rfl (plain_quoted (plain_fixed rfl (plain_quoted ?_)))
    exact plain_fixed rfl (plain_quoted (plain_fixed rfl rfl))
  | dataIsNull key =>
    exact plain_fixed rfl (plain_quoted (plain_fixed rfl (plain_quoted (plain_fixed rfl rfl))))
  | dataHolds | dataIs => rfl

theorem params (t : Test) : Statement.params t.statement = t.bound := by
  cases t with
  | compares o | between o =>
    rw [statement, params_append, o.params]
    rfl
  | _ => rfl

/-- A test for equality binds what has to be compared. -/
theorem bound_equals (field : String) (value : Value) :
    (equals field value).bound = value.boundFor field := by
  cases hcolumn : SystemColumn.ofField? field <;> cases value <;>
    simp [equals, Value.boundFor, hcolumn, bound, Param.ofValue]

end Test

namespace Clause

mutual

theorem plain (c : Clause) : Statement.plain c.statement = true := by
  match c with
  | .constant true | .constant false => rfl
  | .test t => exact t.plain
  | .group inner =>
    show Statement.plain ([.fixed "("] ++ inner.statement ++ [.fixed ")"]) = true
    rw [plain_append, plain_append, inner.plain]
    rfl
  | .and parts => exact plain_separated rfl (plain_parts parts)
  | .or parts => exact plain_separated rfl (plain_parts parts)
  | .complement inner =>
    show Statement.plain ([.fixed "NOT COALESCE("] ++ inner.statement ++ [.fixed ", false)"]) = true
    rw [plain_append, plain_append, inner.plain]
    rfl

theorem plain_parts (parts : List Clause) :
    ∀ part ∈ statements parts, Statement.plain part = true := by
  match parts with
  | [] => simp [statements]
  | part :: rest =>
    rw [statements, List.forall_mem_cons]
    exact ⟨part.plain, plain_parts rest⟩

end

theorem params_group (c : Clause) : params (group c).statement = params c.statement :=
  (params_append c.statement [.fixed ")"]).trans (List.append_nil _)

theorem params_complement (c : Clause) : params (complement c).statement = params c.statement :=
  (params_append c.statement [.fixed ", false)"]).trans (List.append_nil _)

/-- The values for membership are those for equality with each member. -/
theorem params_among (field : String) (values : List Value) :
    params (or (values.map fun v => .test (.equals field v))).statement =
      values.flatMap (Value.boundFor field) := by
  rw [statement, params_separated]
  induction values with
  | nil => rfl
  | cons v rest ih =>
    rw [List.map_cons, statements, List.flatMap_cons, List.flatMap_cons, ih]
    rw [statement, Test.params, Test.bound_equals]

mutual

/-- **A predicate binds its values from left to right.** -/
theorem params_ofPredicate (p : Predicate) : params (ofPredicate p).statement = p.bound := by
  match p with
  | .always | .never => rfl
  | .compare field .eq value => exact (Test.params _).trans (Test.bound_equals field value)
  | .compare field .ne value =>
    exact (params_complement _).trans ((Test.params _).trans (Test.bound_equals field value))
  | .compare _ .gt value | .compare _ .gte value | .compare _ .lt value | .compare _ .lte value =>
    exact Test.params _
  | .among field [] negated => cases negated <;> rfl
  | .among field (v :: rest) false => exact (params_group _).trans (params_among field (v :: rest))
  | .among field (v :: rest) true =>
    exact (params_complement _).trans ((params_group _).trans (params_among field (v :: rest)))
  | .text field mode pattern =>
    rw [ofPredicate]
    cases SystemColumn.ofField? field <;> exact Test.params _
  | .between field low high => exact Test.params _
  | .and parts | .or parts =>
    rw [ofPredicate, statement, params_separated]
    exact params_groups parts
  | .not inner =>
    exact (params_complement _).trans ((params_group _).trans (params_ofPredicate inner))

theorem params_groups (parts : List Predicate) :
    (statements (groups parts)).flatMap params = Predicate.allBound parts := by
  match parts with
  | [] => rfl
  | part :: rest =>
    rw [groups, statements, List.flatMap_cons, params_group, params_ofPredicate part,
      params_groups rest]
    rfl

end

end Clause

theorem plain_whereClause (p : Predicate) : plain (whereClause p) = true := Clause.plain _

theorem params_whereClause (p : Predicate) : params (whereClause p) = p.bound :=
  Clause.params_ofPredicate p

/-! ## Statements of the store -/

set_option maxRecDepth 2000 in
theorem plain_insertStatement (r : Record) : plain (insertStatement r) = true := by
  have hopening : Piece.plain (.fixed ("INSERT INTO " ++ table ++
      " (\"id\", \"tenant_id\", \"entity_name\", \"data\", \"approval\", " ++
        "\"created_at\", \"updated_at\", \"created_by\", \"updated_by\", \"deleted\") VALUES (")) =
          true :=
    Piece.plain_join (Piece.plain_join (Piece.plain_join (Piece.plain_literal rfl)
      (Piece.plain_literal rfl)) (Piece.plain_literal rfl)) (Piece.plain_literal rfl)
  have hvalues (values : List Param) :
      plain (separated ", " (values.map fun v => [.param v])) = true := by
    refine plain_separated rfl fun part hpart => ?_
    obtain ⟨v, -, rfl⟩ := List.mem_map.1 hpart
    rfl
  have hset := Bool.and_eq_true_iff.2 ⟨hopening, hvalues [.uuid r.id, .text r.tenant, .text r.entity,
    .ofColumn (some (.ofDict r.dataMembers)), .ofColumn (r.approval.map Approval.render),
    .timestamp r.createdAt, .timestamp r.updatedAt, .text r.createdBy, .text r.updatedBy]⟩
  rw [insertStatement, plain_append]
  exact Bool.and_eq_true_iff.2 ⟨hset, plain_fixed rfl rfl⟩

theorem plain_assignments (assignments : List Assignment) :
    plain (separated ", " (assignments.map Assignment.statement)) = true := by
  refine plain_separated rfl fun part hpart => ?_
  obtain ⟨a, -, rfl⟩ := List.mem_map.1 hpart
  cases a with
  | deleted flag => cases flag <;> rfl
  | deletedAt t => cases t <;> rfl
  | deletedBy user => cases user <;> rfl
  | _ => rfl

theorem plain_guardedStatement (entity : Entity) (id : Uuid) (guard : Predicate)
    (assignments : List Assignment) : plain (guardedStatement entity id guard assignments) = true := by
  have hassignments := plain_assignments assignments
  have hguard := plain_whereClause guard
  simp only [guardedStatement, plain_append, Bool.and_eq_true]
  exact ⟨⟨⟨Bool.and_eq_true_iff.2 ⟨rfl, hassignments⟩, rfl⟩, hguard⟩, rfl⟩

theorem params_guardedStatement (entity : Entity) (id : Uuid) (guard : Predicate)
    (assignments : List Assignment) :
    params (guardedStatement entity id guard assignments) =
      assignments.flatMap (fun a => params a.statement) ++ [.uuid id, .text entity.name] ++
        guard.bound := by
  have hset : params (.fixed ("UPDATE " ++ table ++ " SET ") ::
      separated ", " (assignments.map Assignment.statement)) =
        assignments.flatMap fun a => params a.statement :=
    (params_separated ", " _).trans (List.flatMap_map ..)
  simp only [guardedStatement, params_append, hset, params_whereClause]
  exact List.append_nil _

theorem plain_entityCondition (entity : Entity) (p : Predicate) :
    plain (entityCondition entity p) = true := by
  simp only [entityCondition, plain_append, plain_whereClause]
  rfl

theorem params_entityCondition (entity : Entity) (p : Predicate) :
    params (entityCondition entity p) = .text entity.name :: p.bound := by
  simp only [entityCondition, params_append, params_whereClause]
  exact List.append_nil _

theorem plain_totalOrder (entity : Entity) (sort : List SortSpec) :
    plain (totalOrder entity sort) = true := by
  cases sort with
  | nil => rfl
  | cons spec rest =>
    have hterms : plain (separated ", " ((spec :: rest).map (sortTerm entity))) = true := by
      refine plain_separated rfl fun part hpart => ?_
      obtain ⟨other, -, rfl⟩ := List.mem_map.1 hpart
      rw [sortTerm, plain_append, Operand.plain]
      cases other.direction <;> rfl
    have horder : plain (orderClause entity (spec :: rest)) = true :=
      Bool.and_eq_true_iff.2 ⟨rfl, hterms⟩
    exact (plain_append _ _).trans (Bool.and_eq_true_iff.2 ⟨horder, rfl⟩)

theorem params_totalOrder (entity : Entity) (sort : List SortSpec) :
    params (totalOrder entity sort) = [] := by
  cases sort with
  | nil => rfl
  | cons spec rest =>
    have hterms : params (separated ", " ((spec :: rest).map (sortTerm entity))) = [] := by
      rw [params_separated, List.flatMap_eq_nil_iff]
      intro part hpart
      obtain ⟨other, -, rfl⟩ := List.mem_map.1 hpart
      rw [sortTerm, params_append, Operand.params]
      rfl
    exact (params_append _ _).trans (congrArg (· ++ []) hterms)

namespace Query

variable (entity : Entity)

theorem plain (q : StoreRequest) : Statement.plain (ofRequest entity q).statement = true := by
  cases q with
  | create r => exact plain_insertStatement r
  | get p =>
    refine (plain_append _ _).trans (Bool.and_eq_true_iff.2 ⟨?_, rfl⟩)
    exact Bool.and_eq_true_iff.2 ⟨rfl, plain_entityCondition entity p⟩
  | count p => exact Bool.and_eq_true_iff.2 ⟨rfl, plain_entityCondition entity p⟩
  | list q =>
    have hwhere : Statement.plain (.fixed ("SELECT * FROM " ++ table) ::
        entityCondition entity q.predicate) = true :=
      Bool.and_eq_true_iff.2 ⟨rfl, plain_entityCondition entity q.predicate⟩
    show Statement.plain (listStatement entity q) = true
    simp only [listStatement, plain_append, hwhere, plain_totalOrder]
    rfl
  | write id guard w stamp => exact plain_guardedStatement entity id guard _
  | setApproval id state => exact plain_guardedStatement entity id .always _

/-- **A request binds its values in the order of its parts.** -/
theorem params (q : StoreRequest) :
    Statement.params (ofRequest entity q).statement = q.bound entity := by
  cases q with
  | create r => rfl
  | get p =>
    refine (params_append _ _).trans ((List.append_nil _).trans ?_)
    exact params_entityCondition entity p
  | count p => exact params_entityCondition entity p
  | list q =>
    have hwhere : Statement.params (.fixed ("SELECT * FROM " ++ table) ::
        entityCondition entity q.predicate) = .text entity.name :: q.predicate.bound :=
      params_entityCondition entity q.predicate
    show Statement.params (listStatement entity q) = _
    simp only [listStatement, params_append, hwhere, params_totalOrder]
    simp [StoreRequest.bound, Statement.params]
  | write id guard w stamp =>
    refine (params_guardedStatement entity id guard _).trans ?_
    cases w <;> rfl
  | setApproval id state => exact params_guardedStatement entity id .always _

end Query

/-! ## Printed text -/

namespace Statement

variable {a : Statement}

/-- The numbers in the text of a statement count up. -/
theorem placeholders_textFrom (hspaced : a.Spaced) (hplain : plain a = true) (next : Nat) :
    placeholders (textFrom next a) = List.range' next (params a).length := by
  rw [placeholders, hspaced.lex_textFrom, placeholders_tokens hplain]

/-- With each number looked up, the text of a statement has the values in their places. -/
theorem lookUp_textFrom (hspaced : a.Spaced) (hplain : plain a = true) (before : List Param) :
    (lex (textFrom (before.length + 1) a)).map (lookUp (before ++ params a)) = valued a := by
  have h := lookUp_tokens hplain before []
  rwa [List.append_nil, ← hspaced.lex_textFrom] at h

end Statement

end Sql

end Dossier
