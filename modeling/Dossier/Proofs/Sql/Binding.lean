import Dossier.Proofs.Sql.Numbering
import Dossier.Sql.Binding

/-!
# Text written while values are bound

A statement is a list of pieces that is numbered when it is printed; what is sent is written from left to
right, with a number for each value as it is bound. Both are the same: a printer `Writes` a statement when
behind any values it leaves the text of the statement under the numbers that come next, and has put the
values of the statement behind the others.

Printers compose as statements do, since a part that comes later is numbered behind the values of the
parts before it (`textFrom_append`). So every condition writes its clause (`condition_writes`), every
request is sent as its statement (`ofRequest_eq`), and the numbers read back from the text are those of the
values (`placeholders_exact`).
-/

namespace Dossier

namespace Sql

open Statement

/-! ## Texts under numbers -/

namespace Statement

variable (next : Nat)

@[simp] theorem textFrom_nil : textFrom next [] = "" := rfl

@[simp] theorem textFrom_fixed (s : String) (rest : Statement) :
    textFrom next (.fixed s :: rest) = s ++ textFrom next rest :=
  String.join_cons

@[simp] theorem textFrom_quoted (s : String) (rest : Statement) :
    textFrom next (.quoted s :: rest) = literal s ++ textFrom next rest :=
  String.join_cons

@[simp] theorem textFrom_param (value : Param) (rest : Statement) :
    textFrom next (.param value :: rest) = s!"${next}" ++ textFrom (next + 1) rest :=
  String.join_cons

/-- What comes later is numbered behind the values of what comes before it. -/
@[simp] theorem textFrom_append (a b : Statement) :
    textFrom next (a ++ b) = textFrom next a ++ textFrom (next + (params a).length) b := by
  rw [← String.toList_inj, String.toList_append]
  simp only [toList_textFrom, chars_append]

@[simp] theorem params_nil : params [] = [] := rfl

@[simp] theorem params_fixed (s : String) (rest : Statement) :
    params (.fixed s :: rest) = params rest := rfl

@[simp] theorem params_quoted (s : String) (rest : Statement) :
    params (.quoted s :: rest) = params rest := rfl

@[simp] theorem params_param (value : Param) (rest : Statement) :
    params (.param value :: rest) = value :: params rest := rfl

/-- The texts of statements that are numbered one after the other. -/
def textsFrom : Nat → List Statement → List String
  | _, [] => []
  | next, a :: rest => textFrom next a :: textsFrom (next + (params a).length) rest

theorem textFrom_separated (separator : String) (parts : List Statement) :
    textFrom next (separated separator parts) =
      String.intercalate separator (textsFrom next parts) := by
  induction parts generalizing next with
  | nil => rfl
  | cons a rest ih =>
    cases rest with
    | nil => simp [separated, textsFrom]
    | cons b others =>
      rw [separated, textFrom_append, textFrom_fixed, ih]
      · simp [textsFrom, String.append_assoc]
      · simp

end Statement

namespace Operand

theorem text_eq (o : Operand) (next : Nat) : o.text = textFrom next o.statement := by
  cases o with
  | dataText key cast => cases cast <;> simp [text, statement, String.append_assoc]
  | _ => simp [text, statement]

end Operand

/-! ## Printers -/

/-- A printer leaves the text of a statement, numbered behind what is bound, and binds its values. -/
def Writes (m : Binding String) (a : Statement) : Prop :=
  ∀ bound : List Param, m.run bound = (textFrom (bound.length + 1) a, bound ++ params a)

/-- A printer of several texts, each of them a statement numbered behind the ones before it. -/
def WritesAll (m : Binding (List String)) (parts : List Statement) : Prop :=
  ∀ bound : List Param, m.run bound = (textsFrom (bound.length + 1) parts, bound ++ parts.flatMap params)

@[simp] theorem Binding.run_pure {α : Type} (x : α) (bound : List Param) :
    (pure x : Binding α).run bound = (x, bound) := rfl

section Rules

variable {α : Type} {m : Binding String} {a b : Statement} {parts : List Statement} {bound : List Param}

theorem Writes.run_bind (h : Writes m a) (f : String → Binding α) :
    (m >>= f).run bound = (f (textFrom (bound.length + 1) a)).run (bound ++ params a) := by
  rw [StateT.run_bind, h bound]
  rfl

theorem WritesAll.run_bind {m : Binding (List String)} (h : WritesAll m parts)
    (f : List String → Binding α) :
    (m >>= f).run bound = (f (textsFrom (bound.length + 1) parts)).run (bound ++ parts.flatMap params) := by
  rw [StateT.run_bind, h bound]
  rfl

theorem writes_pure {s : String} (hs : ∀ next, s = textFrom next a) (ha : params a = []) :
    Writes (pure s) a := by
  intro bound
  rw [ha, List.append_nil, ← hs, Binding.run_pure]

/-- A printer with fixed text put around what it prints. -/
theorem Writes.map (h : Writes m a) {f : String → String}
    (hf : ∀ next, f (textFrom next a) = textFrom next b) (hparams : params b = params a) :
    Writes (do return f (← m)) b := by
  intro bound
  rw [h.run_bind, Binding.run_pure, hf, hparams]

theorem WritesAll.map {m : Binding (List String)} (h : WritesAll m parts) {f : List String → String}
    (hf : ∀ next, f (textsFrom next parts) = textFrom next b)
    (hparams : params b = parts.flatMap params) : Writes (do return f (← m)) b := by
  intro bound
  rw [h.run_bind, Binding.run_pure, hf, hparams]

theorem WritesAll.join {m : Binding (List String)} (h : WritesAll m parts) (separator : String) :
    Writes (do return String.intercalate separator (← m)) (separated separator parts) :=
  h.map (fun next => (textFrom_separated next separator parts).symm) (params_separated separator parts)

theorem WritesAll.nil : WritesAll (pure []) [] := fun bound => by
  rw [Binding.run_pure, List.flatMap_nil, List.append_nil, textsFrom]

theorem WritesAll.cons {ms : Binding (List String)} (h : Writes m a) {f : String → String}
    (hf : ∀ next, f (textFrom next a) = textFrom next b) (hparams : params b = params a)
    (hms : WritesAll ms parts) :
    WritesAll (do let s ← m; let rest ← ms; return f s :: rest) (b :: parts) := by
  intro bound
  rw [h.run_bind, hms.run_bind, Binding.run_pure, hf, ← hparams]
  simp [textsFrom, Nat.add_right_comm]

end Rules

namespace Binding

theorem param_writes (value : Param) : Writes (param value) [.param value] := by
  intro bound
  have hrun : (param value).run bound = (s!"${(bound ++ [value]).length}", bound ++ [value]) := rfl
  simp [hrun]

/-! ## Conditions -/

theorem compares_writes (operand : Operand) (relation : Relation) (value : Param) :
    Writes (do return operand.text ++ s!" {relationSign relation} " ++ (← param value))
      (Test.compares operand relation value).statement := by
  refine (param_writes value).map (fun next => ?_) ?_
  · simp [Test.statement, operand.text_eq next, operand.params, String.append_assoc]
  · simp [Test.statement, operand.params]

theorem between_writes (operand : Operand) (low high : Param) :
    Writes (do
        let lowest ← param low
        let highest ← param high
        return operand.text ++ " BETWEEN " ++ lowest ++ " AND " ++ highest)
      (Test.between operand low high).statement := by
  intro bound
  rw [(param_writes low).run_bind, (param_writes high).run_bind, run_pure]
  simp [Test.statement, operand.text_eq (bound.length + 1), operand.params, String.append_assoc]

theorem dataHolds_writes (key text : String) :
    Writes (do return "data->" ++ literal key ++ " @> to_jsonb(" ++ (← param (.text text)) ++ "::text)")
      (Test.dataHolds key text).statement :=
  (param_writes _).map (fun next => by simp [Test.statement, String.append_assoc]) rfl

theorem dataIs_writes (key : String) (document : Json) :
    Writes (do return "data->" ++ literal key ++ " = " ++ (← param (.json document)))
      (Test.dataIs key document).statement :=
  (param_writes _).map (fun next => by simp [Test.statement, String.append_assoc]) rfl

theorem columnLike_writes (column : SystemColumn) (pattern : String) :
    Writes (do return column.sql ++ "::text ILIKE " ++ (← param (.text pattern)))
      (Test.columnLike column pattern).statement :=
  (param_writes _).map (fun next => by simp [Test.statement, toString, String.append_assoc]) rfl

-- A printer puts the name of the document behind other text; in the pieces of a test both are one text.
theorem join_literals {s t u : String} (h : s ++ t = u) (rest : String) :
    s ++ (t ++ rest) = u ++ rest := by
  rw [← h, String.append_assoc]

theorem dataIsNull_writes (key : String) :
    let document := "data->" ++ literal key
    Writes (return "(" ++ document ++ " IS NULL OR " ++ document ++ " = 'null'::jsonb)")
      (Test.dataIsNull key).statement := by
  have hopening := join_literals (by decide : "(" ++ "data->" = "(data->")
  have hor := join_literals (by decide : " IS NULL OR " ++ "data->" = " IS NULL OR data->")
  exact writes_pure (fun next => by simp [Test.statement, String.append_assoc, hopening, hor]) rfl

theorem dataLike_writes (key pattern : String) :
    let document := "data->" ++ literal key
    Writes (do
        let placeholder ← param (.text pattern)
        return "EXISTS (SELECT 1 FROM jsonb_array_elements_text(CASE jsonb_typeof(" ++ document ++
          ") WHEN 'array' THEN " ++ document ++ " WHEN 'string' THEN jsonb_build_array(" ++ document ++
          ") ELSE '[]'::jsonb END) AS t(v) WHERE t.v ILIKE " ++ placeholder ++ ")")
      (Test.dataLike key pattern).statement := by
  have hopening := join_literals
    (by rfl : "EXISTS (SELECT 1 FROM jsonb_array_elements_text(CASE jsonb_typeof(" ++ "data->" = _)
  have harray := join_literals
    (by decide : ") WHEN 'array' THEN " ++ "data->" = ") WHEN 'array' THEN data->")
  have hstring := join_literals
    (by decide : " WHEN 'string' THEN jsonb_build_array(" ++ "data->" =
      " WHEN 'string' THEN jsonb_build_array(data->")
  refine (param_writes _).map (fun next => ?_) rfl
  simp [Test.statement, String.append_assoc, hopening, harray, hstring]

theorem equality_writes (field : String) (value : Value) :
    Writes (equality field value) (Test.equals field value).statement := by
  have hsign : s!" {relationSign .eq} " = " = " := by decide
  have hcompares := compares_writes (.forValue field value) .eq (.ofValue value)
  rw [hsign] at hcompares
  unfold equality Test.equals
  cases SystemColumn.ofField? field with
  | none =>
    cases value with
    | null => exact dataIsNull_writes field
    | text s | ref s => exact dataHolds_writes field s
    | list items => exact dataIs_writes field _
    | json document => exact dataIs_writes field _
    | number | bool | date | currency => exact hcompares
  | some column =>
    cases value with
    | null => exact writes_pure (fun next => by simp [Test.statement, toString]) rfl
    | _ => exact hcompares

theorem mapM_equality_writes (field : String) (values : List Value) :
    WritesAll (values.mapM (equality field))
      (Clause.statements (values.map fun v => .test (.equals field v))) := by
  induction values with
  | nil => exact .nil
  | cons v rest ih =>
    rw [List.mapM_cons]
    exact .cons (equality_writes field v) (fun _ => rfl) rfl ih

/-! ## Conditions -/

section Text

variable (c : Clause) (next : Nat)

theorem text_group :
    "(" ++ textFrom next c.statement ++ ")" = textFrom next (Clause.group c).statement := by
  simp [Clause.statement, String.append_assoc]

theorem text_complement :
    "NOT COALESCE(" ++ textFrom next c.statement ++ ", false)" =
      textFrom next (Clause.complement c).statement := by
  simp [Clause.statement, String.append_assoc]

theorem text_complement_group :
    "NOT COALESCE((" ++ textFrom next c.statement ++ "), false)" =
      textFrom next (Clause.complement (.group c)).statement := by
  have hopening := join_literals (by decide : "NOT COALESCE(" ++ "(" = "NOT COALESCE((")
  simp [Clause.statement, String.append_assoc, hopening]

theorem text_any (parts : List Clause) :
    "(" ++ String.intercalate " OR " (textsFrom next (Clause.statements parts)) ++ ")" =
      textFrom next (Clause.group (.or parts)).statement := by
  rw [← text_group, Clause.statement, textFrom_separated]

end Text

theorem params_any (parts : List Clause) :
    params (Clause.group (.or parts)).statement = (Clause.statements parts).flatMap params := by
  rw [Clause.params_group, Clause.statement, params_separated]

theorem text_writes (field pattern : String) (mode : TextMatch) :
    Writes (condition (.text field mode pattern)) (whereClause (.text field mode pattern)) := by
  rw [whereClause, Clause.ofPredicate, condition]
  cases SystemColumn.ofField? field with
  | some column => exact columnLike_writes column _
  | none => exact dataLike_writes field _

theorem among_writes (field : String) (v : Value) (rest : List Value) (negated : Bool) :
    Writes (condition (.among field (v :: rest) negated))
      (whereClause (.among field (v :: rest) negated)) := by
  let parts := (v :: rest).map fun v => Clause.test (.equals field v)
  have hparts : WritesAll _ (Clause.statements parts) := mapM_equality_writes field (v :: rest)
  rw [condition]
  · cases negated with
    | false => exact hparts.map (fun next => text_any next parts) (params_any parts)
    | true =>
      refine hparts.map (fun next => ?_) ((Clause.params_complement _).trans (params_any parts))
      exact (congrArg (fun s => "NOT COALESCE(" ++ s ++ ", false)") (text_any next parts)).trans
        (text_complement (.group (.or parts)) next)
  · exact List.cons_ne_nil v rest

mutual

/-- **A predicate is written as its clause**, whatever was bound before. -/
theorem condition_writes (p : Predicate) : Writes (condition p) (whereClause p) := by
  match p with
  | .always | .never => exact writes_pure (fun _ => rfl) rfl
  | .compare field .eq value => exact equality_writes field value
  | .compare field .ne value =>
    let c : Clause := .test (.equals field value)
    exact (equality_writes field value).map (text_complement c) (Clause.params_complement c)
  | .compare field .gt value | .compare field .gte value | .compare field .lt value
  | .compare field .lte value => exact compares_writes _ _ _
  | .among field [] negated => cases negated <;> exact writes_pure (fun _ => rfl) rfl
  | .among field (v :: rest) negated => exact among_writes field v rest negated
  | .text field mode pattern => exact text_writes field pattern mode
  | .between field low high => exact between_writes _ _ _
  | .and parts => exact (conditions_writes parts).join " AND "
  | .or parts => exact (conditions_writes parts).join " OR "
  | .not inner =>
    rw [condition]
    let c := Clause.ofPredicate inner
    refine (condition_writes inner).map (text_complement_group c) ?_
    exact (Clause.params_complement _).trans (Clause.params_group c)

theorem conditions_writes (parts : List Predicate) :
    WritesAll (conditions parts) (Clause.statements (Clause.groups parts)) := by
  match parts with
  | [] => exact .nil
  | part :: rest =>
    rw [conditions]
    let c := Clause.ofPredicate part
    exact .cons (condition_writes part) (text_group c) (Clause.params_group c) (conditions_writes rest)

end

/-! ## Readings -/

theorem reading_writes (columns : String) (entity : Entity) (p : Predicate) :
    Writes (reading columns entity p)
      (.fixed ("SELECT " ++ columns ++ " FROM " ++ table) :: entityCondition entity p) := by
  intro bound
  rw [reading, (param_writes _).run_bind, (condition_writes p).run_bind, run_pure]
  simp [entityCondition, String.append_assoc]

theorem getting_writes (entity : Entity) (p : Predicate) :
    Writes (do return (← reading "*" entity p) ++ " LIMIT 1") (getStatement entity p) := by
  refine (reading_writes "*" entity p).map (fun next => ?_) ?_
  · simp [getStatement, String.append_assoc]
  · simp [getStatement]

theorem textsFrom_sortTerms (entity : Entity) (sort : List SortSpec) (next : Nat) :
    textsFrom next (sort.map (sortTerm entity)) =
      sort.map fun spec =>
        (sortOperand entity spec.field).text ++ " " ++ directionWord spec.direction := by
  induction sort with
  | nil => rfl
  | cons spec rest ih =>
    have hterm : params (sortTerm entity spec) = [] := by simp [sortTerm, Operand.params]
    rw [List.map_cons, List.map_cons, textsFrom, hterm, List.length_nil, Nat.add_zero, ih]
    simp [sortTerm, Operand.text_eq _ next, toString, String.append_assoc]

/-- Nothing is bound in a sort order, so its text has no numbers. -/
theorem totalOrder_text (entity : Entity) (sort : List SortSpec) (next : Nat) :
    (if (orderText entity sort).isEmpty then "ORDER BY \"id\" ASC"
      else orderText entity sort ++ ", \"id\" ASC") = textFrom next (totalOrder entity sort) := by
  cases sort with
  | nil => simp [orderText, totalOrder]
  | cons spec rest =>
    have horder : orderText entity (spec :: rest) = textFrom next (orderClause entity (spec :: rest)) := by
      rw [orderClause, textFrom_fixed, textFrom_separated, textsFrom_sortTerms]
      · rfl
      · exact List.cons_ne_nil spec rest
    have hnonempty : (orderText entity (spec :: rest)).isEmpty = false := by simp [orderText]
    have htotal : totalOrder entity (spec :: rest) =
        orderClause entity (spec :: rest) ++ [.fixed ", \"id\" ASC"] := rfl
    rw [hnonempty, horder, htotal, textFrom_append]
    simp

theorem listing_writes (entity : Entity) (q : ListQuery) :
    Writes (listing entity q) (listStatement entity q) := by
  intro bound
  have horder := totalOrder_text entity q.sort
    (bound.length + 1 + (params (entityCondition entity q.predicate)).length)
  rw [listing, (reading_writes _ entity _).run_bind, (param_writes _).run_bind,
    (param_writes _).run_bind, run_pure, horder]
  simp [listStatement, String.append_assoc, params_totalOrder, Nat.add_assoc, Nat.add_comm 1]

/-! ## Writes -/

/-- What a list of assignments sets, as one piece of a statement. -/
def setting (assignments : List Assignment) : Statement :=
  separated ", " (assignments.map Assignment.statement)

theorem settings_eq (stamp : Stamp) (w : Write) :
    settings stamp w =
      (textFrom 1 (setting (writeAssignments stamp w)), params (setting (writeAssignments stamp w))) := by
  refine Prod.ext ?_ ?_
  · cases w <;> simp only [settings, writeAssignments, setting, List.map, separated,
      Assignment.statement, List.cons_append, List.nil_append, textFrom_fixed, textFrom_param,
      textFrom_nil] <;> decide
  · cases w <;> rfl

/-- The text of an update goes on behind the numbers of its settings. -/
theorem run_guarded (entity : Entity) (id : Uuid) (guard : Predicate) (assignments : List Assignment) :
    (guarded entity id guard (textFrom 1 (setting assignments))).run (params (setting assignments)) =
      ((guardedStatement entity id guard assignments).text,
        params (guardedStatement entity id guard assignments)) := by
  rw [guarded, (param_writes _).run_bind, (param_writes _).run_bind, (condition_writes guard).run_bind,
    run_pure]
  show _ = (textFrom 1 _, _)
  simp [guardedStatement, setting, String.append_assoc, Nat.add_comm 1]

theorem insertion_eq (r : Record) :
    insertion r = ((insertStatement r).text, params (insertStatement r)) := by
  have hvalues : "$1, $2, $3, $4, $5, $6, $7, $8, $9, false) RETURNING *" =
      textFrom 1 (separated ", " [[.param (.uuid r.id)], [.param (.text r.tenant)],
        [.param (.text r.entity)], [.param (.ofColumn (some (.ofDict r.dataMembers)))],
        [.param (.ofColumn (r.approval.map Approval.render))], [.param (.timestamp r.createdAt)],
        [.param (.timestamp r.updatedAt)], [.param (.text r.createdBy)], [.param (.text r.updatedBy)]] ++
          [.fixed ", false) RETURNING *"]) := by
    simp only [separated, List.cons_append, List.nil_append, textFrom_fixed, textFrom_param,
      textFrom_nil]
    decide
  exact Prod.ext ((congrArg (_ ++ ·) hvalues).trans (textFrom_fixed 1 _ _).symm) rfl

/-- **What is written for a request is its statement**, in its text and in its values. -/
theorem ofRequest_eq (entity : Entity) (q : StoreRequest) :
    ofRequest entity q =
      ((Query.ofRequest entity q).statement.text, params (Query.ofRequest entity q).statement) := by
  cases q with
  | create r => exact insertion_eq r
  | get p => exact getting_writes entity p []
  | list q => exact listing_writes entity q []
  | count p => exact reading_writes _ entity p []
  | write id guard w stamp =>
    rw [ofRequest, settings_eq]
    exact run_guarded entity id guard _
  | setApproval id state =>
    have hset : "\"approval\" = NULLIF($1::jsonb, 'null'::jsonb)" =
        textFrom 1 (setting (approvalAssignments state)) := by
      simp only [approvalAssignments, setting, List.map, separated, Assignment.statement,
        textFrom_fixed, textFrom_param, textFrom_nil]
      decide
    rw [ofRequest, hset]
    exact run_guarded entity id .always _

end Binding

/-! ## What is sent -/

/-- **Placeholders are numbered exactly.**

A condition that is written behind bound values keeps them and binds its own after them, and the numbers
in its text go on from theirs without a gap; so a statement goes on in text and values where a condition is
put behind it. What is sent for a request is its statement: it has the numbers from one to the number of
its values, each once and in this order, and with each number looked up it reads as it does with the
values in their places. -/
theorem placeholders_exact :
    (∀ (before : Statement) (p : Predicate),
      (before ++ whereClause p).params = before.params ++ p.bound ∧
      (before ++ whereClause p).text = before.text ++ ((Binding.condition p).run before.params).1) ∧
    (∀ (before : List Param) (p : Predicate),
      (Binding.condition p).run before =
        (textFrom (before.length + 1) (whereClause p), before ++ p.bound) ∧
      placeholders ((Binding.condition p).run before).1 =
        List.range' (before.length + 1) p.bound.length ∧
      (lex ((Binding.condition p).run before).1).map (lookUp (before ++ p.bound)) =
        (whereClause p).valued) ∧
    ∀ (entity : Entity) (q : StoreRequest),
      Binding.ofRequest entity q = ((Query.ofRequest entity q).statement.text, q.bound entity) ∧
      (Query.ofRequest entity q).statement.params = q.bound entity ∧
      placeholders (Binding.ofRequest entity q).1 = List.range' 1 (q.bound entity).length ∧
      (lex (Binding.ofRequest entity q).1).map (lookUp (q.bound entity)) =
        (Query.ofRequest entity q).statement.valued := by
  refine ⟨fun before p => ⟨?_, ?_⟩, fun before p => ?_, fun entity q => ?_⟩
  · rw [params_append, params_whereClause]
  · rw [Binding.condition_writes p, Nat.add_comm]
    exact textFrom_append 1 before (whereClause p)
  · have hspaced := whereClause_spaced p
    have hplain := plain_whereClause p
    rw [Binding.condition_writes p, ← params_whereClause]
    exact ⟨rfl, placeholders_textFrom hspaced hplain _, lookUp_textFrom hspaced hplain before⟩
  · have hspaced := Query.spaced entity q
    have hplain := Query.plain entity q
    rw [Binding.ofRequest_eq, ← Query.params]
    exact ⟨rfl, rfl, placeholders_textFrom hspaced hplain 1, lookUp_textFrom hspaced hplain []⟩

end Sql

end Dossier
