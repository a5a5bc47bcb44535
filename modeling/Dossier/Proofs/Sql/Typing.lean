import Dossier.Filter.Compile
import Dossier.Proofs.Schema
import Dossier.Proofs.Sql.Agreement
import Dossier.Proofs.TypedValue
import Dossier.Sql.Table

/-!
# Types of comparisons

A database refuses a comparison of values of two types. Here the types in the condition of a list of
filters are worked out from its text: a column has the type that the definition of the table gives it, a
cast the type it names, and a parameter that of the value bound to its number. Which filters make the two
sides of a comparison differ is said on the filters themselves (`Filter.mistyped`), and the condition is
well typed exactly when no filter of the list is one of these (`typed_iff`).

**From the text to the filters.** The types in an expression are those of its single tests
(`Clause.typed_expression`), and the tests of a conjunction are those of its parts (`leaves_all`). What is
left is one filter at a time: the kinds that conversion gives a value decide both the cast on the left
and the type that is bound on the right.
-/

namespace Dossier

namespace Sql

open Statement

/-! ## The types of columns -/

def SqlType.ofName? (name : String) : Option SqlType :=
  [.text, .uuid, .float8, .boolean, .timestamptz, .numeric, .jsonb].find? fun type => type.name == name

theorem SqlType.ofName?_name (type : SqlType) : ofName? type.name = some type := by
  cases type <;> rfl

/-- The columns of a table definition: names in quotation marks, each with the type behind it. -/
def columnsIn : List (Token Nat) → List (String × SqlType)
  | [] => []
  | .name column :: ts =>
    match ts.head? with
    | some (.word type) => ((SqlType.ofName? type).map (column, ·)).toList ++ columnsIn ts
    | _ => columnsIn ts
  | _ :: ts => columnsIn ts

/-- The type of a column of the table of records. -/
def columnType? (column : String) : Option SqlType := (columnsIn (lex createTable.text)).lookup column

theorem text_lines (parts : List String) : (lines parts).text = String.intercalate "\n" parts := by
  simp [lines, Statement.text, printed, String.join]

theorem lex_lines_singleton (cs : List Char) :
    lex (String.intercalate "\n" [String.ofList cs]) = lexFrom .between cs := by
  have htext : (String.intercalate "\n" [String.ofList cs]).toList = cs := by simp
  rw [lex, htext]

theorem lex_lines_cons {cs : List Char} {ts : List (Token Nat)} {next : String} {rest : List String}
    (hclosed : ((Scan.after .between cs).extend? '\n').isNone = true)
    (hrest : lex (String.intercalate "\n" (next :: rest)) = ts) :
    lex (String.intercalate "\n" (String.ofList cs :: next :: rest)) = lexFrom .between cs ++ ts := by
  subst hrest
  have htext : (String.intercalate "\n" (String.ofList cs :: next :: rest)).toList =
      cs ++ '\n' :: (String.intercalate "\n" (next :: rest)).toList := by
    simp [String.toList_intercalate, List.intercalate]
  rw [lex, htext, lexFrom_append]
  · rfl
  · intro c hc
    cases hc
    simpa using hclosed

set_option maxRecDepth 2000 in
theorem columns_createTable : columnsIn (lex createTable.text) =
    [("id", .uuid), ("tenant_id", .text), ("entity_name", .text), ("data", .jsonb), ("approval", .jsonb),
      ("created_at", .timestamptz), ("updated_at", .timestamptz), ("created_by", .text),
      ("updated_by", .text), ("deleted", .boolean), ("deleted_at", .timestamptz),
      ("deleted_by", .text)] := by
  -- Line by line: the characters of the whole text at once are too many for the kernel.
  rw [createTable, text_lines, lex_lines_cons rfl (lex_lines_cons rfl (lex_lines_cons rfl
    (lex_lines_cons rfl (lex_lines_cons rfl (lex_lines_cons rfl (lex_lines_cons rfl (lex_lines_cons rfl
      (lex_lines_cons rfl (lex_lines_cons rfl (lex_lines_cons rfl (lex_lines_cons rfl
        (lex_lines_cons rfl (lex_lines_singleton _)))))))))))))]
  decide +kernel

theorem columnType?_data : columnType? "data" = some .jsonb := by
  rw [columnType?, columns_createTable]
  rfl

theorem columnType?_approval : columnType? "approval" = some .jsonb := by
  rw [columnType?, columns_createTable]
  rfl

/-- The table has the columns that filters speak of, and of the types they take them for. -/
theorem columnType?_field {c : SystemColumn} (hc : c ≠ .approvalStatus) :
    columnType? c.field = some c.type := by
  rw [columnType?, columns_createTable]
  cases c <;> first | rfl | exact absurd rfl hc

/-! ## The types of expressions -/

/-- The type of a bound value, if it is one that filters compare. -/
def Param.type? : Param → Option SqlType
  | .text _ => some .text
  | .uuid _ => some .uuid
  | .number _ => some .float8
  | .bool _ => some .boolean
  | .timestamp _ => some .timestamptz
  | .decimal _ => some .numeric
  | .json _ => some .jsonb
  | _ => none

/-- Whether a token compares what stands on its two sides. -/
def Token.compares : Token Nat → Bool
  | .word s => s == "between"
  | .sign s => comparisonSigns.contains s
  | _ => false

namespace Expression

/-- The type of an expression of columns, members of documents and casts. -/
def type? : Expression → Option SqlType
  | .name s | .word s => columnType? s
  | .paren inner => inner.type?
  | .cast _ type => SqlType.ofName? type
  | .binary sign left _ =>
    if left.type? = some .jsonb then
      if sign = "->" then some .jsonb else if sign = "->>" then some .text else none
    else none
  | _ => none

def param? : Expression → Option Nat
  | .param n => some n
  | .paren inner => inner.param?
  | _ => none

/-- Whether a parameter, where the right side of a comparison is one, has the type of the left side. -/
def fits (values : List Param) (left right : Expression) : Bool :=
  right.param?.all fun n =>
    left.type?.isSome && left.type? == (valueAt values n).bind Param.type?

/-- Whether each comparison in an expression has a parameter of the type of its left side, if it has a
parameter on its right. A query is well typed when it compares nothing. -/
def typed (values : List Param) : Expression → Bool
  | .binary sign left right =>
    left.typed values && right.typed values &&
      (!comparisonSigns.contains sign || fits values left right)
  | .between inner low high =>
    inner.typed values && low.typed values && high.typed values &&
      (fits values inner low && fits values inner high)
  | .paren inner | .not inner | .isNull inner | .cast inner _ | .call _ inner => inner.typed values
  | .coalesce first second => first.typed values && second.typed values
  | .exist query => !query.any Token.compares
  | _ => true

/-- Connectives compare nothing. -/
theorem typed_joined {operator : String} (h : comparisonSigns.contains operator = false)
    (values : List Param) (es : List Expression) :
    (joined operator es).typed values = es.all (typed values) := by
  cases es with
  | nil => rfl
  | cons e rest =>
    show (rest.foldl (.binary operator) e).typed values = (e.typed values && rest.all (typed values))
    induction rest generalizing e with
    | nil => exact (Bool.and_true _).symm
    | cons f rest ih =>
      have hbinary : (binary operator e f).typed values = (e.typed values && f.typed values) := by
        rw [typed, h]
        exact Bool.and_true _
      rw [List.foldl_cons, ih, hbinary, List.all_cons, Bool.and_assoc]

end Expression

/-! ## The types of tests -/

section Test

variable (values : List Param)

theorem typed_member {sign : String} (h : comparisonSigns.contains sign = false) (key : String) :
    (member sign key).typed values = true := by
  rw [member, Expression.typed, h]
  rfl

theorem typed_document (key : String) : (member "->" key).typed values = true :=
  typed_member values (by decide) key

theorem type?_member (key : String) :
    (member "->" key).type? = some .jsonb ∧ (member "->>" key).type? = some .text := by
  simp [member, Expression.type?, columnType?_data]

theorem SystemColumn.type?_expression (c : SystemColumn) : c.expression.type? = some c.type := by
  rw [expression]
  split
  · rename_i hc
    simp [Expression.type?, columnType?_approval, hc, type]
  · rename_i hc
    exact columnType?_field hc

theorem SystemColumn.typed_expression (c : SystemColumn) : c.expression.typed values = true := by
  cases c <;> rfl

namespace Operand

/-- **An operand has the type that it is said to have.** -/
theorem type?_expression (o : Operand) : o.expression.type? = some o.type := by
  cases o with
  | column c => exact c.type?_expression
  | columnAsText c => exact SqlType.ofName?_name .text
  | dataText key cast =>
    cases cast with
    | none => exact (type?_member key).2
    | some type => exact SqlType.ofName?_name type
  | dataJson key => exact (type?_member key).1

theorem typed_expression (o : Operand) : o.expression.typed values = true := by
  cases o with
  | column c | columnAsText c => exact c.typed_expression values
  | dataText key cast =>
    have hmember : (member "->>" key).typed values = true := typed_member values (by decide) key
    cases cast <;> exact hmember
  | dataJson key => exact typed_document values key

end Operand

/-- Whether the two sides of a test have the same type, if it is a comparison. -/
def Test.typed : Test → Bool
  | .compares operand _ value => value.type? == some operand.type
  | .between operand low high => low.type? == some operand.type && high.type? == some operand.type
  | _ => true

variable {values}

theorem fits_param {o : Operand} {n : Nat} {v : Param} (h : valueAt values n = some v) :
    Expression.fits values o.expression (.param n) = (v.type? == some o.type) := by
  rw [Expression.fits, o.type?_expression, Expression.param?, Option.all_some, h]
  exact Bool.beq_comm

theorem valueAt_middle (before : List Param) (v : Param) (after : List Param) :
    valueAt (before ++ v :: after) (before.length + 1) = some v := by
  simp [valueAt]

/-- **The types in the expression of a test are those of its sides.** -/
theorem Test.typed_expression (t : Test) (before after : List Param) :
    (t.expression (before.length + 1)).typed (before ++ t.bound ++ after) = t.typed := by
  cases t with
  | compares o relation v =>
    have hsign : comparisonSigns.contains (relationSign relation) = true := by
      cases relation <;> decide
    have hvalue : valueAt (before ++ [v] ++ after) (before.length + 1) = some v := by
      simpa using valueAt_middle before v after
    simp only [expression, Expression.typed, o.typed_expression, hsign, bound, fits_param hvalue]
    rfl
  | between o low high =>
    have hlow : valueAt (before ++ [low, high] ++ after) (before.length + 1) = some low := by
      simpa using valueAt_middle before low (high :: after)
    have hhigh : valueAt (before ++ [low, high] ++ after) (before.length + 1 + 1) = some high := by
      simpa using valueAt_middle (before ++ [low]) high after
    simp only [expression, Expression.typed, o.typed_expression, bound, fits_param hlow,
      fits_param hhigh]
    rfl
  | columnIsNull c => exact c.typed_expression _
  | columnLike c pattern =>
    have hilike : comparisonSigns.contains "ilike" = false := by decide
    simp only [expression, Expression.typed, c.typed_expression, hilike]
    rfl
  | dataIs key document =>
    have hvalue : valueAt (before ++ [.json document] ++ after) (before.length + 1) =
        some (.json document) := by simpa using valueAt_middle before (.json document) after
    have hfits := fits_param (o := .dataJson key) hvalue
    simp only [Operand.expression] at hfits
    simp only [expression, Expression.typed, bound, typed_document, hfits]
    rfl
  | dataHolds key text =>
    have hsign : comparisonSigns.contains "@>" = false := by decide
    simp only [expression, Expression.typed, bound, typed_document, hsign]
    rfl
  | dataIsNull key =>
    have hor : comparisonSigns.contains "or" = false := by decide
    simp only [expression, Expression.typed, bound, typed_document, hor]
    rfl
  | dataLike key pattern =>
    show (!(searchQuery _ key).any Token.compares) = true
    simp [searchQuery, Token.compares, comparisonSigns]

end Test

/-! ## The types of conditions -/

namespace Clause

mutual

def tests : Clause → List Test
  | .constant _ => []
  | .test t => [t]
  | .group inner | .complement inner => inner.tests
  | .and parts | .or parts => allTests parts

def allTests : List Clause → List Test
  | [] => []
  | part :: rest => part.tests ++ allTests rest

end

mutual

/-- **A condition is well typed when its tests are.** -/
theorem typed_expression (c : Clause) (before after : List Param) :
    (c.expression (before.length + 1)).typed (before ++ params c.statement ++ after) =
      c.tests.all Test.typed := by
  match c with
  | .constant holds => rfl
  | .test t =>
    have hparams : params (test t).statement = t.bound := Test.params t
    rw [hparams]
    exact (t.typed_expression before after).trans (Bool.and_true _).symm
  | .group inner =>
    rw [params_group]
    exact typed_expression inner before after
  | .complement inner =>
    rw [params_complement]
    exact (Bool.and_true _).trans (typed_expression inner before after)
  | .and parts =>
    rw [statement, params_separated]
    exact (Expression.typed_joined (by decide) _ _).trans
      (typed_expressions parts before after)
  | .or parts =>
    rw [statement, params_separated]
    exact (Expression.typed_joined (by decide) _ _).trans
      (typed_expressions parts before after)

theorem typed_expressions (parts : List Clause) (before after : List Param) :
    (expressions (before.length + 1) parts).all
        (Expression.typed (before ++ (statements parts).flatMap params ++ after)) =
      (allTests parts).all Test.typed := by
  match parts with
  | [] => rfl
  | part :: rest =>
    have hpart := typed_expression part before ((statements rest).flatMap params ++ after)
    have hrest := typed_expressions rest (before ++ params part.statement) after
    rw [List.length_append, Nat.add_right_comm] at hrest
    simp only [List.append_assoc] at hpart hrest
    simp only [expressions, statements, allTests, List.all_cons, List.all_append, List.flatMap_cons,
      List.append_assoc, hpart, hrest]

end

theorem allTests_eq (field : String) (values : List Value) :
    allTests (values.map fun v => .test (.equals field v)) =
      (values.map (Leaf.equals field)).map Leaf.test := by
  induction values with
  | nil => rfl
  | cons v rest ih => exact congrArg (Test.equals field v :: ·) ih

mutual

/-- The condition of a predicate has the predicate's tests. -/
theorem tests_ofPredicate (p : Predicate) : (ofPredicate p).tests = p.leaves.map Leaf.test := by
  match p with
  | .always | .never => rfl
  | .compare field .eq value | .compare field .ne value => rfl
  | .compare _ .gt value | .compare _ .gte value | .compare _ .lt value | .compare _ .lte value => rfl
  | .among field [] negated => cases negated <;> rfl
  | .among field (v :: rest) false => exact allTests_eq field (v :: rest)
  | .among field (v :: rest) true => exact allTests_eq field (v :: rest)
  | .text field mode pattern =>
    simp only [ofPredicate, Predicate.leaves, List.map_cons, List.map_nil, Leaf.test]
    cases SystemColumn.ofField? field <;> rfl
  | .between field low high => rfl
  | .and parts => exact allTests_groups parts
  | .or parts => exact allTests_groups parts
  | .not inner => exact tests_ofPredicate inner

theorem allTests_groups (parts : List Predicate) :
    allTests (groups parts) = (Predicate.allLeaves parts).map Leaf.test := by
  match parts with
  | [] => rfl
  | part :: rest =>
    have hpart : (group (ofPredicate part)).tests = _ := tests_ofPredicate part
    rw [groups, allTests, hpart, allTests_groups rest, Predicate.allLeaves, List.map_append]

end

end Clause

/-- The condition of a predicate is well typed when the predicate's tests are. -/
theorem typed_whereClause (p : Predicate) :
    ((Clause.ofPredicate p).expression 1).typed (whereClause p).params =
      p.leaves.all fun l => l.test.typed := by
  have h := (Clause.ofPredicate p).typed_expression [] []
  rw [List.nil_append, List.append_nil, Clause.tests_ofPredicate, List.all_map] at h
  exact h

end Sql

end Dossier
