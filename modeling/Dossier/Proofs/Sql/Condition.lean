import Dossier.Proofs.Sql.Expression
import Dossier.Proofs.Sql.Numbering

/-!
# Conditions read back

The text of a condition read as an expression. Operands and tests have expressions of their own, and a
condition is put together from those of its tests as its connectives say. That the text reads so is shown
from the inside out: a part binds its tokens tighter than the connective around it (`Tight`), because it is
a test or stands in parentheses.
-/

namespace Dossier

namespace Predicate

mutual

/-- Whether every conjunction and every disjunction has a part. -/
def full : Predicate → Bool
  | .and parts | .or parts => !parts.isEmpty && allFull parts
  | .not inner => inner.full
  | _ => true

def allFull : List Predicate → Bool
  | [] => true
  | part :: rest => part.full && allFull rest

end

end Predicate

namespace Sql

open Statement

/-! ## Expressions -/

def member (sign key : String) : Expression := .binary sign (.word "data") (.text key)

def SystemColumn.expression (c : SystemColumn) : Expression :=
  if c = .approvalStatus then .paren (.binary "->>" (.word "approval") (.text "status"))
  else .name c.field

namespace Operand

def expression : Operand → Expression
  | .column c => c.expression
  | .columnAsText c => .cast c.expression "text"
  | .dataText key none => member "->>" key
  | .dataText key (some type) => .cast (.paren (member "->>" key)) type.name
  | .dataJson key => member "->" key

end Operand

/-- The query of a search in a data member. -/
def searchQuery (n : Nat) (key : String) : List (Token Nat) :=
  [.word "select", .number 1, .word "from", .word "jsonb_array_elements_text", .mark '(',
    .word "case", .word "jsonb_typeof", .mark '(', .word "data", .sign "->", .text key, .mark ')',
    .word "when", .text "array", .word "then", .word "data", .sign "->", .text key,
    .word "when", .text "string", .word "then", .word "jsonb_build_array", .mark '(', .word "data",
    .sign "->", .text key, .mark ')', .word "else", .text "[]", .sign "::", .word "jsonb", .word "end",
    .mark ')', .word "as", .word "t", .mark '(', .word "v", .mark ')', .word "where", .word "t",
    .mark '.', .word "v", .word "ilike", .placeholder n]

namespace Test

/-- The expression of a test whose first parameter has a given number. -/
def expression (n : Nat) : Test → Expression
  | .columnIsNull c => .isNull c.expression
  | .dataIsNull key =>
    .paren (.binary "or" (.isNull (member "->" key))
      (.binary "=" (member "->" key) (.cast (.text "null") "jsonb")))
  | .dataHolds key _ => .binary "@>" (member "->" key) (.call "to_jsonb" (.cast (.param n) "text"))
  | .dataIs key _ => .binary "=" (member "->" key) (.param n)
  | .compares operand relation _ => .binary (relationSign relation) operand.expression (.param n)
  | .between operand _ _ => .between operand.expression (.param n) (.param (n + 1))
  | .columnLike c _ => .binary "ilike" (.cast c.expression "text") (.param n)
  | .dataLike key _ => .exist (searchQuery n key)

end Test

/-- Expressions with an operator between them, from the left. -/
def joined (operator : String) : List Expression → Expression
  | [] => .word ""
  | e :: rest => rest.foldl (.binary operator) e

namespace Clause

mutual

/-- The expression of a condition whose first parameter has a given number. -/
def expression (n : Nat) : Clause → Expression
  | .constant holds => .binary "=" (.number 1) (.number holds.toNat)
  | .test t => t.expression n
  | .group inner => .paren (inner.expression n)
  | .and parts => joined "and" (expressions n parts)
  | .or parts => joined "or" (expressions n parts)
  | .complement inner => .not (.coalesce (inner.expression n) (.word "false"))

def expressions (n : Nat) : List Clause → List Expression
  | [] => []
  | part :: rest => part.expression n :: expressions (n + part.statement.params.length) rest

end

end Clause

/-! ## Tokens -/

theorem lex_literal {cs : List Char} {ts : List (Token Nat)} (h : lexFrom .between cs = ts) :
    lex (String.ofList cs) = ts := by
  rwa [lex, String.toList_ofList]

namespace SystemColumn

variable (c : SystemColumn)

def tokens : List (Token Nat) :=
  if c = .approvalStatus then [.mark '(', .word "approval", .sign "->>", .text "status", .mark ')']
  else [.name c.field]

theorem lex_sql : lex c.sql = c.tokens := by cases c <;> decide +kernel

theorem after_sql : Scan.between.after c.sql.toList =
    if c = .approvalStatus then .between else .closedName c.field.toList := by
  cases c <;> decide +kernel

/-- Only a quotation mark goes on with the last token of a column. -/
theorem lex_sql_append {s : String} {ts : List (Token Nat)} (hs : lex s = ts)
    (hquote : '"' ∉ s.toList.head?) : lex (c.sql ++ s) = c.tokens ++ ts := by
  have hlast (d : Char) (hd : d ∈ s.toList.head?) :
      (Scan.between.after c.sql.toList).extend? d = none := by
    have hne : d ≠ '"' := by
      rintro rfl
      exact hquote hd
    rw [c.after_sql]
    split
    · rfl
    · simp [Scan.extend?, hne]
  have hcolumn := c.lex_sql
  rw [lex] at hcolumn hs
  rw [lex, String.toList_append, lexFrom_append hlast, hcolumn, hs]

theorem lex_asText : lex s!"{c.sql}::text" = c.tokens ++ [.sign "::", .word "text"] :=
  c.lex_sql_append (lex_literal rfl) (by decide)

theorem lex_isNull : lex s!"{c.sql} IS NULL" = c.tokens ++ [.word "is", .word "null"] :=
  c.lex_sql_append (lex_literal rfl) (by decide)

theorem lex_like : lex s!"{c.sql}::text ILIKE " =
    c.tokens ++ [.sign "::", .word "text", .word "ilike"] :=
  c.lex_sql_append (lex_literal rfl) (by decide)

end SystemColumn

theorem lex_member : lex "data->" = [.word "data", .sign "->"] := lex_literal rfl

theorem lex_memberText : lex "data->>" = [.word "data", .sign "->>"] := lex_literal rfl

theorem lex_relation (relation : Relation) :
    lex s!" {relationSign relation} " = [.sign (relationSign relation)] := by
  cases relation <;> decide +kernel

theorem lex_cast (type : SqlType) :
    lex s!")::{type.name}" = [.mark ')', .sign "::", .word type.name] := by
  cases type <;> decide +kernel

namespace Operand

def tokens : Operand → List (Token Nat)
  | .column c => c.tokens
  | .columnAsText c => c.tokens ++ [.sign "::", .word "text"]
  | .dataText key none => [.word "data", .sign "->>", .text key]
  | .dataText key (some type) =>
    [.mark '(', .word "data", .sign "->>", .text key, .mark ')', .sign "::", .word type.name]
  | .dataJson key => [.word "data", .sign "->", .text key]

theorem tokens_statement (n : Nat) (o : Operand) : Statement.tokens n o.statement = o.tokens := by
  cases o with
  | column c => exact (List.append_nil _).trans c.lex_sql
  | columnAsText c => exact (List.append_nil _).trans c.lex_asText
  | dataJson key =>
    simp only [statement, Statement.tokens, Piece.tokens, lex_member]
    rfl
  | dataText key cast =>
    cases cast with
    | none =>
      simp only [statement, Statement.tokens, Piece.tokens, lex_memberText]
      rfl
    | some type =>
      have hopening : lex "(data->>" = [.mark '(', .word "data", .sign "->>"] := lex_literal rfl
      simp only [statement, Statement.tokens, Piece.tokens, hopening, lex_cast]
      rfl

end Operand

/-! ## Operands -/

variable {min n : Nat} {e : Expression} {ts rest : List (Token Nat)}

theorem Stops.mono {k : Nat} (hk : min ≤ k) (h : Stops min ts) : Stops k ts :=
  fun operator ho => Nat.lt_of_lt_of_le (h operator ho) hk

theorem stops_operator {t : Token Nat} {operator : Operator} (h : t.operator? = some operator)
    (hmin : operator.power < min) : Stops min (t :: ts) := by
  intro other ho
  cases h.symm.trans ho
  exact hmin

theorem stops_mark (c : Char) : Stops 1 (.mark c :: ts) := by simp [Stops, Token.operator?]

/-- A member of the data column goes on as the left side of what follows. -/
theorem reads_member {sign key : String} (hsign : (Token.sign sign).operator? = some (.binary sign 7))
    (hmin : min ≤ 7) (hts : Stops 8 ts) (hnext : Continues min (member sign key) ts e rest) :
    Reads min (.word "data" :: .sign sign :: .text key :: ts) e rest := by
  have hkey : Reads 8 (.text key :: ts) (.text key) ts := (ReadsOperand.text key ts).reads (.stop hts)
  have hdata : ReadsOperand (.word "data" :: .sign sign :: .text key :: ts) (.word "data")
      (.sign sign :: .text key :: ts) := .word (by decide) (by simp)
  exact hdata.reads (.step hsign hmin (.binary hkey) hnext)

theorem SystemColumn.reads (c : SystemColumn) (hnext : Continues min c.expression ts e rest) :
    Reads min (c.tokens ++ ts) e rest := by
  unfold expression at hnext
  unfold tokens
  split
  · rename_i hc
    rw [if_pos hc] at hnext
    have hstatus : Reads 8 (.text "status" :: .mark ')' :: ts) (.text "status") (.mark ')' :: ts) :=
      (ReadsOperand.text _ _).reads (.stop ((stops_mark ')').mono (by decide)))
    have happroval : ReadsOperand (.word "approval" :: .sign "->>" :: .text "status" :: .mark ')' :: ts)
        (.word "approval") (.sign "->>" :: .text "status" :: .mark ')' :: ts) :=
      .word (by decide) (by simp)
    have hinner : Reads 1 _ _ (.mark ')' :: ts) :=
      happroval.reads (.step rfl (by decide) (.binary hstatus) (.stop (stops_mark ')')))
    exact (ReadsOperand.paren hinner).reads hnext
  · rename_i hc
    rw [if_neg hc] at hnext
    exact (ReadsOperand.name c.field ts).reads hnext

/-- An operand goes on as the left side of what follows, if that is a comparison or looser. -/
theorem Operand.reads (o : Operand) (hmin : min ≤ 7) (hts : Stops 8 ts)
    (hnext : Continues min o.expression ts e rest) : Reads min (o.tokens ++ ts) e rest := by
  cases o with
  | column c => exact c.reads hnext
  | columnAsText c =>
    rw [Operand.tokens, List.append_assoc]
    exact c.reads (.step rfl (Nat.le_trans hmin (by decide)) .cast hnext)
  | dataJson key => exact reads_member rfl hmin hts hnext
  | dataText key cast =>
    cases cast with
    | none => exact reads_member rfl hmin hts hnext
    | some type =>
      have hinner : Reads 1 _ (member "->>" key)
          (.mark ')' :: .sign "::" :: .word type.name :: ts) :=
        reads_member rfl (by decide) ((stops_mark ')').mono (by decide)) (.stop (stops_mark ')'))
      exact (ReadsOperand.paren hinner).reads
        (.step rfl (Nat.le_trans hmin (by decide)) .cast hnext)

/-! ## Tests -/

theorem reads_param (hts : Stops min ts) : Reads min (.placeholder n :: ts) (.param n) ts :=
  (ReadsOperand.param n ts).reads (.stop hts)

theorem relation_operator (relation : Relation) :
    (Token.sign (relationSign relation)).operator? = some (.binary (relationSign relation) 5) := by
  cases relation <;> rfl

theorem untilClosing_searchQuery (n : Nat) (key : String) (ts : List (Token Nat)) :
    untilClosing 0 (searchQuery n key ++ .mark ')' :: ts) = some (searchQuery n key, ts) := rfl

namespace Test

theorem tokens_columnIsNull (n : Nat) (c : SystemColumn) :
    tokens n (columnIsNull c).statement = c.tokens ++ [.word "is", .word "null"] :=
  (List.append_nil _).trans c.lex_isNull

theorem tokens_columnLike (n : Nat) (c : SystemColumn) (pattern : String) :
    tokens n (columnLike c pattern).statement =
      c.tokens ++ [.sign "::", .word "text", .word "ilike", .placeholder n] := by
  show lex s!"{c.sql}::text ILIKE " ++ [.placeholder n] = _
  rw [c.lex_like, List.append_assoc]
  rfl

theorem tokens_compares (n : Nat) (o : Operand) (relation : Relation) (value : Param) :
    tokens n (compares o relation value).statement =
      o.tokens ++ [.sign (relationSign relation), .placeholder n] := by
  simp only [statement, tokens_append, o.tokens_statement, o.params, tokens, Piece.tokens, lex_relation]
  rfl

theorem tokens_between (n : Nat) (o : Operand) (low high : Param) :
    tokens n (between o low high).statement =
      o.tokens ++ [.word "between", .placeholder n, .word "and", .placeholder (n + 1)] := by
  have hbetween : lex " BETWEEN " = [.word "between"] := lex_literal rfl
  have hand : lex " AND " = [.word "and"] := lex_literal rfl
  simp only [statement, tokens_append, o.tokens_statement, o.params, tokens, Piece.tokens, hbetween, hand]
  rfl

theorem tokens_dataIs (n : Nat) (key : String) (document : Json) :
    tokens n (dataIs key document).statement =
      [.word "data", .sign "->", .text key, .sign "=", .placeholder n] := by
  have hsign : lex " = " = [.sign "="] := lex_literal rfl
  simp only [statement, tokens, Piece.tokens, lex_member, hsign]
  rfl

theorem tokens_dataHolds (n : Nat) (key text : String) :
    tokens n (dataHolds key text).statement =
      [.word "data", .sign "->", .text key, .sign "@>", .word "to_jsonb", .mark '(', .placeholder n,
        .sign "::", .word "text", .mark ')'] := by
  have hcall : lex " @> to_jsonb(" = [.sign "@>", .word "to_jsonb", .mark '('] := lex_literal rfl
  have hcast : lex "::text)" = [.sign "::", .word "text", .mark ')'] := lex_literal rfl
  simp only [statement, tokens, Piece.tokens, lex_member, hcall, hcast]
  rfl

theorem tokens_dataIsNull (n : Nat) (key : String) :
    tokens n (dataIsNull key).statement =
      [.mark '(', .word "data", .sign "->", .text key, .word "is", .word "null", .word "or",
        .word "data", .sign "->", .text key, .sign "=", .text "null", .sign "::", .word "jsonb",
        .mark ')'] := by
  have hopening : lex "(data->" = [.mark '(', .word "data", .sign "->"] := lex_literal rfl
  have hor : lex " IS NULL OR data->" =
      [.word "is", .word "null", .word "or", .word "data", .sign "->"] := lex_literal rfl
  have hnull : lex " = 'null'::jsonb)" =
      [.sign "=", .text "null", .sign "::", .word "jsonb", .mark ')'] := lex_literal rfl
  simp only [statement, tokens, Piece.tokens, hopening, hor, hnull]
  rfl

/-- The tokens of a search are those of its query in parentheses. -/
theorem tokens_dataLike (n : Nat) (key pattern : String) :
    tokens n (dataLike key pattern).statement =
      .word "exists" :: .mark '(' :: (searchQuery n key ++ [.mark ')']) := by
  have hopening : lex "EXISTS (SELECT 1 FROM jsonb_array_elements_text(CASE jsonb_typeof(data->" =
      [.word "exists", .mark '(', .word "select", .number 1, .word "from",
        .word "jsonb_array_elements_text", .mark '(', .word "case", .word "jsonb_typeof", .mark '(',
        .word "data", .sign "->"] := lex_literal rfl
  have harray : lex ") WHEN 'array' THEN data->" =
      [.mark ')', .word "when", .text "array", .word "then", .word "data", .sign "->"] :=
    lex_literal rfl
  have hstring : lex " WHEN 'string' THEN jsonb_build_array(data->" =
      [.word "when", .text "string", .word "then", .word "jsonb_build_array", .mark '(', .word "data",
        .sign "->"] := lex_literal rfl
  have hclosing : lex ") ELSE '[]'::jsonb END) AS t(v) WHERE t.v ILIKE " =
      [.mark ')', .word "else", .text "[]", .sign "::", .word "jsonb", .word "end", .mark ')',
        .word "as", .word "t", .mark '(', .word "v", .mark ')', .word "where", .word "t", .mark '.',
        .word "v", .word "ilike"] := lex_literal rfl
  have hend : lex ")" = [.mark ')'] := lex_literal rfl
  simp only [statement, tokens, Piece.tokens, hopening, harray, hstring, hclosing, hend]
  rfl

variable (hts : Stops 4 ts)
include hts

theorem reads_placeholder {k : Nat} (hk : 4 ≤ k) : Reads k (.placeholder n :: ts) (.param n) ts :=
  reads_param (hts.mono hk)

theorem reads_columnIsNull (c : SystemColumn) :
    Reads 4 (tokens n (columnIsNull c).statement ++ ts) (.isNull c.expression) ts := by
  rw [tokens_columnIsNull, List.append_assoc]
  exact c.reads (.step rfl (by decide) .isNull (.stop hts))

theorem reads_columnLike (c : SystemColumn) (pattern : String) :
    Reads 4 (tokens n (columnLike c pattern).statement ++ ts)
      (.binary "ilike" (.cast c.expression "text") (.param n)) ts := by
  rw [tokens_columnLike, List.append_assoc]
  refine c.reads (.step rfl (by decide) .cast ?_)
  exact .step rfl (by decide) (.binary (reads_placeholder hts (by decide))) (.stop hts)

theorem reads_compares (o : Operand) (relation : Relation) (value : Param) :
    Reads 4 (tokens n (compares o relation value).statement ++ ts)
      (.binary (relationSign relation) o.expression (.param n)) ts := by
  have hoperator := relation_operator relation
  have hpower : (Operator.binary (relationSign relation) 5).power = 5 := rfl
  rw [tokens_compares, List.append_assoc]
  exact o.reads (by decide) (stops_operator hoperator (by rw [hpower]; decide))
    (.step hoperator (by rw [hpower]; decide) (.binary (reads_placeholder hts (by decide))) (.stop hts))

theorem reads_between (o : Operand) (low high : Param) :
    Reads 4 (tokens n (between o low high).statement ++ ts)
      (.between o.expression (.param n) (.param (n + 1))) ts := by
  have hlow : Reads endPower (.placeholder n :: .word "and" :: .placeholder (n + 1) :: ts) (.param n)
      (.word "and" :: .placeholder (n + 1) :: ts) :=
    reads_param (stops_operator rfl (by decide))
  rw [tokens_between, List.append_assoc]
  exact o.reads (by decide) (stops_operator rfl (by decide))
    (.step rfl (by decide) (.between hlow (reads_placeholder hts (by decide))) (.stop hts))

theorem reads_dataIs (key : String) (document : Json) :
    Reads 4 (tokens n (dataIs key document).statement ++ ts)
      (.binary "=" (member "->" key) (.param n)) ts := by
  rw [tokens_dataIs]
  exact reads_member rfl (by decide) (stops_operator rfl (by decide))
    (.step rfl (by decide) (.binary (reads_placeholder hts (by decide))) (.stop hts))

/-- The document of a text that is bound. -/
theorem reads_toJsonb :
    Reads 8 (.word "to_jsonb" :: .mark '(' :: .placeholder n :: .sign "::" :: .word "text" ::
      .mark ')' :: ts) (.call "to_jsonb" (.cast (.param n) "text")) ts := by
  have hargument : Reads 1 (.placeholder n :: .sign "::" :: .word "text" :: .mark ')' :: ts)
      (.cast (.param n) "text") (.mark ')' :: ts) :=
    (ReadsOperand.param n _).reads (.step rfl (by decide) .cast (.stop (stops_mark ')')))
  exact (ReadsOperand.call (by decide) (by decide) (by decide) hargument).reads
    (.stop (hts.mono (by decide)))

theorem reads_dataHolds (key text : String) :
    Reads 4 (tokens n (dataHolds key text).statement ++ ts)
      (.binary "@>" (member "->" key) (.call "to_jsonb" (.cast (.param n) "text"))) ts := by
  rw [tokens_dataHolds]
  exact reads_member rfl (by decide) (stops_operator rfl (by decide))
    (.step rfl (by decide) (.binary (reads_toJsonb hts)) (.stop hts))

omit hts in
/-- The second half of a test for null, equality with the null document. -/
theorem reads_isNullDocument (key : String) :
    Reads 2 (.word "data" :: .sign "->" :: .text key :: .sign "=" :: .text "null" :: .sign "::" ::
      .word "jsonb" :: .mark ')' :: ts)
      (.binary "=" (member "->" key) (.cast (.text "null") "jsonb")) (.mark ')' :: ts) := by
  have hmark {k : Nat} (hk : 1 ≤ k) : Stops k (.mark ')' :: ts) := (stops_mark ')').mono hk
  refine reads_member rfl (by decide) (stops_operator rfl (by decide)) ?_
  refine .step rfl (by decide) (.binary ?_) (.stop (hmark (by decide)))
  exact (ReadsOperand.text "null" _).reads (.step rfl (by decide) .cast (.stop (hmark (by decide))))

theorem reads_dataIsNull (key : String) :
    Reads 4 (tokens n (dataIsNull key).statement ++ ts) ((dataIsNull key).expression n) ts := by
  rw [tokens_dataIsNull]
  refine (ReadsOperand.paren (?_ : Reads 1 _ _ (.mark ')' :: ts))).reads (.stop hts)
  refine reads_member rfl (by decide) (stops_operator rfl (by decide)) ?_
  have hright : Reads 2 _ _ (.mark ')' :: ts) := reads_isNullDocument key
  exact .step rfl (by decide) .isNull
    (.step rfl (by decide) (.binary hright) (.stop (stops_mark ')')))

theorem reads_dataLike (key pattern : String) :
    Reads 4 (tokens n (dataLike key pattern).statement ++ ts) (.exist (searchQuery n key)) ts := by
  rw [tokens_dataLike]
  simp only [List.cons_append, List.append_assoc]
  exact (ReadsOperand.exist (untilClosing_searchQuery n key ts)).reads (.stop hts)

/-- **The text of a test reads as its expression.** -/
theorem reads (t : Test) : Reads 4 (tokens n t.statement ++ ts) (t.expression n) ts := by
  cases t with
  | columnIsNull c => exact reads_columnIsNull hts c
  | dataIsNull key => exact reads_dataIsNull hts key
  | dataHolds key text => exact reads_dataHolds hts key text
  | dataIs key document => exact reads_dataIs hts key document
  | compares o relation value => exact reads_compares hts o relation value
  | between o low high => exact reads_between hts o low high
  | columnLike c pattern => exact reads_columnLike hts c pattern
  | dataLike key pattern => exact reads_dataLike hts key pattern

end Test

/-! ## Conditions -/

namespace Clause

/-- The text of a condition reads as its expression behind operators below some power. -/
def Tight (power : Nat) (c : Clause) : Prop :=
  ∀ n ts, Stops power ts → Reads power (tokens n c.statement ++ ts) (c.expression n) ts

/-- Tight parts are tight among looser operators too. -/
theorem Tight.lower {c : Clause} {k : Nat} (h : c.Tight k) (hmin : min ≤ k) : c.Tight min :=
  fun n ts hts => (h n ts (hts.mono hmin)).lower hmin hts

theorem tight_test (t : Test) : (Clause.test t).Tight 4 := fun _ _ hts => Test.reads hts t

theorem tokens_constant (n : Nat) (holds : Bool) :
    tokens n (constant holds).statement = [.number 1, .sign "=", .number holds.toNat] := by
  have hone : lex "1=1" = [.number 1, .sign "=", .number 1] := lex_literal rfl
  have hzero : lex "1=0" = [.number 1, .sign "=", .number 0] := lex_literal rfl
  cases holds
  · exact (List.append_nil _).trans hzero
  · exact (List.append_nil _).trans hone

theorem tight_constant (holds : Bool) : (Clause.constant holds).Tight 4 := by
  intro n ts hts
  have hright : Reads 6 (.number holds.toNat :: ts) (.number holds.toNat) ts :=
    (ReadsOperand.number _ ts).reads (.stop (hts.mono (by decide)))
  rw [tokens_constant]
  exact (ReadsOperand.number 1 _).reads (.step rfl (by decide) (.binary hright) (.stop hts))

theorem lex_opening : lex "(" = [.mark '('] := lex_literal rfl

theorem lex_closing : lex ")" = [.mark ')'] := lex_literal rfl

/-- Parentheses hold anything together. -/
theorem tight_group {c : Clause} (h : c.Tight 1) (power : Nat) : (group c).Tight power := by
  intro n ts hts
  show Reads power (lex "(" ++ tokens n (c.statement ++ [.fixed ")"]) ++ ts) _ ts
  rw [tokens_append]
  simp only [tokens, Piece.tokens, lex_opening, lex_closing, List.append_assoc]
  exact (ReadsOperand.paren (h n _ (stops_mark ')'))).reads (.stop hts)

theorem tight_complement {c : Clause} (h : c.Tight 1) : (complement c).Tight 3 := by
  intro n ts hts
  have hopening : lex "NOT COALESCE(" = [.word "not", .word "coalesce", .mark '('] := lex_literal rfl
  have hclosing : lex ", false)" = [.mark ',', .word "false", .mark ')'] := lex_literal rfl
  show Reads 3 (lex "NOT COALESCE(" ++ tokens n (c.statement ++ [.fixed ", false)"]) ++ ts) _ ts
  rw [tokens_append]
  simp only [tokens, Piece.tokens, hopening, hclosing, List.append_assoc]
  have hfalse : Reads 1 (.word "false" :: .mark ')' :: ts) (.word "false") (.mark ')' :: ts) :=
    (ReadsOperand.word (by decide) (by simp)).reads (.stop (stops_mark ')'))
  have hcoalesce := (ReadsOperand.coalesce (h n _ (stops_mark ',')) hfalse).reads (.stop hts)
  exact (ReadsOperand.not hcoalesce).reads (.stop hts)

/-! ### Connectives -/

section Connective

variable {separator operator : String} {power : Nat}

theorem tokens_separated (hlex : lex separator = [.word operator]) (part second : Clause)
    (others : List Clause) :
    tokens n (separated separator (statements (part :: second :: others))) =
      tokens n part.statement ++ .word operator ::
        tokens (n + part.statement.params.length)
          (separated separator (statements (second :: others))) := by
  show tokens n (part.statement ++ .fixed separator :: separated separator _) = _
  rw [tokens_append, tokens, Piece.tokens, hlex]
  rfl

/-- More parts behind the ones that have been read. -/
theorem continues_separated (hlex : lex separator = [.word operator])
    (hoperator : (Token.word operator).operator? = some (.binary operator power)) (part : Clause)
    (parts : List Clause) (htight : ∀ c ∈ part :: parts, c.Tight (power + 1)) (left : Expression)
    (n : Nat) (hts : Stops power ts) :
    Continues power left
      (.word operator :: (tokens n (separated separator (statements (part :: parts))) ++ ts))
      ((expressions n (part :: parts)).foldl (.binary operator) left) ts := by
  induction parts generalizing part left n with
  | nil =>
    have hpart := htight part List.mem_cons_self n ts (hts.mono (Nat.le_succ power))
    exact .step hoperator (Nat.le_refl _) (.binary hpart) (.stop hts)
  | cons second others ih =>
    obtain ⟨hpart, hothers⟩ := List.forall_mem_cons.1 htight
    have hword : Stops (power + 1) (.word operator ::
        (tokens (n + part.statement.params.length)
          (separated separator (statements (second :: others))) ++ ts)) :=
      stops_operator hoperator (Nat.lt_succ_self power)
    have hnext := ih second hothers (.binary operator left (part.expression n))
      (n + part.statement.params.length)
    rw [tokens_separated hlex, List.append_assoc]
    exact .step hoperator (Nat.le_refl _) (.binary (hpart n _ hword)) hnext

/-- **Parts with a connective between them read as the connective says.** -/
theorem reads_separated (hlex : lex separator = [.word operator])
    (hoperator : (Token.word operator).operator? = some (.binary operator power)) {parts : List Clause}
    (hne : parts ≠ []) (htight : ∀ c ∈ parts, c.Tight (power + 1)) (hts : Stops power ts) :
    Reads power (tokens n (separated separator (statements parts)) ++ ts)
      (joined operator (expressions n parts)) ts := by
  match parts with
  | [] => exact absurd rfl hne
  | [part] => exact (htight part List.mem_cons_self).lower (Nat.le_succ power) n ts hts
  | part :: second :: others =>
    obtain ⟨hpart, hothers⟩ := List.forall_mem_cons.1 htight
    have hword : Stops (power + 1) (.word operator ::
        (tokens (n + part.statement.params.length)
          (separated separator (statements (second :: others))) ++ ts)) :=
      stops_operator hoperator (Nat.lt_succ_self power)
    rw [tokens_separated hlex, List.append_assoc]
    exact (hpart n _ hword).continue (Nat.le_succ power)
      (continues_separated hlex hoperator second others hothers _ _ hts)

end Connective

/-! ### Conditions of predicates -/

theorem lex_and : lex " AND " = [.word "and"] := lex_literal rfl

theorem lex_or : lex " OR " = [.word "or"] := lex_literal rfl

theorem tight_and {parts : List Clause} (hne : parts ≠ []) (h : ∀ c ∈ parts, c.Tight 3) :
    (and parts).Tight 1 :=
  Tight.lower (k := 2) (fun _ _ hts => reads_separated lex_and rfl hne h hts) (by decide)

theorem tight_or {parts : List Clause} (hne : parts ≠ []) (h : ∀ c ∈ parts, c.Tight 2) :
    (or parts).Tight 1 := fun _ _ hts => reads_separated lex_or rfl hne h hts

/-- A test for membership is one of equalities. -/
theorem tight_among (field : String) (v : Value) (values : List Value) :
    (or ((v :: values).map fun v => .test (.equals field v))).Tight 1 := by
  refine tight_or (List.cons_ne_nil _ _) fun c hc => ?_
  obtain ⟨w, -, rfl⟩ := List.mem_map.1 hc
  exact (tight_test _).lower (by decide)

theorem groups_ne_nil {parts : List Predicate} (h : (!parts.isEmpty) = true) : groups parts ≠ [] := by
  cases parts with
  | nil => cases h
  | cons part rest => exact List.cons_ne_nil _ _

mutual

/-- **The text of a predicate without an empty connective reads as its condition.** -/
theorem tight_ofPredicate (p : Predicate) (hp : p.full = true) : (ofPredicate p).Tight 1 := by
  match p with
  | .always => exact (tight_constant true).lower (by decide)
  | .never => exact (tight_constant false).lower (by decide)
  | .compare field .eq value => exact (tight_test _).lower (by decide)
  | .compare field .ne value =>
    exact (tight_complement ((tight_test _).lower (by decide))).lower (by decide)
  | .compare _ .gt value | .compare _ .gte value | .compare _ .lt value | .compare _ .lte value =>
    exact (tight_test _).lower (by decide)
  | .among field [] negated => exact (tight_constant negated).lower (by decide)
  | .among field (v :: rest) false => exact tight_group (tight_among field v rest) 1
  | .among field (v :: rest) true =>
    exact (tight_complement (tight_group (tight_among field v rest) 1)).lower (by decide)
  | .text field mode pattern =>
    rw [ofPredicate]
    cases SystemColumn.ofField? field <;> exact (tight_test _).lower (by decide)
  | .between field low high => exact (tight_test _).lower (by decide)
  | .and parts =>
    obtain ⟨hne, hparts⟩ := Bool.and_eq_true_iff.1 hp
    exact tight_and (groups_ne_nil hne) fun c hc => tight_groups parts hparts c hc 3
  | .or parts =>
    obtain ⟨hne, hparts⟩ := Bool.and_eq_true_iff.1 hp
    exact tight_or (groups_ne_nil hne) fun c hc => tight_groups parts hparts c hc 2
  | .not inner =>
    exact (tight_complement (tight_group (tight_ofPredicate inner hp) 1)).lower (by decide)

theorem tight_groups (parts : List Predicate) (hparts : Predicate.allFull parts = true) :
    ∀ c ∈ groups parts, ∀ power, c.Tight power := by
  match parts with
  | [] => simp [groups]
  | part :: rest =>
    obtain ⟨hpart, hrest⟩ := Bool.and_eq_true_iff.1 hparts
    rw [groups, List.forall_mem_cons]
    exact ⟨tight_group (tight_ofPredicate part hpart), tight_groups rest hrest⟩

end

end Clause

end Sql

end Dossier
