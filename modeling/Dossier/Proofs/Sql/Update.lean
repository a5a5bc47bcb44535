import Dossier.Proofs.Sql.Agreement

/-!
# Update statements read back

The text of an update taken apart as a database does: the columns that it sets and from what, the columns
that it compares with values, and the condition that it adds to these comparisons in parentheses.

**What is set.** The settings stand before the first `WHERE`, a comma between any two. A setting is a
column and an expression, or `NULLIF` of two expressions. The name of an array type is one word here.

**The condition.** It is not read any further: whatever a guard is, even one that reads as no expression,
its text closes the parentheses that it opens and no others (`balanced_whereClause`), so it ends where the
parenthesis closes that was opened before it.

Main result: `read?_guardedStatement`.
-/

namespace Dossier

namespace Sql

open Statement

/-! ## Parentheses -/

/-- How many parentheses are open behind a token; `none` where it closes one that was not opened. -/
def Token.climb : Nat → Token Nat → Option Nat
  | depth, .mark '(' => some (depth + 1)
  | depth, .mark ')' => if depth = 0 then none else some (depth - 1)
  | depth, _ => some depth

def climb (depth : Nat) (ts : List (Token Nat)) : Option Nat := ts.foldlM Token.climb depth

/-- A statement that closes the parentheses that it opens, and no others. -/
def Statement.Balanced (a : Statement) : Prop := ∀ n, climb 0 (tokens n a) = some 0

section Climb

variable {depth last : Nat} {t : Token Nat} {ts : List (Token Nat)}

theorem climb_cons (depth : Nat) (t : Token Nat) (ts : List (Token Nat)) :
    climb depth (t :: ts) = (t.climb depth).bind fun next => climb next ts := rfl

theorem climb_append (depth : Nat) (ts others : List (Token Nat)) :
    climb depth (ts ++ others) = (climb depth ts).bind fun last => climb last others :=
  List.foldlM_append ..

/-- A token opens a parenthesis, closes one or does neither. -/
theorem Token.climb_cases (h : t.climb depth = some last) :
    (t = .mark '(' ∧ last = depth + 1) ∨ (t = .mark ')' ∧ depth = last + 1) ∨
      (t ≠ .mark '(' ∧ t ≠ .mark ')' ∧ last = depth) := by
  unfold climb at h
  split at h
  · cases h
    exact .inl ⟨rfl, rfl⟩
  · split at h
    · cases h
    · cases h
      exact .inr (.inl ⟨rfl, by omega⟩)
  · rename_i hopening hclosing
    cases h
    exact .inr (.inr ⟨hopening, hclosing, rfl⟩)

theorem Token.climb_other (hopening : t ≠ .mark '(') (hclosing : t ≠ .mark ')') (depth : Nat) :
    t.climb depth = some depth := by
  unfold climb
  split
  · exact absurd rfl hopening
  · exact absurd rfl hclosing
  · rfl

/-- Parentheses that are open before stay open. -/
theorem climb_add (h : climb depth ts = some last) (k : Nat) :
    climb (depth + k) ts = some (last + k) := by
  induction ts generalizing depth with
  | nil =>
    cases h
    rfl
  | cons t ts ih =>
    obtain ⟨next, ht, hts⟩ := Option.bind_eq_some_iff.1 h
    have hstep : t.climb (depth + k) = some (next + k) := by
      obtain ⟨rfl, rfl⟩ | ⟨rfl, rfl⟩ | ⟨hopening, hclosing, rfl⟩ := Token.climb_cases ht
      · simp only [Token.climb]
        congr 1
        omega
      · have hpos : next + 1 + k ≠ 0 := by omega
        simp only [Token.climb, if_neg hpos]
        congr 1
        omega
      · exact Token.climb_other hopening hclosing _
    rw [climb_cons, hstep]
    exact ih hts

/-- Tokens that close as many parentheses as they open do not close one from before. -/
theorem untilClosing_append (h : climb depth ts = some last) (rest : List (Token Nat)) :
    untilClosing depth (ts ++ rest) = (untilClosing last rest).map (Prod.map (ts ++ ·) id) := by
  induction ts generalizing depth with
  | nil =>
    cases h
    rw [List.nil_append]
    cases untilClosing last rest <;> rfl
  | cons t ts ih =>
    obtain ⟨next, ht, hts⟩ := Option.bind_eq_some_iff.1 h
    have hstep : untilClosing depth (t :: (ts ++ rest)) =
        (untilClosing next (ts ++ rest)).map (Prod.map (t :: ·) id) := by
      obtain ⟨rfl, rfl⟩ | ⟨rfl, rfl⟩ | ⟨hopening, hclosing, rfl⟩ := Token.climb_cases ht
      · cases depth <;> rfl
      · rfl
      · rw [untilClosing]
        · exact hopening
        · exact fun _ => hclosing
        · exact fun _ _ => hclosing
    rw [List.cons_append, hstep, ih hts, Option.map_map]
    rfl

end Climb

namespace Statement

variable {a b : Statement} {s : String}

theorem Balanced.append (ha : a.Balanced) (hb : b.Balanced) : (a ++ b).Balanced := by
  intro n
  rw [tokens_append, climb_append, ha n]
  exact hb _

/-- A balanced statement between texts of which the second closes what the first opens. -/
theorem Balanced.enclose {opening closing : String} (ha : a.Balanced) (depth : Nat)
    (hopening : climb 0 (lex opening) = some depth) (hclosing : climb depth (lex closing) = some 0) :
    Balanced (.fixed opening :: a ++ [.fixed closing]) := by
  intro n
  have hinner := climb_add (ha n) depth
  rw [Nat.zero_add] at hinner
  show climb 0 (lex opening ++ tokens n (a ++ [.fixed closing])) = some 0
  rw [climb_append, hopening, tokens_append]
  show climb depth (tokens n a ++ (lex closing ++ [])) = some 0
  rw [climb_append, hinner, List.append_nil]
  exact hclosing

theorem Balanced.separated (hs : climb 0 (lex s) = some 0) {parts : List Statement}
    (hparts : ∀ part ∈ parts, part.Balanced) : (Statement.separated s parts).Balanced := by
  induction parts with
  | nil => exact fun _ => rfl
  | cons part rest ih =>
    obtain ⟨hpart, hrest⟩ := List.forall_mem_cons.1 hparts
    cases rest with
    | nil => exact hpart
    | cons second others =>
      refine hpart.append (b := .fixed s :: _) fun n => ?_
      show climb 0 (lex s ++ tokens n (Statement.separated s (second :: others))) = some 0
      rw [climb_append, hs]
      exact ih hrest n

end Statement

/-! ### Conditions -/

theorem SystemColumn.climb_tokens (c : SystemColumn) : climb 0 c.tokens = some 0 := by
  cases c <;> rfl

theorem Operand.climb_tokens (o : Operand) : climb 0 o.tokens = some 0 := by
  cases o with
  | column c => exact c.climb_tokens
  | columnAsText c =>
    rw [Operand.tokens, climb_append, c.climb_tokens]
    rfl
  | dataJson key => rfl
  | dataText key cast => cases cast <;> rfl

theorem Test.balanced (t : Test) : t.statement.Balanced := by
  intro n
  cases t with
  | columnIsNull c =>
    rw [tokens_columnIsNull, climb_append, c.climb_tokens]
    rfl
  | columnLike c pattern =>
    rw [tokens_columnLike, climb_append, c.climb_tokens]
    rfl
  | dataIsNull key =>
    rw [tokens_dataIsNull]
    rfl
  | dataHolds key text =>
    rw [tokens_dataHolds]
    rfl
  | dataIs key document =>
    rw [tokens_dataIs]
    rfl
  | compares o relation value =>
    rw [tokens_compares, climb_append, o.climb_tokens]
    rfl
  | between o low high =>
    rw [tokens_between, climb_append, o.climb_tokens]
    rfl
  | dataLike key pattern =>
    rw [tokens_dataLike]
    rfl

namespace Clause

mutual

theorem balanced (c : Clause) : c.statement.Balanced := by
  match c with
  | .constant holds =>
    intro n
    rw [tokens_constant]
    rfl
  | .test t => exact t.balanced
  | .group inner => exact inner.balanced.enclose 1 (by decide +kernel) (by decide +kernel)
  | .and parts => exact .separated (by decide +kernel) (balanced_parts parts)
  | .or parts => exact .separated (by decide +kernel) (balanced_parts parts)
  | .complement inner =>
    exact inner.balanced.enclose 1 (by decide +kernel) (by decide +kernel)

theorem balanced_parts (parts : List Clause) : ∀ part ∈ statements parts, part.Balanced := by
  match parts with
  | [] => simp [statements]
  | part :: rest =>
    rw [statements, List.forall_mem_cons]
    exact ⟨part.balanced, balanced_parts rest⟩

end

end Clause

/-- **The text of a condition closes its own parentheses and no others.** -/
theorem balanced_whereClause (p : Predicate) : (whereClause p).Balanced := (Clause.ofPredicate p).balanced

/-! ## Settings -/

inductive Source where
  | expression (e : Expression)
  | nullIf (first second : Expression)

/-- Tokens with the name of each array type as one word. -/
def joinArrays : List (Token Nat) → List (Token Nat)
  | .word type :: .mark '[' :: .mark ']' :: ts => .word (type ++ "[]") :: joinArrays ts
  | t :: ts => t :: joinArrays ts
  | [] => []

/-- What a column is set to, if some tokens say it and nothing more. -/
def Source.read? : List (Token Nat) → Option Source
  | .word "nullif" :: .mark '(' :: ts =>
    match readExpression ts with
    | some (first, .mark ',' :: ts) =>
      match readExpression ts with
      | some (second, [.mark ')']) => some (.nullIf first second)
      | _ => none
    | _ => none
  | ts =>
    match readExpression ts with
    | some (e, []) => some (.expression e)
    | _ => none

abbrev Setting := String × Source

def Setting.read? : List (Token Nat) → Option Setting
  | .name column :: .sign "=" :: ts => (Source.read? (joinArrays ts)).map (column, ·)
  | _ => none

/-- Puts a token before the first of some lists. -/
def consHead (t : Token Nat) : List (List (Token Nat)) → List (List (Token Nat))
  | [] => [[t]]
  | part :: parts => (t :: part) :: parts

/-- The tokens between the commas that stand outside parentheses. -/
def splitCommas : Nat → List (Token Nat) → List (List (Token Nat))
  | _, [] => [[]]
  | depth, t :: ts =>
    if depth = 0 ∧ t = .mark ',' then [] :: splitCommas 0 ts
    else consHead t (splitCommas ((t.climb depth).getD 0) ts)

/-! ### Settings of assignments -/

/-- A parameter with a cast, in front of a parenthesis or a comma. -/
theorem reads_castParam {min : Nat} (n : Nat) (hmin : min ≤ 8) (type : String) (c : Char) (ts : List (Token Nat)) :
    Reads min (.placeholder n :: .sign "::" :: .word type :: .mark c :: ts) (.cast (.param n) type)
      (.mark c :: ts) :=
  (ReadsOperand.param n _).reads
    (.step rfl (Nat.le_trans hmin (by decide)) .cast (.stop (by simp [Stops, Token.operator?])))

/-- A single operand that is all there is. -/
theorem Source.read?_operand {t : Token Nat} {e : Expression} (ht : ReadsOperand [t] e []) :
    Source.read? [t] = some (.expression e) := by
  have hread : Reads 1 [t] e [] := ht.reads (.stop (by simp [Stops]))
  simp only [Source.read?, hread.readExpression]

namespace Assignment

/-- What an assignment whose first parameter has a given number sets its column to. -/
def source (n : Nat) : Assignment → Source
  | .data _ _ =>
    .expression (.binary "||" (.paren (.binary "-" (.name "data") (.cast (.param n) "text[]")))
      (.cast (.param (n + 1)) "jsonb"))
  | .approval _ => .nullIf (.cast (.param n) "jsonb") (.cast (.text "null") "jsonb")
  | .updatedAt _ | .updatedBy _ | .deletedAt (some _) | .deletedBy (some _) => .expression (.param n)
  | .deleted flag => .expression (.word (if flag then "true" else "false"))
  | .deletedAt none | .deletedBy none => .expression (.word "null")

variable (a : Assignment) (n : Nat)

theorem splitCommas_tokens (rest : List (Token Nat)) :
    splitCommas 0 (tokens n a.statement ++ .mark ',' :: rest) =
      tokens n a.statement :: splitCommas 0 rest := by
  rw [tokens_statement]
  cases a with
  | deletedAt t => cases t <;> rfl
  | deletedBy user => cases user <;> rfl
  | _ => rfl

theorem splitCommas_last : splitCommas 0 (tokens n a.statement) = [tokens n a.statement] := by
  rw [tokens_statement]
  cases a with
  | deletedAt t => cases t <;> rfl
  | deletedBy user => cases user <;> rfl
  | _ => rfl

/-- The new document: the old one without some members, and others merged in. -/
theorem reads_data : Reads 1
    [.mark '(', .name "data", .sign "-", .placeholder n, .sign "::", .word "text[]", .mark ')',
      .sign "||", .placeholder (n + 1), .sign "::", .word "jsonb"]
    (.binary "||" (.paren (.binary "-" (.name "data") (.cast (.param n) "text[]")))
      (.cast (.param (n + 1)) "jsonb")) [] := by
  have hkept (ts : List (Token Nat)) : Reads 1
      (.name "data" :: .sign "-" :: .placeholder n :: .sign "::" :: .word "text[]" :: .mark ')' :: ts)
      (.binary "-" (.name "data") (.cast (.param n) "text[]")) (.mark ')' :: ts) :=
    (ReadsOperand.name "data" _).reads
      (.step rfl (by decide) (.binary (reads_castParam n (by decide) "text[]" ')' ts))
        (.stop (stops_mark ')')))
  have hadded : Reads 8 [.placeholder (n + 1), .sign "::", .word "jsonb"]
      (.cast (.param (n + 1)) "jsonb") [] :=
    (ReadsOperand.param (n + 1) _).reads (.step rfl (by decide) .cast (.stop (by simp [Stops])))
  exact (ReadsOperand.paren (hkept _)).reads
    (.step rfl (by decide) (.binary hadded) (.stop (by simp [Stops])))

theorem read?_source : Source.read? (joinArrays (a.sourceTokens n)) = some (a.source n) := by
  have hparam : Source.read? [.placeholder n] = some (.expression (.param n)) :=
    Source.read?_operand (.param n [])
  have hword {s : String} (hs : s ≠ "not") : Source.read? [.word s] = some (.expression (.word s)) :=
    Source.read?_operand (.word hs (by simp))
  cases a with
  | data removed added =>
    show Source.read? [.mark '(', .name "data", .sign "-", .placeholder n, .sign "::", .word "text[]",
      .mark ')', .sign "||", .placeholder (n + 1), .sign "::", .word "jsonb"] = _
    simp only [Source.read?, (reads_data n).readExpression]
    rfl
  | approval document =>
    have hnull : Reads 1 [.text "null", .sign "::", .word "jsonb", .mark ')']
        (.cast (.text "null") "jsonb") [.mark ')'] :=
      (ReadsOperand.text "null" _).reads (.step rfl (by decide) .cast (.stop (stops_mark ')')))
    have hdocument := (reads_castParam n (by decide) "jsonb" ','
      [.text "null", .sign "::", .word "jsonb", .mark ')']).readExpression
    show Source.read? (.word "nullif" :: .mark '(' :: .placeholder n :: .sign "::" :: .word "jsonb" ::
      .mark ',' :: [.text "null", .sign "::", .word "jsonb", .mark ')']) = _
    simp only [Source.read?, hdocument, hnull.readExpression]
    rfl
  | updatedAt t => exact hparam
  | updatedBy user => exact hparam
  | deleted flag => cases flag <;> exact hword (by decide)
  | deletedAt t =>
    cases t with
    | none => exact hword (by decide)
    | some t => exact hparam
  | deletedBy user =>
    cases user with
    | none => exact hword (by decide)
    | some user => exact hparam

/-- **The text of an assignment reads as its column and what it is set to.** -/
theorem read?_tokens : Setting.read? (tokens n a.statement) = some (a.column, a.source n) := by
  rw [tokens_statement, Setting.read?, read?_source]
  rfl

end Assignment

/-- The settings of assignments whose first parameter has a given number. -/
def settings : Nat → List Assignment → List Setting
  | _, [] => []
  | n, a :: rest => (a.column, a.source n) :: settings (n + (params a.statement).length) rest

theorem read?_settings (a : Assignment) (rest : List Assignment) (n : Nat) :
    (splitCommas 0 (tokens n (separated ", " ((a :: rest).map Assignment.statement)))).mapM
      Setting.read? = some (settings n (a :: rest)) := by
  have hcomma : lex ", " = [.mark ','] := lex_literal rfl
  induction rest generalizing a n with
  | nil =>
    show (splitCommas 0 (tokens n a.statement)).mapM Setting.read? = _
    rw [a.splitCommas_last, List.mapM_cons, a.read?_tokens]
    rfl
  | cons second others ih =>
    show (splitCommas 0 (tokens n (a.statement ++ .fixed ", " ::
      separated ", " ((second :: others).map Assignment.statement)))).mapM Setting.read? = _
    rw [tokens_append, tokens, Piece.tokens, hcomma, List.singleton_append, a.splitCommas_tokens,
      List.mapM_cons, a.read?_tokens, ih]
    rfl

/-! ## Statements -/

/-- An update statement. Parameters are given by their numbers. -/
structure Update where
  table : String
  settings : List Setting
  /-- Columns with the parameters that they have to be equal to. -/
  tests : List (String × Nat)
  guard : List (Token Nat)

namespace Update

/-- Comparisons of columns with parameters, and a condition in parentheses behind them. -/
def readTests : List (Token Nat) → Option (List (String × Nat) × List (Token Nat))
  | .name column :: .sign "=" :: .placeholder n :: .word "and" :: ts =>
    (readTests ts).map (Prod.map ((column, n) :: ·) id)
  | .mark '(' :: ts =>
    match untilClosing 0 ts with
    | some (guard, [.word "returning", .sign "*"]) => some ([], guard)
    | _ => none
  | _ => none

def ofTokens? : List (Token Nat) → Option Update
  | .word "update" :: .name table :: .word "set" :: ts =>
    match (splitCommas 0 (ts.takeWhile (· ≠ .word "where"))).mapM Setting.read?,
      readTests (behindWhere ts) with
    | some settings, some (tests, guard) => some ⟨table, settings, tests, guard⟩
    | _, _ => none
  | _ => none

/-- The update that a text says. -/
def read? (s : String) : Option Update := ofTokens? (lex s)

/-- **An update of the store reads as its assignments, the record and the entity that it names, and its
guard**, whatever the guard is. -/
theorem read?_guardedStatement (entity : Entity) (id : Uuid) (guard : Predicate)
    {assignments : List Assignment} (h : assignments ≠ []) (bound : List Param)
    (hbound : assignments.flatMap (fun a => params a.statement) = bound) :
    read? (guardedStatement entity id guard assignments).text =
      some ⟨"entity_records", Sql.settings 1 assignments,
        [("id", bound.length + 1), ("entity_name", bound.length + 2)],
        tokens (bound.length + 3) (whereClause guard)⟩ := by
  obtain ⟨a, rest, rfl⟩ := List.exists_cons_of_ne_nil h
  have hupdate : lex ("UPDATE " ++ Sql.table ++ " SET ") =
      [.word "update", .name "entity_records", .word "set"] := by decide +kernel
  have hnowhere := where_notMem_assignments (a :: rest)
  have hset : ∀ t ∈ tokens 1 (separated ", " ((a :: rest).map Assignment.statement)),
      decide (t ≠ .word "where") = true :=
    fun t ht => decide_eq_true fun heq => hnowhere (heq ▸ ht)
  have hguard : untilClosing 0 (tokens (bound.length + 3) (whereClause guard) ++
      .mark ')' :: [.word "returning", .sign "*"]) =
        some (tokens (bound.length + 3) (whereClause guard), [.word "returning", .sign "*"]) := by
    rw [untilClosing_append (balanced_whereClause guard _)]
    simp [untilClosing]
  have htests : readTests (.name "id" :: .sign "=" :: .placeholder (bound.length + 1) :: .word "and" ::
      (entityTokens guard (bound.length + 2) ++ [.word "returning", .sign "*"])) =
        some ([("id", bound.length + 1), ("entity_name", bound.length + 2)],
          tokens (bound.length + 3) (whereClause guard)) := by
    simp [entityTokens, readTests, hguard]
  show ofTokens? (lex (textFrom 1 _)) = _
  rw [(guardedStatement_spaced entity id guard _).lex_textFrom,
    tokens_guardedStatement id guard _ bound hbound, hupdate, List.append_assoc]
  simp only [List.cons_append, List.nil_append, ofTokens?]
  rw [List.takeWhile_append_of_pos hset, List.takeWhile_cons_of_neg (by simp), List.append_nil,
    read?_settings, behindWhere_append hnowhere, htests]

end Update

end Sql

end Dossier
