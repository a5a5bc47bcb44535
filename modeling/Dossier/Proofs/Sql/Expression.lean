import Dossier.Proofs.Sql.Token
import Mathlib.Data.Nat.Init

/-!
# Expressions

Reading an expression off tokens by the precedence of operators. From loose to tight: `OR`, `AND`,
`NOT`, `IS NULL`, comparisons, `BETWEEN` and `ILIKE`, all other operators, casts. Each has a power
(`infixPower`), and an operand goes to the operator with the greater power, to the one on its left where
both have the same.

**Rules.** The functions say how a text is read, the relations `Reads`, `Continues` and `ReadsOperand`
what they find; one rule for each form says when. A text that is printed is read back by applying the
rules to its parts.
-/

namespace Dossier

namespace Sql

/-- An expression of SQL, with its parentheses. -/
inductive Expression where
  | word (s : String)
  | name (s : String)
  | text (s : String)
  | number (n : Nat)
  /-- A parameter, by its number. -/
  | param (n : Nat)
  | paren (inner : Expression)
  | call (function : String) (argument : Expression)
  | coalesce (first second : Expression)
  /-- Whether a query has rows; the query is not read any further. -/
  | exist (query : List (Token Nat))
  | not (inner : Expression)
  | binary (operator : String) (left right : Expression)
  | cast (inner : Expression) (type : String)
  | isNull (inner : Expression)
  | between (inner low high : Expression)
deriving DecidableEq

/-! ## Precedence -/

/-- What can stand behind an expression and goes on with it. -/
inductive Operator where
  /-- An operator between two expressions. -/
  | binary (sign : String) (power : Nat)
  | cast
  | isNull
  | between
deriving DecidableEq

/-- How tight an operator binds. -/
def Operator.power : Operator → Nat
  | .binary _ power => power
  | .cast => 9
  | .isNull => 4
  | .between => 6

def notPower : Nat := 3

/-- The power of the two ends of a range, which a conjunction does not reach into. -/
def endPower : Nat := 7

def comparisonSigns : List String := ["=", "<>", "<", ">", "<=", ">="]

/-- The operator that starts with a token. -/
def Token.operator? : Token Nat → Option Operator
  | .word s =>
    if s = "or" then some (.binary s 1)
    else if s = "and" then some (.binary s 2)
    else if s = "is" then some .isNull
    else if s = "between" then some .between
    else if s = "ilike" then some (.binary s 6)
    else none
  | .sign s =>
    if s = "::" then some .cast
    else if comparisonSigns.contains s then some (.binary s 5)
    else some (.binary s 7)
  | _ => none

/-! ## Reading -/

/-- Tokens up to the parenthesis that closes `depth + 1` open ones, and those behind it. -/
def untilClosing : Nat → List (Token Nat) → Option (List (Token Nat) × List (Token Nat))
  | _, [] => none
  | 0, .mark ')' :: ts => some ([], ts)
  | depth + 1, .mark ')' :: ts => (untilClosing depth ts).map (Prod.map (.mark ')' :: ·) id)
  | depth, .mark '(' :: ts => (untilClosing (depth + 1) ts).map (Prod.map (.mark '(' :: ·) id)
  | depth, t :: ts => (untilClosing depth ts).map (Prod.map (t :: ·) id)

theorem length_untilClosing {depth : Nat} {ts query rest : List (Token Nat)}
    (h : untilClosing depth ts = some (query, rest)) : rest.length < ts.length := by
  induction ts generalizing depth query with
  | nil => simp [untilClosing] at h
  | cons t ts ih =>
    have hstep {depth query} (h : (untilClosing depth ts).map (Prod.map (t :: ·) id) = some (query, rest)) :
        rest.length < (t :: ts).length := by
      obtain ⟨⟨q, r⟩, hq, heq⟩ := Option.map_eq_some_iff.1 h
      cases heq
      exact Nat.lt_succ_of_lt (ih hq)
    unfold untilClosing at h
    split at h
    · cases h
    · rename_i heq
      cases h
      cases heq
      exact Nat.lt_succ_self _
    · rename_i heq
      cases heq
      exact hstep h
    · rename_i heq
      cases heq
      exact hstep h
    · rename_i heq
      cases heq
      exact hstep h

/-- What is left of some tokens once something was read off their front. -/
abbrev Left (ts : List (Token Nat)) := {rest : List (Token Nat) // rest.length < ts.length}

mutual

/-- An expression whose operators have at least some power. -/
def read (min : Nat) (ts : List (Token Nat)) : Option (Expression × Left ts) :=
  match operand ts with
  | none => none
  | some (left, mid) =>
    (proceed min left mid.1).map fun (e, rest) => (e, ⟨rest.1, by
      have := mid.2
      have := rest.2
      omega⟩)
termination_by (ts.length, 2)

/-- An expression up to its first operator. -/
def operand (ts : List (Token Nat)) : Option (Expression × Left ts) :=
  match ts with
  | .name s :: ts => some (.name s, ⟨ts, Nat.lt_succ_self _⟩)
  | .text s :: ts => some (.text s, ⟨ts, Nat.lt_succ_self _⟩)
  | .number n :: ts => some (.number n, ⟨ts, Nat.lt_succ_self _⟩)
  | .placeholder n :: ts => some (.param n, ⟨ts, Nat.lt_succ_self _⟩)
  | .mark '(' :: ts =>
    match read 1 ts with
    | some (inner, ⟨.mark ')' :: rest, h⟩) =>
      some (.paren inner, ⟨rest, Nat.lt_succ_of_lt (Nat.lt_of_succ_lt h)⟩)
    | _ => none
  | .word s :: ts =>
    if s = "not" then
      (read notPower ts).map fun (e, rest) => (.not e, ⟨rest.1, Nat.lt_succ_of_lt rest.2⟩)
    else
      match ts with
      | .mark '(' :: ts => (arguments s ts).map fun (e, rest) =>
        (e, ⟨rest.1, Nat.lt_succ_of_lt (Nat.lt_succ_of_lt rest.2)⟩)
      | ts => some (.word s, ⟨ts, Nat.lt_succ_self _⟩)
  | _ => none
termination_by (ts.length, 1)

/-- What stands between the parentheses behind a word. -/
def arguments (f : String) (ts : List (Token Nat)) : Option (Expression × Left ts) :=
  if f = "exists" then
    match h : untilClosing 0 ts with
    | some (query, rest) => some (.exist query, ⟨rest, length_untilClosing h⟩)
    | none => none
  else
    match read 1 ts with
    | some (first, ⟨.mark ')' :: rest, h⟩) =>
      if f = "coalesce" then none else some (.call f first, ⟨rest, Nat.lt_of_succ_lt h⟩)
    | some (first, ⟨.mark ',' :: mid, hmid⟩) =>
      have hmid : mid.length < ts.length := Nat.lt_of_succ_lt hmid
      if f = "coalesce" then
        match read 1 mid with
        | some (second, ⟨.mark ')' :: rest, h⟩) =>
          some (.coalesce first second, ⟨rest, Nat.lt_trans (Nat.lt_of_succ_lt h) hmid⟩)
        | _ => none
      else none
    | _ => none
termination_by (ts.length, 3)

/-- What an operator makes of the expression on its left and of what stands behind it. -/
def extend (operator : Operator) (left : Expression) (ts : List (Token Nat)) :
    Option (Expression × Left ts) :=
  match operator with
  | .binary sign power => (read (power + 1) ts).map fun (right, rest) => (.binary sign left right, rest)
  | .cast =>
    match ts with
    | .word type :: rest => some (.cast left type, ⟨rest, Nat.lt_succ_self _⟩)
    | _ => none
  | .isNull =>
    match ts with
    | .word "null" :: rest => some (.isNull left, ⟨rest, Nat.lt_succ_self _⟩)
    | _ => none
  | .between =>
    match read endPower ts with
    | some (low, ⟨.word "and" :: mid, h⟩) =>
      have hmid : mid.length < ts.length := Nat.lt_of_succ_lt h
      (read endPower mid).map fun (high, rest) =>
        (.between left low high, ⟨rest.1, Nat.lt_trans rest.2 hmid⟩)
    | _ => none
termination_by (ts.length, 3)

/-- An expression of which the left side is known, and whose operators have at least some power. -/
def proceed (min : Nat) (left : Expression) (ts : List (Token Nat)) :
    Option (Expression × {rest : List (Token Nat) // rest.length ≤ ts.length}) :=
  match ts with
  | [] => some (left, ⟨[], Nat.le_refl _⟩)
  | t :: ts =>
    match t.operator? with
    | none => some (left, ⟨t :: ts, Nat.le_refl _⟩)
    | some operator =>
      if operator.power < min then some (left, ⟨t :: ts, Nat.le_refl _⟩)
      else
        match extend operator left ts with
        | none => none
        | some (next, mid) =>
          (proceed min next mid.1).map fun (e, rest) =>
            (e, ⟨rest.1, Nat.le_succ_of_le (Nat.le_trans rest.2 (Nat.le_of_lt mid.2))⟩)
termination_by (ts.length, 0)

end

/-- An expression with any operators, and the tokens behind it. -/
def readExpression (ts : List (Token Nat)) : Option (Expression × List (Token Nat)) :=
  (read 1 ts).map fun (e, rest) => (e, rest.1)

/-! ## Rules -/

/-- From some tokens an expression can be read, and others are left. -/
def Reads (min : Nat) (ts : List (Token Nat)) (e : Expression) (rest : List (Token Nat)) : Prop :=
  ∃ h, read min ts = some (e, ⟨rest, h⟩)

def ReadsOperand (ts : List (Token Nat)) (e : Expression) (rest : List (Token Nat)) : Prop :=
  ∃ h, operand ts = some (e, ⟨rest, h⟩)

def Continues (min : Nat) (left : Expression) (ts : List (Token Nat)) (e : Expression)
    (rest : List (Token Nat)) : Prop :=
  ∃ h, proceed min left ts = some (e, ⟨rest, h⟩)

def Extends (operator : Operator) (left : Expression) (ts : List (Token Nat)) (e : Expression)
    (rest : List (Token Nat)) : Prop :=
  ∃ h, extend operator left ts = some (e, ⟨rest, h⟩)

/-- No operator of at least some power comes next. -/
def Stops (min : Nat) (ts : List (Token Nat)) : Prop :=
  ∀ operator ∈ ts.head? >>= Token.operator?, operator.power < min

variable {min : Nat} {left e : Expression} {ts mid rest : List (Token Nat)}

theorem ReadsOperand.reads (h : ReadsOperand ts left mid) (hnext : Continues min left mid e rest) :
    Reads min ts e rest := by
  obtain ⟨hmid, h⟩ := h
  obtain ⟨hrest, hnext⟩ := hnext
  exact ⟨by omega, by rw [read, h]; simp [hnext]⟩

namespace Extends

theorem binary {sign : String} {power : Nat} {right : Expression}
    (h : Reads (power + 1) ts right rest) :
    Extends (.binary sign power) left ts (.binary sign left right) rest := by
  obtain ⟨hrest, h⟩ := h
  refine ⟨hrest, ?_⟩
  unfold extend
  simp [h]

theorem cast {type : String} : Extends .cast left (.word type :: rest) (.cast left type) rest :=
  ⟨Nat.lt_succ_self _, by rw [extend]⟩

theorem isNull : Extends .isNull left (.word "null" :: rest) (.isNull left) rest :=
  ⟨Nat.lt_succ_self _, by rw [extend]⟩

theorem between {low high : Expression} (hlow : Reads endPower ts low (.word "and" :: mid))
    (hhigh : Reads endPower mid high rest) :
    Extends .between left ts (.between left low high) rest := by
  obtain ⟨hmid, hlow⟩ := hlow
  obtain ⟨hrest, hhigh⟩ := hhigh
  refine ⟨Nat.lt_trans hrest (Nat.lt_of_succ_lt hmid), ?_⟩
  unfold extend
  simp [hlow, hhigh]

end Extends

namespace Continues

theorem stop (h : Stops min ts) : Continues min left ts left ts := by
  refine ⟨Nat.le_refl _, ?_⟩
  cases ts with
  | nil => rw [proceed]
  | cons t ts =>
    unfold proceed
    cases hoperator : t.operator? with
    | none => rfl
    | some operator => exact if_pos (h operator hoperator)

theorem step {t : Token Nat} {operator : Operator} {next : Expression}
    (hoperator : t.operator? = some operator) (hmin : min ≤ operator.power)
    (h : Extends operator left ts next mid) (hnext : Continues min next mid e rest) :
    Continues min left (t :: ts) e rest := by
  obtain ⟨hmid, h⟩ := h
  obtain ⟨hrest, hnext⟩ := hnext
  refine ⟨Nat.le_succ_of_le (Nat.le_trans hrest (Nat.le_of_lt hmid)), ?_⟩
  unfold proceed
  simp [hoperator, Nat.not_lt.2 hmin, h, hnext]

/-- Reading stops where it is, or goes on with an operator. -/
theorem cases (h : Continues min left ts e rest) :
    (e = left ∧ rest = ts) ∨
      ∃ t behind operator next mid, ts = t :: behind ∧ t.operator? = some operator ∧
        min ≤ operator.power ∧ Extends operator left behind next mid ∧
          Continues min next mid e rest := by
  obtain ⟨hrest, h⟩ := h
  cases ts with
  | nil =>
    rw [proceed] at h
    cases h
    exact .inl ⟨rfl, rfl⟩
  | cons t behind =>
    unfold proceed at h
    cases hoperator : t.operator? with
    | none =>
      rw [hoperator] at h
      cases h
      exact .inl ⟨rfl, rfl⟩
    | some operator =>
      simp only [hoperator] at h
      split at h
      · cases h
        exact .inl ⟨rfl, rfl⟩
      · rename_i hmin
        split at h
        · cases h
        · rename_i next mid hextend
          obtain ⟨⟨e', last⟩, hproceed, heq⟩ := Option.map_eq_some_iff.1 h
          cases heq
          exact .inr ⟨t, behind, operator, next, mid, rfl, hoperator, Nat.not_lt.1 hmin,
            ⟨mid.2, hextend⟩, ⟨last.2, hproceed⟩⟩

/-- What stops at tight operators can be read on with looser ones. -/
theorem trans {k : Nat} (hk : min ≤ k) (h : Continues k left ts e mid) {whole : Expression}
    (hnext : Continues min e mid whole rest) : Continues min left ts whole rest := by
  induction hn : ts.length using Nat.strongRecOn generalizing left ts with
  | _ n ih =>
    subst hn
    obtain ⟨rfl, rfl⟩ | ⟨t, behind, operator, next, mid', rfl, hoperator, hpower, hextends, hrest⟩ :=
      h.cases
    · exact hnext
    · have hshorter : mid'.length < (t :: behind).length := Nat.lt_succ_of_lt hextends.1
      exact .step hoperator (Nat.le_trans hk hpower) hextends (ih _ hshorter hrest rfl)

end Continues

/-- An expression with tight operators only goes on with looser ones. -/
theorem Reads.continue {k : Nat} (hk : min ≤ k) (h : Reads k ts left mid)
    (hnext : Continues min left mid e rest) : Reads min ts e rest := by
  obtain ⟨hmid, h⟩ := h
  unfold read at h
  split at h
  · cases h
  · rename_i first next hoperand
    obtain ⟨⟨e', last⟩, hproceed, heq⟩ := Option.map_eq_some_iff.1 h
    cases heq
    have hfirst : ReadsOperand ts first next.1 := ⟨next.2, hoperand⟩
    exact hfirst.reads (.trans hk ⟨last.2, hproceed⟩ hnext)

theorem Reads.readExpression (h : Reads 1 ts e rest) : readExpression ts = some (e, rest) := by
  obtain ⟨hrest, h⟩ := h
  rw [Sql.readExpression, h]
  rfl

theorem Reads.lower {k : Nat} (hk : min ≤ k) (h : Reads k ts e rest) (hstops : Stops min rest) :
    Reads min ts e rest := h.continue hk (.stop hstops)

namespace ReadsOperand

theorem name (s : String) (ts : List (Token Nat)) : ReadsOperand (.name s :: ts) (.name s) ts :=
  ⟨Nat.lt_succ_self _, by rw [operand]⟩

theorem text (s : String) (ts : List (Token Nat)) : ReadsOperand (.text s :: ts) (.text s) ts :=
  ⟨Nat.lt_succ_self _, by rw [operand]⟩

theorem number (n : Nat) (ts : List (Token Nat)) : ReadsOperand (.number n :: ts) (.number n) ts :=
  ⟨Nat.lt_succ_self _, by rw [operand]⟩

theorem param (n : Nat) (ts : List (Token Nat)) : ReadsOperand (.placeholder n :: ts) (.param n) ts :=
  ⟨Nat.lt_succ_self _, by rw [operand]⟩

theorem word {s : String} (hs : s ≠ "not") (hts : ts.head? ≠ some (.mark '(')) :
    ReadsOperand (.word s :: ts) (.word s) ts := by
  refine ⟨Nat.lt_succ_self _, ?_⟩
  unfold operand
  rw [if_neg hs]
  split
  · exact absurd rfl hts
  · rfl

theorem not {inner : Expression} (h : Reads notPower ts inner rest) :
    ReadsOperand (.word "not" :: ts) (.not inner) rest := by
  obtain ⟨hrest, h⟩ := h
  refine ⟨Nat.lt_succ_of_lt hrest, ?_⟩
  unfold operand
  simp [h]

theorem paren {inner : Expression} (h : Reads 1 ts inner (.mark ')' :: rest)) :
    ReadsOperand (.mark '(' :: ts) (.paren inner) rest := by
  obtain ⟨hrest, h⟩ := h
  refine ⟨Nat.lt_succ_of_lt (Nat.lt_of_succ_lt hrest), ?_⟩
  unfold operand
  simp [h]

theorem of_arguments {f : String} (hf : f ≠ "not") (hrest : rest.length < ts.length)
    (h : arguments f ts = some (e, ⟨rest, hrest⟩)) :
    ReadsOperand (.word f :: .mark '(' :: ts) e rest := by
  refine ⟨Nat.lt_succ_of_lt (Nat.lt_succ_of_lt hrest), ?_⟩
  unfold operand
  simp [hf, h]

theorem exist {query : List (Token Nat)} (h : untilClosing 0 ts = some (query, rest)) :
    ReadsOperand (.word "exists" :: .mark '(' :: ts) (.exist query) rest := by
  have hrest := length_untilClosing h
  refine of_arguments (by decide) hrest ?_
  unfold arguments
  rw [if_pos rfl]
  split <;> simp_all

theorem coalesce {first second : Expression} (hfirst : Reads 1 ts first (.mark ',' :: mid))
    (hsecond : Reads 1 mid second (.mark ')' :: rest)) :
    ReadsOperand (.word "coalesce" :: .mark '(' :: ts) (.coalesce first second) rest := by
  obtain ⟨hmid, hfirst⟩ := hfirst
  obtain ⟨hrest, hsecond⟩ := hsecond
  refine of_arguments (by decide) (Nat.lt_trans (Nat.lt_of_succ_lt hrest) (Nat.lt_of_succ_lt hmid)) ?_
  unfold arguments
  simp [hfirst, hsecond]

theorem call {f : String} {argument : Expression} (hnot : f ≠ "not") (hexists : f ≠ "exists")
    (hcoalesce : f ≠ "coalesce") (h : Reads 1 ts argument (.mark ')' :: rest)) :
    ReadsOperand (.word f :: .mark '(' :: ts) (.call f argument) rest := by
  obtain ⟨hrest, h⟩ := h
  refine of_arguments hnot (Nat.lt_of_succ_lt hrest) ?_
  unfold arguments
  simp [hexists, hcoalesce, h]

end ReadsOperand

end Sql

end Dossier
