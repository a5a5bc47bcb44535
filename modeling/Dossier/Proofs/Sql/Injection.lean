import Dossier.Proofs.Sql.Condition

/-!
# Names and values do not change what a text is made of

The text of a condition or of a sort order is written from field names, values and patterns of which
nothing is known: they come from requests.

**Values.** No value is written. Predicates that differ only in the contents of their values and
patterns (`Predicate.withoutContents`) have one text.

**Names.** A data field is written as a literal. The tokens of a text are told apart into places
(`Slot`): those that stand for a data field, and all others. The names in the first are exactly those of
the predicate, however they are spelled, and the others do not depend on them
(`Predicate.withoutNames`).

**Other tokens.** None of the others begins a comment, ends the statement, leaves a quotation open or
changes how the literal behind it is read (`Token.inert`), so a reader that knows these constructs too
finds the same tokens.
-/

namespace Dossier

open Sql (SystemColumn)

/-! ## Predicates without what is not known of them -/

/-- A value of the same kind without content. A reference that is compared with the identifier of
records keeps whether it is one, for it is bound accordingly. -/
def Value.blank (field : String) : Value → Value
  | .null => .null
  | .text _ => .text ""
  | .number _ => .number .nan
  | .bool _ => .bool false
  | .date _ => .date .epoch
  | .currency _ => .currency .zero
  | .list _ => .list []
  | .ref id => .ref (if field = "id" ∧ (Uuid.read? id).isSome then Uuid.nil.text else "")
  | .json _ => .json .null

/-- A field name, that of a data field left out. -/
def hideName (field : String) : String :=
  if (SystemColumn.ofField? field).isSome then field else ""

/-- What comes into the places of the names, the values and the patterns of a predicate. -/
structure Replacement where
  name : String → String
  /-- Takes the field that a value is compared with, too. -/
  value : String → Value → Value
  pattern : String → String

namespace Predicate

mutual

def replace (r : Replacement) : Predicate → Predicate
  | .always => .always
  | .never => .never
  | .compare field relation value => .compare (r.name field) relation (r.value field value)
  | .among field values negated => .among (r.name field) (values.map (r.value field)) negated
  | .text field mode pattern => .text (r.name field) mode (r.pattern pattern)
  | .between field low high => .between (r.name field) (r.value field low) (r.value field high)
  | .and parts => .and (replaceAll r parts)
  | .or parts => .or (replaceAll r parts)
  | .not inner => .not (inner.replace r)

def replaceAll (r : Replacement) : List Predicate → List Predicate
  | [] => []
  | part :: rest => part.replace r :: replaceAll r rest

end

/-- A predicate with its operators, fields and kinds of values, but nothing of what its values and
patterns say. -/
def withoutContents (p : Predicate) : Predicate := p.replace ⟨id, Value.blank, fun _ => ""⟩

def withoutNames (p : Predicate) : Predicate := p.replace ⟨hideName, fun _ value => value, id⟩

end Predicate

namespace Sql

open Statement

/-! ## Places for names -/

/-- A place among the tokens of a text: a token, or a literal that stands for a data field. -/
inductive Slot where
  | token (t : Token Nat)
  | name (s : String)
deriving DecidableEq

namespace Slot

/-- The token at a place. -/
def fill : Slot → Token Nat
  | .token t => t
  | .name s => .text s

def name? : Slot → Option String
  | .name s => some s
  | .token _ => none

/-- A place without the name that stands there. -/
def hide : Slot → Slot
  | .name _ => .name ""
  | .token t => .token t

end Slot

@[simp] theorem Slot.fill_comp_token : fill ∘ token = id := rfl

@[simp] theorem Slot.hide_comp_token : hide ∘ token = token := rfl

def Piece.slots (next : Nat) : Piece → List Slot
  | .fixed s => (lex s).map .token
  | .quoted s => [.name s]
  | .param _ => [.token (.placeholder next)]

def Piece.name? : Piece → Option String
  | .quoted s => some s
  | _ => none

namespace Statement

/-- The places of a statement whose first parameter has a given number. -/
def slots (next : Nat) : Statement → List Slot
  | [] => []
  | p :: rest => p.slots next ++ slots (next + p.count) rest

def names (statement : Statement) : List String := statement.filterMap Piece.name?

end Statement

/-! ## The names of a predicate -/

/-- A data field that is written a number of times. -/
def written (times : Nat) (field : String) : List String :=
  if (SystemColumn.ofField? field).isSome then [] else List.replicate times field

/-- What a test for equality writes: a field is compared with null in two ways. -/
def writtenForEquality (field : String) : Value → List String
  | .null => written 2 field
  | _ => written 1 field

end Sql

open Sql in
mutual

/-- The data fields of a predicate, from left to right and as often as its text speaks of them. -/
def Predicate.dataNames : Predicate → List String
  | .always | .never => []
  | .compare field .eq value | .compare field .ne value => writtenForEquality field value
  | .compare field _ _ | .between field _ _ => written 1 field
  | .among field values _ => values.flatMap (writtenForEquality field)
  | .text field _ _ => written 3 field
  | .and parts | .or parts => Predicate.allDataNames parts
  | .not inner => inner.dataNames

def Predicate.allDataNames : List Predicate → List String
  | [] => []
  | part :: rest => part.dataNames ++ Predicate.allDataNames rest

end

namespace Sql

open Statement

def sortNames (sort : List SortSpec) : List String := sort.flatMap fun spec => written 1 spec.field

/-! ## Tokens that keep to themselves -/

/-- Whether a token is neither the start of a comment nor the end of a statement nor a quotation mark
that is left open, nor a word that changes how a literal behind it is read. -/
def Token.inert : Token Nat → Bool
  | .word s => !(["b", "e", "n", "u", "x"].contains s)
  | .sign s => !occursIn ['-', '-'] s.toList && !occursIn ['/', '*'] s.toList
  | .mark c => !(['\'', '"', ';'].contains c)
  | .name _ | .text _ | .number _ | .placeholder _ => true

/-- Whether a piece adds only tokens that keep to themselves. -/
def Piece.inert : Piece → Bool
  | .fixed s => (lex s).all Token.inert
  | _ => true

/-! ## Tokens and places -/

namespace Statement

variable (a b : Statement) (next : Nat)

theorem tokens_eq_map_fill : tokens next a = (slots next a).map Slot.fill := by
  induction a generalizing next with
  | nil => rfl
  | cons p rest ih =>
    rw [tokens, slots, List.map_append, ih]
    cases p with
    | fixed s => simp [Piece.tokens, Piece.slots]
    | _ => rfl

theorem filterMap_slots : (slots next a).filterMap Slot.name? = names a := by
  induction a generalizing next with
  | nil => rfl
  | cons p rest ih =>
    rw [slots, List.filterMap_append, ih]
    cases p with
    | fixed s =>
      have hnone : ((lex s).map Slot.token).filterMap Slot.name? = [] := by
        simp [List.filterMap_eq_nil_iff, Slot.name?]
      exact congrArg (· ++ _) hnone
    | _ => rfl

theorem all_tokens : (tokens next a).all Token.inert = a.all Piece.inert := by
  induction a generalizing next with
  | nil => rfl
  | cons p rest ih =>
    rw [tokens, List.all_append, ih, List.all_cons]
    cases p <;> rfl

@[simp] theorem names_nil : names [] = [] := rfl

@[simp] theorem names_fixed (s : String) : names (.fixed s :: a) = names a := rfl

@[simp] theorem names_quoted (s : String) : names (.quoted s :: a) = s :: names a := rfl

@[simp] theorem names_param (v : Param) : names (.param v :: a) = names a := rfl

@[simp] theorem names_append : names (a ++ b) = names a ++ names b := List.filterMap_append

end Statement

/-! ## Erasing -/

def Piece.withoutValue : Piece → Piece
  | .param _ => .param .nothing
  | p => p

def Piece.withoutName : Piece → Piece
  | .quoted _ => .quoted ""
  | p => p

namespace Statement

variable (a : Statement) (next : Nat)

/-- The text of a statement has nothing of its values. -/
theorem textFrom_withoutValue : textFrom next (a.map Piece.withoutValue) = textFrom next a := by
  have hprinted : ∀ next, printed next (a.map Piece.withoutValue) = printed next a := by
    induction a with
    | nil => exact fun _ => rfl
    | cons p rest ih =>
      intro next
      cases p <;> simp [printed, Piece.withoutValue, ih]
  rw [textFrom, textFrom, hprinted]

/-- Names stand in the places for names only. -/
theorem slots_withoutName : slots next (a.map Piece.withoutName) = (slots next a).map Slot.hide := by
  induction a generalizing next with
  | nil => rfl
  | cons p rest ih =>
    rw [List.map_cons, slots, slots, List.map_append, ← ih]
    cases p with
    | fixed s => simp [Piece.slots, Piece.withoutName, Piece.count]
    | _ => rfl

end Statement

theorem Clause.statements_eq_map (parts : List Clause) :
    Clause.statements parts = parts.map Clause.statement := by
  induction parts with
  | nil => rfl
  | cons part rest ih => rw [statements, ih, List.map_cons]

/-- A replacement does not show in a single test once pieces are erased. -/
structure Unseen (r : Replacement) (erase : Piece → Piece) : Prop where
  fixed : ∀ s, erase (.fixed s) = .fixed s
  compare : ∀ field relation value,
    (whereClause (.compare (r.name field) relation (r.value field value))).map erase =
      (whereClause (.compare field relation value)).map erase
  text : ∀ field mode pattern,
    (whereClause (.text (r.name field) mode (r.pattern pattern))).map erase =
      (whereClause (.text field mode pattern)).map erase
  between : ∀ field low high,
    (whereClause (.between (r.name field) (r.value field low) (r.value field high))).map erase =
      (whereClause (.between field low high)).map erase

namespace Clause

variable {erase : Piece → Piece} {c d : Clause}

theorem map_group (h : c.statement.map erase = d.statement.map erase) :
    (group c).statement.map erase = (group d).statement.map erase := by
  simp only [statement, List.cons_append, List.map_cons, List.map_append, h]

theorem map_complement (h : c.statement.map erase = d.statement.map erase) :
    (complement c).statement.map erase = (complement d).statement.map erase := by
  simp only [statement, List.cons_append, List.map_cons, List.map_append, h]

end Clause

namespace Unseen

open Clause

variable {r : Replacement} {erase : Piece → Piece}

theorem map_among (h : Unseen r erase) (field : String) (values : List Value) :
    (Clause.or ((values.map (r.value field)).map fun v =>
        .test (.equals (r.name field) v))).statement.map erase =
      (Clause.or (values.map fun v => .test (.equals field v))).statement.map erase := by
  rw [statement, statement, map_separated (h.fixed _), map_separated (h.fixed _), statements_eq_map,
    statements_eq_map]
  congr 1
  simp only [List.map_map]
  exact List.map_congr_left fun v _ => h.compare field .eq v

mutual

/-- **What does not show in single tests does not show in a condition.** -/
theorem map_whereClause (h : Unseen r erase) (p : Predicate) :
    (whereClause (p.replace r)).map erase = (whereClause p).map erase := by
  match p with
  | .always | .never => rfl
  | .compare field relation value => exact h.compare field relation value
  | .among field [] negated => rfl
  | .among field (v :: rest) false => exact map_group (h.map_among field (v :: rest))
  | .among field (v :: rest) true => exact map_complement (map_group (h.map_among field (v :: rest)))
  | .text field mode pattern => exact h.text field mode pattern
  | .between field low high => exact h.between field low high
  | .and parts | .or parts =>
    refine (map_separated (h.fixed _) _).trans (.trans ?_ (map_separated (h.fixed _) _).symm)
    rw [h.map_groups parts]
  | .not inner => exact map_complement (map_group (h.map_whereClause inner))

theorem map_groups (h : Unseen r erase) (parts : List Predicate) :
    (statements (groups (Predicate.replaceAll r parts))).map (List.map erase) =
      (statements (groups parts)).map (List.map erase) := by
  match parts with
  | [] => rfl
  | part :: rest =>
    have hpart := map_group (h.map_whereClause part)
    rw [Predicate.replaceAll, groups, groups, statements, statements, List.map_cons, List.map_cons,
      h.map_groups rest]
    exact congrArg (· :: _) hpart

end

end Unseen

/-! ## Values -/

theorem SystemColumn.field_of_ofField? {field : String} {c : SystemColumn}
    (h : SystemColumn.ofField? field = some c) : c.field = field := by
  have hfound : (c.field == field) = true :=
    List.find?_some (p := fun column : SystemColumn => column.field == field) h
  exact beq_iff_eq.1 hfound

theorem Operand.forValue_blank (field : String) (value : Value) :
    forValue field (value.blank field) = forValue field value := by
  have hnil : (Uuid.read? Uuid.nil.text).isSome = true := by decide +kernel
  have hempty : (Uuid.read? "").isSome = false := by decide +kernel
  cases hc : SystemColumn.ofField? field with
  | none => cases value <;> simp [forValue, hc, Value.blank, castFor?]
  | some c =>
    have hfits : fitsColumn c (value.blank field) = fitsColumn c value := by
      cases value with
      | ref id =>
        have hid : c.type = .uuid ↔ field = "id" := by
          rw [← SystemColumn.field_of_ofField? hc]
          cases c <;> decide
        by_cases hfield : field = "id"
        · cases hread : (Uuid.read? id).isSome <;>
            simp [fitsColumn, Value.blank, hfield, hread, hnil, hempty]
        · have htype : (c.type == .uuid) = false := beq_eq_false_iff_ne.2 (mt hid.1 hfield)
          simp [fitsColumn, Value.blank, htype]
      | _ => rfl
    simp only [forValue, hc, hfits]

theorem Test.equals_blank (field : String) (value : Value) :
    (equals field (value.blank field)).statement.map Piece.withoutValue =
      (equals field value).statement.map Piece.withoutValue := by
  have hoperand := Operand.forValue_blank field value
  cases hc : SystemColumn.ofField? field <;> cases value <;>
    simp only [equals, Value.blank, hc] at hoperand ⊢ <;>
    simp [Test.statement, Piece.withoutValue, hoperand]

/-- Contents do not show once the values of parameters are erased. -/
theorem Unseen.contents : Unseen ⟨id, Value.blank, fun _ => ""⟩ Piece.withoutValue where
  fixed _ := rfl
  compare field relation value := by
    have heq := Test.equals_blank field value
    cases relation with
    | eq => exact heq
    | ne => exact Clause.map_complement (c := .test _) (d := .test _) heq
    | _ =>
      simp [whereClause, Clause.ofPredicate, Clause.statement, Test.statement, Piece.withoutValue,
        Operand.forValue_blank]
  text field mode pattern := by
    cases hc : SystemColumn.ofField? field <;>
      simp [whereClause, Clause.ofPredicate, hc, Clause.statement, Test.statement, Piece.withoutValue]
  between field low high := by
    simp [whereClause, Clause.ofPredicate, Clause.statement, Test.statement, Piece.withoutValue,
      Operand.forValue_blank]

/-! ## Names -/

section DataNames

variable {a b : String}

/-- A name is left as it is, or one data field comes in the place of another. -/
theorem hideName_cases (field : String) :
    hideName field = field ∨
      SystemColumn.ofField? (hideName field) = none ∧ SystemColumn.ofField? field = none := by
  cases hc : SystemColumn.ofField? field with
  | some c => exact .inl (if_pos (by rw [hc]; rfl))
  | none =>
    have hhidden : hideName field = "" := if_neg (by rw [hc]; simp)
    refine .inr ⟨?_, rfl⟩
    rw [hhidden]
    decide +kernel

/-- Data fields are read out of the document in the same way. -/
theorem Operand.map_forValue (ha : SystemColumn.ofField? a = none)
    (hb : SystemColumn.ofField? b = none) (value : Value) :
    (forValue a value).statement.map Piece.withoutName =
      (forValue b value).statement.map Piece.withoutName := by
  cases value <;> simp [forValue, ha, hb, castFor?, statement, Piece.withoutName]

theorem Test.map_equals (ha : SystemColumn.ofField? a = none) (hb : SystemColumn.ofField? b = none)
    (value : Value) :
    (equals a value).statement.map Piece.withoutName =
      (equals b value).statement.map Piece.withoutName := by
  have hoperand := Operand.map_forValue ha hb value
  cases value <;> simp [equals, ha, hb, statement, Piece.withoutName, hoperand]

end DataNames

/-- The names of data fields do not show once they are erased from their places. -/
theorem Unseen.names : Unseen ⟨hideName, fun _ value => value, id⟩ Piece.withoutName where
  fixed _ := rfl
  compare field relation value := by
    rcases hideName_cases field with hsame | ⟨ha, hb⟩
    · simp only [hsame]
    have heq := Test.map_equals ha hb value
    have hoperand := Operand.map_forValue ha hb value
    cases relation with
    | eq => exact heq
    | ne => exact Clause.map_complement (c := .test _) (d := .test _) heq
    | _ => simp [whereClause, Clause.ofPredicate, Clause.statement, Test.statement, hoperand]
  text field mode pattern := by
    rcases hideName_cases field with hsame | ⟨ha, hb⟩
    · simp only [hsame, id]
    simp [whereClause, Clause.ofPredicate, ha, hb, Clause.statement, Test.statement, Piece.withoutName]
  between field low high := by
    rcases hideName_cases field with hsame | ⟨ha, hb⟩
    · simp only [hsame]
    have hoperand := Operand.map_forValue ha hb low
    simp [whereClause, Clause.ofPredicate, Clause.statement, Test.statement, hoperand]

/-! ## The names that are written -/

theorem Operand.names_forValue (field : String) (value : Value) :
    names (forValue field value).statement = written 1 field := by
  cases hc : SystemColumn.ofField? field with
  | some c => cases hfits : fitsColumn c value <;> simp [forValue, hc, hfits, statement, written]
  | none => cases value <;> simp [forValue, hc, castFor?, statement, written]

theorem Test.names_equals (field : String) (value : Value) :
    names (equals field value).statement = writtenForEquality field value := by
  have hoperand := Operand.names_forValue field value
  cases hc : SystemColumn.ofField? field <;> cases value <;>
    simp [equals, hc, statement, hoperand, writtenForEquality, written, List.replicate]

namespace Clause

theorem names_group (c : Clause) : names (group c).statement = names c.statement := by
  simp [statement]

theorem names_complement (c : Clause) : names (complement c).statement = names c.statement := by
  simp [statement]

theorem names_among (field : String) (values : List Value) :
    names (or (values.map fun v => .test (.equals field v))).statement =
      values.flatMap (writtenForEquality field) := by
  rw [statement, names, filterMap_separated rfl, statements_eq_map, List.map_map, List.flatMap_map]
  exact congrArg (List.flatMap · values) (funext fun v => Test.names_equals field v)

mutual

/-- **The literals of a condition are the data fields of its predicate.** -/
theorem names_ofPredicate (p : Predicate) : names (ofPredicate p).statement = p.dataNames := by
  match p with
  | .always | .never => rfl
  | .compare field .eq value => exact Test.names_equals field value
  | .compare field .ne value => exact (names_complement _).trans (Test.names_equals field value)
  | .compare field .gt value | .compare field .gte value | .compare field .lt value
  | .compare field .lte value =>
    simp [ofPredicate, statement, Test.statement, Operand.names_forValue, Predicate.dataNames]
  | .among field [] negated => cases negated <;> rfl
  | .among field (v :: rest) false => exact (names_group _).trans (names_among field (v :: rest))
  | .among field (v :: rest) true =>
    exact (names_complement _).trans ((names_group _).trans (names_among field (v :: rest)))
  | .text field mode pattern =>
    cases hc : SystemColumn.ofField? field <;>
      simp [ofPredicate, hc, statement, Test.statement, Predicate.dataNames, written, List.replicate]
  | .between field low high =>
    simp [ofPredicate, statement, Test.statement, Operand.names_forValue, Predicate.dataNames]
  | .and parts | .or parts =>
    rw [ofPredicate, statement, names, filterMap_separated rfl]
    exact names_groups parts
  | .not inner =>
    exact (names_complement _).trans ((names_group _).trans (names_ofPredicate inner))

theorem names_groups (parts : List Predicate) :
    (statements (groups parts)).flatMap names = Predicate.allDataNames parts := by
  match parts with
  | [] => rfl
  | part :: rest =>
    rw [groups, statements, List.flatMap_cons, names_group, names_ofPredicate part, names_groups rest]
    rfl

end

end Clause

/-! ## The other tokens -/

theorem SystemColumn.inert_tokens (c : SystemColumn) : c.tokens.all Token.inert = true := by
  cases c <;> rfl

theorem Operand.inert_tokens (o : Operand) : o.tokens.all Token.inert = true := by
  cases o with
  | column c => exact c.inert_tokens
  | columnAsText c =>
    rw [Operand.tokens, List.all_append, c.inert_tokens]
    rfl
  | dataJson key => rfl
  | dataText key cast =>
    rcases cast with _ | type
    · rfl
    · cases type <;> rfl

theorem Operand.inert (o : Operand) : o.statement.all Piece.inert = true := by
  rw [← all_tokens _ 1, o.tokens_statement, o.inert_tokens]

theorem Test.inert (t : Test) : t.statement.all Piece.inert = true := by
  rw [← all_tokens _ 1]
  cases t with
  | columnIsNull c =>
    rw [tokens_columnIsNull, List.all_append, c.inert_tokens]
    rfl
  | columnLike c pattern =>
    rw [tokens_columnLike, List.all_append, c.inert_tokens]
    rfl
  | compares o relation value =>
    rw [tokens_compares, List.all_append, o.inert_tokens]
    cases relation <;> rfl
  | between o low high =>
    rw [tokens_between, List.all_append, o.inert_tokens]
    rfl
  | dataIsNull key =>
    rw [tokens_dataIsNull]
    rfl
  | dataHolds key text =>
    rw [tokens_dataHolds]
    rfl
  | dataIs key document =>
    rw [tokens_dataIs]
    rfl
  | dataLike key pattern =>
    rw [tokens_dataLike]
    rfl

namespace Clause

mutual

theorem inert (c : Clause) : c.statement.all Piece.inert = true := by
  match c with
  | .constant holds =>
    rw [← all_tokens _ 1, tokens_constant]
    rfl
  | .test t => exact t.inert
  | .group inner =>
    simp only [statement, List.cons_append, List.all_cons, List.all_append, inner.inert]
    decide +kernel
  | .and parts | .or parts => exact all_separated (by decide +kernel) (inert_parts parts)
  | .complement inner =>
    simp only [statement, List.cons_append, List.all_cons, List.all_append, inner.inert]
    decide +kernel

theorem inert_parts (parts : List Clause) :
    ∀ part ∈ statements parts, part.all Piece.inert = true := by
  match parts with
  | [] => simp [statements]
  | part :: rest =>
    rw [statements, List.forall_mem_cons]
    exact ⟨part.inert, inert_parts rest⟩

end

end Clause

/-! ## Sort orders -/

/-- What is compared, without the name of a data field. -/
def Operand.withoutName : Operand → Operand
  | .dataText _ cast => .dataText "" cast
  | .dataJson _ => .dataJson ""
  | o => o

/-- An item of a sort order, without the name of a data field: its direction, and a column or the cast
of a data field. -/
def sortShape (entity : Entity) (spec : SortSpec) : SortDirection × Operand :=
  (spec.direction, (sortOperand entity spec.field).withoutName)

section Orders

variable (entity : Entity) (sort : List SortSpec)

theorem Operand.map_withoutName (o : Operand) :
    o.withoutName.statement.map Piece.withoutName = o.statement.map Piece.withoutName := by
  cases o with
  | dataText key cast => cases cast <;> rfl
  | _ => rfl

theorem orderClause_cons (spec : SortSpec) :
    orderClause entity (spec :: sort) =
      .fixed "ORDER BY " :: separated ", " ((spec :: sort).map (sortTerm entity)) := rfl

theorem orderClause_spaced : (orderClause entity sort).Spaced := by
  cases sort with
  | nil => exact .nil
  | cons spec rest =>
    refine Spaced.cons rfl (.separated ⟨rfl, rfl⟩ fun part hpart => ?_)
    obtain ⟨other, -, rfl⟩ := List.mem_map.1 hpart
    exact sortTerm_spaced entity other

theorem names_sortTerm (spec : SortSpec) : names (sortTerm entity spec) = written 1 spec.field := by
  cases hc : SystemColumn.ofField? spec.field with
  | some c => simp [sortTerm, sortOperand, hc, Operand.statement, written]
  | none =>
    cases hcast : (entity.find? spec.field).bind fun f => sortType? f.kind <;>
      simp [sortTerm, sortOperand, hc, hcast, Operand.statement, written]

theorem names_orderClause : names (orderClause entity sort) = sortNames sort := by
  cases sort with
  | nil => rfl
  | cons spec rest =>
    rw [orderClause_cons, names_fixed, names, filterMap_separated rfl, List.flatMap_map]
    exact congrArg (List.flatMap · (spec :: rest)) (funext fun spec => names_sortTerm entity spec)

theorem inert_orderClause : (orderClause entity sort).all Piece.inert = true := by
  cases sort with
  | nil => rfl
  | cons spec rest =>
    have hterms : (separated ", " ((spec :: rest).map (sortTerm entity))).all Piece.inert = true := by
      refine all_separated (by decide +kernel) fun part hpart => ?_
      obtain ⟨other, -, rfl⟩ := List.mem_map.1 hpart
      simp only [sortTerm, List.all_append, Operand.inert]
      cases other.direction <;> decide +kernel
    rw [orderClause_cons, List.all_cons, hterms]
    decide +kernel

/-- What is written for an item of a sort order but for the name of a data field. -/
def shapeTerm (shape : SortDirection × Operand) : Statement :=
  shape.2.statement ++ [.fixed s!" {directionWord shape.1}"]

theorem map_sortTerm (spec : SortSpec) :
    (sortTerm entity spec).map Piece.withoutName =
      (shapeTerm (sortShape entity spec)).map Piece.withoutName := by
  rw [sortTerm, shapeTerm, List.map_append, List.map_append, ← Operand.map_withoutName]
  rfl

/-- A sort order is written after the shapes of its items, names of data fields aside. -/
theorem map_orderClause (spec : SortSpec) :
    (orderClause entity (spec :: sort)).map Piece.withoutName =
      .fixed "ORDER BY " :: separated ", "
        (((spec :: sort).map (sortShape entity)).map fun s => (shapeTerm s).map Piece.withoutName) := by
  have hfixed (s : String) : Piece.withoutName (.fixed s) = .fixed s := rfl
  rw [orderClause_cons, List.map_cons, hfixed, map_separated (hfixed _), List.map_map, List.map_map]
  congr 2
  exact List.map_congr_left fun other _ => map_sortTerm entity other

variable {entity sort}

theorem map_orderClause_of_shape {other : List SortSpec}
    (h : sort.map (sortShape entity) = other.map (sortShape entity)) :
    (orderClause entity sort).map Piece.withoutName =
      (orderClause entity other).map Piece.withoutName := by
  cases sort with
  | nil => rw [List.map_eq_nil_iff.1 h.symm]
  | cons spec rest =>
    cases other with
    | nil => cases h
    | cons second others => rw [map_orderClause, map_orderClause, h]

end Orders

/-! ## Texts -/

namespace Statement

/-- How a statement is read: literals stand for the data fields it names and for nothing else that
comes from outside, and all other tokens keep to themselves. -/
structure Reads (statement : Statement) (fields : List String) : Prop where
  /-- The tokens of the text are those of the places, with the content of a literal for a name. -/
  lex_eq : ∀ next, lex (textFrom next statement) = (slots next statement).map Slot.fill
  names_eq : ∀ next, (slots next statement).filterMap Slot.name? = fields
  inert : ∀ next, (lex (textFrom next statement)).all Token.inert = true

theorem Spaced.reads {a : Statement} (ha : a.Spaced) (hinert : a.all Piece.inert = true) :
    a.Reads (names a) where
  lex_eq next := by rw [ha.lex_textFrom, tokens_eq_map_fill]
  names_eq next := filterMap_slots a next
  inert next := by
    rw [ha.lex_textFrom]
    rwa [all_tokens]

end Statement

/-- **No value and no name changes the structure of a query.**

Predicates that differ only in the contents of their values and patterns have one text. In the text of
every predicate and of every sort order, each data field is a literal with exactly its name for content,
in whatever characters that is spelled, and where another data field comes in its place all other tokens
stay the same. -/
theorem structure_fixed :
    (∀ p q : Predicate, p.withoutContents = q.withoutContents →
      ∀ next, textFrom next (whereClause p) = textFrom next (whereClause q)) ∧
    (∀ p : Predicate, (whereClause p).Reads p.dataNames) ∧
    (∀ p q : Predicate, p.withoutNames = q.withoutNames → ∀ next,
      (slots next (whereClause p)).map Slot.hide = (slots next (whereClause q)).map Slot.hide) ∧
    (∀ (entity : Entity) (sort : List SortSpec), (orderClause entity sort).Reads (sortNames sort)) ∧
    ∀ (entity : Entity) (sort other : List SortSpec),
      sort.map (sortShape entity) = other.map (sortShape entity) → ∀ next,
        (slots next (orderClause entity sort)).map Slot.hide =
          (slots next (orderClause entity other)).map Slot.hide := by
  refine ⟨fun p q hpq next => ?_, fun p => ?_, fun p q hpq next => ?_, fun entity sort => ?_,
    fun entity sort other hsort next => ?_⟩
  · have htext (p : Predicate) : textFrom next (whereClause p) =
        textFrom next (whereClause p.withoutContents) := by
      rw [← textFrom_withoutValue, ← textFrom_withoutValue (whereClause p.withoutContents)]
      exact congrArg (textFrom next) (Unseen.contents.map_whereClause p).symm
    rw [htext p, htext q, hpq]
  · rw [← Clause.names_ofPredicate]
    exact (whereClause_spaced p).reads (Clause.inert _)
  · have hslots (p : Predicate) : (slots next (whereClause p)).map Slot.hide =
        (slots next (whereClause p.withoutNames)).map Slot.hide := by
      rw [← slots_withoutName, ← slots_withoutName]
      exact congrArg (slots next) (Unseen.names.map_whereClause p).symm
    rw [hslots p, hslots q, hpq]
  · rw [← names_orderClause entity]
    exact (orderClause_spaced entity sort).reads (inert_orderClause entity sort)
  · rw [← slots_withoutName, ← slots_withoutName, map_orderClause_of_shape hsort]

/-- An entity with dates; their names are chosen to end a literal and the statement. -/
def agenda : Entity := ⟨"agenda", none, [.plain "due" .date, .plain "'; --" .date]⟩

theorem structure_fixed_agenda :
    textFrom 1 (whereClause (.compare "owner's" .eq (.text "me"))) =
        textFrom 1 (whereClause (.compare "owner's" .eq (.text "'; --"))) ∧
      (slots 1 (whereClause (.compare "owner's" .eq (.text "me")))).map Slot.hide =
        (slots 1 (whereClause (.compare "'; --" .eq (.text "me")))).map Slot.hide ∧
      (slots 1 (orderClause agenda [⟨"due", .desc⟩])).map Slot.hide =
        (slots 1 (orderClause agenda [⟨"'; --", .desc⟩])).map Slot.hide := by
  obtain ⟨hvalues, -, hnames, -, horders⟩ := structure_fixed
  have hhidden : hideName "owner's" = hideName "'; --" := by decide +kernel
  refine ⟨hvalues _ _ rfl 1, hnames _ _ ?_ 1, horders _ _ _ (by decide +kernel) 1⟩
  exact congrArg (Predicate.compare · .eq (.text "me")) hhidden

example : lex (textFrom 1 (whereClause (.compare "it's" .gt (.bool true)))) =
    [.mark '(', .word "data", .sign "->>", .text "it's", .mark ')', .sign "::", .word "boolean",
      .sign ">", .placeholder 1] := by
  decide +kernel

end Sql

end Dossier
