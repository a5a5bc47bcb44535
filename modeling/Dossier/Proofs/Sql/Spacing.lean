import Dossier.Proofs.Sql.Token

/-!
# The statements of the store are spaced

Each test, each condition and each statement that is sent is made of pieces that do not run into each
other, so its tokens are those of its pieces. Field names, texts and values are arbitrary here: names
stand in quotation marks or are those of columns, and all else is bound to parameters.
-/

namespace Dossier

namespace Sql

open Statement

/-! ## Fixed text between statements -/

/-- Fixed text that ends the tokens before it, and itself ends between tokens. -/
structure IsJoint (s : String) : Prop where
  head : s.toList.head?.any isEnd = true
  after : Scan.after .between s.toList = .between

namespace Statement

variable {a b : Statement} {s : String}

theorem ends_chars_fixed (hs : s.toList.head?.any isEnd = true) (rest : Statement) (next : Nat) :
    Ends (chars next (.fixed s :: rest)) := by
  intro c hc
  cases hhead : s.toList.head? with
  | none =>
    rw [hhead] at hs
    cases hs
  | some d =>
    rw [chars, Piece.chars, List.head?_append, hhead] at hc
    cases hc
    rwa [hhead] at hs

theorem Spaced.join (ha : Spaced a) (hs : IsJoint s) (hb : Spaced b) :
    Spaced (a ++ .fixed s :: b) :=
  ha.append (hb.cons hs.after) (ends_chars_fixed hs.head b)

theorem Spaced.separated (hs : IsJoint s) {parts : List Statement}
    (hparts : ∀ part ∈ parts, Spaced part) : Spaced (separated s parts) := by
  induction parts with
  | nil => exact .nil
  | cons part rest ih =>
    obtain ⟨hpart, hrest⟩ := List.forall_mem_cons.1 hparts
    cases rest with
    | nil => exact hpart
    | cons second others => exact hpart.join hs (ih hrest)

/-- What is true of the separator and of all pieces of the parts is true of all pieces. -/
theorem all_separated {f : Piece → Bool} (hs : f (.fixed s) = true) {parts : List Statement}
    (hparts : ∀ part ∈ parts, part.all f = true) : (separated s parts).all f = true := by
  induction parts with
  | nil => rfl
  | cons part rest ih =>
    obtain ⟨hpart, hrest⟩ := List.forall_mem_cons.1 hparts
    cases rest with
    | nil => exact hpart
    | cons second others =>
      have hjoint : (Piece.fixed s :: separated s (second :: others)).all f = true := by
        rw [List.all_cons, hs]
        exact ih hrest
      exact List.all_append.trans (by rw [hpart, hjoint]; rfl)

/-- What a separator has nothing of comes from the parts. -/
theorem filterMap_separated {α : Type} {f : Piece → Option α} (hs : f (.fixed s) = none)
    (parts : List Statement) :
    (separated s parts).filterMap f = parts.flatMap (List.filterMap f) := by
  induction parts with
  | nil => rfl
  | cons part rest ih =>
    cases rest with
    | nil => simp [separated]
    | cons second others =>
      have hjoint : (Piece.fixed s :: separated s (second :: others)).filterMap f = _ :=
        (List.filterMap_cons_none hs).trans ih
      exact List.filterMap_append.trans (congrArg (_ ++ ·) hjoint)

theorem map_separated {f : Piece → Piece} (hs : f (.fixed s) = .fixed s) (parts : List Statement) :
    (separated s parts).map f = separated s (parts.map (List.map f)) := by
  induction parts with
  | nil => rfl
  | cons part rest ih =>
    cases rest with
    | nil => rfl
    | cons second others =>
      have hjoint : (Piece.fixed s :: separated s (second :: others)).map f =
          .fixed s :: separated s ((second :: others).map (List.map f)) := by
        rw [List.map_cons, hs, ih]
      exact List.map_append.trans (congrArg (_ ++ ·) hjoint)

/-- A spaced statement stays one between fixed texts. -/
theorem Spaced.enclose {opening closing : String} (ha : Spaced a)
    (hopening : Scan.after .between opening.toList = .between)
    (hhead : closing.toList.head?.any isEnd = true) (hclosing : Spaced [.fixed closing]) :
    Spaced (.fixed opening :: a ++ [.fixed closing]) :=
  (ha.cons hopening).append hclosing (ends_chars_fixed hhead [])

end Statement

/-! ## Conditions -/

theorem Operand.spaced (o : Operand) : o.statement.Spaced := by
  cases o with
  | column c => exact spaced_of_apart (by cases c <;> decide +kernel)
  | columnAsText c => exact spaced_of_apart (by cases c <;> decide +kernel)
  | dataJson key => exact spaced_of_apart rfl
  | dataText key cast =>
    cases cast with
    | none => exact spaced_of_apart rfl
    | some type =>
      have hmember : Spaced [.fixed "(data->>", .quoted key] := spaced_of_apart rfl
      refine hmember.append (spaced_of_apart ?_) (ends_chars_fixed ?_ [])
      · cases type <;> decide +kernel
      · cases type <;> rfl

set_option maxRecDepth 2000 in
theorem Test.spaced (t : Test) : t.statement.Spaced := by
  cases t with
  | columnIsNull column => exact spaced_of_apart (by cases column <;> decide +kernel)
  | columnLike column pattern =>
    have hvalue : Spaced [.param (.text pattern)] := spaced_of_apart rfl
    exact hvalue.cons (by cases column <;> decide +kernel)
  | dataIsNull | dataHolds | dataIs => exact spaced_of_apart rfl
  | compares operand relation value =>
    refine operand.spaced.join ⟨?_, ?_⟩ (spaced_of_apart rfl)
    · cases relation <;> rfl
    · cases relation <;> decide +kernel
  | between operand low high => exact operand.spaced.join ⟨rfl, rfl⟩ (spaced_of_apart rfl)
  | dataLike key pattern =>
    have hdata {rest : Statement} (h : ∀ cs, apart (.closedText cs) rest = true) :
        apart (.sign ['-', '>']) (.quoted key :: rest) = true := apart_quoted rfl (h _)
    refine spaced_of_apart (apart_fixed rfl rfl (hdata fun _ => ?_))
    refine apart_fixed rfl rfl (hdata fun _ => ?_)
    refine apart_fixed rfl rfl (hdata fun _ => ?_)
    exact apart_fixed rfl rfl rfl

namespace Clause

mutual

theorem spaced (c : Clause) : c.statement.Spaced := by
  match c with
  | .constant true | .constant false => exact spaced_of_apart rfl
  | .test t => exact t.spaced
  | .group inner => exact inner.spaced.enclose rfl rfl (spaced_of_apart rfl)
  | .and parts => exact .separated ⟨rfl, rfl⟩ (spaced_parts parts)
  | .or parts => exact .separated ⟨rfl, rfl⟩ (spaced_parts parts)
  | .complement inner => exact inner.spaced.enclose rfl rfl (spaced_of_apart rfl)

theorem spaced_parts (parts : List Clause) : ∀ part ∈ statements parts, part.Spaced := by
  match parts with
  | [] => simp [statements]
  | part :: rest =>
    rw [statements, List.forall_mem_cons]
    exact ⟨part.spaced, spaced_parts rest⟩

end

end Clause

theorem whereClause_spaced (p : Predicate) : (whereClause p).Spaced := (Clause.ofPredicate p).spaced

/-! ## Statements of the store -/

theorem Assignment.spaced (a : Assignment) : a.statement.Spaced := by
  cases a with
  | deleted flag => cases flag <;> exact spaced_of_apart rfl
  | deletedAt t => cases t <;> exact spaced_of_apart rfl
  | deletedBy user => cases user <;> exact spaced_of_apart rfl
  | _ => exact spaced_of_apart rfl

theorem entityCondition_spaced (entity : Entity) (p : Predicate) :
    (entityCondition entity p).Spaced := by
  have hhead : Spaced [.fixed " WHERE \"entity_name\" = ", .param (.text entity.name)] :=
    spaced_of_apart rfl
  have hwhere := hhead.join (s := " AND (") ⟨rfl, rfl⟩ (whereClause_spaced p)
  have h := hwhere.join (s := ")") ⟨rfl, rfl⟩ .nil
  simpa [entityCondition] using h

theorem ends_entityCondition (entity : Entity) (p : Predicate) (next : Nat) :
    Ends (chars next (entityCondition entity p)) :=
  ends_chars_fixed rfl _ next

theorem getStatement_spaced (entity : Entity) (p : Predicate) : (getStatement entity p).Spaced := by
  have hselect : Spaced [.fixed ("SELECT * FROM " ++ table)] := spaced_of_apart rfl
  have h := hselect.append (entityCondition_spaced entity p) (ends_entityCondition entity p)
  exact h.append (spaced_of_apart rfl) (ends_chars_fixed rfl [])

theorem countStatement_spaced (entity : Entity) (p : Predicate) :
    (countStatement entity p).Spaced := by
  have hselect : Spaced [.fixed ("SELECT COUNT(*) AS count FROM " ++ table)] := spaced_of_apart rfl
  exact hselect.append (entityCondition_spaced entity p) (ends_entityCondition entity p)

theorem sortTerm_spaced (entity : Entity) (spec : SortSpec) : (sortTerm entity spec).Spaced := by
  refine (sortOperand entity spec.field).spaced.append (spaced_of_apart ?_) (ends_chars_fixed ?_ [])
  · cases spec.direction <;> rfl
  · cases spec.direction <;> rfl

theorem totalOrder_spaced (entity : Entity) (sort : List SortSpec) :
    (totalOrder entity sort).Spaced := by
  cases sort with
  | nil => exact spaced_of_apart rfl
  | cons spec rest =>
    have hterms : Spaced (separated ", " ((spec :: rest).map (sortTerm entity))) := by
      refine .separated ⟨rfl, rfl⟩ fun part hpart => ?_
      obtain ⟨other, -, rfl⟩ := List.mem_map.1 hpart
      exact sortTerm_spaced entity other
    exact (hterms.cons rfl).append (spaced_of_apart rfl) (ends_chars_fixed rfl [])

theorem listStatement_spaced (entity : Entity) (q : ListQuery) :
    (listStatement entity q).Spaced := by
  have hselect : Spaced [.fixed ("SELECT * FROM " ++ table)] := spaced_of_apart rfl
  have hwhere := hselect.append (entityCondition_spaced entity q.predicate)
    (ends_entityCondition entity q.predicate)
  have horder := hwhere.join (s := " ") ⟨rfl, rfl⟩ (totalOrder_spaced entity q.sort)
  have hpage : Spaced [.fixed " LIMIT ", .param (.integer q.limit), .fixed " OFFSET ",
    .param (.integer q.offset)] := spaced_of_apart rfl
  have h := horder.append hpage (ends_chars_fixed rfl _)
  simpa [listStatement] using h

theorem guardedStatement_spaced (entity : Entity) (id : Uuid) (guard : Predicate)
    (assignments : List Assignment) : (guardedStatement entity id guard assignments).Spaced := by
  have hset : Spaced (separated ", " (assignments.map Assignment.statement)) := by
    refine .separated ⟨rfl, rfl⟩ fun part hpart => ?_
    obtain ⟨a, -, rfl⟩ := List.mem_map.1 hpart
    exact a.spaced
  have htarget : Spaced [.fixed " WHERE \"id\" = ", .param (.uuid id),
    .fixed " AND \"entity_name\" = ", .param (.text entity.name)] := spaced_of_apart rfl
  have hupdate := (hset.cons (s := "UPDATE " ++ table ++ " SET ") rfl).append htarget
    (ends_chars_fixed rfl _)
  have hguard := hupdate.join (s := " AND (") ⟨rfl, rfl⟩ (whereClause_spaced guard)
  have hreturn : Spaced [.fixed ") RETURNING *"] := spaced_of_apart rfl
  have h := hguard.append hreturn (ends_chars_fixed rfl [])
  simpa [guardedStatement] using h

set_option maxRecDepth 2000 in
theorem insertStatement_spaced (r : Record) : (insertStatement r).Spaced := by
  have hopening : Scan.after .between
      ("INSERT INTO " ++ table ++ " (\"id\", \"tenant_id\", \"entity_name\", \"data\", \"approval\", " ++
        "\"created_at\", \"updated_at\", \"created_by\", \"updated_by\", \"deleted\") VALUES (").toList =
          .between :=
    (Scan.after_join (Scan.after_join (Scan.after_join (Scan.after_literal rfl) (Scan.after_literal rfl))
      (Scan.after_literal rfl)) (Scan.after_literal rfl)).trans (by decide +kernel)
  have hvalues (values : List Param) : Spaced (separated ", " (values.map fun v => [.param v])) := by
    refine .separated ⟨rfl, rfl⟩ fun part hpart => ?_
    obtain ⟨v, -, rfl⟩ := List.mem_map.1 hpart
    exact spaced_of_apart rfl
  exact ((hvalues [_, _, _, _, _, _, _, _, _]).cons hopening).append (spaced_of_apart rfl)
    (ends_chars_fixed rfl [])

/-- **Every statement that is sent for a request is spaced.** -/
theorem Query.spaced (entity : Entity) (q : StoreRequest) : (ofRequest entity q).statement.Spaced := by
  cases q with
  | create r => exact insertStatement_spaced r
  | get p => exact getStatement_spaced entity p
  | list q => exact listStatement_spaced entity q
  | count p => exact countStatement_spaced entity p
  | write id guard w stamp => exact guardedStatement_spaced entity id guard _
  | setApproval id state => exact guardedStatement_spaced entity id .always _

end Sql

end Dossier
