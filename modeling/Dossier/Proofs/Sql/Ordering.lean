import Dossier.Proofs.Sql.Agreement
import Dossier.Proofs.Sql.Cell

/-!
# Sort orders in SQL

A listing sorts its records twice over: the store in memory compares their values (`Record.compareBy`), a
database the keys that it reads in the statement (`orderOf`), which it evaluates for each row (`rank`). The
two agree on the records of an entity (`listing_ranks_alike`), for all fields whose values compare.

**From the text to the keys.** The clause is the last in the statement before the page, and each of its
terms reads as the expression of its operand (`orderOf_list`).

**From a key to the values.** All cells of one key are in one display (`exists_display`): a system field
has a column of its own, and what a declared field holds decides both the cast in its key and what its
text is read as.
-/

namespace Dossier

def FieldKind.compares : FieldKind → Bool
  | .multiselect | .other => false
  | _ => true

/-- A field that can be sorted by: if it is declared, its values compare. The second name of the identifier
is left out. -/
def Entity.sortable (e : Entity) (field : String) : Bool :=
  field != "_id" && (e.find? field).all fun f => f.kind.compares

/-- The instants of a record are such that a database holds them as they are, and reads those of the data
back from their texts. -/
structure Record.WholeInstants (r : Record) : Prop where
  createdAt : r.createdAt.IsWhole
  updatedAt : r.updatedAt.IsWhole
  deletedAt : ∀ t, r.deletedAt = some t → t.IsWhole
  data : ∀ field t, r.data.get? field = some (.date t) → t.IsWhole ∧ 1 ≤ t.date.year ∧ t.date.year ≤ 9999

namespace Sql

open Statement

/-! ## The clause read back -/

structure SortKey where
  expression : Expression
  direction : SortDirection

/-- Keys between commas, up to the limit of the page. -/
def readKeys (ts : List (Token Nat)) : Option (List SortKey) :=
  match read 1 ts with
  | some (e, ⟨.word direction :: .mark ',' :: more, h⟩) =>
    have : more.length < ts.length := Nat.lt_of_succ_lt (Nat.lt_of_succ_lt h)
    (SortDirection.ofName? direction).bind fun direction => (readKeys more).map (⟨e, direction⟩ :: ·)
  | some (e, ⟨.word direction :: .word "limit" :: _, _⟩) =>
    (SortDirection.ofName? direction).map fun direction => [⟨e, direction⟩]
  | _ => none
termination_by ts.length

/-- The tokens behind the last `ORDER`. -/
def behindOrder : List (Token Nat) → Option (List (Token Nat))
  | [] => none
  | t :: ts => (behindOrder ts).or (if t = .word "order" then some ts else none)

def orderOf (s : String) : Option (List SortKey) :=
  match behindOrder (lex s) with
  | some (.word "by" :: ts) => readKeys ts
  | _ => none

section Clause

variable {e : Expression} {ts rest : List (Token Nat)}

theorem ofName?_name (direction : SortDirection) :
    SortDirection.ofName? direction.name = some direction := by
  cases direction <;> decide +kernel

theorem readKeys_comma {direction : SortDirection}
    (h : Reads 1 ts e (.word direction.name :: .mark ',' :: rest)) :
    readKeys ts = (readKeys rest).map (⟨e, direction⟩ :: ·) := by
  obtain ⟨hrest, h⟩ := h
  rw [readKeys, h]
  simp [ofName?_name]

theorem readKeys_limit {direction : SortDirection}
    (h : Reads 1 ts e (.word direction.name :: .word "limit" :: rest)) :
    readKeys ts = some [⟨e, direction⟩] := by
  obtain ⟨hrest, h⟩ := h
  rw [readKeys, h]
  simp [ofName?_name]

theorem behindOrder_eq_none (h : .word "order" ∉ ts) : behindOrder ts = none := by
  induction ts with
  | nil => rfl
  | cons t ts ih =>
    rw [List.mem_cons, not_or] at h
    rw [behindOrder, ih h.2, if_neg (Ne.symm h.1)]
    rfl

theorem behindOrder_append (head : List (Token Nat)) (h : .word "order" ∉ ts) :
    behindOrder (head ++ .word "order" :: ts) = some ts := by
  induction head with
  | nil =>
    rw [List.nil_append, behindOrder, behindOrder_eq_none h, if_pos rfl]
    rfl
  | cons t head ih =>
    rw [List.cons_append, behindOrder, ih]
    rfl

theorem orderOf_of_tokens {a : Statement} (ha : a.Spaced) {head : List (Token Nat)}
    (htokens : tokens 1 a = head ++ .word "order" :: .word "by" :: ts) (h : .word "order" ∉ ts) :
    orderOf a.text = readKeys ts := by
  have hlex : lex a.text = tokens 1 a := ha.lex_textFrom 1
  have hby : .word "order" ∉ (.word "by" :: ts : List (Token Nat)) := by simpa using h
  rw [orderOf, hlex, htokens, behindOrder_append head hby]
  rfl

end Clause

section Terms

variable (entity : Entity)

theorem tokens_sortTerm (spec : SortSpec) (n : Nat) :
    tokens n (sortTerm entity spec) =
      (sortOperand entity spec.field).tokens ++ [.word spec.direction.name] := by
  have hdirection : lex s!" {directionWord spec.direction}" = [.word spec.direction.name] := by
    cases spec.direction <;> decide +kernel
  rw [sortTerm, tokens_append, Operand.tokens_statement]
  exact congrArg (_ ++ ·) ((List.append_nil _).trans hdirection)

def sortKeys (sort : List SortSpec) : List SortKey :=
  sort.map (fun spec => ⟨(sortOperand entity spec.field).expression, spec.direction⟩) ++
    [⟨.name "id", .asc⟩]

theorem readKeys_termTokens (sort : List SortSpec) (n : Nat) (ts : List (Token Nat)) :
    readKeys (termTokens entity n sort ++ .name "id" :: .word "asc" :: .word "limit" :: ts) =
      some (sortKeys entity sort) := by
  induction sort with
  | nil =>
    have hid : Reads 1 (.name "id" :: .word "asc" :: .word "limit" :: ts) (.name "id")
        (.word SortDirection.asc.name :: .word "limit" :: ts) :=
      (ReadsOperand.name "id" _).reads (.stop (by simp [Stops, Token.operator?]))
    exact readKeys_limit hid
  | cons spec rest ih =>
    have hstops (k : Nat) (ts) : Stops k (.word spec.direction.name :: ts) := by
      cases spec.direction <;> simp [Stops, Token.operator?, SortDirection.name]
    have hterm (ts : List (Token Nat)) : Reads 1 (tokens n (sortTerm entity spec) ++ .mark ',' :: ts)
        (sortOperand entity spec.field).expression (.word spec.direction.name :: .mark ',' :: ts) := by
      rw [tokens_sortTerm, List.append_assoc]
      exact Operand.reads _ (by decide) (hstops 8 _) (.stop (hstops 1 _))
    have htokens : termTokens entity n (spec :: rest) ++ .name "id" :: .word "asc" :: .word "limit" :: ts =
        tokens n (sortTerm entity spec) ++ .mark ',' ::
          (termTokens entity n rest ++ .name "id" :: .word "asc" :: .word "limit" :: ts) := by
      simp [termTokens]
    rw [htokens, readKeys_comma (hterm _), ih]
    rfl

theorem order_notMem_operand (o : Operand) : .word "order" ∉ o.tokens := by
  cases o with
  | column c | columnAsText c => cases c <;> decide +kernel
  | dataText key cast =>
    cases cast with
    | none => simp [Operand.tokens]
    | some type => cases type <;> simp [Operand.tokens, SqlType.name]
  | dataJson key => simp [Operand.tokens]

theorem order_notMem_termTokens (sort : List SortSpec) (n : Nat) :
    .word "order" ∉ termTokens entity n sort := by
  rw [termTokens, List.mem_flatMap]
  rintro ⟨spec, -, hmem⟩
  rw [tokens_sortTerm, List.mem_append, List.mem_append] at hmem
  rcases hmem with (hmem | hmem) | hmem
  · exact order_notMem_operand _ hmem
  · cases hd : spec.direction <;> rw [hd] at hmem <;> simp [SortDirection.name] at hmem
  · simp at hmem

/-- **The statement of a listing orders its rows by the terms of the sort order, and then by identifier.** -/
theorem orderOf_list (q : ListQuery) :
    orderOf (Query.list entity q).statement.text = some (sortKeys entity q.sort) := by
  have htokens : tokens 1 (listStatement entity q) =
      lex ("SELECT * FROM " ++ table) ++ tokens 1 (entityCondition entity q.predicate) ++
        tokens (1 + (params (entityCondition entity q.predicate)).length) (orderAndPage entity q) := by
    rw [listStatement_eq]
    show lex _ ++ tokens 1 (entityCondition entity q.predicate ++ orderAndPage entity q) = _
    rw [tokens_append, List.append_assoc]
  obtain ⟨k, hpage⟩ := tokens_orderAndPage entity q
    (1 + (params (entityCondition entity q.predicate)).length)
  rw [hpage] at htokens
  refine (orderOf_of_tokens (listStatement_spaced entity q) htokens ?_).trans (readKeys_termTokens ..)
  simp [order_notMem_termTokens]

end Terms

/-! ## The cells of a field -/

/-- How the cells of a sort key show the values of a declared field. -/
def displayOf : FieldKind → Display
  | .number => .number
  | .boolean => .spelledTruth
  | .date => .instant
  | .currency => .amount
  | _ => .text

theorem shows_member {f : Field} {v : Value} (hkind : f.kind.compares = true) (hv : f.Holds v)
    (hdate : ∀ t, v = .date t → t.IsWhole ∧ 1 ≤ t.date.year ∧ t.date.year ≤ 9999) :
    ∃ s c, v.render.asStoredText? = some s ∧
      Cell.ofText? s ((sortType? f.kind).getD .text) = some c ∧ (displayOf f.kind).Shows v c := by
  unfold Field.Holds at hv
  cases hf : f.kind <;> rw [hf] at hv hkind
  case multiselect | other => cases hkind
  case text | textarea =>
    obtain ⟨s, rfl⟩ := hv
    exact ⟨s, .text s, rfl, rfl, s, .inl rfl, rfl⟩
  case email | url | phone | select =>
    obtain ⟨s, rfl, -⟩ := hv
    exact ⟨s, .text s, rfl, rfl, s, .inl rfl, rfl⟩
  case lookup =>
    obtain ⟨id, rfl⟩ := hv
    exact ⟨id.text, .text id.text, rfl, rfl, id.text, .inr rfl, rfl⟩
  case file | image =>
    obtain ⟨s, rfl, -⟩ := hv
    exact ⟨s, .text s, rfl, rfl, s, .inr rfl, rfl⟩
  case boolean =>
    obtain ⟨b, rfl⟩ := hv
    exact ⟨spelled b, .text (spelled b), rfl, rfl, b, rfl, rfl⟩
  case number =>
    obtain ⟨d, rfl⟩ := hv
    obtain ⟨n, e, hrender, he, hvalue⟩ := renderNumber_toDouble? d
    obtain ⟨m, hread, hm, hscale⟩ := n.read?_text
    obtain ⟨e', hplain, hvalue'⟩ := Numeral.toDouble?_plain (hm.trans he) (by omega)
    have hstored : n.stored = m.plain := by rw [Json.Number.stored, hread]; rfl
    refine ⟨m.plain, .float8 e', ?_, congrArg (Option.map Cell.float8) hplain, d, e', rfl, rfl,
      hvalue.trans hvalue'⟩
    rw [Value.render, hrender, ← hstored]
    rfl
  case currency =>
    obtain ⟨d, rfl⟩ := hv
    exact ⟨d.normalize.text, .numeric d.normalize.numeral, rfl,
      congrArg (Option.map Cell.numeric) d.normalize.read?_numeral, d, d.normalize, rfl, rfl,
      d.units_normalize.symm⟩
  case date =>
    obtain ⟨t, rfl⟩ := hv
    obtain ⟨hwhole, hfirst, hlast⟩ := hdate t rfl
    have hread : Instant.readStamp? t.text.toList = some t := by
      rw [Instant.text, String.toList_ofList]
      exact Instant.readStamp?_chars ⟨by omega, hlast⟩
    refine ⟨t.text, .timestamptz t, rfl, ?_, t, rfl, rfl⟩
    have hcast : (sortType? .date).getD .text = .timestamptz := rfl
    rw [hcast, Cell.ofText?, hread]
    simp [Option.filter, hfirst, hwhole.nearestMicrosecond]

theorem field_of_not_system {r : Record} {name : String} (hid : name ≠ "_id")
    (hcolumn : SystemColumn.ofField? name = none) : r.field name = r.data.get? name := by
  unfold Record.field
  split <;> first | rfl | exact absurd rfl hid | exact absurd hcolumn (by decide +kernel)

/-- A system field has a column that shows it. -/
theorem SystemColumn.exists_display (c : SystemColumn) :
    ∃ display : Display, ∀ r : Record, r.WholeInstants →
      ∃ cell, c.expression.value? (Row.ofRecord r) = some cell ∧
        display.ShowsOption cell (r.field c.field) := by
  have htext {s : String} : Display.text.Shows (.text s) (.text s) := ⟨s, .inl rfl, rfl⟩
  have htime {t : Instant} (ht : t.IsWhole) :
      Display.instant.Shows (.date t) (.timestamptz t.toMicrosecond) := ⟨t, rfl, by rw [ht.toMicrosecond]⟩
  cases c with
  | id => exact ⟨.identifier, fun r _ => ⟨_, rfl, r.id, rfl, rfl⟩⟩
  | tenantId | entityName | createdBy | updatedBy => exact ⟨.text, fun r _ => ⟨_, rfl, htext⟩⟩
  | createdAt => exact ⟨.instant, fun r hr => ⟨_, rfl, htime hr.createdAt⟩⟩
  | updatedAt => exact ⟨.instant, fun r hr => ⟨_, rfl, htime hr.updatedAt⟩⟩
  | deleted => exact ⟨.truth, fun r _ => ⟨_, rfl, r.deleted, rfl, rfl⟩⟩
  | deletedBy =>
    refine ⟨.text, fun r _ => ⟨_, rfl, ?_⟩⟩
    show Display.ShowsOption _ (.ofOption .text r.deletedBy) (r.deletedBy.map .text)
    cases r.deletedBy with
    | none => rfl
    | some user => exact htext
  | deletedAt =>
    refine ⟨.instant, fun r hr => ⟨_, rfl, ?_⟩⟩
    show Display.ShowsOption _ (.ofOption (fun t => .timestamptz t.toMicrosecond) r.deletedAt)
      (r.deletedAt.map .date)
    cases ht : r.deletedAt with
    | none => rfl
    | some t => exact htime (hr.deletedAt t ht)
  | approvalStatus =>
    refine ⟨.text, fun r _ => ?_⟩
    show ∃ cell, (Cell.ofOption .jsonb (r.approval.map Approval.render)).memberText? (.text "status") =
      some cell ∧ Display.text.ShowsOption cell (r.approval.map fun approval => .text approval.status.name)
    cases r.approval with
    | none => exact ⟨.null, rfl, rfl⟩
    | some approval => exact ⟨.text approval.status.name, rfl, htext⟩

/-- **In the rows of records that fit an entity, all cells that a field sorts by are in one display.** -/
theorem exists_display (e : Entity) {field : String} (h : e.sortable field = true) :
    ∃ display : Display, ∀ r : Record, e.Fits r.data → r.WholeInstants →
      ∃ c, (sortOperand e field).expression.value? (Row.ofRecord r) = some c ∧
        display.ShowsOption c (r.field field) := by
  simp only [Entity.sortable, Bool.and_eq_true, bne_iff_ne, ne_eq] at h
  obtain ⟨hid, hkinds⟩ := h
  unfold sortOperand
  cases hcolumn : SystemColumn.ofField? field with
  | some column =>
    have hfield : column.field = field := by simpa using List.find?_some hcolumn
    subst hfield
    obtain ⟨display, hdisplay⟩ := column.exists_display
    exact ⟨display, fun r _ hr => hdisplay r hr⟩
  | none =>
    cases hfind : e.find? field with
    | none =>
      refine ⟨.text, fun r hr _ => ⟨.null, ?_⟩⟩
      rw [field_of_not_system hid hcolumn, value?_dataText, hr.get?_eq_none hfind]
      exact ⟨rfl, rfl⟩
    | some f =>
      obtain ⟨hf, rfl⟩ := Entity.mem_of_find? hfind
      rw [hfind] at hkinds
      refine ⟨displayOf f.kind, fun r hr hwhole => ?_⟩
      simp only [field_of_not_system hid hcolumn, value?_dataText, Option.bind_some]
      cases hv : r.data.get? f.name with
      | none => exact ⟨.null, rfl, rfl⟩
      | some v =>
        obtain ⟨s, c, hs, hc, hshows⟩ := shows_member hkinds (hr.holds f hf v hv)
          fun t ht => hwhole.data f.name t (ht ▸ hv)
        exact ⟨c, by rw [Option.bind_some, hs, Option.elim_some, hc], hshows⟩

/-! ## Both orders -/

/-- The order of two rows by a list of keys; `none` where the database reports an error. -/
def rank (row row' : Row) : List SortKey → Option Ordering
  | [] => some .eq
  | key :: rest => do
    let x ← key.expression.value? row
    let y ← key.expression.value? row'
    let first ← x.compare? y
    let later ← rank row row' rest
    some ((key.direction.orient first).then later)

def rankIn (s : String) (row row' : Row) : Option Ordering := (orderOf s).bind (rank row row')

theorem rank_cons {row row' : Row} {key : SortKey} {rest : List SortKey} {x y : Cell}
    {first later : Ordering} (hx : key.expression.value? row = some x)
    (hy : key.expression.value? row' = some y) (hfirst : x.compare? y = some first)
    (hlater : rank row row' rest = some later) :
    rank row row' (key :: rest) = some ((key.direction.orient first).then later) := by
  simp [rank, hx, hy, hfirst, hlater]

theorem rank_sortKeys (entity : Entity) {sort : List SortSpec}
    (hsort : ∀ spec ∈ sort, entity.sortable spec.field = true) {a b : Record}
    (ha : entity.Fits a.data) (hb : entity.Fits b.data) (hawhole : a.WholeInstants)
    (hbwhole : b.WholeInstants) :
    rank (Row.ofRecord a) (Row.ofRecord b) (sortKeys entity sort) = some (a.compareBy b sort) := by
  induction sort with
  | nil =>
    have hid : rank (Row.ofRecord a) (Row.ofRecord b) (sortKeys entity []) =
      some ((compare a.id b.id).then .eq) := rfl
    rw [hid, Record.compareBy]
    cases compare a.id b.id <;> rfl
  | cons spec rest ih =>
    obtain ⟨hspec, hrest⟩ := List.forall_mem_cons.1 hsort
    obtain ⟨display, hdisplay⟩ := exists_display entity hspec
    obtain ⟨x, hx, hshowsX⟩ := hdisplay a ha hawhole
    obtain ⟨y, hy, hshowsY⟩ := hdisplay b hb hbwhole
    have hfirst := Display.compare?_showsOption hshowsX hshowsY
    rw [← Record.compareField_eq] at hfirst
    exact rank_cons hx hy hfirst (ih hrest)

/-- **A database orders the rows of an entity as the store in memory orders its records**, for every sort
order by fields whose values compare, and all records whose instants a database holds as they are. -/
theorem listing_ranks_alike {entity : Entity} {q : ListQuery}
    (hsort : ∀ spec ∈ q.sort, entity.sortable spec.field = true) {a b : Record}
    (ha : entity.Fits a.data) (hb : entity.Fits b.data) (hawhole : a.WholeInstants)
    (hbwhole : b.WholeInstants) :
    rankIn (Query.list entity q).statement.text (Row.ofRecord a) (Row.ofRecord b) =
      some (a.compareBy b q.sort) := by
  rw [rankIn, orderOf_list]
  exact rank_sortKeys entity hsort ha hb hawhole hbwhole

namespace InvoiceSample

def invoice : Entity :=
  ⟨"invoice", none, [.plain "total" .currency, .plain "due" .date, .plain "tags" .multiselect]⟩

def invoices : Schema := ⟨(∅ : Dict String Entity).insert invoice.name invoice⟩

theorem registered : invoices.Registered := .register (e := invoice) .empty rfl

theorem found : invoices.find invoice.name = .ok invoice := rfl

def listed (sort : List SortSpec) : ListQuery := ⟨.always, .always, 20, 0, sort⟩

/-- An invoice that was created at some time. -/
def filed (id : Uuid) (time : Instant) (data : Dict String Value) : Record :=
  .create id "acme" invoice.name ⟨"ann", time⟩ data

def first : Uuid := .nil

def second : Uuid := ⟨1, by decide⟩

theorem fits_empty : invoice.Fits ∅ := .empty (by decide)

theorem fits_insert {data : Dict String Value} (h : invoice.Fits data) {f : Field} (hf : f ∈ invoice.fields)
    {v : Value} (hv : f.Holds v) : invoice.Fits (data.insert f.name v) :=
  h.insert (registered.sound found).2 hf hv

/-- Five, and five again with one more place. -/
def five : Value := .currency ⟨50, 1, by decide, by decide⟩

def fiveToo : Value := .currency ⟨500, 2, by decide, by decide⟩

def dueInvoice : Record :=
  filed second .epoch (((∅ : Dict String Value).insert "total" five).insert "due" (.date .epoch))

def openInvoice : Record := filed first .epoch ((∅ : Dict String Value).insert "total" fiveToo)

theorem dueInvoice_fits : invoice.Fits dueInvoice.data := by
  have htotal : Field.Holds (.plain "total" .currency) five := ⟨_, rfl⟩
  have hdue : Field.Holds (.plain "due" .date) (.date .epoch) := ⟨_, rfl⟩
  exact fits_insert (fits_insert fits_empty (by decide) htotal) (by decide) hdue

theorem openInvoice_fits : invoice.Fits openInvoice.data := by
  have htotal : Field.Holds (.plain "total" .currency) fiveToo := ⟨_, rfl⟩
  exact fits_insert fits_empty (by decide) htotal

/-- Dearest first, and of those the ones that are due first. -/
def dearest : List SortSpec := [⟨"total", .desc⟩, ⟨"due", .asc⟩]

theorem epoch_isWhole : Instant.epoch.IsWhole := by decide

theorem wholeInstants {id : Uuid} {data : Dict String Value}
    (h : ∀ field t, data.get? field = some (.date t) → t = .epoch) :
    (filed id .epoch data).WholeInstants where
  createdAt := epoch_isWhole
  updatedAt := epoch_isWhole
  deletedAt := nofun
  data field t ht := by
    cases h field t ht
    exact ⟨epoch_isWhole, by decide⟩

theorem dueInvoice_whole : dueInvoice.WholeInstants := by
  refine wholeInstants fun field t ht => ?_
  rw [Dict.get?_insert, Dict.get?_insert] at ht
  split_ifs at ht <;> simp_all [five]

theorem openInvoice_whole : openInvoice.WholeInstants := by
  refine wholeInstants fun field t ht => ?_
  rw [Dict.get?_insert] at ht
  split_ifs at ht <;> simp_all [fiveToo]

/-- What a listing in a database says of two records. -/
def ranked (sort : List SortSpec) (a b : Record) : Option Ordering :=
  rankIn (Query.list invoice (listed sort)).statement.text (Row.ofRecord a) (Row.ofRecord b)

end InvoiceSample

open InvoiceSample in
/-- Two invoices of the same total: the one that is due comes before the one that is not, though its
identifier is the greater. -/
theorem due_invoice_first : (∀ spec ∈ dearest, invoice.sortable spec.field = true) ∧
    invoice.Fits dueInvoice.data ∧ invoice.Fits openInvoice.data ∧ dueInvoice.WholeInstants ∧
      openInvoice.WholeInstants ∧ ranked dearest dueInvoice openInvoice = some .lt := by
  have hsort : ∀ spec ∈ dearest, invoice.sortable spec.field = true := by decide
  have hcompare : dueInvoice.compareBy openInvoice dearest = .lt := by decide +kernel
  have hrank := listing_ranks_alike (q := listed dearest) hsort dueInvoice_fits openInvoice_fits
    dueInvoice_whole openInvoice_whole
  exact ⟨hsort, dueInvoice_fits, openInvoice_fits, dueInvoice_whole, openInvoice_whole,
    hrank.trans (congrArg some hcompare)⟩

namespace InvoiceSample

def instant (s : String) : Instant := (Instant.read? s).getD .epoch

/-- The start of a day, and the nanosecond after it. -/
def midnight : Instant := instant "2024-03-01"

def tick : Instant := instant "2024-03-01T00:00:00.000000001Z"

/-- In UTC, this is in the year 10000. -/
def farOff : Instant := instant "9999-12-31T23:59:59-00:01"

def tagged (id : Uuid) (tag : String) : Record :=
  filed id .epoch ((∅ : Dict String Value).insert "tags" (.list [.text tag]))

def dueOn (id : Uuid) (time : Instant) : Record :=
  filed id .epoch ((∅ : Dict String Value).insert "due" (.date time))

theorem tagged_fits (id : Uuid) (tag : String) : invoice.Fits (tagged id tag).data := by
  have htags : Field.Holds (.plain "tags" .multiselect) (.list [.text tag]) :=
    ⟨[tag], rfl, fun _ _ _ h => nomatch h⟩
  exact fits_insert fits_empty (by decide) htags

theorem dueOn_fits (id : Uuid) (time : Instant) : invoice.Fits (dueOn id time).data := by
  have hdue : Field.Holds (.plain "due" .date) (.date time) := ⟨_, rfl⟩
  exact fits_insert fits_empty (by decide) hdue

theorem ranked_eq (sort : List SortSpec) (a b : Record) :
    ranked sort a b = rank (Row.ofRecord a) (Row.ofRecord b) (sortKeys invoice sort) := by
  rw [ranked, rankIn, orderOf_list]
  rfl

end InvoiceSample

open InvoiceSample in
/-- Lists compare as texts in a database and not at all in memory. A nanosecond is lost in a database, and a
date of the year 10000 cannot be read back there. -/
theorem orders_differ : invoices.Registered ∧ invoices.find "invoice" = .ok invoice ∧
    invoice.Fits (tagged first "b").data ∧ invoice.Fits (tagged second "a").data ∧
    (tagged first "b").compareBy (tagged second "a") [⟨"tags", .asc⟩] = .lt ∧
    ranked [⟨"tags", .asc⟩] (tagged first "b") (tagged second "a") = some .gt ∧
    invoice.Fits (filed first tick ∅).data ∧ invoice.Fits (filed second midnight ∅).data ∧
    (filed first tick ∅).compareBy (filed second midnight ∅) [⟨"created_at", .asc⟩] = .gt ∧
    ranked [⟨"created_at", .asc⟩] (filed first tick ∅) (filed second midnight ∅) = some .lt ∧
    invoice.Fits (dueOn first .epoch).data ∧ invoice.Fits (dueOn second farOff).data ∧
    (dueOn first .epoch).compareBy (dueOn second farOff) [⟨"due", .asc⟩] = .lt ∧
    ranked [⟨"due", .asc⟩] (dueOn first .epoch) (dueOn second farOff) = none := by
  simp only [ranked_eq]
  exact ⟨registered, found, tagged_fits _ _, tagged_fits _ _, by decide +kernel, by decide +kernel,
    fits_empty, fits_empty, by decide +kernel, by decide +kernel, dueOn_fits _ _, dueOn_fits _ _,
    by decide +kernel, by decide +kernel⟩

end Sql

end Dossier
