import Dossier.Json.Printer
import Dossier.Proofs.DateText
import Dossier.Proofs.Order
import Dossier.Proofs.Shortest
import Dossier.Proofs.Sql.Typing
import Dossier.Proofs.TextOrder
import Dossier.Sql.Row
import Dossier.Time.Resolution

/-!
# What a database sees in a row

The values that expressions over columns, members of documents and casts have for a row (`value?`), and
their order. A number of a document is kept as a decimal numeral, and comes out of it without a power of
ten; a cast reads the text of a member again. An instant is kept to the microsecond.

**Values and cells.** What a cell shows of a stored value, on the way through the document, its text and
the cast, is said by a `Display`. Cells in one display are in the order of the values they show
(`Display.compare?_shows`).
-/

namespace Dossier

/-! ## Numerals -/

namespace Numeral

def coefficient (m : Numeral) : Int := if m.neg then -(m.digits : Int) else m.digits

def cmp (a b : Numeral) : Ordering :=
  compare (a.coefficient * Nat.pow 10 (a.scale - b.scale).toNat)
    (b.coefficient * Nat.pow 10 (b.scale - a.scale).toNat)

/-- How many digits stand behind the point when there is no power of ten. -/
def places (m : Numeral) : Nat := (-m.scale).toNat

/-- All digits, of which at least one stands before the point. -/
def plainDigits (m : Numeral) : List Char := padded (m.places + 1) (m.digits * Nat.pow 10 m.scale.toNat)

/-- The numeral without a power of ten. Zero has no sign. -/
def plain (m : Numeral) : String :=
  let whole := m.plainDigits.take (m.plainDigits.length - m.places)
  let fraction := m.plainDigits.drop (m.plainDigits.length - m.places)
  String.ofList ((if m.neg && m.digits != 0 then ['-'] else []) ++
    (whole ++ if fraction.isEmpty then [] else '.' :: fraction))

theorem read?_plain (m : Numeral) : read? m.plain.toList =
    some ⟨m.neg && m.digits != 0, m.digits * Nat.pow 10 m.scale.toNat, -m.places⟩ := by
  have hlength : m.places + 1 ≤ m.plainDigits.length := le_length_padded _ _
  have hdigit : ∀ c ∈ m.plainDigits, c.isDigit = true := fun c => isDigit_of_mem_padded
  have hspelled : IsSpelled (m.plainDigits.take (m.plainDigits.length - m.places))
      (m.plainDigits.drop (m.plainDigits.length - m.places)) [] 0 := {
    whole_digits := fun c hc => hdigit c (List.mem_of_mem_take hc)
    whole_ne := List.ne_nil_of_length_pos (by rw [List.length_take]; omega)
    fraction_digits := fun c hc => hdigit c (List.mem_of_mem_drop hc)
    rest_power := .inl ⟨rfl, rfl⟩ }
  have hread := read?_parts (m.neg && m.digits != 0) hspelled
  have hvalue : digitsValue m.plainDigits = m.digits * Nat.pow 10 m.scale.toNat :=
    digitsValue_padded _ _
  have hplaces : (0 : Int) - (m.plainDigits.length - (m.plainDigits.length - m.places) : Nat) =
      -m.places := by omega
  rw [List.take_append_drop, hvalue, List.length_drop, hplaces, List.append_nil] at hread
  rw [plain, String.toList_ofList]
  exact hread

/-- **Without its power of ten a numeral has the same nearest double**, though zero loses its sign. -/
theorem toDouble?_plain {m : Numeral} {d : Double} (h : m.toDouble? = some d) (hscale : m.scale ≤ 400) :
    ∃ e, Double.read? m.plain.toList = some e ∧ d.signedUnits = e.signedUnits := by
  have hread : Double.read? m.plain.toList =
      Double.ofDecimal? (m.neg && m.digits != 0) (m.digits * Nat.pow 10 m.scale.toNat) (-m.places) := by
    rw [Double.read?, read?_plain]
    rfl
  rw [hread]
  unfold toDouble? at h
  by_cases hzero : m.digits = 0
  · rw [hzero, Nat.zero_mul]
    rw [hzero] at h
    cases h
    refine ⟨_, rfl, ?_⟩
    cases m.neg <;> rfl
  · have hneg : (m.neg && m.digits != 0) = m.neg := by simp [hzero]
    refine ⟨d, ?_, rfl⟩
    rw [hneg, ← h]
    rcases Int.le_total 0 m.scale with hpos | hminus
    · have hplaces : -(m.places : Int) = 0 := by
        unfold places
        omega
      have hdigits : m.digits * Nat.pow 10 m.scale.toNat ≠ 0 :=
        Nat.mul_ne_zero hzero (Nat.ne_of_gt (Nat.pow_pos (by decide)))
      have hone : Nat.pow 10 (0 : Int).toNat = 1 := rfl
      unfold Double.ofDecimal?
      rw [hplaces, if_neg hdigits, if_neg (by decide), if_neg (by omega), if_pos (by decide), hone,
        Nat.mul_one, if_neg hzero, if_neg (by omega), if_neg (by omega), if_pos hpos]
    · have hplaces : -(m.places : Int) = m.scale := by
        unfold places
        omega
      have hscale : m.scale.toNat = 0 := by omega
      have hone : Nat.pow 10 0 = 1 := rfl
      rw [hplaces, hscale, hone, Nat.mul_one]

end Numeral

namespace Decimal

def numeral (d : Decimal) : Numeral := ⟨decide (d.coeff < 0), d.coeff.natAbs, -d.scale⟩

theorem read?_numeral (d : Decimal) : Numeral.read? d.text.toList = some d.numeral := by
  obtain ⟨c, rest, hcons, -⟩ := d.whole_eq_cons
  have hspelled : Numeral.IsSpelled d.whole d.places [] 0 :=
    ⟨d.isDigit_of_mem_whole, by rw [hcons]; simp, d.isDigit_of_mem_places, .inl ⟨rfl, rfl⟩⟩
  have hread := Numeral.read?_parts (decide (d.coeff < 0)) hspelled
  have hvalue : digitsValue d.digits = d.coeff.natAbs := digitsValue_padded _ _
  rw [whole_append_places, hvalue, length_places, List.append_nil, Int.zero_sub, ← List.append_assoc]
    at hread
  simpa [text_toList, numeral] using hread

theorem coefficient_numeral (d : Decimal) : d.numeral.coefficient = d.coeff := signed_natAbs d.coeff

/-- **Amounts are in the order of their numerals.** -/
theorem cmp_numeral (a b : Decimal) : a.numeral.cmp b.numeral = a.cmp b := by
  -- What the scales have in common is taken out on both sides.
  have hleft : (a.numeral.scale - b.numeral.scale).toNat + min a.scale b.scale = b.scale := by
    simp only [numeral]
    omega
  have hright : (b.numeral.scale - a.numeral.scale).toNat + min a.scale b.scale = a.scale := by
    simp only [numeral]
    omega
  rw [Numeral.cmp, coefficient_numeral, coefficient_numeral,
    ← compare_mul_pos _ _ (tenPow_pos (min a.scale b.scale)), Int.mul_assoc, Int.mul_assoc, tenPow_mul,
    tenPow_mul, hleft, hright]
  rfl

theorem units_normalize (d : Decimal) : d.normalize.units = d.units := by
  have hvalue := d.sameValue_normalize
  rw [sameValue, beq_iff_eq] at hvalue
  have hcmp : d.cmp d.normalize = .eq := by
    rw [cmp, hvalue]
    exact Std.ReflCmp.compare_self
  rw [cmp_eq] at hcmp
  exact (Std.LawfulEqCmp.eq_of_compare hcmp).symm

end Decimal

/-! ## Instants -/

namespace Instant

/-- An instant that a database holds as it is: no fraction of a microsecond, and no leap second. -/
def IsWhole (t : Instant) : Prop := t.nano < nanosPerSecond ∧ nanosPerMicro ∣ t.nano

instance (t : Instant) : Decidable t.IsWhole := inferInstanceAs (Decidable (_ ∧ _))

/-- An instant that is read from a text, to the nearest microsecond. -/
def nearestMicrosecond (t : Instant) : Instant :=
  let t := t.settled
  let nano := roundHalfEven t.nano nanosPerMicro * nanosPerMicro
  if nano < nanosPerSecond then t.withNano nano else (t.withNano 0).addSeconds 1

variable {t : Instant}

theorem IsWhole.settled (h : t.IsWhole) : t.settled = t := if_neg (Nat.not_le.2 h.1)

theorem withNano_self (t : Instant) : t.withNano t.nano = t := by rw [withNano, mk?_self, Option.getD_some]

theorem IsWhole.toMicrosecond (h : t.IsWhole) : t.toMicrosecond = t := by
  have hnano : t.nano / nanosPerMicro * nanosPerMicro = t.nano := Nat.div_mul_cancel h.2
  simp only [Instant.toMicrosecond, h.settled, hnano, true_or, if_true, withNano_self]

theorem IsWhole.nearestMicrosecond (h : t.IsWhole) : t.nearestMicrosecond = t := by
  have hnano : roundHalfEven t.nano nanosPerMicro * nanosPerMicro = t.nano := by
    obtain ⟨micros, hmicros⟩ := h.2
    have hround : roundHalfEven (micros * nanosPerMicro) nanosPerMicro = micros :=
      roundHalfEven_mul micros (by decide)
    rw [hmicros, Nat.mul_comm nanosPerMicro, hround]
  simp only [Instant.nearestMicrosecond, h.settled, hnano, h.1, if_true, withNano_self]

end Instant

/-! ## Documents -/

namespace Json

def Number.stored (n : Number) : String := ((Numeral.read? n.text.toList).map Numeral.plain).getD n.text

/-- The order of the members of a stored document: shorter keys come first. -/
def keyOrder (a b : String × String) : Bool :=
  ((compare a.1.utf8ByteSize b.1.utf8ByteSize).then (compare (utf8 a.1) (utf8 b.1))).isLE

mutual

def stored : Json → String
  | .null => "null"
  | .bool b => if b then "true" else "false"
  | .number n => n.stored
  | .string s => quote s
  | .array items => "[" ++ String.intercalate ", " (storedItems items) ++ "]"
  | .object members =>
    "\x7b" ++ String.intercalate ", "
      (((storedMembers members).mergeSort keyOrder).map fun (key, text) => quote key ++ ": " ++ text) ++
      "\x7d"

def storedItems : List Json → List String
  | [] => []
  | item :: rest => item.stored :: storedItems rest

def storedMembers : List (String × Json) → List (String × String)
  | [] => []
  | (key, value) :: rest => (key, value.stored) :: storedMembers rest

end

/-- A part of a document taken out as text; null is no text. -/
def asStoredText? : Json → Option String
  | .null => none
  | .string s => some s
  | document => some document.stored

end Json

namespace Sql

/-! ## Cells -/

/-- A value that an expression has for a row. -/
inductive Cell where
  | null
  | uuid (id : Uuid)
  | text (s : String)
  | boolean (b : Bool)
  | float8 (d : Double)
  | numeric (m : Numeral)
  | timestamptz (t : Instant)
  | jsonb (document : Json)

namespace Cell

def ofOption {α : Type} (make : α → Cell) (content : Option α) : Cell := (content.map make).getD .null

/-- A text read as another type. Of the forms that a database reads, these are the ones that the texts of
numbers, amounts and instants take; a timestamp lies in the years from 1 on. -/
def ofText? (s : String) : SqlType → Option Cell
  | .text => some (.text s)
  | .float8 => (Double.read? s.toList).map .float8
  | .numeric => (Numeral.read? s.toList).map .numeric
  | .timestamptz =>
    ((Instant.readStamp? s.toList).filter fun t => 1 ≤ t.date.year).map fun t =>
      .timestamptz t.nearestMicrosecond
  | _ => none

def cast? (type : SqlType) : Cell → Option Cell
  | .null => some .null
  | .text s => ofText? s type
  | _ => none

/-- Ascending order, texts by their bytes; null counts as greater than anything else. -/
def compare? : Cell → Cell → Option Ordering
  | .null, .null => some .eq
  | .null, _ => some .gt
  | _, .null => some .lt
  | .uuid a, .uuid b => some (compare a b)
  | .text a, .text b => some (compare (utf8 a) (utf8 b))
  | .boolean a, .boolean b => some (compare a.toNat b.toNat)
  | .float8 a, .float8 b => some (a.cmp b)
  | .numeric a, .numeric b => some (a.cmp b)
  | .timestamptz a, .timestamptz b => some (a.cmp b)
  | _, _ => none

end Cell

def Row.column? (row : Row) : String → Option Cell
  | "id" => some (.uuid row.id)
  | "tenant_id" => some (.text row.tenant)
  | "entity_name" => some (.text row.entity)
  | "data" => some (.ofOption .jsonb row.data)
  | "approval" => some (.ofOption .jsonb row.approval)
  | "created_at" => some (.timestamptz row.createdAt.toMicrosecond)
  | "updated_at" => some (.timestamptz row.updatedAt.toMicrosecond)
  | "created_by" => some (.text row.createdBy)
  | "updated_by" => some (.text row.updatedBy)
  | "deleted" => some (.boolean row.deleted)
  | "deleted_at" => some (.ofOption (fun t => .timestamptz t.toMicrosecond) row.deletedAt)
  | "deleted_by" => some (.ofOption .text row.deletedBy)
  | _ => none

def Cell.memberText? : Cell → Cell → Option Cell
  | .null, .text _ => some .null
  | .jsonb document, .text key => some (.ofOption .text ((document.member? key).bind Json.asStoredText?))
  | _, _ => none

/-- The value of an expression of columns, members as text and casts; `none` where the database reports an
error. -/
def Expression.value? (row : Row) : Expression → Option Cell
  | .name s | .word s => row.column? s
  | .text s => some (.text s)
  | .paren inner => inner.value? row
  | .binary "->>" document key =>
    (document.value? row).bind fun document => (key.value? row).bind document.memberText?
  | .cast inner type =>
    (SqlType.ofName? type).bind fun type => (inner.value? row).bind (Cell.cast? type)
  | _ => none

/-! ## Members of the data -/

theorem value?_member (r : Record) (key : String) :
    (member "->>" key).value? (Row.ofRecord r) =
      some (.ofOption .text ((r.data.get? key).bind fun v => v.render.asStoredText?)) := by
  have hmember : (Json.ofDict r.dataMembers).member? key = (r.data.get? key).map Value.render :=
    Dict.get?_mapEntries ..
  show some (Cell.ofOption .text (((Json.ofDict r.dataMembers).member? key).bind _)) = _
  rw [hmember, Option.bind_map]
  rfl

theorem Cell.cast?_ofOption (type : SqlType) (content : Option String) :
    (Cell.ofOption .text content).cast? type =
      content.elim (some .null) fun s => Cell.ofText? s type := by
  cases content <;> rfl

/-- A declared field is taken out of the document and its text read again. -/
theorem value?_dataText (r : Record) (key : String) (cast : Option SqlType) :
    (Operand.dataText key cast).expression.value? (Row.ofRecord r) =
      ((r.data.get? key).bind fun v => v.render.asStoredText?).elim (some .null) fun s =>
        Cell.ofText? s (cast.getD .text) := by
  rw [← Cell.cast?_ofOption]
  cases cast with
  | none =>
    rw [Operand.expression, value?_member]
    cases (r.data.get? key).bind _ <;> rfl
  | some type =>
    rw [Operand.expression, Expression.value?, Expression.value?, SqlType.ofName?_name, value?_member]
    rfl

/-! ## Values and cells -/

/-- How cells show the values of a field. -/
inductive Display where
  | identifier
  | text
  | truth
  /-- A truth value as the text that it has in a document. -/
  | spelledTruth
  | number
  | amount
  | instant

def spelled (b : Bool) : String := if b then "true" else "false"

namespace Display

def Shows (v : Value) (c : Cell) : Display → Prop
  | .identifier => ∃ id : Uuid, v = .ref id.text ∧ c = .uuid id
  | .text => ∃ s, (v = .text s ∨ v = .ref s) ∧ c = .text s
  | .truth => ∃ b, v = .bool b ∧ c = .boolean b
  | .spelledTruth => ∃ b, v = .bool b ∧ c = .text (spelled b)
  | .number => ∃ d e : Double, v = .number (.finite d) ∧ c = .float8 e ∧ d.signedUnits = e.signedUnits
  | .amount => ∃ d e : Decimal, v = .currency d ∧ c = .numeric e.numeral ∧ d.units = e.units
  | .instant => ∃ t, v = .date t ∧ c = .timestamptz t

def ShowsOption (display : Display) (c : Cell) : Option Value → Prop
  | none => c = .null
  | some v => display.Shows v c

variable {display : Display} {v w : Value} {c d : Cell}

/-- **Cells are in the order of the values they show.** -/
theorem compare?_shows (hc : display.Shows v c) (hd : display.Shows w d) :
    c.compare? d = some ((v.compare? w).getD .eq) := by
  cases display with
  | identifier =>
    obtain ⟨id, rfl, rfl⟩ := hc
    obtain ⟨id', rfl, rfl⟩ := hd
    exact congrArg some (Uuid.compare_text id id').symm
  | text =>
    obtain ⟨s, rfl | rfl, rfl⟩ := hc <;> obtain ⟨t, rfl | rfl, rfl⟩ := hd <;>
      exact congrArg some (compare_utf8 s t)
  | truth =>
    obtain ⟨b, rfl, rfl⟩ := hc
    obtain ⟨b', rfl, rfl⟩ := hd
    rfl
  | spelledTruth =>
    obtain ⟨b, rfl, rfl⟩ := hc
    obtain ⟨b', rfl, rfl⟩ := hd
    rw [Cell.compare?, compare_utf8]
    cases b <;> cases b' <;> decide +kernel
  | number =>
    obtain ⟨a, a', rfl, rfl, ha⟩ := hc
    obtain ⟨b, b', rfl, rfl, hb⟩ := hd
    show some (compare a'.signedUnits b'.signedUnits) = some (compare a.signedUnits b.signedUnits)
    rw [ha, hb]
  | amount =>
    obtain ⟨a, a', rfl, rfl, ha⟩ := hc
    obtain ⟨b, b', rfl, rfl, hb⟩ := hd
    show some (a'.numeral.cmp b'.numeral) = some (a.cmp b)
    rw [Decimal.cmp_numeral, Decimal.cmp_eq, Decimal.cmp_eq, ha, hb]
  | instant =>
    obtain ⟨t, rfl, rfl⟩ := hc
    obtain ⟨u, rfl, rfl⟩ := hd
    rfl

theorem ne_null (h : display.Shows v c) : c ≠ .null := by
  cases display <;> simp only [Shows] at h <;> rintro rfl <;> simp at h

/-- What is missing comes after everything else. -/
theorem compare?_showsOption {x y : Option Value} (hx : display.ShowsOption c x)
    (hy : display.ShowsOption d y) :
    c.compare? d = some (missingLast (fun v w => (v.compare? w).getD .eq) x y) := by
  cases x with
  | none =>
    cases hx
    cases y with
    | none =>
      cases hy
      rfl
    | some w =>
      have hd := ne_null hy
      cases d <;> first | rfl | exact absurd rfl hd
  | some v =>
    cases y with
    | none =>
      cases hy
      have hc := ne_null hx
      cases c <;> first | rfl | exact absurd rfl hc
    | some w => exact compare?_shows hx hy

end Display

end Sql

end Dossier
