import Dossier.Proofs.Dict
import Dossier.Proofs.Rendering
import Dossier.Sql.Row

/-!
# Stored data read back

A row holds the data of a record as one document, and its members are given the kinds of their fields when
the row is read (`Row.dataValues`). Every member is read by itself (`Row.get?_of_dataValues`), so all that
can happen to the data is what can happen to a member.

**Data as it was stored.** A value that a field made is stable: its document form is read as a value equal
to it (`Field.stable_of_convert`). So data comes back as it was stored, as long as the fields are the same
and dates have years of four digits.

**Data of older definitions.** A member whose field has changed is not lost. It has the value that the
field now makes of it, or the one that it has without a field (`Value.ofJson`) if the field makes none.
Only members that their field takes for absent are left out.

Main result: `Row.data_read_back`.
-/

namespace Dossier

namespace Field

variable {f : Field} {raw : Json}

/-- What a field takes for absent: null, and the empty text if it is not kept. -/
theorem isAbsent_iff : f.isAbsent raw = true ↔
    raw = .null ∨ raw = .string "" ∧ f.kind ≠ .text ∧ f.kind ≠ .textarea := by
  have hkeeps : f.kind.keepsEmpty = false ↔ f.kind ≠ .text ∧ f.kind ≠ .textarea := by
    cases f.kind <;> simp [FieldKind.keepsEmpty]
  cases raw with
  | string s => simp [isAbsent, hkeeps]
  | _ => simp [isAbsent]

theorem convert_eq_none_iff : f.convert raw = .ok none ↔ f.isAbsent raw = true := by
  unfold convert
  split
  · rename_i habsent
    simp [habsent]
  · rename_i hpresent
    cases f.convertPresent raw <;> simp [hpresent, Except.map]

end Field

namespace Sql.Row

variable {entity : Entity}

/-! ## One member -/

/-- **A member is left out exactly when its field takes it for absent.** -/
theorem memberValue_eq_none_iff {key : String} {stored : Json} :
    memberValue entity key stored = none ↔
      ∃ f, entity.find? key = some f ∧
        (stored = .null ∨ stored = .string "" ∧ f.kind ≠ .text ∧ f.kind ≠ .textarea) := by
  unfold memberValue
  cases hfind : entity.find? key with
  | none => simp
  | some f =>
    simp only [Option.some.injEq, exists_eq_left', ← Field.isAbsent_iff, ← Field.convert_eq_none_iff]
    cases f.convert stored with
    | ok value => simp
    | error e => simp

theorem memberValue_undeclared {key : String} (h : entity.find? key = none) (stored : Json) :
    memberValue entity key stored = some (.ofJson stored) := by
  rw [memberValue, h]

theorem memberValue_converted {key : String} {f : Field} (hf : entity.find? key = some f) {stored : Json}
    {value : Option Value} (h : f.convert stored = .ok value) : memberValue entity key stored = value := by
  simp only [memberValue, hf, h]

theorem memberValue_unconverted {key : String} {f : Field} (hf : entity.find? key = some f)
    {stored : Json} {e : FieldError} (h : f.convert stored = .error e) :
    memberValue entity key stored = some (.ofJson stored) := by
  simp only [memberValue, hf, h]

/-! ## All members -/

/-- **A data column with an object is read member by member.** -/
theorem exists_dataValues (entity : Entity) (stored : Dict String Json) :
    ∃ data, dataValues entity (some (.ofDict stored)) = .ok data ∧
      ∀ key, data.get? key = (stored.get? key).bind (memberValue entity key) := by
  refine ⟨_, rfl, fun key => ?_⟩
  have hsorted := stored.sorted.filterMap (memberValue entity)
  rw [Dict.get?_ofList, hsorted.get?_reverse]
  exact stored.sorted.get?_filterMap (memberValue entity) key

/-- What data is read from a stored object by the fields of an entity. -/
structure ReadFrom (entity : Entity) (stored : Dict String Json) (data : Dict String Value) : Prop where
  /-- No member is made up. -/
  absent : ∀ key, stored.get? key = none → data.get? key = none
  /-- Only nulls and empty texts of declared fields are left out. -/
  dropped : ∀ key raw, stored.get? key = some raw →
    (data.get? key = none ↔ ∃ f, entity.find? key = some f ∧
      (raw = .null ∨ raw = .string "" ∧ f.kind ≠ .text ∧ f.kind ≠ .textarea))
  undeclared : ∀ key raw, stored.get? key = some raw → entity.find? key = none →
    data.get? key = some (.ofJson raw)
  converted : ∀ key raw f v, stored.get? key = some raw → entity.find? key = some f →
    f.convert raw = .ok (some v) → data.get? key = some v
  /-- What no longer converts is kept as it is without a field. -/
  unconverted : ∀ key raw f e, stored.get? key = some raw → entity.find? key = some f →
    f.convert raw = .error e → data.get? key = some (.ofJson raw)

/-- **Data is read back as it was stored, and no row is lost.**

Data of which every value was made by the field of its name, with dates in years of four digits, is read
from its row with the same keys and equal values. And whatever object a data column holds, it is read: each
member is found under its key, unless its field takes it for absent, with the value that the field makes of
it or, failing that, the one it has without a field. -/
theorem data_read_back (entity : Entity) :
    (∀ r : Record,
      (∀ key v, r.data.get? key = some v →
        ∃ f raw, entity.find? key = some f ∧ f.convert raw = .ok (some v)) →
      (∀ key t, r.data.get? key = some (.date t) → t.InFourDigitYear) →
      ∃ data, dataValues entity (ofRecord r).data = .ok data ∧
        ∀ key, Option.Rel (fun v w => v.same w = true) (r.data.get? key) (data.get? key)) ∧
    ∀ stored : Dict String Json, ∃ data,
      dataValues entity (some (.ofDict stored)) = .ok data ∧ ReadFrom entity stored data := by
  constructor
  · intro r hmade hyears
    obtain ⟨data, hdata, hget⟩ := exists_dataValues entity r.dataMembers
    refine ⟨data, hdata, fun key => ?_⟩
    have hmember : r.dataMembers.get? key = (r.data.get? key).map Value.render := Dict.get?_mapEntries ..
    rw [hget, hmember]
    cases hv : r.data.get? key with
    | none => exact .none
    | some v =>
      obtain ⟨f, raw, hfind, hconvert⟩ := hmade key v hv
      obtain ⟨w, hread, hsame⟩ := Field.stable_of_convert hconvert fun _ t ht => hyears key t (ht ▸ hv)
      rw [Option.map_some, Option.bind_some, memberValue_converted hfind hread]
      exact .some hsame
  · intro stored
    obtain ⟨data, hdata, hget⟩ := exists_dataValues entity stored
    have hstored {key : String} {raw : Json} (h : stored.get? key = some raw) :
        data.get? key = memberValue entity key raw := by
      rw [hget, h]
      rfl
    exact ⟨data, hdata, {
      absent := fun key h => by rw [hget, h]; rfl
      dropped := fun key raw h => by rw [hstored h]; exact memberValue_eq_none_iff
      undeclared := fun key raw h hnone => by rw [hstored h]; exact memberValue_undeclared hnone raw
      converted := fun key raw f v h hf hv => by rw [hstored h]; exact memberValue_converted hf hv
      unconverted := fun key raw f e h hf he => by rw [hstored h]; exact memberValue_unconverted hf he }⟩

namespace InvoiceSample

def invoice : Entity := ⟨"invoice", none, [.plain "amount" .currency, .plain "due" .date]⟩

/-- An amount with more zeros at its end than are stored. -/
def amount : Value := .currency ⟨10500, 3, by decide, by decide⟩

def billed : Record :=
  .create .nil "acme" "invoice" ⟨"ann", .epoch⟩ (.ofList [("amount", amount), ("due", .date .epoch)])

/-- An object from a time when invoices were due on a word. -/
def older : Dict String Json := .ofList [("amount", .string ""), ("due", .string "someday")]

theorem billed_made (key : String) (v : Value) (h : billed.data.get? key = some v) :
    ∃ f raw, invoice.find? key = some f ∧ f.convert raw = .ok (some v) := by
  have hmem : (key, v) ∈ [("amount", amount), ("due", .date .epoch)] := Dict.mem_entries.2 h
  simp only [List.mem_cons, List.not_mem_nil, or_false, Prod.mk.injEq] at hmem
  obtain ⟨rfl, rfl⟩ | ⟨rfl, rfl⟩ := hmem
  · exact ⟨_, .string "10.500", rfl, by rfl⟩
  · exact ⟨_, .string "1970-01-01", rfl, by rfl⟩

theorem billed_year (key : String) (t : Instant) (h : billed.data.get? key = some (.date t)) :
    t.InFourDigitYear := by
  have hmem : (key, Value.date t) ∈ [("amount", amount), ("due", .date .epoch)] := Dict.mem_entries.2 h
  simp only [List.mem_cons, List.not_mem_nil, or_false, Prod.mk.injEq, amount, reduceCtorEq, and_false,
    false_or, Value.date.injEq] at hmem
  rw [hmem.2]
  decide

end InvoiceSample

open InvoiceSample in
/-- An invoice has its due date after it was stored. Of an older one, an amount of no text is left out and
the word for its due date is kept. -/
theorem invoices_read_back :
    (∃ data, dataValues invoice (ofRecord billed).data = .ok data ∧
      data.get? "due" = some (.date .epoch)) ∧
    ∃ data, dataValues invoice (some (.ofDict older)) = .ok data ∧
      data.get? "amount" = none ∧ data.get? "due" = some (.text "someday") := by
  obtain ⟨hback, holder⟩ := data_read_back invoice
  obtain ⟨data, hdata, hsame⟩ := hback billed billed_made billed_year
  obtain ⟨other, hother, hread⟩ := holder older
  have hdue : Option.Rel (fun v w : Value => v.same w = true) (some (.date .epoch)) (data.get? "due") :=
    hsame "due"
  refine ⟨⟨data, hdata, ?_⟩, other, hother, ?_, ?_⟩
  · cases hget : data.get? "due" with
    | none =>
      rw [hget] at hdue
      cases hdue
    | some v =>
      rw [hget] at hdue
      cases hdue with
      | some h =>
        cases v <;> simp [Value.same] at h
        exact congrArg (fun t => some (Value.date t)) h.symm
  · exact (hread.dropped "amount" (.string "") rfl).2 ⟨_, rfl, .inr ⟨rfl, by decide, by decide⟩⟩
  · exact hread.unconverted "due" (.string "someday") _ _ rfl rfl rfl

end Sql.Row

end Dossier
