import Dossier.Schema.FieldError
import Dossier.Text.Shape
import Dossier.Value.Reading
import Dossier.Web.WebAddress

/-!
# Conversion of raw values

A field turns a raw document into a value of its kind. Null is absence for every kind, and so is the
empty text except for plain texts. Whether a lookup's target exists is not decided here.
-/

namespace Dossier

namespace Field

def expect {α : Type} (f : Field) (flaw : Flaw) (reading : Option α) : Except FieldError α :=
  match reading with
  | some a => .ok a
  | none => .error (.of f flaw)

/-- The content of a document that must be a text. -/
def expectText (f : Field) (raw : Json) : Except FieldError String := f.expect (.wrongType .text) raw.text?

def expectForm (f : Field) (form : ExpectedForm) (holds : String → Bool) (raw : Json) :
    Except FieldError Value :=
  f.expectText raw >>= fun s =>
    if holds s then .ok (.text s) else .error (.of f (.wrongForm form))

/-- Whether a field with options has one of a given text; without options every text will do. -/
def admits (f : Field) (s : String) : Bool :=
  match f.options with
  | some options => options.isEmpty || options.contains s
  | none => true

def expectOption (f : Field) (s : String) : Except FieldError Value :=
  if f.admits s then .ok (.text s) else .error (.of f (.notAnOption (f.options.getD [])))

def convertPresent (f : Field) (raw : Json) : Except FieldError Value :=
  match f.kind with
  | .text | .textarea => (f.expect (.wrongType .text) raw.asText?).map .text
  | .number => (f.expect (.wrongType .number) raw.asNumber?).map fun d => .number (.finite d)
  | .boolean => (f.expect (.wrongType .boolean) raw.asBool?).map .bool
  | .date => (f.expect (.wrongForm .date) raw.asInstant?).map .date
  | .email => f.expectForm .email isEmailAddress raw
  | .url => f.expectForm .url isWebAddress raw
  | .phone => f.expectForm .phone isPhoneNumber raw
  | .currency => (f.expect (.wrongType .amount) raw.asAmount?).map .currency
  | .select => f.expectText raw >>= f.expectOption
  | .multiselect =>
    (raw.splitValues.mapM fun item => f.expect (.wrongType .textList) item.text? >>= f.expectOption).map .list
  | .lookup =>
    f.expect (.wrongType .recordId) raw.asReference? >>= fun id =>
      (f.expect (.wrongForm .recordId) (Uuid.read? id)).map fun id => .ref id.text
  | .file | .image =>
    f.expect (.wrongType .fileId) raw.asReference? >>= fun id =>
      if (trimmed id).isEmpty then .error (.of f (.wrongForm .fileId)) else .ok (.ref id)
  | .other => .ok (.json raw)

/-- Whether a document stands for no value. -/
def isAbsent (f : Field) : Json → Bool
  | .null => true
  | .string s => s.isEmpty && !f.kind.keepsEmpty
  | _ => false

/-- The value of a document; `none` when it stands for no value. -/
def convert (f : Field) (raw : Json) : Except FieldError (Option Value) :=
  if f.isAbsent raw then .ok none else (f.convertPresent raw).map some

end Field

end Dossier
