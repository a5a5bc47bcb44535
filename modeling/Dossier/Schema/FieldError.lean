import Dossier.Schema.Field

/-!
# Field errors

What can be wrong with the value given for a field, and the words for it.
-/

namespace Dossier

/-- What a value of the wrong type should have been. -/
inductive ExpectedType where
  | text
  | number
  | boolean
  | amount
  | textList
  | recordId
  | fileId
deriving DecidableEq

def ExpectedType.words : ExpectedType → String
  | .text => "text value"
  | .number => "number"
  | .boolean => "boolean"
  | .amount => "currency amount"
  | .textList => "list of text values"
  | .recordId => "record identifier"
  | .fileId => "file identifier"

/-- What a text of the wrong form should have been. -/
inductive ExpectedForm where
  | date
  | email
  | url
  | phone
  | recordId
  | fileId
deriving DecidableEq

def ExpectedForm.words : ExpectedForm → String
  | .date => "ISO-8601 date"
  | .email => "email address"
  | .url => "http(s) URL"
  | .phone => "phone number"
  | .recordId => "record identifier"
  | .fileId => "file identifier"

inductive Flaw where
  | missing
  | wrongType (expected : ExpectedType)
  | wrongForm (expected : ExpectedForm)
  | notAnOption (allowed : List String)
deriving DecidableEq

namespace Flaw

def code : Flaw → String
  | .missing => "MISSING_FIELD"
  | .wrongType _ => "INVALID_TYPE"
  | .wrongForm _ => "INVALID_FORMAT"
  | .notAnOption _ => "INVALID_OPTION"

def message : Flaw → String
  | .missing => "is required"
  | .wrongType expected => "must be a " ++ expected.words
  | .wrongForm expected => "must be a valid " ++ expected.words
  | .notAnOption allowed => "must be one of: " ++ String.intercalate ", " allowed

end Flaw

/-- A flaw in the value of a field, with the label that people know the field by. -/
structure FieldError where
  field : String
  label : String
  flaw : Flaw
deriving DecidableEq

namespace FieldError

def of (f : Field) (flaw : Flaw) : FieldError := ⟨f.name, f.displayLabel, flaw⟩

def message (e : FieldError) : String := e.label ++ " " ++ e.flaw.message

end FieldError

end Dossier
