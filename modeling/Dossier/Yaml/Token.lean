/-!
# Tokens of a YAML stream

Indentation is made explicit here: a block collection has a token where it starts and one where it ends,
and every key of a mapping has a token in front of it.
-/

namespace Dossier

namespace Yaml

inductive ScalarStyle where
  | plain
  | quoted
  | literal
  | folded
deriving DecidableEq

inductive Tag where
  /-- A tag of the language itself, such as `!!int`. -/
  | core (name : String)
  /-- A tag of the document, such as `!name`. -/
  | own (name : String)
  | other (name : String)
  /-- A lone mark, which declares nothing. -/
  | unspecific
deriving DecidableEq

inductive Token where
  /-- A line that names the version of the language. -/
  | directive
  | documentStart
  | documentEnd
  | blockSequence
  | blockMapping
  | blockEnd
  | flowSequence
  | flowSequenceEnd
  | flowMapping
  | flowMappingEnd
  /-- A comma. -/
  | comma
  /-- The mark of an item of a block sequence. -/
  | item
  | key
  | value
  | anchor (name : String)
  | alias (name : String)
  | tag (tag : Tag)
  | scalar (style : ScalarStyle) (text : String)
deriving DecidableEq

end Yaml

end Dossier
