/-!
# Tokens of a document

Tokens show the nesting of a document: blocks, which are nested by indentation,
are given a start and an end like brackets.
-/

namespace DebugSymbols.Yaml

inductive Token where
  | documentStart
  | documentEnd
  | blockSequenceStart
  | blockMappingStart
  | blockEnd
  | flowSequenceStart
  | flowSequenceEnd
  | flowMappingStart
  | flowMappingEnd
  | blockEntry
  | flowEntry
  | key
  | value
  | scalar (plain : Bool) (text : String)
  deriving DecidableEq, Repr

end DebugSymbols.Yaml
