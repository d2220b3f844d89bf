/-!
# The tokens of a document

* `Directive` : a line in front of a document.
* `TagName` : a tag as it is written.
* `Token` : the tokens; where a block ends is a token of its own.
-/

namespace SessionKeeper.Yaml

/-- A line in front of a document: its version, an abbreviation for tags, or anything else. -/
inductive Directive where
  | version (major : Nat)
  | shorthand (handle full : String)
  | other
deriving DecidableEq

/-- A tag as it is written: an abbreviation, if there is one, and the rest. -/
structure TagName where
  handle : Option String
  suffix : String
deriving DecidableEq

/-- The tokens of a document. -/
inductive Token where
  | directive (d : Directive)
  | documentStart
  | documentEnd
  | blockSequence
  | blockMapping
  | blockEnd
  | flowSequence
  | flowSequenceEnd
  | flowMapping
  | flowMappingEnd
  | flowEntry
  | blockEntry
  | key
  | value
  | anchor (name : String)
  | alias (name : String)
  | tag (t : TagName)
  | scalar (text : String) (isPlain : Bool)
deriving DecidableEq

end SessionKeeper.Yaml
