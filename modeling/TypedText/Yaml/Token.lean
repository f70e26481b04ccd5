import TypedText.Ascii
import TypedText.Utf8

/-!
# TypedText.Yaml.Token

The tokens of a YAML document and what can be wrong with one. Block structure, which the document
shows by indentation, is explicit in the tokens: every block collection has a start and an end.
-/

namespace TypedText
namespace Yaml

/-- An error of some other kind than those for wrong values, by what its kind is called. -/
structure Breakdown where
  kind : String
  message : Text
  deriving DecidableEq, Repr

inductive Fault
  /-- The document is no YAML. -/
  | malformed
  /-- The bytes of the document are no text. -/
  | undecodable (e : Utf8.DecodeError)
  /-- A scalar has the form of some kind of value, but there is no such value. -/
  | noSuchValue (reason : Text)
  | breakdown (b : Breakdown)
  deriving DecidableEq, Repr

inductive Directive
  | version (major : Nat)
  | tagHandle (handle start : Text)
  /-- A directive that is not known, and ignored. -/
  | other
  deriving DecidableEq, Repr

inductive Token
  | directive (d : Directive)
  | documentStart
  | documentEnd
  | blockSequenceStart
  | blockMappingStart
  | blockEnd
  | flowSequenceStart
  | flowSequenceEnd
  | flowMappingStart
  | flowMappingEnd
  | blockEntry
  | flowEntry
  | key
  | value
  | alias (name : Text)
  | anchor (name : Text)
  /-- A tag: its handle, unless it is written in full, and the rest of its name. -/
  | tag (handle : Option Text) (suffix : Text)
  | scalar (text : Text) (plain : Bool)
  deriving DecidableEq, Repr

end Yaml
end TypedText
