import TypedText.Yaml.Document

/-!
# TypedText.Yaml.Loader

Loaders of YAML: what becomes of a file's text. Nothing that uses one depends on which one it is. The one
that is defined here knows the core tags; of a document with any other tag, binary data and sets included,
it says that it is malformed.
-/

namespace TypedText
namespace Yaml

/-- What a library makes of a stream that holds one document: its value, or what is wrong with it. -/
abbrev Loader := Utf8.Stream → Except Fault Value

namespace Loader

def core : Loader := fun s =>
  match s.fault? with
  | some e => .error (.undecodable e)
  | none => Value.ofYaml s.text

end Loader
end Yaml
end TypedText
