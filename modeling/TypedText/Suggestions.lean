import TypedText.Text

/-!
# TypedText.Suggestions

Lists of suggestions as they are shown: the first occurrence of each text keeps its place.
-/

namespace TypedText
namespace Suggestions

/-- The texts not in `seen`, each where it first occurs. -/
def firstsBesides (seen : List Text) : List Text → List Text
  | [] => []
  | t :: rest =>
    if seen.contains t then firstsBesides seen rest
    else t :: firstsBesides (t :: seen) rest

def withoutRepeats (texts : List Text) : List Text :=
  firstsBesides [] texts

end Suggestions
end TypedText
