import TypedText.Value

/-!
# TypedText.Value.Merge

Laying one mapping over another. Where both have a mapping under a key, these are laid over each other
in turn; everywhere else the value that lies on top wins.
-/

namespace TypedText

mutual

/-- What shows when the value is laid over what was there before. -/
def Value.over (below : Option Value) : Value → Value
  | .map top =>
    match below with
    | some (.map bottom) => .map (Entries.over bottom top)
    | _ => .map top
  | .list items => .list items
  | .scalar s => .scalar s

/-- The entries of the second mapping laid over those of the first. -/
def Entries.over (bottom : List (Scalar × Value)) : List (Scalar × Value) → List (Scalar × Value)
  | [] => bottom
  | (k, v) :: rest =>
    Entries.over (Entries.insert k (Value.over (Entries.find? k bottom) v) bottom) rest

end

end TypedText
