import TypedText.Value

/-!
# TypedText.Value.Schema

Which keys a mapping must have, and of which kind their values must be. A schema is a mapping from
keys to kinds and to further schemas, in the order in which its demands are checked; keys it does
not name are not looked at.

* `Schema.faults`: everything that does not conform, depth first, in the schema's order. Nothing
  below a section that is missing or is no mapping is reported.
-/

namespace TypedText

/-- A kind that a schema can ask for: what messages call it, and which values are of it. A mapping is of
it or not, whatever it holds. -/
structure ValueKind where
  name : String
  admits : Value → Bool
  admits_map : ∀ entries others, admits (.map entries) = admits (.map others)

namespace ValueKind

/-- The kind of those scalars for which `p` holds. -/
def ofScalars (name : String) (p : Scalar → Bool) : ValueKind where
  name := name
  admits
    | .scalar s => p s
    | _ => false
  admits_map _ _ := rfl

def null : ValueKind :=
  ofScalars "NoneType" fun | .null => true | _ => false

def text : ValueKind :=
  ofScalars "str" fun | .text _ => true | _ => false

/-- A truth value also counts as an integer. -/
def int : ValueKind :=
  ofScalars "int" fun | .int _ | .bool _ => true | _ => false

def bool : ValueKind :=
  ofScalars "bool" fun | .bool _ => true | _ => false

def float : ValueKind :=
  ofScalars "float" fun | .float _ => true | _ => false

/-- A moment also counts as the date that it has. -/
def date : ValueKind :=
  ofScalars "date" fun | .date _ | .moment _ _ => true | _ => false

def moment : ValueKind :=
  ofScalars "datetime" fun | .moment _ _ => true | _ => false

def list : ValueKind where
  name := "list"
  admits
    | .list _ => true
    | _ => false
  admits_map _ _ := rfl

def map : ValueKind where
  name := "dict"
  admits
    | .map _ => true
    | _ => false
  admits_map _ _ := rfl

end ValueKind

inductive Schema
  | leaf (kind : ValueKind)
  | sections (entries : List (Text × Schema))

instance : Inhabited Schema := ⟨.sections []⟩

/-- A way not to conform, with the dotted path of the place. -/
inductive SchemaFault
  | missing (path : Text)
  | noSection (path : Text) (got : String)
  | wrongKind (path : Text) (expected got : String)
  deriving DecidableEq, Repr

namespace SchemaFault

def message : SchemaFault → Text
  | missing path => Text.ofString "Missing required key: " ++ path
  | noSection path got =>
    Text.ofString "Invalid type for " ++ path ++ Text.ofString s!": expected a section, got {got}"
  | wrongKind path expected got =>
    Text.ofString "Invalid type for " ++ path ++
      Text.ofString s!": expected {expected}, got {got}"

end SchemaFault

namespace Schema

mutual

/-- The faults of what stands at a path, if anything does. -/
def faultsAt (path : Text) (value? : Option Value) : Schema → List SchemaFault
  | .leaf kind =>
    match value? with
    | none => [.missing path]
    | some value => if kind.admits value then [] else [.wrongKind path kind.name value.kind]
  | .sections entries =>
    match value? with
    | none => [.missing path]
    | some (.map data) => faults (path ++ Text.ofString ".") data entries
    | some value => [.noSection path value.kind]

/-- The faults of a mapping whose keys follow `start` in a path. -/
def faults (start : Text) (data : Entries) : List (Text × Schema) → List SchemaFault
  | [] => []
  | (key, schema) :: rest =>
    faultsAt (start ++ key) (data.get? key) schema ++ faults start data rest

end

end Schema
end TypedText
