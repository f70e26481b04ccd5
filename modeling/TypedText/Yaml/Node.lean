import TypedText.Yaml.Lexer
import TypedText.Yaml.Tag

/-!
# TypedText.Yaml.Node

A document as a tree of nodes, every node with its tag. Aliases are replaced by the nodes they stand
for; an alias inside the node that it names has no tree and is refused.

* `Node.read`: the node at the front of the tokens.
* `Node.ofTokens`: the only document of the tokens, or none if there is none.
-/

namespace TypedText
namespace Yaml

inductive Node
  | scalar (tag : Tag) (text : Text)
  | sequence (tag : Tag) (items : List Node)
  | mapping (tag : Tag) (entries : List (Node × Node))

/-- What is still to be read, and what names stand for. An anchor has no node while its node is
being read. -/
structure Reader where
  tokens : List Token
  handles : List (Text × Text)
  anchors : List (Text × Option Node)

namespace Node

def absent : Node := .scalar .null []

end Node

namespace Reader

def peek (r : Reader) : Option Token := r.tokens.head?

def drop (r : Reader) : Reader := { r with tokens := r.tokens.tail }

def defaultHandles : List (Text × Text) :=
  [(Text.ofString "!", Text.ofString "!"), (Text.ofString "!!", Tag.coreNames)]

end Reader

/-- The anchor and the tag before the content of a node; the tag by its full name. -/
structure Properties where
  anchor : Option Text
  tag : Option Text

namespace Properties

def fullName (r : Reader) : Option Text → Text → Except Fault Text
  | none, suffix => .ok suffix
  | some handle, suffix =>
    match r.handles.lookup handle with
    | some start => .ok (start ++ suffix)
    | none => .error .malformed

def take (r : Reader) : Except Fault (Properties × Reader) :=
  match r.tokens with
  | .anchor a :: .tag h s :: _ => (fullName r h s).map fun t => (⟨some a, some t⟩, r.drop.drop)
  | .tag h s :: .anchor a :: _ => (fullName r h s).map fun t => (⟨some a, some t⟩, r.drop.drop)
  | .anchor a :: _ => .ok (⟨some a, none⟩, r.drop)
  | .tag h s :: _ => (fullName r h s).map fun t => (⟨none, some t⟩, r.drop)
  | _ => .ok (⟨none, none⟩, r)

def given? (p : Properties) : Option Tag :=
  match p.tag with
  | none => none
  | some name => if name = [0x21] then none else some (.ofName name)

/-- The tag of a scalar: a plain one and one with the tag `!` get it from their form. -/
def scalarTag (p : Properties) (text : Text) (plain : Bool) : Tag :=
  match p.given? with
  | some t => t
  | none => if plain || p.tag.isSome then .ofPlain text else .text

def openAnchor (p : Properties) (r : Reader) : Except Fault Reader :=
  match p.anchor with
  | none => .ok r
  | some a =>
    if (r.anchors.lookup a).isSome then .error .malformed
    else .ok { r with anchors := (a, none) :: r.anchors }

def closeAnchor (p : Properties) (n : Node) (r : Reader) : Reader :=
  match p.anchor with
  | none => r
  | some a =>
    { r with anchors := r.anchors.map fun (b, m) => if a = b then (b, some n) else (b, m) }

end Properties

namespace Node

/-- What may follow the place of a node that is absent. -/
inductive Ending
  | blockEntry
  | blockMapping
  | indentless
  | flowSequence
  | flowMapping

/-- Whether a node is absent because its place is followed at once by this token. -/
def Ending.ends : Ending → Option Token → Bool
  | blockEntry, some .blockEntry => true
  | blockEntry, some .blockEnd => true
  | blockMapping, some .key => true
  | blockMapping, some .value => true
  | blockMapping, some .blockEnd => true
  | indentless, some .blockEntry => true
  | indentless, some .key => true
  | indentless, some .value => true
  | indentless, some .blockEnd => true
  | flowSequence, some .flowEntry => true
  | flowSequence, some .flowSequenceEnd => true
  | flowMapping, some .flowEntry => true
  | flowMapping, some .flowMappingEnd => true
  | _, _ => false

/-- Where a node stands decides which collections it can be. -/
inductive Place
  | block
  /-- A block sequence may stand here without indentation of its own. -/
  | blockOrIndentless
  | flow
  deriving DecidableEq, Repr

mutual

def read : Nat → Place → Reader → Except Fault (Node × Reader)
  | 0, _, _ => .error .malformed
  | fuel + 1, place, r =>
    match r.peek with
    | some (.alias name) =>
      match r.anchors.lookup name with
      | some (some n) => .ok (n, r.drop)
      | _ => .error .malformed
    | _ =>
      match Properties.take r with
      | .error e => .error e
      | .ok (p, r) =>
        match p.openAnchor r with
        | .error e => .error e
        | .ok r =>
          match content fuel place p r with
          | .error e => .error e
          | .ok (n, r) => .ok (n, p.closeAnchor n r)

/-- The content of a node after its properties. A node with properties may have none. -/
def content : Nat → Place → Properties → Reader → Except Fault (Node × Reader)
  | 0, _, _, _ => .error .malformed
  | fuel + 1, place, p, r =>
    let sequenceTag := p.given?.getD .sequence
    let mappingTag := p.given?.getD .mapping
    match r.peek with
    | some (.scalar text plain) =>
      .ok (.scalar (p.scalarTag text (plain && p.tag.isNone)) text, r.drop)
    | some .flowSequenceStart =>
      match flowItems fuel true r.drop with
      | .error e => .error e
      | .ok (items, r) => .ok (.sequence sequenceTag items, r)
    | some .flowMappingStart =>
      match flowEntries fuel true r.drop with
      | .error e => .error e
      | .ok (entries, r) => .ok (.mapping mappingTag entries, r)
    | some .blockSequenceStart =>
      if place = .flow then noContent p r
      else
        match blockItems fuel r.drop with
        | .error e => .error e
        | .ok (items, r) => .ok (.sequence sequenceTag items, r)
    | some .blockMappingStart =>
      if place = .flow then noContent p r
      else
        match blockEntries fuel r.drop with
        | .error e => .error e
        | .ok (entries, r) => .ok (.mapping mappingTag entries, r)
    | some .blockEntry =>
      if place = .blockOrIndentless then
        match indentlessItems fuel r with
        | .error e => .error e
        | .ok (items, r) => .ok (.sequence sequenceTag items, r)
      else noContent p r
    | _ => noContent p r

def noContent (p : Properties) (r : Reader) : Except Fault (Node × Reader) :=
  if p.anchor.isSome || p.tag.isSome then .ok (.scalar (p.scalarTag [] p.tag.isNone) [], r)
  else .error .malformed

def readUnless : Nat → Ending → Place → Reader → Except Fault (Node × Reader)
  | 0, _, _, _ => .error .malformed
  | fuel + 1, ending, place, r =>
    if ending.ends r.peek then .ok (absent, r) else read fuel place r

def blockItems : Nat → Reader → Except Fault (List Node × Reader)
  | 0, _ => .error .malformed
  | fuel + 1, r =>
    match r.peek with
    | some .blockEntry =>
      match readUnless fuel .blockEntry .block r.drop with
      | .error e => .error e
      | .ok (n, r) =>
        match blockItems fuel r with
        | .error e => .error e
        | .ok (ns, r) => .ok (n :: ns, r)
    | some .blockEnd => .ok ([], r.drop)
    | _ => .error .malformed

def indentlessItems : Nat → Reader → Except Fault (List Node × Reader)
  | 0, _ => .error .malformed
  | fuel + 1, r =>
    match r.peek with
    | some .blockEntry =>
      match readUnless fuel .indentless .block r.drop with
      | .error e => .error e
      | .ok (n, r) =>
        match indentlessItems fuel r with
        | .error e => .error e
        | .ok (ns, r) => .ok (n :: ns, r)
    | _ => .ok ([], r)

def blockEntries : Nat → Reader → Except Fault (List (Node × Node) × Reader)
  | 0, _ => .error .malformed
  | fuel + 1, r =>
    match r.peek with
    | some .blockEnd => .ok ([], r.drop)
    | some .key =>
      match readUnless fuel .blockMapping .blockOrIndentless r.drop with
      | .error e => .error e
      | .ok (k, r) =>
        match blockValue fuel r with
        | .error e => .error e
        | .ok (v, r) =>
          match blockEntries fuel r with
          | .error e => .error e
          | .ok (es, r) => .ok ((k, v) :: es, r)
    | _ => .error .malformed

def blockValue : Nat → Reader → Except Fault (Node × Reader)
  | 0, _ => .error .malformed
  | fuel + 1, r =>
    match r.peek with
    | some .value => readUnless fuel .blockMapping .blockOrIndentless r.drop
    | _ => .ok (absent, r)

def flowItems : Nat → Bool → Reader → Except Fault (List Node × Reader)
  | 0, _, _ => .error .malformed
  | fuel + 1, first, r =>
    match r.peek with
    | some .flowSequenceEnd => .ok ([], r.drop)
    | t =>
      if !first && t ≠ some .flowEntry then .error .malformed
      else
        let r := if first then r else r.drop
        let item : Except Fault (Option Node × Reader) :=
          match r.peek with
          | some .flowSequenceEnd => .ok (none, r.drop)
          | some .key =>
            match flowPair fuel .flowSequence r with
            | .error e => .error e
            | .ok (entry, r) => .ok (some (.mapping .mapping [entry]), r)
          | _ => (read fuel .flow r).map fun (n, r) => (some n, r)
        match item with
        | .error e => .error e
        | .ok (none, r) => .ok ([], r)
        | .ok (some n, r) =>
          match flowItems fuel false r with
          | .error e => .error e
          | .ok (ns, r) => .ok (n :: ns, r)

def flowPair : Nat → Ending → Reader → Except Fault ((Node × Node) × Reader)
  | 0, _, _ => .error .malformed
  | fuel + 1, ending, r =>
    let r := r.drop
    let key := if r.peek = some .value then .ok (absent, r) else readUnless fuel ending .flow r
    match key with
    | .error e => .error e
    | .ok (k, r) =>
      match r.peek with
      | some .value =>
        match readUnless fuel ending .flow r.drop with
        | .error e => .error e
        | .ok (v, r) => .ok ((k, v), r)
      | _ => .ok ((k, absent), r)

def flowEntries : Nat → Bool → Reader → Except Fault (List (Node × Node) × Reader)
  | 0, _, _ => .error .malformed
  | fuel + 1, first, r =>
    match r.peek with
    | some .flowMappingEnd => .ok ([], r.drop)
    | t =>
      if !first && t ≠ some .flowEntry then .error .malformed
      else
        let r := if first then r else r.drop
        let entry : Except Fault (Option (Node × Node) × Reader) :=
          match r.peek with
          | some .flowMappingEnd => .ok (none, r.drop)
          | some .key => (flowPair fuel .flowMapping r).map fun (e, r) => (some e, r)
          | _ => (read fuel .flow r).map fun (n, r) => (some (n, absent), r)
        match entry with
        | .error e => .error e
        | .ok (none, r) => .ok ([], r)
        | .ok (some e, r) =>
          match flowEntries fuel false r with
          | .error e => .error e
          | .ok (es, r) => .ok (e :: es, r)

end

/-! ## Documents -/

/-- The directives before a document, at most one of them a version, which must be 1. -/
def takeDirectives : Bool → Reader → Nat → Except Fault Reader
  | _, _, 0 => .error .malformed
  | versioned, r, fuel + 1 =>
    match r.peek with
    | some (.directive .other) => takeDirectives versioned r.drop fuel
    | some (.directive (.version major)) =>
      if versioned || major ≠ 1 then .error .malformed else takeDirectives true r.drop fuel
    | some (.directive (.tagHandle handle start)) =>
      if (r.handles.lookup handle).isSome then .error .malformed
      else takeDirectives versioned { r.drop with handles := (handle, start) :: r.handles } fuel
    | _ => .ok { r with handles := r.handles ++ Reader.defaultHandles }

/-- What follows a document, apart from marks of its end. -/
def afterDocument (r : Reader) : List Token :=
  r.tokens.dropWhile (· = .documentEnd)

/-- A document must be the only one. -/
def ofTokens (tokens : List Token) : Except Fault (Option Node) :=
  let fuel := 4 * tokens.length + 8
  let whole (n : Node) (r : Reader) : Except Fault (Option Node) :=
    if (afterDocument r).isEmpty then .ok (some n) else .error .malformed
  let explicit (r : Reader) : Except Fault (Option Node) :=
    match takeDirectives false r fuel with
    | .error e => .error e
    | .ok r =>
      if r.peek = some .documentStart then
        match r.drop.peek with
        | none => whole absent r.drop
        | some (.directive _) => whole absent r.drop
        | some .documentStart => whole absent r.drop
        | some .documentEnd => whole absent r.drop
        | some _ =>
          match read fuel .block r.drop with
          | .error e => .error e
          | .ok (n, r) => whole n r
      else .error .malformed
  match tokens with
  | [] => .ok none
  | .directive d :: rest => explicit ⟨.directive d :: rest, [], []⟩
  | .documentStart :: rest => explicit ⟨.documentStart :: rest, [], []⟩
  | tokens =>
    match read fuel .block ⟨tokens, Reader.defaultHandles, []⟩ with
    | .error e => .error e
    | .ok (n, r) => whole n r

end Node
end Yaml
end TypedText
