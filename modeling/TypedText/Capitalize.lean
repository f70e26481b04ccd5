import TypedText.CaseMapper
import TypedText.Separators
import TypedText.Text.Position

/-!
# TypedText.Capitalize

Capitalized variants of typed text. Where case changes apply is decided first, as a `CasePlan`: the
spans to be handed to a case mapper one after the other, and the stretches that are kept. Carrying a
plan out with a mapper and a locale gives the text; a mapper may change the length of a span.

* `Text.planFirst`, `planFirstLowerRest`, `planEachWord`: the three plans.
* `CasePlan.run`: the text a plan gives; `CasePlan.calls`: what the mapper is asked on the way.
* `Text.upcaseCode`: a single key code in upper case, if that is one code point.
-/

namespace TypedText

inductive CaseStep
  /-- Hand the span to the case mapper. -/
  | change (target : LetterCase) (span : Text)
  /-- Keep the units, with their pairs joined. -/
  | keep (units : Text)
  deriving DecidableEq, Repr

/-- Steps in order, and what is wrong with the text after them, if anything is. -/
structure CasePlan where
  steps : List CaseStep
  fault? : Option TextError
  deriving DecidableEq, Repr

structure CaseCall where
  target : LetterCase
  span : Text
  locale : Locale
  deriving DecidableEq, Repr

namespace CaseStep

def run (m : CaseMapper) (locale : Locale) : CaseStep → Except TextError Text
  | change target span => m.map target locale span
  | keep units => units.joinPairs

def call? (locale : Locale) : CaseStep → Option CaseCall
  | change target span => some ⟨target, span, locale⟩
  | keep _ => none

def runAll (m : CaseMapper) (locale : Locale) (fault? : Option TextError) :
    List CaseStep → Except TextError Text
  | [] =>
    match fault? with
    | some e => .error e
    | none => .ok []
  | s :: rest =>
    match s.run m locale with
    | .error e => .error e
    | .ok t =>
      match runAll m locale fault? rest with
      | .error e => .error e
      | .ok ts => .ok (t ++ ts)

def callsOf (m : CaseMapper) (locale : Locale) : List CaseStep → List CaseCall
  | [] => []
  | s :: rest =>
    (s.call? locale).toList ++
      match s.run m locale with
      | .error _ => []
      | .ok _ => callsOf m locale rest

end CaseStep

namespace CasePlan

def run (p : CasePlan) (m : CaseMapper) (locale : Locale) : Except TextError Text :=
  CaseStep.runAll m locale p.fault? p.steps

def calls (p : CasePlan) (m : CaseMapper) (locale : Locale) : List CaseCall :=
  CaseStep.callsOf m locale p.steps

/-- One step for each code point: upper case at the start and after every separator. -/
def eachWordSteps (separators : Separators) : Bool → List CodePoint → List CaseStep
  | _, [] => []
  | wordStart, c :: rest =>
    .change (if wordStart then .upper else .lower) [c] ::
      eachWordSteps separators (separators.contains c.val) rest

end CasePlan

namespace Text

/-- Upper case for the first code point, and `after` for the units that follow it. -/
def planAfterFirst (t : Text) (after : Text → CaseStep) : CasePlan :=
  if t.length ≤ 1 then ⟨[.change .upper t], none⟩
  else
    match t.advance 0 1 with
    | .error e => ⟨[], some e⟩
    | .ok cut => ⟨[.change .upper (t.take cut), after (t.drop cut)], none⟩

def planFirst (t : Text) : CasePlan :=
  t.planAfterFirst .keep

def planFirstLowerRest (t : Text) : CasePlan :=
  t.planAfterFirst (.change .lower)

/-- Upper case for the first code point of each word, lower case for all others, one at a time. -/
def planEachWord (t : Text) (separators : Separators) : CasePlan :=
  ⟨CasePlan.eachWordSteps separators true t.reading.1, t.reading.2⟩

def planUpcase (t : Text) : CasePlan :=
  ⟨[.change .upper t], none⟩

def capitalizeFirst (t : Text) (locale : Locale) : Except TextError Text :=
  t.planFirst.run .unicode locale

def capitalizeFirstLowerRest (t : Text) (locale : Locale) : Except TextError Text :=
  t.planFirstLowerRest.run .unicode locale

def capitalizeEachWord (t : Text) (separators : Separators) (locale : Locale) :
    Except TextError Text :=
  (t.planEachWord separators).run .unicode locale

def upcase (t : Text) (locale : Locale) : Except TextError Text :=
  t.planUpcase.run .unicode locale

end Text

namespace KeyCode

/-- Stands for an upper-case form that is not one code point. -/
def unspecified : Int := -1

/-- Codes below the space are keys without a character. -/
def isControl (code : Int) : Bool :=
  code < 0x20

/-- The plan for a key code that is to be in upper case, unless it stays as it is. -/
def plan? (code : Int) (needed : Bool) : Except TextError (Option CasePlan) :=
  if isControl code || !needed then .ok none
  else
    match CodePoint.ofInt? code with
    | none => .error (.invalidCodePoint code)
    | some c => .ok (some (Text.planUpcase [c]))

def ofText (t : Text) : Except TextError Int :=
  match t.codePoints with
  | .error e => .error e
  | .ok [c] => .ok c.val
  | .ok _ => .ok unspecified

def upcase (code : Int) (needed : Bool) (m : CaseMapper) (locale : Locale) :
    Except TextError Int :=
  match plan? code needed with
  | .error e => .error e
  | .ok none => .ok code
  | .ok (some p) =>
    match p.run m locale with
    | .error e => .error e
    | .ok t => ofText t

end KeyCode
end TypedText
