import TypedText.Capitalize

/-!
# TypedText.Editing

Typing at the end of a text. An edit adds to the text, takes code points off its end, or changes its
case.

* `Text.backspace`: the text without its last code points.
* `Edit.run`: the text after an edit, or why the edit cannot be made.
* `Edit.apply`, `Edit.applyAll`: the text after an edit, and after one edit after the other. An edit
  that cannot be made leaves the text as it is.
-/

namespace TypedText

/-- The text before the index that lies `count` code points before its end. -/
def Text.backspace (t : Text) (count : Int) : Except TextError Text :=
  match t.offset t.length (-count) with
  | .error e => .error e
  | .ok cut => .ok (t.take cut)

inductive Edit where
  | append (added : Text)
  | backspace (count : Int)
  | capitalizeFirst (locale : Locale)
  | capitalizeFirstLowerRest (locale : Locale)
  | capitalizeEachWord (separators : Separators) (locale : Locale)
  /-- Upper case for the whole text, when asked for. -/
  | upcase (needed : Bool) (locale : Locale)
  deriving DecidableEq, Repr

namespace Edit

def run (t : Text) : Edit → Except TextError Text
  | append added => .ok (t ++ added)
  | backspace count => t.backspace count
  | capitalizeFirst locale => t.capitalizeFirst locale
  | capitalizeFirstLowerRest locale => t.capitalizeFirstLowerRest locale
  | capitalizeEachWord separators locale => t.capitalizeEachWord separators locale
  | upcase needed locale => if needed then t.upcase locale else .ok t

def apply (t : Text) (e : Edit) : Text :=
  match e.run t with
  | .error _ => t
  | .ok r => r

def applyAll (t : Text) (edits : List Edit) : Text :=
  edits.foldl apply t

end Edit
end TypedText
