import TypedText.Console.Markup

/-!
# TypedText.Console.Screen

What a line of markup looks like on the console: control characters that would move the cursor are
left out, a tab reaches to the next multiple of eight columns, what does not fit is wrapped, and a line
feed ends it.

* `Console`: how tags are matched and long lines are broken.
* `Screen.line`: a line of markup on a console.
-/

namespace TypedText

structure Console where
  matching : Markup.Matching
  /-- A text in lines of the console's width. -/
  wrap : Text → Text

/-- A console on which every line fits. -/
def Console.wide : Console where
  matching := Markup.byName
  wrap := id

namespace Screen

def isDropped (c : CodePoint) : Bool :=
  c.val == 0x07 || c.val == 0x08 || c.val == 0x0B || c.val == 0x0C || c.val == 0x0D

/-- Tabs as spaces, in a text that starts at a column. -/
def expandTabs (column : Nat) : Text → Text
  | [] => []
  | c :: rest =>
    if c.val = 0x09 then
      let width := 8 - column % 8
      List.replicate width 0x20 ++ expandTabs (column + width) rest
    else if c.val = 0x0A then c :: expandTabs 0 rest
    else c :: expandTabs (column + 1) rest

def shown (t : Text) : Text :=
  expandTabs 0 (t.filter fun c => !isDropped c)

def line (console : Console) (markup : Text) : Except MarkupError Text :=
  match Markup.render console.matching markup with
  | .error e => .error e
  | .ok t => .ok (console.wrap (shown t) ++ [0x0A])

end Screen
end TypedText
