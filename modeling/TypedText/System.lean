import TypedText.FileTree

/-!
# TypedText.System

The operating system between a program and a tree. It may refuse whatever it is asked for, and it may
break off what it has begun to write; what it does not refuse is done as the tree has it. Files are
written in two steps, so one that is written over is empty before anything is written, and stays so if
nothing can be.

* `System.hasEntry`, `isDirectory`, `read`: what a program finds where a path leads.
* `System.makeDirectories`, `writeFile`, `appendFile`: the tree afterwards, and what went wrong.
-/

namespace TypedText

/-- What a system is asked for. -/
inductive Act
  | look
  | read
  | makeDirectory
  /-- Opening a file for writing; what is written to it then may still end early. -/
  | write
  deriving DecidableEq, Repr

structure System where
  refusal? : FileTree → Act → Path → Option FileError
  /-- Of a write to an open file that ends early: how many bytes there are by then, and why. -/
  shortWrite? : FileTree → Path → Option (Nat × FileError)

namespace System

def willing : System where
  refusal? _ _ _ := none
  shortWrite? _ _ := none

/-- The answer to what is asked for, if it is not refused. -/
def ask {α : Type} (s : System) (t : FileTree) (act : Act) (p : Path) (answer : Except FileError α) :
    Except FileError α :=
  match s.refusal? t act p with
  | some e => .error e
  | none => answer

def stat (s : System) (t : FileTree) (p : Path) : Except FileError FileEntry :=
  s.ask t .look p (t.stat p)

/-- Not to be allowed to look is neither finding something nor finding nothing. -/
def hasEntry (s : System) (t : FileTree) (p : Path) : Except FileError Bool :=
  match s.stat t p with
  | .ok _ => .ok true
  | .error e => if e.meansAbsence then .ok false else .error e

def isDirectory (s : System) (t : FileTree) (p : Path) : Except FileError Bool :=
  match s.stat t p with
  | .ok e => .ok (e == .directory)
  | .error e => if e.meansAbsence then .ok false else .error e

def read (s : System) (t : FileTree) (p : Path) : Except FileError (List UInt8) :=
  s.ask t .read p (t.read p)

/-! ## Directories -/

def makeDirectory (s : System) (t : FileTree) (p : Path) : Except FileError FileTree :=
  s.ask t .makeDirectory p (t.makeDirectory p)

/-- A directory that is there already is as good as a new one: what is left of an error. -/
def leftOf (s : System) (t : FileTree) (p : Path) (e : FileError) : Option FileError :=
  if e = .notFound ∨ !e.isSystem then some e
  else
    match s.isDirectory t p with
    | .ok true => none
    | .ok false => some e
    | .error e => some e

/-- Makes a directory whose directory is there. -/
def makeLast (s : System) (t : FileTree) (p : Path) : FileTree × Option FileError :=
  match s.makeDirectory t p with
  | .ok t => (t, none)
  | .error e => (t, s.leftOf t p e)

/-- Makes a directory, those above it first where they are missing. What has been made stays, also
when it goes wrong further down. The number of names bounds the directories to be made. -/
def makeDirectoriesUpTo (s : System) : Nat → FileTree → Path → FileTree × Option FileError
  | 0, t, p => s.makeLast t p
  | above + 1, t, p =>
    match s.makeDirectory t p with
    | .ok t => (t, none)
    | .error .notFound =>
      match makeDirectoriesUpTo s above t p.parent with
      | (t, some e) => (t, some e)
      | (t, none) => s.makeLast t p
    | .error e => (t, s.leftOf t p e)

def makeDirectories (s : System) (t : FileTree) (p : Path) : FileTree × Option FileError :=
  s.makeDirectoriesUpTo p.names.length t p

/-! ## Files -/

def openFile (s : System) (t : FileTree) (p : Path) (kept : List UInt8 → List UInt8) :
    Except FileError FileTree :=
  s.ask t .write p (t.openFile p kept)

/-- Writes to a file that is open. -/
def extend (s : System) (t : FileTree) (p : Path) (bytes : List UInt8) : FileTree × Option FileError :=
  match s.shortWrite? t p with
  | none => (t.extend p bytes, none)
  | some (count, e) => (t.extend p (bytes.take count), some e)

def updateFile (s : System) (t : FileTree) (p : Path) (kept : List UInt8 → List UInt8)
    (bytes : List UInt8) : FileTree × Option FileError :=
  match s.openFile t p kept with
  | .error e => (t, some e)
  | .ok t => s.extend t p bytes

/-- Writes a file anew: nothing is kept of what it holds. -/
def writeFile (s : System) (t : FileTree) (p : Path) (content : List UInt8) :
    FileTree × Option FileError :=
  s.updateFile t p (fun _ => []) content

def appendFile (s : System) (t : FileTree) (p : Path) (content : List UInt8) :
    FileTree × Option FileError :=
  s.updateFile t p id content

end System
end TypedText
