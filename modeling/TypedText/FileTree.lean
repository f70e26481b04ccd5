import TypedText.Path

/-!
# TypedText.FileTree

The files and directories of a disk: what stands at each place, places being lists of names from the
top. A path is followed name by name, so it leads through directories only; `..` leads back from a
directory that is there, and a link leads on to where it points.

A tree says what is there and nothing of who may use it: permissions, disks that are full and devices
that break are with the system (`TypedText.System`). Devices that take what they are given and give
the same bytes each time they are read are the only special files; pipes, sockets and other devices are
left out. Each file stands at one place, so there are no hard links.

* `FileTree.locate`, `locateNew`: the places that paths lead to, and where new entries would be.
* `FileTree.stat`, `read`: what stands where a path leads.
-/

namespace TypedText

inductive FileError
  | notFound
  | alreadyExists
  | notDirectory
  | isDirectory
  | nameTooLong
  | tooManyLinks
  /-- Any other error of the operating system, by its number and its words. -/
  | other (number : Nat) (words : String)
  /-- The path holds a null unit. -/
  | nullInPath
  /-- The path holds a unit that file names cannot. -/
  | notEncodable
  deriving DecidableEq, Repr

namespace FileError

/-- The number and the words of the operating system, where the error is one of its own. -/
def message : FileError → String
  | notFound => "[Errno 2] No such file or directory"
  | alreadyExists => "[Errno 17] File exists"
  | notDirectory => "[Errno 20] Not a directory"
  | isDirectory => "[Errno 21] Is a directory"
  | nameTooLong => "[Errno 36] File name too long"
  | tooManyLinks => "[Errno 40] Too many levels of symbolic links"
  | other number words => s!"[Errno {number}] {words}"
  | nullInPath => "embedded null byte"
  | notEncodable => "surrogates not allowed"

/-- Paths that cannot be names of files never get as far as the operating system. -/
def isSystem : FileError → Bool
  | nullInPath => false
  | notEncodable => false
  | _ => true

/-- Whether looking for a path counts as not finding anything when it ends so: number 9 is for a
descriptor that is none. -/
def meansAbsence : FileError → Bool
  | notFound => true
  | notDirectory => true
  | tooManyLinks => true
  | other number _ => number == 9
  | nullInPath => true
  | notEncodable => true
  | _ => false

end FileError

namespace Path

/-- The most bytes of a name, and of a path as a whole. -/
def maxName : Nat := 255

def maxPath : Nat := 4095

/-- The bytes that a unit takes in names; a surrogate stands for one of its own. -/
def unitSize (c : CodePoint) : Nat :=
  if c.val < 0x80 ∨ c.isSurrogate then 1
  else if c.val < 0x800 then 2
  else if c.val < 0x10000 then 3
  else 4

def size : Text → Nat
  | [] => 0
  | c :: rest => unitSize c + size rest

def fault? (p : Path) : Option FileError :=
  if !p.isEncodable then some .notEncodable
  else if p.hasNull then some .nullInPath
  else if maxPath < size p.text then some .nameTooLong
  else none

end Path

abbrev Location := List Name

inductive FileEntry
  | file (content : List UInt8)
  | directory
  /-- A link to where the path leads from the directory around it. -/
  | link (target : Path)
  /-- A device that gives these bytes, whatever has been written to it. -/
  | device (gives : List UInt8)
  deriving DecidableEq, Repr

/-- Entries by place, and the directory in which relative paths start. -/
structure FileTree where
  home : Location
  entries : List (Location × FileEntry)
  deriving DecidableEq, Repr

namespace FileTree

def empty (home : Location) : FileTree where
  home := home
  entries := (List.range home.length).map fun n => (home.take (n + 1), .directory)

/-- The top is always a directory. -/
def entryAt? (t : FileTree) (at_ : Location) : Option FileEntry :=
  if at_.isEmpty then some .directory else t.entries.lookup at_

def put (t : FileTree) (at_ : Location) (e : FileEntry) : FileTree :=
  if (t.entries.lookup at_).isSome then
    { t with entries := t.entries.map fun (l, old) => if l = at_ then (l, e) else (l, old) }
  else { t with entries := t.entries ++ [(at_, e)] }

/-! ## Following paths -/

/-- One name further, which takes a directory that is there. -/
def next (t : FileTree) (at_ : Location) (name : Name) : Except FileError Location :=
  match t.entryAt? at_ with
  | none => .error .notFound
  | some .directory =>
    if Path.maxName < Path.size name then .error .nameTooLong else .ok (Path.step at_ name)
  | some _ => .error .notDirectory

/-- Follows names from a place; `redirect` says where a link leads that is found in a directory, and the
names after it from there. -/
def walk (t : FileTree) (redirect : Location → Path → List Name → Except FileError Location) :
    Location → List Name → Except FileError Location
  | at_, [] => .ok at_
  | at_, name :: names =>
    match t.next at_ name with
    | .error e => .error e
    | .ok place =>
      match t.entryAt? place with
      | some (.link target) => redirect at_ target names
      | _ => t.walk redirect place names

/-- Follows names and as many links as are allowed. -/
def follow (t : FileTree) : Nat → Location → List Name → Except FileError Location
  | 0 => t.walk fun _ _ _ => .error .tooManyLinks
  | links + 1 => t.walk fun at_ target names =>
    t.follow links (if target.isAbsolute then [] else at_) (target.names ++ names)

def maxLinks : Nat := 40

def start (t : FileTree) (p : Path) : Location :=
  if p.isAbsolute then [] else t.home

/-- The place a path leads to, where something can be, whether or not it is. -/
def locate (t : FileTree) (p : Path) : Except FileError Location :=
  match p.fault? with
  | some e => .error e
  | none => t.follow maxLinks (t.start p) p.names

/-- The place for a new entry: a link that has the name itself is not followed. -/
def locateNew (t : FileTree) (p : Path) : Except FileError Location :=
  match p.fault? with
  | some e => .error e
  | none =>
    match p.names.getLast? with
    | none => .ok (t.start p)
    | some name =>
      match t.follow maxLinks (t.start p) p.names.dropLast with
      | .error e => .error e
      | .ok above => t.next above name

/-! ## What is there -/

def stat (t : FileTree) (p : Path) : Except FileError FileEntry :=
  match t.locate p with
  | .error e => .error e
  | .ok at_ =>
    match t.entryAt? at_ with
    | none => .error .notFound
    | some e => .ok e

def read (t : FileTree) (p : Path) : Except FileError (List UInt8) :=
  match t.stat p with
  | .error e => .error e
  | .ok (.file content) => .ok content
  | .ok (.device gives) => .ok gives
  | .ok .directory => .error .isDirectory
  | .ok (.link _) => .error .tooManyLinks

def makeDirectory (t : FileTree) (p : Path) : Except FileError FileTree :=
  match t.locateNew p with
  | .error e => .error e
  | .ok at_ =>
    match t.entryAt? at_ with
    | some _ => .error .alreadyExists
    | none => .ok (t.put at_ .directory)

/-- Opens a file for writing behind what is kept of it; it is made if it is not there. A device has
nothing to be kept. -/
def openFile (t : FileTree) (p : Path) (kept : List UInt8 → List UInt8) : Except FileError FileTree :=
  match t.locate p with
  | .error e => .error e
  | .ok at_ =>
    match t.entryAt? at_ with
    | none => .ok (t.put at_ (.file []))
    | some (.file content) => .ok (t.put at_ (.file (kept content)))
    | some (.device _) => .ok t
    | some .directory => .error .isDirectory
    | some (.link _) => .error .tooManyLinks

def extend (t : FileTree) (p : Path) (bytes : List UInt8) : FileTree :=
  match t.locate p with
  | .error _ => t
  | .ok at_ =>
    match t.entryAt? at_ with
    | some (.file content) => t.put at_ (.file (content ++ bytes))
    | _ => t

def paths (t : FileTree) : List Text :=
  (t.entries.filterMap fun (at_, _) =>
    if at_.take t.home.length = t.home && t.home.length < at_.length then
      some (Text.intercalate [Path.slash] (at_.drop t.home.length))
    else none).mergeSort Text.le

end FileTree
end TypedText
