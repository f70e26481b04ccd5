import TypedText.CommandLine.Run

/-!
# TypedText.CommandLine.Footprint

What a command line has to do with the files around it. A run looks at the configuration file and,
if the configuration asks for one, at the log file, so a tree that holds what is on the way to these
is enough to run on.

* `footprint`: the places a run looks at, as far as a tree tells.
* `changes`: what a run has made or written.
-/

namespace TypedText
namespace CommandLine

def logFile? (platform : Platform) (tree : FileTree) (i : Invocation) : Option Path :=
  match i.request with
  | .initConfig _ => none
  | _ =>
    match (Config.load platform.loader platform.system tree (configPath i.config)).outcome with
    | .error _ => none
    | .ok entries =>
      (Settings.ofEntries? entries).bind fun s =>
        if s.logToFile then some (logPath tree s.logFile) else none

def waypoints (tree : FileTree) (p : Path) : List Location :=
  Path.stations (if p.isAbsolute then [] else tree.home) p.names

/-- The places a run looks at. Which log file it has shows only once the configuration file is in
the tree. -/
def footprint (platform : Platform) (tree : FileTree) (arguments : List Text) : List Location :=
  match Invocation.ofArguments arguments with
  | .error _ => []
  | .ok i =>
    waypoints tree (configPath i.config) ++
      ((logFile? platform tree i).map (waypoints tree)).getD []

/-- The entries that are new or have another content. -/
def changes (before after : FileTree) : List (Location × FileEntry) :=
  after.entries.filter fun (at_, e) => before.entries.lookup at_ ≠ some e

end CommandLine
end TypedText
