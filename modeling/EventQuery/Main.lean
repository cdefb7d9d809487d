/-
**The program.**

It reads its arguments, the query files that they name and the lines of the standard input, and
prints what the commands give.

Main definitions:

* `Terminal.find` — the query files at a path;
* `Terminal.run`, `Terminal.perform` — the commands on the files and streams of the system;
* `main` — the program.
-/

import EventQuery.Command.Perform
import EventQuery.Library.Tree
import Std.Time.DateTime.Timestamp

set_option relaxedAutoImplicit false
set_option autoImplicit false

namespace EventQuery

namespace Terminal

/-- The current time. -/
def now : IO Instant := do
  let t ← Std.Time.Timestamp.now
  return (Instant.ofEpochNanos? t.toNanosecondsSinceUnixEpoch.val).getD default

/-- Why a path could not be read. -/
def pathError : IO.Error → PathError
  | .noFileOrDirectory .. => .missing
  | .permissionDenied .. => .denied
  | .inappropriateType .. => .isFile
  | _ => .notText

/-- A file or a folder with everything below it. -/
partial def readTree (path : String) : IO FileTree := do
  let place ← IO.FS.realPath path
  if ← place.isDir then
    let entries ← place.readDir
    return .folder (← entries.toList.mapM fun entry => do
      return (entry.fileName, ← readTree entry.path.toString))
  else return .file (← IO.FS.readFile path)

/-- What stands at a path. -/
def find (path : String) : IO (Except QueryError Library) := do
  match ← (readTree path).toBaseIO with
  | .ok tree => return .ok tree.contents
  | .error e => return Library.ofPath (.error (pathError e))

/-- What stands at each of several paths. -/
def findAll (paths : List String) : IO (String → Except QueryError Library) := do
  let found ← paths.mapM fun path => do return (path, ← find path)
  return fun path => (Fields.get? found path).getD (Library.ofPath (.error .missing))

/-- Print lines in order. -/
def print (lines : List Printed) : IO Unit :=
  lines.forM fun
    | .out line => IO.println line
    | .err line => IO.eprintln line

/-- Feed the lines of the standard input to a session, up to the end. -/
partial def feed (stdin : IO.FS.Stream) (s : Session) : IO Session := do
  match ← stdin.getLine.toBaseIO with
  | .ok "" => return s
  | .ok line =>
      let (s, lines) := s.feed (← now) line
      print lines
      feed stdin s
  | .error _ =>
      let (s, lines) := s.unreadable PathError.notText.message
      print lines
      feed stdin s

/-- Queries over the lines of the standard input. -/
def run (o : RunOptions) : IO UInt32 := do
  let (lines, session) := Session.start (← findAll o.paths) o
  print lines
  match session with
  | none => return 1
  | some s =>
      let s ← feed (← IO.getStdin) s
      print (s.finish (← now))
      return 0

/-- Any command. -/
def perform (command : Command) : IO UInt32 := do
  match command with
  | .run o => run o
  | other =>
      let report := other.perform (← findAll other.paths) "" (← now)
      print report.lines
      return report.code.toUInt32

end Terminal

end EventQuery

/-- The program: its arguments, and the code with which it ends. -/
def main (args : List String) : IO UInt32 :=
  match EventQuery.Command.read args with
  | some command => EventQuery.Terminal.perform command
  | none => do
      EventQuery.Terminal.print (EventQuery.Command.usage.filterMap fun line =>
        line.out?.map EventQuery.Printed.err)
      return 2
