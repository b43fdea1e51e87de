import Routing.Fault
import Routing.Files.Tree
import Routing.Log

/-!
Logs on disk: each entry is a line at the end of the file for its day.

    <dir>/2024/03/09.log

The directories for year and month can be left out, and the name of the file can be a fixed one. A
header, if there is one, is the first line of each file that the writer makes.

Within a batch the file of an entry stays open for the next one. It is left when an entry belongs to
another file, and opened anew when one belongs to it again.
-/

namespace Routing

/-- A writer of logs. -/
structure LogWriter where
  dir : String
  /-- Are there directories for year and month? -/
  subDirectories : Bool
  /-- The name of all files; without it, a file is named by the day of the month. -/
  filename : Option String
  header : Option String
  deriving DecidableEq, Repr

namespace LogWriter

/-- The writer for a directory, which has to be there. -/
def of (files : Files.Tree) (dir : String) : Except Fault LogWriter :=
  if files.isDirectory dir then .ok ⟨dir, true, none, none⟩
  else .error (.config (.noLogDirectory dir))

/-- The directory for a date. -/
def dirFor (w : LogWriter) (date : Date) : String :=
  if w.subDirectories then
    Files.join (Files.join w.dir (Date.yearText date.year)) date.monthText
  else w.dir

/-- The path of the file for a date. -/
def pathFor (w : LogWriter) (date : Date) : String :=
  Files.join (w.dirFor date) (w.filename.getD (date.dayText ++ ".log"))

/-- What a file holds before the first entry. -/
def heading (w : LogWriter) : String :=
  match w.header with
  | some header => header ++ "\n"
  | none => ""

/-- Opens a file to append to it. The directories on the way are made, and stay even if that fails
then; a file that is not there is made, with its heading. -/
def openFile (w : LogWriter) (files : Files.Tree) (path : String) :
    Files.Tree × Except Fault Unit :=
  match files.makeDirectories (Files.parent path) with
  | (files, false) => (files, .error .files)
  | (files, true) =>
    match files.read path with
    | .ok _ => (files, .ok ())
    | .error .notFound =>
      match files.write path w.heading with
      | .ok files => (files, .ok ())
      | .error _ => (files, .error .files)
    | .error .other => (files, .error .files)

/-- Appends a text to a file that has been opened. -/
def append (files : Files.Tree) (path text : String) : Except Files.Refusal Files.Tree := do
  files.write path ((← files.read path) ++ text)

/-- The file of an entry. -/
def fileFor (w : LogWriter) (entry : LogEntry) : String := w.pathFor entry.timestamp.date

/-- Writes one entry to its file. That is opened, unless it is the one that is open. -/
def writeEntry (w : LogWriter) (opened : Option String) (files : Files.Tree) (entry : LogEntry) :
    Files.Tree × Except Fault Unit :=
  let path := w.fileFor entry
  match if opened = some path then (files, .ok ()) else w.openFile files path with
  | (files, .error fault) => (files, .error fault)
  | (files, .ok ()) =>
    match append files path (entry.line ++ "\n") with
    | .ok files => (files, .ok ())
    | .error _ => (files, .error .files)

/-- Writes entries in order, up to the first that fails. What was written before stays. The file of
each entry stays open for the next one. -/
def writeFrom (w : LogWriter) (opened : Option String) (files : Files.Tree) :
    List LogEntry → Files.Tree × Except Fault Unit
  | [] => (files, .ok ())
  | entry :: rest =>
    match w.writeEntry opened files entry with
    | (files, .ok ()) => w.writeFrom (some (w.fileFor entry)) files rest
    | failed => failed

/-- Writes a batch of entries; no file is open at first. -/
def write (w : LogWriter) (files : Files.Tree) (entries : List LogEntry) :
    Files.Tree × Except Fault Unit :=
  w.writeFrom none files entries

end LogWriter

end Routing
