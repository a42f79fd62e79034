import StreamGateway.Log.Line

/-! # The writer of events

A process sets its writer up once, with a format and a filter. Setting it up again changes neither;
it only tells which directives could not be read. If the reader of directives breaks down, nothing
is written from then on. -/
namespace StreamGateway.Log

/-- A writer that has been set up. -/
structure Writer where
  format : Format
  /-- None if the reader of directives broke down. -/
  filter : Option Filter
  /-- What was told while it was set up. -/
  notices : List Notice := []
deriving DecidableEq

namespace Writer

/-- The writer for a level; a filter from the environment comes before it. -/
def setUp (environment : Option String) (format : Format) (level : String) : Writer :=
  let (filter, notices) := Filter.resolve environment level
  { format, filter, notices }

/-- A later attempt to set the writer up. -/
def setUpAgain (w : Writer) (environment : Option String) (level : String) : Writer :=
  match w.filter, Filter.resolve environment level with
  | none, _ => w
  | some _, (none, notices) => { w with filter := none, notices := w.notices ++ notices }
  | some _, (some _, notices) => { w with notices := w.notices ++ notices }

/-- The events of a journal that are written. -/
def written (w : Writer) (j : Journal) : Journal :=
  match w.filter with
  | some f => j.filter f.admits
  | none => []

/-- All lines: the notices, and then the events of a journal. -/
def lines (w : Writer) (time : String) (j : Journal) : List Json :=
  w.notices.flatMap (bareLines ·.text) ++ (w.written j).flatMap (·.lines time w.format)

end Writer
end StreamGateway.Log
