import StreamGateway.Log.Directive

/-! # Which events are written

A filter is a list of directives divided by commas. Of the directives that apply to an event the
most specific one decides; an event to which none applies is not written. -/
namespace StreamGateway.Log

/-- A list of directives. -/
abbrev Filter := List Directive

/-- A directive that is left out because it cannot be read. -/
structure Notice where
  directive : String
  error : DirectiveError
deriving DecidableEq

def Notice.text (n : Notice) : String := "ignoring `" ++ n.directive ++ "`: " ++ n.error.message

namespace Filter

/-- The directives of a text, unread; there is none between two commas that touch. -/
def entries (s : String) : List String :=
  ((Text.pieces ',' s.toList).filter (!·.isEmpty)).map String.ofList

/-- The filter of a text, all of whose directives can be read. Without any directive nothing is
written. -/
def read (s : String) : Except DirectiveFailure Filter := (entries s).mapM Directive.read

/-- Where nothing else is asked for, errors are written. -/
def orErrors (f : Filter) : Filter := if f.isEmpty then [{ limit := some .error }] else f

/-- What can be read of some directives, with a notice for each that cannot; if none can, errors are
written. There is no filter if the reader breaks down, and what follows is not looked at. -/
def readEntries (f : Filter) (notices : List Notice) : List String → Option Filter × List Notice
  | [] => (some (orErrors f), notices)
  | directive :: rest =>
    match Directive.read directive with
    | .ok d => readEntries (f ++ [d]) notices rest
    | .error (.refused error) => readEntries f (notices ++ [{ directive, error }]) rest
    | .error .breakdown => (none, notices)

/-- The filter in force: that of the environment if it is set and can be read, be it empty, else
what can be read of the given one. There is none if the reader breaks down. -/
def resolve (environment : Option String) (level : String) : Option Filter × List Notice :=
  match environment.map read with
  | some (.ok f) => (some f, [])
  | some (.error .breakdown) => (none, [])
  | some (.error (.refused _)) | none => readEntries [] [] (entries level)

/-- The most specific directive that applies; of two equally specific ones the later. -/
def choose (f : Filter) (e : Event) : Option Directive :=
  f.foldl (fun best d =>
    if d.appliesTo e then
      match best with
      | some b => if d.decidesOver b then some d else best
      | none => some d
    else best) none

def admits (f : Filter) (e : Event) : Bool :=
  match f.choose e with
  | some d => e.level.rank ≤ d.rank
  | none => false

end Filter
end StreamGateway.Log
