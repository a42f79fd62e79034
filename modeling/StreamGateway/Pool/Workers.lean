/-! # Worker pools

Jobs behind a limit: at most `size` run at once, and the others wait in the order in which they
came. -/
namespace StreamGateway

/-- Jobs of which at most `size` run at once. -/
structure Pool (κ : Type) where
  size : Nat
  running : List κ := []
  /-- Jobs that wait for a worker, the first one first. -/
  waiting : List κ := []

namespace Pool

variable {κ : Type}

/-- The largest number of workers that can be counted. -/
def largest : Nat := Nat.pow 2 61 - 1

/-- A pool with at least one worker; none if there are too many to count. -/
def create? (size : Nat) : Option (Pool κ) :=
  if largest < size then none else some { size := max 1 size }

/-- Workers that run nothing. -/
def idle (p : Pool κ) : Nat := p.size - p.running.length

/-- Jobs that are not finished. -/
def jobs (p : Pool κ) : List κ := p.running ++ p.waiting

def submit (p : Pool κ) (job : κ) : Pool κ := { p with waiting := p.waiting ++ [job] }

/-- The job that gets a free worker next. -/
def start? (p : Pool κ) : Option (κ × Pool κ) :=
  match p.waiting with
  | [] => none
  | job :: rest =>
    if p.running.length < p.size then
      some (job, { p with running := p.running ++ [job], waiting := rest })
    else none

/-- All free workers take jobs. -/
def fill (p : Pool κ) : Pool κ :=
  { p with running := p.running ++ p.waiting.take p.idle, waiting := p.waiting.drop p.idle }

/-- A job is over; its worker is free again. -/
def finish [DecidableEq κ] (p : Pool κ) (job : κ) : Pool κ :=
  { p with running := p.running.erase job }

/-- A job is given up, whether or not it was running. -/
def abort [DecidableEq κ] (p : Pool κ) (job : κ) : Pool κ :=
  { p with running := p.running.erase job, waiting := p.waiting.erase job }

end Pool
end StreamGateway
