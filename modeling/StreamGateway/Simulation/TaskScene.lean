import StreamGateway.Gateway.Error
import StreamGateway.Pool.Workers

/-! # Tasks at work

A pool with tasks that log when they start and end and wait in between, the tracker that counts
them, and a shutdown that some of them wait for. What can go on goes on in the order in which it
became able to. -/
namespace StreamGateway

/-- A task: it waits for its own release, or for the shutdown. -/
structure ScriptedTask where
  name : String
  onShutdown : Bool
  /-- It runs on a worker of the pool. -/
  pooled : Bool
  /-- A release that came before the task waited for it. -/
  released : Bool := false
  started : Bool := false
  ended : Bool := false
deriving DecidableEq

/-- Tasks, numbered in the order of submission. -/
structure TaskScene where
  pool : Pool Nat
  tasks : Array ScriptedTask := #[]
  cancelled : Bool := false
  /-- The tasks that have started, the last first. -/
  begun : List Nat := []
  /-- What was logged since the last report, the last line first. -/
  lines : List String := []

namespace TaskScene

/-- How a piece of blocking work ends. -/
inductive Work where
  | value
  | error
  | crash
deriving DecidableEq

/-- What is done next. -/
inductive Step where
  | submit (name : String) (onShutdown : Bool)
  | spawn (name : String) (onShutdown : Bool)
  | release (name : String)
  | abort (name : String)
  | blocking (work : Work) (text : String)
  | shutdown
  | graceful

/-- What a step led to. -/
inductive Outcome where
  | ok
  | value (text : String)
  | failed (e : GatewayError)
  | drained (all : Bool)

/-- Tasks that are not over. -/
def tracked (s : TaskScene) : Nat := s.tasks.countP (!·.ended)

/-- The latest task of a name. -/
def find? (s : TaskScene) (name : String) : Option (Nat × ScriptedTask) :=
  ((List.range s.tasks.size).filterMap fun i => s.tasks[i]?.map (i, ·)).reverse.find?
    (·.2.name = name)

def put (s : TaskScene) (i : Nat) (t : ScriptedTask) : TaskScene :=
  { s with tasks := s.tasks.setIfInBounds i t }

def log (s : TaskScene) (line : String) : TaskScene := { s with lines := line :: s.lines }

/-- A waiting task may go on. -/
def mayEnd (s : TaskScene) (t : ScriptedTask) : Bool :=
  if t.onShutdown then s.cancelled else t.released

/-- A task starts. -/
def startTask (s : TaskScene) (i : Nat) (t : ScriptedTask) : TaskScene :=
  { s.put i { t with started := true } with begun := i :: s.begun }.log ("start " ++ t.name)

/-- The task whose turn it is starts, or ends if it may; the next task of the pool is called up
behind those whose turn comes first. `rounds` bounds the number of turns. -/
def run (s : TaskScene) : Nat → List Nat → TaskScene
  | 0, _ => s
  | _, [] => s
  | rounds + 1, i :: turns =>
    match s.tasks[i]? with
    | none => s.run rounds turns
    | some t =>
      if t.ended then s.run rounds turns
      else
        let s := if t.started then s else s.startTask i t
        if s.mayEnd t then
          let s := (s.put i { t with started := true, ended := true }).log ("end " ++ t.name)
          let s := if t.pooled then { s with pool := s.pool.finish i } else s
          match s.pool.start? with
          | some (j, pool) => { s with pool }.run rounds (turns ++ [j])
          | none => s.run rounds turns
        else s.run rounds turns

/-- Gives tasks their turns. Every turn starts or ends a task, so twice their number is enough. -/
def settle (s : TaskScene) (turns : List Nat) : TaskScene :=
  s.run (2 * s.tasks.size + turns.length + 2) turns

/-- Calls up a task of the pool, if a worker is free. -/
def callUp (s : TaskScene) : TaskScene :=
  match s.pool.start? with
  | some (i, pool) => { s with pool }.settle [i]
  | none => s

/-- The shutdown: all tasks that wait for it have their turn, in the order in which they began to
wait. -/
def cancel (s : TaskScene) : TaskScene :=
  let s := { s with cancelled := true }
  s.settle (s.begun.reverse.filter fun i =>
    match s.tasks[i]? with
    | some t => !t.ended && t.onShutdown
    | none => false)

def step (s : TaskScene) : Step → Outcome × TaskScene
  | .submit name onShutdown =>
    let i := s.tasks.size
    let s := { s with
      tasks := s.tasks.push { name, onShutdown, pooled := true }, pool := s.pool.submit i }
    (.ok, s.callUp)
  | .spawn name onShutdown =>
    let i := s.tasks.size
    (.ok, { s with tasks := s.tasks.push { name, onShutdown, pooled := false } }.settle [i])
  | .release name =>
    match s.find? name with
    | none => (.ok, s)
    | some (i, t) =>
      let s := s.put i { t with released := true }
      (.ok, if t.started then s.settle [i] else s)
  | .abort name =>
    match s.find? name with
    | none => (.ok, s)
    | some (i, t) =>
      if t.ended then (.ok, s)
      else
        let s := s.put i { t with ended := true }
        let s := if t.pooled then { s with pool := s.pool.abort i } else s
        (.ok, s.callUp)
  | .blocking .value text => (.value text, s)
  | .blocking .error text => (.failed (.duplicateSubscription text), s)
  | .blocking .crash _ => (.failed .task, s)
  | .shutdown => (.ok, s.cancel)
  | .graceful =>
    let s := s.cancel
    (.drained (s.tracked = 0), s)

/-- What was logged since the last report, in order. -/
def takeLines (s : TaskScene) : List String × TaskScene := (s.lines.reverse, { s with lines := [] })

end TaskScene
end StreamGateway
