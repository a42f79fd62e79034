import StreamGateway.Gateway.Teardown

/-! # Shutting down

No new connection is taken in, the live ones are taken down one after the other, the poller is
closed with all that is still registered, and the other tasks have some time to come to their
end. -/
namespace StreamGateway

variable {τ : Type} [Severable τ]

namespace Shutdown

/-- How long a shutdown waits if nothing else is said, in milliseconds. -/
def standardTimeoutMs : Nat := 30000

/-- The digits behind the point of a number of seconds, given in milliseconds. -/
def fraction (ms : Nat) : String :=
  let digits := [ms / 100 % 10, ms / 10 % 10, ms % 10]
  match (digits.reverse.dropWhile (· = 0)).reverse with
  | [] => ""
  | ds => "." ++ String.ofList (ds.map Nat.digitChar)

/-- A span of time in words: seconds, or milliseconds below one second. -/
def spanText (ms : Nat) : String :=
  if ms = 0 then "0ns"
  else if ms < 1000 then toString ms ++ "ms"
  else toString (ms / 1000) ++ fraction (ms % 1000) ++ "s"

/-- Logs how the waiting goes. -/
def log (s : Gateway τ) (level : Log.Level) (message : String)
    (fields : List (String × Log.Value)) : Gateway τ :=
  { s with journal := s.journal ++ [{ level, target := "gate_ws::shutdown", message, fields }] }

/-- Polling has come to its end, or there is none. -/
def pollingOver (s : Gateway τ) : Bool :=
  s.tasks.all fun
    | (_, .polling stage) => Activity.isOver (.polling stage)
    | _ => true

/-- Shuts down a connection that the poller still had. -/
def sever (s : Gateway τ) (c : Nat) : Gateway τ :=
  s.modifyHandler c fun h =>
    { h with link := { h.link with transport := Severable.sever h.link.transport } }

/-- Goes on with a shutdown that may take `timeoutMs`. -/
def step (a : Answers τ) (s : Gateway τ) (timeoutMs : Nat) : Shutdown → Shutdown × Gateway τ
  | .announcing =>
    (.cancelling, s.log .info "subscription gateway shutting down"
      [("connections", .number s.live.length)])
  | .cancelling => (.listing, { s with shuttingDown := true })
  | .listing => (.closing s.live .removing, s)
  | .closing [] _ => (if s.isPolling then .shutting else .settling, s)
  | .closing (c :: rest) stage =>
    if stage.isOver then (.closing rest .removing, s)
    else
      let (stage, s) := stage.step a s c
      (.closing (c :: rest) stage, s)
  | .shutting =>
    match s.poller with
    | none => (.settling, s)
    | some p =>
      let (before, p) := p.shut
      (.draining before, { s with poller := some p })
  | .draining before =>
    match s.poller with
    | none => (.settling, s)
    | some p =>
      if before ∧ p.conns.isEmpty then (.settling, s)
      else
        let (drained, p) := p.drain
        (.releasing (drained.map Int.toNat), { s with poller := some p })
  | .releasing drained =>
    let event : Log.Event :=
      { level := .debug, target := Poller.target, message := "poller closed"
        fields := [("connections", .number drained.length), ("close_conns", .flag true)] }
    (.severing drained,
      { s with poller := s.poller.map Poller.closeBackend, journal := s.journal ++ [event] })
  | .severing [] => (.settling, s)
  | .severing (c :: rest) => (.severing rest, sever s c)
  | .settling =>
    (.waiting, log s .info "waiting for connection tasks to complete"
      [("task_count", .number s.tracked), ("timeout_ms", .number timeoutMs)])
  | .waiting =>
    if s.tracked = 0 then (.joining true, s)
    else if a.expired then
      (.joining false, log s .warn ("shutdown timed out after " ++ spanText timeoutMs)
        [("remaining", .number s.tracked)])
    else (.waiting, s)
  | .joining drained => (if pollingOver s then .returned drained else .joining drained, s)
  | .returned drained => (.returned drained, s)

end Shutdown
end StreamGateway
