import StreamGateway.Digest.Sha256
import StreamGateway.Text.Blank
import StreamGateway.Text.Utf8

/-! # Subprotocols

The three conversations that a client can ask for, and how one is chosen from what it offers. -/
namespace StreamGateway

/-- A conversation with a client. -/
inductive Subprotocol where
  /-- Objects, with client pings. -/
  | transport
  /-- Objects, with keepalives from the server. -/
  | legacy
  /-- Channel messages. -/
  | absinthe
deriving DecidableEq

namespace Subprotocol

def name : Subprotocol → String
  | .transport => "graphql-transport-ws"
  | .legacy => "graphql-ws"
  | .absinthe => "absinthe"

/-- The supported conversations, the preferred one first. -/
def all : List Subprotocol := [.transport, .legacy, .absinthe]

/-- The conversation with this name. -/
def named? (s : String) : Option Subprotocol := all.find? (·.name = s)

/-- The names in the values of one or more headers, in order. -/
def offered (values : List String) : List String :=
  values.flatMap fun v => (Text.pieces ',' v.toList).map fun p => Text.trim (String.ofList p)

/-- The first offered name that is supported. -/
def select (values : List String) : Option Subprotocol := (offered values).findSome? named?

/-- What a subscription is called on a channel: the client's reference, followed by its digest in
decimal. The same reference always gives the same id. -/
def channelId (ref : String) : String :=
  "__absinthe__:doc:" ++ ref ++ ":" ++ toString (Digest.sha256 (Text.Utf8.encode ref))

end Subprotocol
end StreamGateway
