import StreamGateway.Protocol.Frame

/-! # Responses of the engine

A response is sent on as it is written, as a result or as errors; which of the two is decided by its
`errors` member alone. -/
namespace StreamGateway

open Json (Raw Problem)

/-- The members of a response that decide how it is sent. -/
structure Response where
  errors : Option Raw := none
  extensions : Option Raw := none
deriving DecidableEq

namespace Response

/-- The response as a record in a text. -/
def record : Json.Record Response where
  title := "struct ResponseShape"
  fields := [
    { name := "errors"
      read := fun r cs => do
        let (errors, rest) ← Json.optional Raw.read cs
        return ({ r with errors }, rest) },
    { name := "extensions"
      read := fun r cs => do
        let (extensions, rest) ← Json.optional Raw.read cs
        return ({ r with extensions }, rest) }]

/-- The deciding members of a response. -/
def parse (raw : Raw) : Except Problem Response := record.parse {} raw.text

/-- The value is a list or an object. -/
def isContainer (raw : Raw) : Bool :=
  match raw.text.toList with
  | '[' :: _ | '\x7b' :: _ => true
  | _ => false

/-- The errors that are to be sent as such. -/
def failures? (r : Response) : Option Raw := r.errors.filter isContainer

/-- The errors that report one message. -/
def errorsOf (message : String) : Raw := ⟨Json.render (.arr [.obj [("message", .str message)]])⟩

end Response
end StreamGateway
