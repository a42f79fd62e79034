import StreamGateway.Json.Value

/-! # Layering values

One document laid over another: objects are merged member by member, anything else is replaced. A
null member of the upper document leaves the lower one alone. -/
namespace StreamGateway.Json

def isNull : Json → Bool
  | .null => true
  | _ => false

mutual

/-- `upper` laid over `lower`. -/
def merge : Json → Json → Json
  | .obj lower, .obj upper => .obj (mergeMembers lower upper)
  | _, upper => upper
termination_by structural _ upper => upper

/-- The members of `upper` laid over those of `lower`, one by one. A member that `lower` does not
have is taken over as it is. -/
def mergeMembers (lower : List (String × Json)) : List (String × Json) → List (String × Json)
  | [] => lower
  | (k, v) :: rest =>
    let merged :=
      if v.isNull then lower
      else match Members.get? k lower with
        | some old => Members.set k (merge old v) lower
        | none => Members.set k v lower
    mergeMembers merged rest
termination_by structural upper => upper

end

end StreamGateway.Json
