import StreamGateway.Number.Binary64

/-! # JSON values

A document as data. An object holds its members by increasing key, each key once, so that two
documents with the same members are the same value. -/
namespace StreamGateway

/-- A JSON value. -/
inductive Json where
  | null
  | bool (value : Bool)
  | int (value : Int)
  | float (value : Binary64)
  | str (value : String)
  | arr (items : List Json)
  | obj (members : List (String × Json))

namespace Json

/-- The members of an object, by increasing key. -/
abbrev Members := List (String × Json)

/-- The value of a key. -/
def Members.get? (key : String) : Members → Option Json
  | [] => none
  | (k, v) :: rest => if key = k then some v else get? key rest

/-- The members with `key` set to `value`, in the place that keeps them sorted. -/
def Members.set (key : String) (value : Json) : Members → Members
  | [] => [(key, value)]
  | (k, v) :: rest =>
    if key < k then (key, value) :: (k, v) :: rest
    else if key = k then (key, value) :: rest
    else (k, v) :: set key value rest

/-- The object with the given members, added from the first to the last. -/
def object (members : List (String × Json)) : Json :=
  .obj (members.foldl (fun acc (k, v) => Members.set k v acc) [])

end Json
end StreamGateway
