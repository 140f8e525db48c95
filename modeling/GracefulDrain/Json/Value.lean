/-!
# JSON values

A JSON document as a tree. Integers of 64 bits, signed or unsigned, are kept exactly; every other number is
a double, held by its bits. An object that was read holds its members in the order of their names, each
name once; an object that is about to be written holds them in the order of writing.
-/

namespace GracefulDrain

inductive Json
  | null
  | bool (b : Bool)
  | int (n : Int)
  | double (bits : UInt64)
  | str (s : String)
  | arr (items : List Json)
  | obj (members : List (String × Json))

namespace Json

/-- Members of an object that was read: ordered by name, no name twice. -/
abbrev Members := List (String × Json)

/-- Sets the member `name`, keeping the order. -/
def Members.insert (name : String) (value : Json) : Members → Members
  | [] => [(name, value)]
  | (n, v) :: rest =>
    if name < n then (name, value) :: (n, v) :: rest
    else if name = n then (name, value) :: rest
    else (n, v) :: Members.insert name value rest

/-- The members of `pairs`, where a later pair replaces an earlier one of the same name. -/
def Members.ofList (pairs : List (String × Json)) : Members :=
  pairs.foldl (fun ms p => ms.insert p.1 p.2) []

end Json

end GracefulDrain
