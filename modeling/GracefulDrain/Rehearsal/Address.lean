/-!
# Addresses without a server

Why a request fails where no server can be reached, by the form of its address.
-/

namespace GracefulDrain.Address

/-- Whether `c` may stand in the scheme of an address, behind its first letter. -/
def isSchemeChar (c : Char) : Bool := c.isAlphanum || c == '+' || c == '-' || c == '.'

/-- The scheme of an address in lower case, and what stands behind its colon. -/
def scheme? (address : String) : Option (String × List Char) :=
  match address.toList.span isSchemeChar with
  | (c :: cs, ':' :: rest) =>
    if c.isAlpha then some (String.ofList ((c :: cs).map Char.toLower), rest) else none
  | _ => none

/-- Whether `c` ends the host of an address. -/
def endsHost (c : Char) : Bool := c == '/' || c == '\\' || c == '?' || c == '#'

/-- An address without a path gets the root for one. -/
def withPath (host rest : List Char) : List Char :=
  match rest with
  | '/' :: _ => host ++ rest
  | _ => host ++ '/' :: rest

/-- Why a request for an address fails. -/
def fault (address : String) : String :=
  match scheme? address with
  | none => "builder error"
  | some (scheme, rest) =>
    if scheme = "http" ∨ scheme = "https" then
      let (host, path) := (rest.dropWhile (· == '/')).span (!endsHost ·)
      if host.isEmpty then "builder error"
      else
        let url := scheme ++ "://" ++ String.ofList (withPath host path)
        s!"error sending request for url ({url})"
    else s!"builder error for url ({address})"

end GracefulDrain.Address
