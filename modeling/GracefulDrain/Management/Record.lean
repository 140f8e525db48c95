import GracefulDrain.Failure
import GracefulDrain.Json.Decode
import GracefulDrain.Json.Writer
import GracefulDrain.Text.Trim
/-!
# Administrative records

The JSON that the administrative commands of a connector print: the list of tunnels, the description of one
tunnel, and a management token. Records of tunnels and connectors keep the members they do not know.
-/

namespace GracefulDrain

structure TunnelRecord where
  id : String
  name : String
  extra : Json.Members

structure ConnectorRecord where
  id : String
  extra : Json.Members

structure TunnelInfo where
  id : String
  name : String
  conns : List ConnectorRecord

namespace TunnelRecord
open Json Json.Reader

/-- The members that have been met so far, those kept as they are in reverse. -/
structure Fields where
  id : Option String := none
  name : Option String := none
  extra : List (String × Json) := []

/-- Reads a member; `room` bounds the nesting of one that is kept. -/
def member (room : Nat) (name : String) (f : Fields) : Reader Fields := do
  if name = "id" then return { f with id := ← once name f.id string }
  else if name = "name" then return { f with name := ← once name f.name string }
  else
    colon
    return { f with extra := (name, ← value room) :: f.extra }

def read (room : Nat) : Reader TunnelRecord :=
  fromObject "struct TunnelRecord" do
    let f ← members (member room) {}
    return ⟨← required "id" f.id, f.name.getD "", Members.ofList f.extra.reverse⟩

def toJson (r : TunnelRecord) : Json := .obj (("id", .str r.id) :: ("name", .str r.name) :: r.extra)

def parseList (printed : String) : Except Malformed (List TunnelRecord) :=
  match document (list (read (maxDepth - 2))) (Utf8.encode (Text.trim printed)) with
  | .ok records => .ok records
  | .error e => .error ⟨"tunnel list", e.message⟩

end TunnelRecord

namespace ConnectorRecord
open Json Json.Reader

/-- The members that have been met so far, those kept as they are in reverse. -/
structure Fields where
  id : Option String := none
  extra : List (String × Json) := []

/-- Reads a member; `room` bounds the nesting of one that is kept. -/
def member (room : Nat) (name : String) (f : Fields) : Reader Fields := do
  if name = "id" then return { f with id := ← once name f.id string }
  else
    colon
    return { f with extra := (name, ← value room) :: f.extra }

def read (room : Nat) : Reader ConnectorRecord :=
  fromObject "struct ConnectorRecord" do
    let f ← members (member room) {}
    return ⟨← required "id" f.id, Members.ofList f.extra.reverse⟩

def toJson (r : ConnectorRecord) : Json := .obj (("id", .str r.id) :: r.extra)

end ConnectorRecord

namespace TunnelInfo
open Json Json.Reader

def connectorIds (i : TunnelInfo) : List String := i.conns.map (·.id)

/-- The members that have been met so far. -/
structure Fields where
  id : Option String := none
  name : Option String := none
  conns : Option (List ConnectorRecord) := none

def connsField : Reader (List ConnectorRecord) := list (ConnectorRecord.read (maxDepth - 3))

def member (name : String) (f : Fields) : Reader Fields := do
  if name = "id" then return { f with id := ← once name f.id string }
  else if name = "name" then return { f with name := ← once name f.name string }
  else if name = "conns" then return { f with conns := ← once name f.conns connsField }
  else
    colon
    skipValue
    pure f

def fromMembers : Reader TunnelInfo := do
  let f ← members member {}
  return ⟨f.id.getD "", f.name.getD "", ← required "conns" f.conns⟩

def fromItems : Reader TunnelInfo := do
  let id ← item? true string
  let name ← item? false string
  return ⟨id.getD "", name.getD "", ← itemAt 2 "struct TunnelInfo with 3 elements" connsField⟩

def toJson (i : TunnelInfo) : Json :=
  .obj [("id", .str i.id), ("name", .str i.name), ("conns", .arr (i.conns.map ConnectorRecord.toJson))]

def parse (printed : String) : Except Malformed TunnelInfo :=
  match document (fromEither "struct TunnelInfo" fromMembers fromItems)
      (Utf8.encode (Text.trim printed)) with
  | .ok info => .ok info
  | .error e => .error ⟨"tunnel info", e.message⟩

end TunnelInfo

namespace Token
open Json Json.Reader

def member (name : String) (seen : Option String) : Reader (Option String) := do
  if name = "token" then once name seen string
  else
    colon
    skipValue
    pure seen

def read : Reader String :=
  fromEither "struct TokenResponse"
    (do required "token" (← members member none))
    (itemAt 0 "struct TokenResponse with 1 element" string)

/-- Reads a management token, with blanks around the document. A token is never empty. -/
def parse (printed : String) : Except Malformed String :=
  match document read (Utf8.encode (Text.trim printed)) with
  | .ok token => if token.isEmpty then .error ⟨"token", "empty token"⟩ else .ok token
  | .error e => .error ⟨"token", e.message⟩

end Token

end GracefulDrain
