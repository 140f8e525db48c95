import GracefulDrain.Text.Trim
/-!
# Management URLs

The address under which a connector is managed, with the connector and the token as its two parameters.
-/

namespace GracefulDrain

inductive UrlScheme
  | https
  | wss
  deriving DecidableEq, Repr

def UrlScheme.name : UrlScheme → String
  | .https => "https"
  | .wss => "wss"

/-- `s` without slashes at its end. -/
def trimSlashesRight (s : String) : String := String.ofList (Text.dropRight (· == '/') s.toList)

/-- `s` without slashes at its start. -/
def trimSlashesLeft (s : String) : String := String.ofList (s.toList.dropWhile (· == '/'))

/-- The address of `path` on `host`. Nothing is escaped. -/
def managementUrl (scheme : UrlScheme) (host path connector token : String) : String :=
  s!"{scheme.name}://{trimSlashesRight host}/{trimSlashesLeft path}" ++
    s!"?connector_id={connector}&access_token={token}"

end GracefulDrain
