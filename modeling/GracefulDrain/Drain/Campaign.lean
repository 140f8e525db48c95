import GracefulDrain.Drain.Verify
import GracefulDrain.Environment
import GracefulDrain.Management.Query
/-!
# Campaigns

All scenarios under all signals, one after another, and then the management address of the tunnel if one is
named. A campaign passes if nothing has failed.
-/

namespace GracefulDrain

/-- What has come of a campaign. -/
structure Campaign where
  drains : List (Except Failure DrainReport)
  /-- The management address, if a tunnel was named. -/
  address : Option (Except Failure String)

namespace Campaign
variable {ω : Type}

def scenarios : List Scenario := [.inFlight, .earlyDisconnect Scenario.defaultEarlyLines, .idle]

def plan : List (Scenario × TermSignal) :=
  TermSignal.supported.flatMap fun signal => scenarios.map fun scenario => (scenario, signal)

def verifyAll (v : DrainVerifier) (world : World ω) :
    List (Scenario × TermSignal) → ω → List (Except Failure DrainReport) × ω
  | [], w => ([], w)
  | (scenario, signal) :: rest, w =>
    let (result, w) := v.verify world scenario signal w
    let (results, w) := verifyAll v world rest w
    (result :: results, w)

def run (world : World ω) (environment : Environment) (store : CredentialStore) (w : ω) : Campaign × ω :=
  let verifier : DrainVerifier := ⟨store, environment.process, environment.settings⟩
  let (drains, w) := verifyAll verifier world plan w
  match environment.tunnelId with
  | none => (⟨drains, none⟩, w)
  | some tunnel =>
    let client : TunnelClient := { config := environment.process, store }
    let ask := client.url world.toHost environment.managementHost .wss "logs" tunnel none
    let (address, w) := ask.run.run w
    (⟨drains, some address⟩, w)

def reports (c : Campaign) : List DrainReport := c.drains.filterMap Except.toOption

def passed (c : Campaign) : Bool := c.drains.all Except.isOk && c.address.all Except.isOk

/-- The exit code of a run: zero if nothing has failed. -/
def exitCode (c : Campaign) : Nat := if c.passed then 0 else 1

end Campaign

end GracefulDrain
