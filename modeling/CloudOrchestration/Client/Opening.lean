import CloudOrchestration.Client.Basic
import CloudOrchestration.Transport.Http
/-!
# Setting up a client

The settings are checked before the files that they name are read.
-/

namespace CloudOrchestration

namespace Client

/-- **The client that settings describe**, and how its requests go out. -/
def ofSettings (files : Files) (s : Settings) (wire : Wire) :
    Except Fault (Client × HttpTransport) := do
  s.check
  let transport ← HttpTransport.ofSettings files s
  return (⟨s, wire⟩, transport)

end Client

end CloudOrchestration
