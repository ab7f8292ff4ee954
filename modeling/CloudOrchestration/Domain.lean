/-!
# Lock domains

Three kinds of change to one subscription must not overlap with another of
their kind. Each has a lock of its own.
-/

namespace CloudOrchestration

/-- What a lock guards. -/
inductive Domain where
  /-- Submitting services, deployments and roles. -/
  | general
  /-- Reading, changing and writing the network topology. -/
  | network
  /-- Attaching data disks. -/
  | storage
  deriving DecidableEq, Repr

namespace Domain

/-- The domains, in the order in which they are listed. -/
def all : List Domain := [.general, .network, .storage]

def text : Domain → String
  | .general => "general"
  | .network => "network"
  | .storage => "storage"

def ofText? : String → Option Domain
  | "general" => some .general
  | "network" => some .network
  | "storage" => some .storage
  | _ => none

@[simp] theorem ofText?_text (d : Domain) : ofText? d.text = some d := by cases d <;> rfl

end Domain

end CloudOrchestration
