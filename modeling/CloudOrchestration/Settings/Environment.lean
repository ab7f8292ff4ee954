import CloudOrchestration.Settings.Basic
import CloudOrchestration.Text.Unsigned
/-!
# Settings from the environment

Only the subscription has to be set. A variable that is set counts even where
it is empty.
-/

namespace CloudOrchestration

namespace Settings

/-- The interval that a variable sets. -/
def intervalOf (value : String) : Except Fault UInt64 :=
  match Unsigned.parse? UInt64.size value with
  | some n => .ok (UInt64.ofNat n)
  | none => .error (.invalidSettings (.intervalNotNumber value))

/-- The cadence with the interval that a variable sets, if it is set. -/
def cadenceOf : Option String → Except Fault Cadence
  | none => .ok {}
  | some value => return { interval := ← intervalOf value }

/-- **The settings of an environment.** -/
def ofEnvironment (setting? : String → Option String) : Except Fault Settings := do
  match setting? "AZURE_SUBSCRIPTION_ID" with
  | none => .error (.missingVariable "AZURE_SUBSCRIPTION_ID")
  | some subscription =>
    let standard : Settings := { subscription }
    let s := { standard with
      certificate := setting? "AZURE_CERTIFICATE_PEM"
      privateKey := setting? "AZURE_PRIVATE_KEY_PEM"
      endpoint := (setting? "AZURE_MANAGEMENT_ENDPOINT").getD standard.endpoint
      affinityPrefix := (setting? "AZURE_AFFINITY_PREFIX").getD standard.affinityPrefix
      servicePrefix := (setting? "AZURE_CLOUD_SERVICE_PREFIX").getD standard.servicePrefix
      storagePrefix := (setting? "AZURE_STORAGE_PREFIX").getD standard.storagePrefix
      network := setting? "AZURE_VIRTUAL_NETWORK"
      cadence := ← cadenceOf (setting? "AZURE_POLL_INTERVAL_MS") }
    s.check
    return s

end Settings

end CloudOrchestration
