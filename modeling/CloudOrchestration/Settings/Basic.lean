import CloudOrchestration.Cadence
import CloudOrchestration.Fault
import CloudOrchestration.Text.Blank
/-!
# Settings

What a client has to know: the subscription, where and how to reach the
provider, the names it makes up and the cadence of its tries.
-/

namespace CloudOrchestration

structure Settings where
  subscription : String
  endpoint : String := "https://management.core.windows.net"
  apiVersion : String := "2014-06-01"
  /-- The file with the certificate, and with the key unless that has a file
  of its own. -/
  certificate : Option String := none
  privateKey : Option String := none
  affinityPrefix : String := ""
  /-- What the made-up names of cloud services begin with. -/
  servicePrefix : String := ""
  storagePrefix : String := ""
  /-- The virtual network of the machines. -/
  network : Option String := none
  cadence : Cadence := {}
  deriving DecidableEq, Repr

namespace Settings

instance : Document Settings where
  encode s := .object [
    Document.member "subscription_id" s.subscription,
    Document.member "endpoint" s.endpoint,
    Document.member "api_version" s.apiVersion,
    Document.member "certificate_pem" s.certificate,
    Document.member "private_key_pem" s.privateKey,
    Document.member "affinity_prefix" s.affinityPrefix,
    Document.member "cloud_service_prefix" s.servicePrefix,
    Document.member "storage_prefix" s.storagePrefix,
    Document.member "virtual_network" s.network,
    Document.member "poll" s.cadence]
  decode v := do
    let ms ← v.fields? [
      "subscription_id", "endpoint", "api_version", "certificate_pem", "private_key_pem",
      "affinity_prefix", "cloud_service_prefix", "storage_prefix", "virtual_network", "poll"]
    let standard : Settings := { subscription := ← ms.required "subscription_id" }
    return {
      subscription := standard.subscription
      endpoint := ← ms.defaulted "endpoint" standard.endpoint
      apiVersion := ← ms.defaulted "api_version" standard.apiVersion
      certificate := ← ms.optional "certificate_pem"
      privateKey := ← ms.optional "private_key_pem"
      affinityPrefix := ← ms.defaulted "affinity_prefix" standard.affinityPrefix
      servicePrefix := ← ms.defaulted "cloud_service_prefix" standard.servicePrefix
      storagePrefix := ← ms.defaulted "storage_prefix" standard.storagePrefix
      network := ← ms.optional "virtual_network"
      cadence := ← ms.defaulted "poll" standard.cadence }

/-- **Settings that can be used.** The subscription is not blank, waits take
time and a read is tried at all. -/
def check (s : Settings) : Except Fault Unit := do
  if Text.isBlankText s.subscription then .error (.invalidSettings .noSubscription)
  if s.cadence.interval = 0 then .error (.invalidSettings .zeroInterval)
  if s.cadence.attempts = 0 then .error (.invalidSettings .zeroAttempts)

end Settings

end CloudOrchestration
