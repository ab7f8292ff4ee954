import CloudOrchestration.Document.Basic
/-!
# Configurations of a role

A role is submitted with configurations of four kinds, told apart by a
member beside the others. The address under which a role is
reached from outside stands in its network configuration.
-/

namespace CloudOrchestration

/-- A port of a role that is reached from outside. -/
structure Endpoint where
  name : String
  protocol : String
  port : UInt16
  localPort : UInt16
  vip : Option String
  deriving DecidableEq, Repr

instance : Document Endpoint where
  encode e := .object [
    Document.member "Name" e.name,
    Document.member "Protocol" e.protocol,
    Document.member "Port" e.port,
    Document.member "LocalPort" e.localPort,
    Document.memberIfSome "Vip" e.vip]
  decode v := do
    let ms ← v.fields? ["Name", "Protocol", "Port", "LocalPort", "Vip"]
    return {
      name := ← ms.required "Name"
      protocol := ← ms.required "Protocol"
      port := ← ms.required "Port"
      localPort := ← ms.required "LocalPort"
      vip := ← ms.optional "Vip" }

structure NetworkConfiguration where
  endpoints : List Endpoint
  subnets : List String
  staticAddress : Option String
  deriving DecidableEq, Repr

namespace NetworkConfiguration

def entries (c : NetworkConfiguration) : List (String × Option Json) := [
  Document.member "InputEndpoints" c.endpoints,
  Document.member "SubnetNames" c.subnets,
  Document.memberIfSome "StaticVirtualNetworkIpAddress" c.staticAddress]

def read (ms : Members) : Option NetworkConfiguration := do
  return {
    endpoints := ← ms.defaulted "InputEndpoints" []
    subnets := ← ms.defaulted "SubnetNames" []
    staticAddress := ← ms.optional "StaticVirtualNetworkIpAddress" }

instance : Document NetworkConfiguration where
  encode c := .object c.entries
  decode v := v.fields? ["InputEndpoints", "SubnetNames", "StaticVirtualNetworkIpAddress"] >>= read

end NetworkConfiguration

structure LinuxProvisioning where
  hostName : String
  userName : String
  userPassword : Option String
  disablePasswordLogin : Bool
  deriving DecidableEq, Repr

namespace LinuxProvisioning

def entries (c : LinuxProvisioning) : List (String × Option Json) := [
  Document.member "HostName" c.hostName,
  Document.member "UserName" c.userName,
  Document.memberIfSome "UserPassword" c.userPassword,
  Document.member "DisableSshPasswordAuthentication" c.disablePasswordLogin]

def read (ms : Members) : Option LinuxProvisioning := do
  return {
    hostName := ← ms.required "HostName"
    userName := ← ms.required "UserName"
    userPassword := ← ms.optional "UserPassword"
    disablePasswordLogin := ← ms.defaulted "DisableSshPasswordAuthentication" false }

instance : Document LinuxProvisioning where
  encode c := .object c.entries
  decode v :=
    v.fields? ["HostName", "UserName", "UserPassword", "DisableSshPasswordAuthentication"]
      >>= read

end LinuxProvisioning

structure WindowsProvisioning where
  computerName : String
  adminUsername : String
  adminPassword : String
  automaticUpdates : Bool
  deriving DecidableEq, Repr

namespace WindowsProvisioning

def entries (c : WindowsProvisioning) : List (String × Option Json) := [
  Document.member "ComputerName" c.computerName,
  Document.member "AdminUsername" c.adminUsername,
  Document.member "AdminPassword" c.adminPassword,
  Document.member "EnableAutomaticUpdates" c.automaticUpdates]

def read (ms : Members) : Option WindowsProvisioning := do
  return {
    computerName := ← ms.required "ComputerName"
    adminUsername := ← ms.required "AdminUsername"
    adminPassword := ← ms.required "AdminPassword"
    automaticUpdates := ← ms.defaulted "EnableAutomaticUpdates" false }

instance : Document WindowsProvisioning where
  encode c := .object c.entries
  decode v :=
    v.fields? ["ComputerName", "AdminUsername", "AdminPassword", "EnableAutomaticUpdates"]
      >>= read

end WindowsProvisioning

structure DomainJoin where
  domain : String
  userName : String
  password : String
  joinDomain : String
  deriving DecidableEq, Repr

namespace DomainJoin

def entries (c : DomainJoin) : List (String × Option Json) := [
  Document.member "Domain" c.domain,
  Document.member "UserName" c.userName,
  Document.member "Password" c.password,
  Document.member "JoinDomain" c.joinDomain]

def read (ms : Members) : Option DomainJoin := do
  return {
    domain := ← ms.required "Domain"
    userName := ← ms.required "UserName"
    password := ← ms.required "Password"
    joinDomain := ← ms.required "JoinDomain" }

instance : Document DomainJoin where
  encode c := .object c.entries
  decode v := v.fields? ["Domain", "UserName", "Password", "JoinDomain"] >>= read

end DomainJoin

/-- A configuration of a role. -/
inductive Configuration where
  | network (c : NetworkConfiguration)
  | linux (c : LinuxProvisioning)
  | windows (c : WindowsProvisioning)
  | domainJoin (c : DomainJoin)
  deriving DecidableEq, Repr

namespace Configuration

/-- The member that tells the kinds apart; in an array it comes first. -/
def kindKey : String := "ConfigurationSetType"

def kind : Configuration → String
  | .network _ => "NetworkConfiguration"
  | .linux _ => "LinuxProvisioningConfiguration"
  | .windows _ => "WindowsProvisioningConfiguration"
  | .domainJoin _ => "DomainJoinConfiguration"

def entries : Configuration → List (String × Option Json)
  | .network c => c.entries
  | .linux c => c.entries
  | .windows c => c.entries
  | .domainJoin c => c.entries

/-- The configuration of a kind. -/
def read (kind : String) (content : Json) : Option Configuration :=
  match kind with
  | "NetworkConfiguration" => (decode content).map .network
  | "LinuxProvisioningConfiguration" => (decode content).map .linux
  | "WindowsProvisioningConfiguration" => (decode content).map .windows
  | "DomainJoinConfiguration" => (decode content).map .domainJoin
  | _ => none

instance : Document Configuration where
  encode c := .object (Document.member kindKey c.kind :: c.entries)
  decode v := do
    let (kind, content) ← v.tagged? kindKey
    read (← decode kind) content

/-- The network configuration, if it is one. -/
def network? : Configuration → Option NetworkConfiguration
  | .network c => some c
  | _ => none

end Configuration

end CloudOrchestration
