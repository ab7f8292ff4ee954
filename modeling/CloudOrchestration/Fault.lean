import CloudOrchestration.Document.DataDisk
import CloudOrchestration.Document.Rejection
import CloudOrchestration.Domain
import CloudOrchestration.Request
import CloudOrchestration.Text.Quoted
/-!
# Faults

Why a call failed. A fault is a cause, and its wording is given once, in
`message`. Absence of a resource is no fault where a call looks for it.
Kinds whose cause may also come from outside, as a text, have a case
`reported` for that.
-/

namespace CloudOrchestration

/-- What was given up at the deadline. -/
inductive Overrun where
  /-- A state that was waited for. -/
  | waiting (what state : String)
  /-- A read that no attempt got an answer to. -/
  | unanswered (path : String) (attempts : Nat) (failure : String)
  /-- A change that the provider kept putting off. -/
  | conflicting (method : Method) (path : String) (last : Rejection)
  | reported (text : String)
  deriving DecidableEq, Repr

namespace Overrun

def text : Overrun → String
  | waiting what state => s!"Timed out waiting for {what}. Last state was: {state}"
  | unanswered path attempts failure =>
    s!"GET {path} did not get a response after {attempts} attempts: {failure}"
  | conflicting method path last =>
    s!"{method.text} {path} kept conflicting until the deadline. Last error was "
      ++ s!"{last.code} - {last.message}"
  | reported text => text

end Overrun

/-- Why a lock was not obtained. -/
inductive Refusal where
  | busy (domain : Domain) (budget : Nat)
  /-- The time that starting the machine takes does not fit. -/
  | noHeadroom (role : String) (left headroom : Nat)
  | reported (text : String)
  deriving DecidableEq, Repr

namespace Refusal

def text : Refusal → String
  | busy domain budget =>
    s!"Failed to acquire {domain.text} lock after {budget} milliseconds"
  | noHeadroom role left headroom =>
    s!"Aborted provisioning of {role}: {left}ms left before the deadline, less than the "
      ++ s!"{headroom}ms needed to boot a machine"
  | reported text => text

end Refusal

/-- A state from which a call cannot go on. -/
inductive Obstacle where
  /-- A state from which the awaited one is never reached. -/
  | stuck (what reason : String)
  | lunOutOfRange (lun : UInt8)
  | lunInUse (lun : UInt8) (role : String)
  | noSite (site : String)
  | noNetwork
  | noFreeAddress (candidates : List String) (network : String)
  | noSubnet (subnet network : String)
  | roleGone (role deployment : String)
  | noDisks (service : String)
  | reported (text : String)
  deriving DecidableEq, Repr

namespace Obstacle

def text : Obstacle → String
  | stuck what reason => s!"{what}: {reason}"
  | lunOutOfRange lun => s!"LUN {lun} is out of range, expected 0 to {DataDisk.maxLun}"
  | lunInUse lun role => s!"LUN {lun} of role {role} is already in use"
  | noSite site => s!"Virtual network site {site} does not exist"
  | noNetwork => "Static IP requested without a virtual network"
  | noFreeAddress candidates network =>
    s!"None of the requested addresses {Text.quotedList candidates} is available in {network}"
  | noSubnet subnet network =>
    "Subnet '" ++ subnet ++ s!"' does not exist in virtual network {network}"
  | roleGone role deployment => s!"Role {role} disappeared from deployment {deployment}"
  | noDisks service => s!"No disks are attached to cloud service {service}"
  | reported text => text

end Obstacle

/-- What was looked for in vain by a call that needs it. -/
inductive Missing where
  | disk (name : String)
  | deploymentAt (address : String)
  | roleAt (address deployment : String)
  | reported (text : String)
  deriving DecidableEq, Repr

namespace Missing

def text : Missing → String
  | disk name => s!"Disk {name} does not exist"
  | deploymentAt address => s!"No deployment has a role with address {address}"
  | roleAt address deployment => s!"No role with address {address} in deployment {deployment}"
  | reported text => text

end Missing

/-- Why a document could not be written or read. -/
inductive DocumentFault where
  /-- The JSON is not that of a document of the type. -/
  | shape
  | reported (text : String)
  deriving DecidableEq, Repr

namespace DocumentFault

def text : DocumentFault → String
  | shape => "unexpected document shape"
  | reported text => text

end DocumentFault

/-- How an answer of the provider broke the rules. -/
inductive Breach where
  | noRequestId (method : Method) (path : String)
  | unnamedDisk (lun : UInt8) (role : String)
  | noService (deployment : String)
  | reported (text : String)
  deriving DecidableEq, Repr

namespace Breach

def text : Breach → String
  | noRequestId method path => s!"{method.text} {path} was accepted without a request id"
  | unnamedDisk lun role => s!"data disk at LUN {lun} of role {role} has no name"
  | noService deployment => s!"deployment {deployment} has no cloud service"
  | reported text => text

end Breach

/-- What is wrong with the settings. -/
inductive SettingsFault where
  | noSubscription
  | zeroInterval
  | zeroAttempts
  | intervalNotNumber (value : String)
  | keyWithoutCertificate
  | reported (text : String)
  deriving DecidableEq, Repr

namespace SettingsFault

def text : SettingsFault → String
  | noSubscription => "subscription_id must not be empty"
  | zeroInterval => "poll interval must be greater than zero"
  | zeroAttempts => "get_attempts must be at least 1"
  | intervalNotNumber value => s!"AZURE_POLL_INTERVAL_MS is not a number: {value}"
  | keyWithoutCertificate => "private_key_pem given without certificate_pem"
  | reported text => text

end SettingsFault

/-- Why a call failed. -/
inductive Fault where
  /-- The provider refused a request. -/
  | api (r : Rejection)
  /-- An operation that the provider had accepted failed. -/
  | operationFailed (r : Rejection)
  | timeout (cause : Overrun)
  | lockTimeout (cause : Refusal)
  | invalidState (cause : Obstacle)
  | notFound (cause : Missing)
  /-- A request got no answer. -/
  | connection (text : String)
  /-- A request could not be made, or its answer not be read to the end. -/
  | http
  | document (cause : DocumentFault)
  | protocol (cause : Breach)
  | missingVariable (name : String)
  | invalidSettings (cause : SettingsFault)
  /-- A file could not be read. -/
  | io
  /-- Bytes are not JSON. -/
  | json
  /-- A text is not YAML, or not that of settings. -/
  | yaml
  deriving DecidableEq, Repr

namespace Fault

/-- **The wording of a fault.** -/
def message : Fault → String
  | api r => s!"API error {r.text}"
  | operationFailed r => s!"Operation failed {r.text}"
  | timeout cause => s!"Timeout: {cause.text}"
  | lockTimeout cause => s!"Lock acquisition failed: {cause.text}"
  | invalidState cause => s!"Invalid state: {cause.text}"
  | notFound cause => s!"Resource not found: {cause.text}"
  | connection text => s!"Connection failure: {text}"
  | http => "HTTP error"
  | document cause => s!"Document codec error: {cause.text}"
  | protocol cause => s!"Protocol error: {cause.text}"
  | missingVariable name => s!"Missing environment variable: {name}"
  | invalidSettings cause => s!"Invalid configuration: {cause.text}"
  | io => "IO error"
  | json => "JSON error"
  | yaml => "YAML error"

/-- Whether a deadline passed. -/
def isTimeout : Fault → Bool
  | timeout _ => true
  | _ => false

/-- Whether a lock was not obtained in time. -/
def isLockTimeout : Fault → Bool
  | lockTimeout _ => true
  | _ => false

/-- Whether the fault is about the provider's resources rather than about
reaching it or reading its answers. -/
def isCloud : Fault → Bool
  | api _ | operationFailed _ | timeout _ | lockTimeout _ | invalidState _ | notFound _ => true
  | _ => false

end Fault

end CloudOrchestration
