import Mathlib.Data.List.Basic
import Nfvcl.PyValue

namespace Nfvcl
set_option autoImplicit true

inductive NfvoStatus where
  | onboarded | notOnboarded | onboarding | error
  deriving DecidableEq, Repr

inductive K8sVersion where
  | v1_24 | v1_25 | v1_26 | v1_27 | v1_28 | v1_29 | v1_30
  deriving DecidableEq, Repr

structure TopologyK8sModel where
  name : String
  providedBy : String := "NFVCL"
  blueprintRef : String := ""
  deployedBlueprints : List String := []
  credentials : String
  vimName : Option String := none
  k8sVersion : K8sVersion := .v1_24
  networks : List String
  areas : List Int
  cni : Option String := none
  cadvisorNodePort : Option Int := none
  nfvoStatus : NfvoStatus := .notOnboarded
  nfvoOnboard : Bool := false
  antiSpoofingEnabled : Option Bool := some false
  deriving DecidableEq, Repr

/-- The pool of a load balancer, as far as reserving it goes. -/
structure LBPool where
  netName : String
  rangeLength : Option Int := none
  deriving DecidableEq, Repr

structure PrometheusTargetModel where
  targets : List String := []
  labels : PyDict := []
  deriving DecidableEq, Repr

structure PrometheusServerModel where
  id : String
  ip : String := "127.0.0.1"
  port : String := "9100"
  user : String := "ubuntu"
  password : String := "ubuntu"
  sshPort : Int := 22
  targets : List PrometheusTargetModel := []
  sdFileLocation : String := "sd_targets.yml"
  deriving DecidableEq, Repr

end Nfvcl
