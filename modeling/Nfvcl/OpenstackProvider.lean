import Mathlib.Data.List.Basic
import Nfvcl.Dicts
import Nfvcl.PyValue

namespace Nfvcl
set_option autoImplicit true

namespace Openstack

structure VmResourceNetworkInterfaceAddress where
  interfaceName : String := ""
  mac : String
  ip : String
  cidr : String
  deriving DecidableEq, Repr

structure VmResourceNetworkInterface where
  fixed : VmResourceNetworkInterfaceAddress
  floating : Option VmResourceNetworkInterfaceAddress := none
  deriving DecidableEq, Repr

/-- The fields of a VM the provider reads and writes; `flavorName` is the name of its flavor. -/
structure VmResource where
  id : String
  name : String
  flavorName : Option String := none
  managementNetwork : String
  additionalNetworks : List String := []
  requireFloatingIp : Bool := false
  requirePortSecurityDisabled : Bool := false
  created : Bool := false
  accessIp : Option String := none
  networkInterfaces : Dict String (List VmResourceNetworkInterface) := .empty
  deriving DecidableEq

namespace VmResource

def getAllConnectedNetworkNames (vm : VmResource) : List String :=
  vm.managementNetwork :: vm.additionalNetworks

def getNetworkInterfaceByFixedMac (vm : VmResource) (mac : String) : Option VmResourceNetworkInterface :=
  (vm.networkInterfaces.items.flatMap Prod.snd).find? (fun netInterface => decide (netInterface.fixed.mac = mac))

end VmResource

inductive AddressType where
  | fixed | floating
  deriving DecidableEq, Repr

/-- An address of a server, as the VIM reports it. -/
structure Address where
  type : AddressType
  addr : String
  mac : String
  deriving DecidableEq, Repr

/-- Servers, networks and subnets are numbered as the VIM creates them. -/
abbrev ResourceId := Nat

structure Server where
  id : ResourceId
  /-- The addresses of the server, by network. -/
  addresses : Dict String (List Address)
  /-- The addresses of its ports. -/
  ports : List String
  deriving DecidableEq

/-- What the provider created on the VIM and still exists; of the flavors, those without a given name. -/
structure Vim where
  servers : List Server := []
  flavors : List String := []
  networks : List ResourceId := []
  subnets : List ResourceId := []
  nextId : ResourceId := 0
  deriving DecidableEq

structure VirtualizationProviderDataOpenstack where
  osDict : Dict String ResourceId := .empty
  flavors : List String := []
  networks : List ResourceId := []
  subnets : List ResourceId := []
  deriving DecidableEq

structure Provider where
  vimNeedFloatingIp : Bool := false
  data : VirtualizationProviderDataOpenstack := {}
  vim : Vim := {}
  /-- The VM of the call. -/
  vm : VmResource
  deriving DecidableEq

/-- How a request that changes something on the VIM ends. -/
inductive Answer where
  | done
  | refused (e : PyError)
  /-- It is carried out, but the call raises. -/
  | lost (e : PyError)
  deriving DecidableEq, Repr

/-- A network of the VIM, with what `get_subnet` answers for its subnets. -/
structure Network where
  subnets : List (Except PyError String)
  deriving DecidableEq, Repr

/-- What OpenStack and Ansible answer during one call of the provider. -/
structure Answers where
  /-- Whether `get_network` finds a network. -/
  network : String → Except PyError Bool := fun _ => .ok true
  /-- The names of `get_available_networks`, for `network_names_to_ids`. -/
  availableNetworks : Except PyError (List String) := .ok []
  /-- The networks `__get_network_details` finds. -/
  networkDetails : String → Except PyError (Option Network) := fun _ => .ok none
  prepareImage : Option PyError := none
  getFlavor : Except PyError Bool := .ok false
  createFlavor : Answer := .done
  getProject : Option PyError := none
  addFlavorAccess : Option PyError := none
  floatingNetworks : Except PyError (List String) := .ok []
  createServer : Answer := .done
  /-- The addresses and the ports of the new server. -/
  addresses : Dict String (List Address) := .empty
  ports : List String := []
  interfacesMac : Except PyError String := .ok ""
  listPorts : Option PyError := none
  updatePort : String → Option PyError := fun _ => none
  getServer : Option PyError := none
  createServerInterface : String → Answer := fun _ => .done
  /-- The port of a new interface, and the addresses of the server on that network. -/
  newInterface : String → String × List Address := fun _ => ("", [])
  netplan : Option PyError := none
  listSubnets : Except PyError Bool := .ok false
  createNetwork : Answer := .done
  createSubnet : Answer := .done
  deleteServer : Answer := .done
  deleteFlavor : String → Option PyError := fun _ => none
  deleteSubnet : ResourceId → Option PyError := fun _ => none
  deleteNetwork : ResourceId → Option PyError := fun _ => none

abbrev ProviderM := EStateM PyError Provider

def modifyVm (f : VmResource → VmResource) : ProviderM Unit :=
  modify (fun s => { s with vm := f s.vm })

def modifyData (f : VirtualizationProviderDataOpenstack → VirtualizationProviderDataOpenstack) : ProviderM Unit :=
  modify (fun s => { s with data := f s.data })

def modifyVim (f : Vim → Vim) : ProviderM Unit :=
  modify (fun s => { s with vim := f s.vim })

/-- Send a request whose effect on the VIM is `f`. -/
def request (answer : Answer) (f : Vim → Vim) : ProviderM Unit :=
  match answer with
  | .done => modifyVim f
  | .refused e => throw e
  | .lost e => do
    modifyVim f
    throw e

def noAttribute (name : String) : PyError :=
  .attributeError ("'NoneType' object has no attribute '" ++ name ++ "'")

/-! ### The creation of a VM -/

def preCreationChecks (a : Answers) : ProviderM Unit := do
  let s ← get
  s.vm.getAllConnectedNetworkNames.forM fun net => do
    if !(← ofExcept (a.network net)) then throw (.exception ("Network >" ++ net ++ "< not found on vim"))

def createGetFlavor (a : Answers) : ProviderM Unit := do
  let s ← get
  match s.vm.flavorName with
  | some _ =>
    -- A flavor with a given name is not the provider's to delete.
    if !(← ofExcept a.getFlavor) then request a.createFlavor (fun vim => vim)
  | none =>
    let flavorName := "Flavor_" ++ s.vm.name
    if flavorName ∈ s.data.flavors then
      if !(← ofExcept a.getFlavor) then
        throw (.exception ("Flavor '" ++ flavorName ++ "' should be present but is None"))
    else
      request a.createFlavor (fun vim => { vim with flavors := vim.flavors ++ [flavorName] })
      outcome a.getProject
      outcome a.addFlavorAccess
      modifyData (fun data => { data with flavors := data.flavors ++ [flavorName] })

/-- The network floating addresses are taken from, if the VM gets one. -/
def checkFloatingNetwork (a : Answers) : ProviderM Unit := do
  let s ← get
  if s.vimNeedFloatingIp || s.vm.requireFloatingIp then
    let floatIpNets ← ofExcept a.floatingNetworks
    if floatIpNets.length ≠ 1 then throw (.exception "Multiple floating ip networks found")

/-- `network_names_to_ids`. -/
def networkNamesToIds (a : Answers) (names : List String) : ProviderM Unit := do
  let allNetworks ← ofExcept a.availableNetworks
  names.forM fun net => if net ∈ allNetworks then pure () else throw (.keyError net)

/-- The id of the new server. -/
def createServer (a : Answers) : ProviderM ResourceId := do
  let s ← get
  request a.createServer (fun vim => { vim with
    servers := vim.servers ++ [{ id := vim.nextId, addresses := a.addresses, ports := a.ports }]
    nextId := vim.nextId + 1 })
  return s.vim.nextId

/-- `__get_network_details`: the address range of the first subnet of every network. -/
def getNetworkDetails (a : Answers) (names : List String) : ProviderM (Dict String String) :=
  names.foldlM (fun details net => do
    match ← ofExcept (a.networkDetails net) with
    | none => throw (noAttribute "subnet_ids")
    | some network =>
      match network.subnets with
      | [] => throw (.indexError "list index out of range")
      | first :: _ => return details.set net (← ofExcept first)) .empty

abbrev Parsed := Option VmResourceNetworkInterfaceAddress × Option VmResourceNetworkInterfaceAddress

def setInterfaces (network : String) (interfaces : List VmResourceNetworkInterface) : ProviderM Unit :=
  modifyVm (fun vm => { vm with networkInterfaces := vm.networkInterfaces.set network interfaces })

/-- One address: the last one of its type so far. -/
def parseAddress (subnetDetails : Dict String String) (network : String) (parsed : Parsed) (address : Address) :
    ProviderM Parsed := do
  match subnetDetails.get? network with
  | none => throw (.keyError network)
  | some cidr =>
    let entry := { ip := address.addr, mac := address.mac, cidr := cidr }
    let s ← get
    if s.vm.networkInterfaces.get? network = none then setInterfaces network []
    match address.type with
    | .fixed => return (some entry, parsed.2)
    | .floating => return (parsed.1, some entry)

def parseNetwork (subnetDetails : Dict String String) (network : String × List Address) : ProviderM Unit := do
  let parsed ← network.2.foldlM (parseAddress subnetDetails network.1) (none, none)
  let s ← get
  match s.vm.networkInterfaces.get? network.1, parsed.1 with
  | none, _ => throw (.keyError network.1)
  | some _, none => throw (.validationError "fixed")
  | some interfaces, some fixed => setInterfaces network.1 (interfaces ++ [{ fixed := fixed, floating := parsed.2 }])

def parseOsAddresses (addresses : Dict String (List Address)) (subnetDetails : Dict String String) : ProviderM Unit :=
  addresses.items.forM (parseNetwork subnetDetails)

def strip (text : List Char) : List Char :=
  ((text.dropWhile Char.isWhitespace).reverse.dropWhile Char.isWhitespace).reverse

/-- `text.split(": ")`. -/
def splitColon : List Char → List (List Char)
  | ':' :: ' ' :: text => [] :: splitColon text
  | c :: text =>
    match splitColon text with
    | [] => [[c]]
    | part :: parts => (c :: part) :: parts
  | [] => [[]]

/-- The names of the interfaces, by address; a line without an address is skipped. -/
def macNameDict (interfacesMac : String) : Dict String String :=
  ((strip interfacesMac.toList).splitOn '\n').foldl (fun names line =>
    match splitColon line with
    | [name, mac] => names.set (String.ofList (strip mac)) (String.ofList (strip name))
    | _ => names) .empty

def nameAddress (names : Dict String String) (address : VmResourceNetworkInterfaceAddress) :
    Except PyError VmResourceNetworkInterfaceAddress :=
  match names.get? address.mac with
  | none => .error (.keyError address.mac)
  | some name => .ok { address with interfaceName := name }

/-- The interface as it is left, and the exception if an address is not known. -/
def nameInterface (names : Dict String String) (value : VmResourceNetworkInterface) :
    VmResourceNetworkInterface × Option PyError :=
  match nameAddress names value.fixed with
  | .error e => (value, some e)
  | .ok fixed =>
    match value.floating.mapM (nameAddress names) with
    | .error e => ({ value with fixed := fixed }, some e)
    | .ok floating => ({ fixed := fixed, floating := floating }, none)

def nameInterfaces (names : Dict String String) :
    List VmResourceNetworkInterface → List VmResourceNetworkInterface × Option PyError
  | [] => ([], none)
  | value :: values =>
    match nameInterface names value with
    | (value', some e) => (value' :: values, some e)
    | (value', none) => (value' :: (nameInterfaces names values).1, (nameInterfaces names values).2)

def gatherInfoFromVm (a : Answers) : ProviderM Unit := do
  let names := macNameDict (← ofExcept a.interfacesMac)
  let s ← get
  s.vm.networkInterfaces.items.forM fun entry => do
    setInterfaces entry.1 (nameInterfaces names entry.2).1
    outcome (nameInterfaces names entry.2).2

/-- The address the VM is configured at, and the names of its interfaces. -/
def accessVm (a : Answers) : ProviderM Unit := do
  let s ← get
  match s.vm.networkInterfaces.get? s.vm.managementNetwork with
  | none => throw (.keyError s.vm.managementNetwork)
  | some [] => throw (.indexError "list index out of range")
  | some (mgtInterface :: _) =>
    modifyVm (fun vm => { vm with accessIp := some ((mgtInterface.floating.getD mgtInterface.fixed).ip) })
    gatherInfoFromVm a

def updateNetInfoVm (a : Answers) (addresses : Dict String (List Address)) : ProviderM Unit := do
  modifyVm (fun vm => { vm with networkInterfaces := .empty })
  let s ← get
  let subnetDetailed ← getNetworkDetails a s.vm.getAllConnectedNetworkNames
  parseOsAddresses addresses subnetDetailed
  accessVm a

def findServer (s : Provider) (id : ResourceId) : Option Server :=
  s.vim.servers.find? (fun server => decide (server.id = id))

def disablePortSecurityAllPorts (a : Answers) (id : ResourceId) : ProviderM Unit := do
  outcome a.listPorts
  let s ← get
  let serverPorts := ((findServer s id).map Server.ports).getD []
  if serverPorts.length ≠ s.vm.getAllConnectedNetworkNames.length then
    throw (.exception ("Mismatch in number of request network interface and ports, query: device_id=" ++ toString id))
  if s.vm.requirePortSecurityDisabled then
    serverPorts.forM (fun port => outcome (a.updatePort port))

def createVm (a : Answers) : ProviderM Unit := do
  preCreationChecks a
  outcome a.prepareImage
  createGetFlavor a
  checkFloatingNetwork a
  let s ← get
  networkNamesToIds a s.vm.getAllConnectedNetworkNames
  let id ← createServer a
  modifyData (fun data => { data with osDict := data.osDict.set s.vm.id id })
  updateNetInfoVm a a.addresses
  disablePortSecurityAllPorts a id
  modifyVm (fun vm => { vm with created := true })

/-! ### Networks -/

/-- The requested networks the server is not attached to, each once. -/
def toAttach (attached : List String) (netsName : List String) : List String :=
  netsName.foldl (fun nets net => if net ∉ attached ∧ net ∉ nets then nets ++ [net] else nets) []

def attachInterface (id : ResourceId) (net : String) (interface : String × List Address) (server : Server) : Server :=
  if server.id = id then
    { server with
      addresses := server.addresses.set net (((server.addresses.get? net).getD []) ++ interface.2)
      ports := server.ports ++ [interface.1] }
  else server

/-- The address of the port of the new interface. -/
def attachNet (a : Answers) (id : ResourceId) (net : String) : ProviderM String := do
  if !(← ofExcept (a.network net)) then throw (noAttribute "id")
  request (a.createServerInterface net)
    (fun vim => { vim with servers := vim.servers.map (attachInterface id net (a.newInterface net)) })
  modifyVm (fun vm => { vm with additionalNetworks := vm.additionalNetworks ++ [net] })
  return (a.newInterface net).1

/-- The fixed address of the interface with the given MAC. -/
def fixedIp (mac : String) : ProviderM String := do
  let s ← get
  match s.vm.getNetworkInterfaceByFixedMac mac with
  | none => throw (noAttribute "fixed")
  | some netIntf => return netIntf.fixed.ip

/-- `server_obj.addresses`, read for every name of the request. -/
def attachedNetworks (server : Option Server) (netsName : List String) : ProviderM (List String) :=
  match server with
  | some server => pure server.addresses.keys
  | none => if netsName = [] then pure [] else throw (noAttribute "addresses")

def attachNets (a : Answers) (netsName : List String) : ProviderM (List String) := do
  let s ← get
  match s.data.osDict.get? s.vm.id with
  | none => throw (.keyError s.vm.id)
  | some id =>
    outcome a.getServer
    let serverObj := findServer s id
    let attached ← attachedNetworks serverObj netsName
    let nets := toAttach attached netsName
    if nets = [] then return []
    let newInterfaces ← nets.mapM (attachNet a id)
    updateNetInfoVm a ((serverObj.map Server.addresses).getD .empty)
    disablePortSecurityAllPorts a id
    let ips ← newInterfaces.mapM fixedIp
    outcome a.netplan
    return ips

structure NetResource where
  name : String
  cidr : String
  deriving DecidableEq, Repr

def createNet (a : Answers) (net : NetResource) : ProviderM Unit := do
  if ← ofExcept (a.network net.name) then
    throw (.exception ("Network " ++ net.name ++ " already exist"))
  if ← ofExcept a.listSubnets then
    throw (.exception ("Subnet with cidr " ++ net.cidr ++ " already exist"))
  let s ← get
  request a.createNetwork (fun vim => { vim with networks := vim.networks ++ [vim.nextId], nextId := vim.nextId + 1 })
  request a.createSubnet (fun vim => { vim with subnets := vim.subnets ++ [vim.nextId], nextId := vim.nextId + 1 })
  modifyData (fun data => { data with subnets := data.subnets ++ [s.vim.nextId + 1], networks := data.networks ++ [s.vim.nextId] })

/-! ### Deletion -/

def destroyVm (a : Answers) : ProviderM Unit := do
  let s ← get
  match s.data.osDict.get? s.vm.id with
  | none => pure ()
  | some id =>
    request a.deleteServer
      (fun vim => { vim with servers := vim.servers.filter (fun server => decide (server.id ≠ id)) })

/-- A deletion that may raise instead. -/
def delete (result : Option PyError) (f : Vim → Vim) : ProviderM Unit := do
  outcome result
  modifyVim f

def finalCleanup (a : Answers) : ProviderM Unit := do
  let s ← get
  s.data.flavors.forM fun name =>
    delete (a.deleteFlavor name) (fun vim => { vim with flavors := vim.flavors.filter (fun n => decide (n ≠ name)) })
  s.data.subnets.forM fun id =>
    delete (a.deleteSubnet id) (fun vim => { vim with subnets := vim.subnets.filter (fun n => decide (n ≠ id)) })
  s.data.networks.forM fun id =>
    delete (a.deleteNetwork id) (fun vim => { vim with networks := vim.networks.filter (fun n => decide (n ≠ id)) })

end Openstack

end Nfvcl
