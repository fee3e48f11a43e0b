import Nfvcl.Doubles
import Nfvcl.Effects
import Nfvcl.Numerals
import Nfvcl.PyValue

namespace Nfvcl.PluginManifests
set_option autoImplicit true
open Effects Doubles

def isNumber (text : List Char) : Bool :=
  decide (text ≠ []) && text.all Char.isDigit

def number (digits : List Char) : Nat :=
  Numerals.value 10 (digits.map (fun c => c.toNat - 48))

/-- The double a decimal reads as. -/
def decimal (whole places : List Char) : Nat :=
  nearest (number (whole ++ places)) (10 ^ places.length)

/-- `float(text)`, where `none` is nan; `other` is what it makes of any text but digits around a point. -/
def float (other : List Char → Except PyError (Option Nat)) (text : List Char) : Except PyError (Option Nat) :=
  match text.splitOn '.' with
  | [whole, places] => if isNumber whole && isNumber places then .ok (some (decimal whole places)) else other text
  | _ => other text

/-- `x <= y` on floats. -/
def floatLe : Option Nat → Option Nat → Bool
  | some x, some y => decide (x ≤ y)
  | _, _ => false

structure Bounds where
  lowerVersion : Option Nat
  upperVersion : Option Nat
  noUpperLimit : Bool

def malformed (path : String) : PyError :=
  .valueError ("Filename ->" ++ path ++
    "<- is malformed. E.g. v1.18+_module-name.yaml or v1.17-v1.17_plugin-name.yml")

variable (other : List Char → Except PyError (Option Nat))

def readBounds (path : String) (versionPart : List Char) : Except PyError Bounds :=
  match versionPart.splitOn '-' with
  | [version] =>
    match version.getLast? with
    | none => .error (.indexError "string index out of range")
    | some last =>
      if last = '+' then do
        let lower ← float other (version.dropLast.drop 1)
        return ⟨lower, some 0, true⟩
      else .error (malformed path)
  | [version, version'] => do
    let lower ← float other (version.drop 1)
    let upper ← float other (version'.drop 1)
    return ⟨lower, upper, false⟩
  | _ => .error (.valueError ("Filename " ++ path ++ " is malformed."))

/-- One round of the loop over the folder: what it appends to the target modules. -/
def targetModule (k8sVersion pluginFolderPath path : String) : Except PyError (Option (String × String)) :=
  match path.toList.splitOn '_' with
  | versionPart :: moduleNamePart :: _ => do
    let moduleName := (moduleNamePart.splitOn '.').headD []
    let bounds ← readBounds other path versionPart
    let clusterVersion ← float other (k8sVersion.toList.drop 1)
    if floatLe bounds.lowerVersion clusterVersion &&
        (floatLe clusterVersion bounds.upperVersion || bounds.noUpperLimit) then
      return some (pluginFolderPath ++ "/" ++ path, String.ofList moduleName)
    else
      return none
  | _ => .error (malformed path)

def getPluginConfigFiles (k8sVersion pluginFolderPath : String) (listing : List String) :
    Except PyError (List (String × String)) := do
  let targets ← listing.mapM (targetModule other k8sVersion pluginFolderPath)
  let targetModules := targets.reduceOption
  if targetModules = [] then
    .error (.valueError ("There is not available plugin version in " ++ pluginFolderPath ++
      " compatible with k8s cluster version " ++ k8sVersion))
  else
    return targetModules

/-- `xs.index(x)`. -/
def indexOf (x : String) (xs : List String) : Except PyError Nat :=
  match xs.idxOf? x with
  | some i => .ok i
  | none => .error (.valueError ("'" ++ x ++ "' is not in list"))

def atIndex (xs : List String) (i : Nat) : Except PyError String :=
  match xs[i]? with
  | some x => .ok x
  | none => .error (.indexError "list index out of range")

def checkOrderFilesForPlugin (requiredModuleOrder foundModuleOrder moduleFileList : List String) :
    Except PyError (List String) :=
  if requiredModuleOrder.length ≠ foundModuleOrder.length then .error .assertionError
  else if requiredModuleOrder.length ≤ 1 then .ok moduleFileList
  else requiredModuleOrder.mapM (fun required => indexOf required foundModuleOrder >>= atIndex moduleFileList)

structure K8sPlugin where
  name : String
  installationModules : List String
  deriving DecidableEq, Repr

def pluginBasePath : String := "src/nfvcl/config_templates/k8s/"

/-- The checks of `get_yaml_files_for_plugin` on the files it found. -/
def checkModules (installationModules : List String) (k8sVersion shown : String)
    (foundPlugins : List (String × String)) : Except PyError (List String) :=
  let foundModules := foundPlugins.map Prod.snd
  let foundModulesPaths := foundPlugins.map Prod.fst
  if foundModules.length = installationModules.length then
    let differingElements := foundModules.dedup.filter (fun m => decide (m ∉ installationModules))
    if differingElements ≠ [] then
      .error (.valueError ("Missing module files " ++ toString differingElements ++ " for plugin " ++ shown ++ "."))
    else
      checkOrderFilesForPlugin installationModules foundModules foundModulesPaths
  else
    .error (.valueError ("Compatible found modules number for " ++ shown ++ " plugin and k8s version " ++
      k8sVersion ++ " does not match required number of modules."))

/-- `enabled` are the enabled plugins, `plugin` and `shown` the value and the printed form of the name,
`listdir` the names in a folder. -/
def getYamlFilesForPlugin (enabled : List K8sPlugin) (listdir : String → List String)
    (k8sVersion plugin shown : String) : Except PyError (List String) :=
  match enabled.filter (fun p => decide (p.name = plugin)) with
  | [] => .error (.valueError ("Plugin [" ++ shown ++ "] not found in enabled plugins."))
  | target :: _ => do
    let dirPath := pluginBasePath ++ target.name
    let foundPlugins ← getPluginConfigFiles other k8sVersion dirPath (listdir dirPath)
    checkModules target.installationModules k8sVersion shown foundPlugins

end Nfvcl.PluginManifests
