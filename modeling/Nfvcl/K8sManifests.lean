import Nfvcl.Maintained
import Nfvcl.YamlValues

namespace Nfvcl
set_option autoImplicit true
open Effects

/-- `bool(v)`. -/
def YamlValue.truthy : YamlValue → Bool
  | null => false
  | bool b => b
  | int n => decide (n ≠ 0)
  | float (.finite q) => decide (q ≠ 0)
  | str text => decide (text ≠ "")
  | bytes octets => !octets.isEmpty
  | list elements => !elements.isEmpty
  | tuple elements => !elements.isEmpty
  | dict entries => !entries.isEmpty
  | set elements => !elements.isEmpty
  | _ => true

namespace K8sManifests

/-! ### The client of a cluster -/

/-- What `json.loads` makes of the body of a reply. -/
inductive ReplyBody where
  | missing
  | invalid
  /-- Anything else than an object. -/
  | data (typeName : String)
  | status (reason : Option String)
  deriving DecidableEq, Repr

structure ApiException where
  status : Int
  body : ReplyBody
  deriving DecidableEq, Repr

/-- What the client raises when resources are not created. -/
inductive Failure where
  | failToCreate (apiExceptions : List ApiException)
  | apiException (e : ApiException)
  deriving DecidableEq, Repr

inductive K8sError where
  | failure (f : Failure)
  /-- `FailToCreateError` with what was raised for the documents. -/
  | notCreated (failures : List Failure)
  | yamlError (msg : String)
  | unboundLocalError (name : String)
  /-- A `ValueError` made of a failure. -/
  | valueError (cause : Failure)
  | python (e : PyError)
  deriving DecidableEq, Repr

/-- What `create_custom_resource` asks for. -/
structure CustomRequest where
  group : String
  version : String
  plural : String
  objectNamespace : Option YamlValue

/-- The client of the cluster, a package outside the repository. -/
structure KubernetesClient (Cluster Object : Type) where
  createFromDict (document : YamlValue) : EStateM K8sError Cluster Object
  createNamespacedCustomObject (group version : String) (objectNamespace : YamlValue) (plural : String) (body : YamlValue) : EStateM K8sError Cluster Object
  createClusterCustomObject (group version plural : String) (body : YamlValue) : EStateM K8sError Cluster Object

/-- The documents of a manifest as `yaml.safe_load_all` reads them one by one, and what it raises after them. -/
structure Manifest where
  documents : List YamlValue
  error : Option String := none

section Calls

variable {Cluster Object : Type} (client : KubernetesClient Cluster Object)

def py (m : Except PyError α) : EStateM K8sError Cluster α :=
  match m with
  | .ok a => pure a
  | .error e => throw (.python e)

def handledCustomApi : List String := ["metallb.io/v1beta1", "operator.tigera.io/v1"]

def kindPlural : YamlValue → Except PyError String
  | .str kind => .ok (kind.toLower ++ "s")
  | .bytes _ => .error (.typeError "can't concat str to bytes")
  | v => .error (.attributeError s!"'{v.typeName}' object has no attribute 'lower'")

/-- The arguments of the call that `create_custom_resource` makes. -/
def customRequest (document : YamlValue) : Except PyError CustomRequest := do
  match ← document.atKey "apiVersion" with
  | .str apiName =>
    match apiName.toList.splitOn '/' with
    | group :: version :: _ =>
      let plural ← kindPlural (← document.atKey "kind")
      let metadata ← document.atKey "metadata"
      if ← metadata.contains "namespace" then
        return ⟨String.ofList group, String.ofList version, plural, some (← metadata.atKey "namespace")⟩
      else return ⟨String.ofList group, String.ofList version, plural, none⟩
    | _ => throw (.valueError "Type of api not supported {}: must have a / inside, like ->operator.tigera.io/v1-<")
  | v => throw (.attributeError s!"'{v.typeName}' object has no attribute 'split'")

/-- What is asked of the client for a document. -/
inductive Request where
  | dict (document : YamlValue)
  | custom (request : CustomRequest) (document : YamlValue)

def Request.document : Request → YamlValue
  | .dict document => document
  | .custom _ document => document

def send : Request → EStateM K8sError Cluster Object
  | .dict document => client.createFromDict document
  | .custom request document =>
    match request.objectNamespace with
    | some objectNamespace => client.createNamespacedCustomObject request.group request.version objectNamespace request.plural document
    | none => client.createClusterCustomObject request.group request.version request.plural document

/-- Custom resources of the handled APIs have a call of their own. -/
def requestOf (document : YamlValue) : Except PyError Request := do
  let apiVer ← document.atKey "apiVersion"
  if handledCustomApi.any (fun name => apiVer.isStr name) then
    return .custom (← customRequest document) document
  else return .dict document

/-- The lists and the counter that `create_with` fills. -/
structure Progress (Object : Type) where
  failures : List Failure := []
  k8sObjects : List Object := []
  existingResources : Nat := 0
  deriving DecidableEq, Repr

/-- The body of the reply that decides what a failure is: of several exceptions the first. -/
def Failure.body : Failure → Except PyError ReplyBody
  | .failToCreate (e :: _) => .ok e.body
  | .failToCreate [] => .error (.indexError "list index out of range")
  | .apiException e => .ok e.body

def skipIfAlreadyExists (failure : Failure) (p : Progress Object) : Except PyError (Progress Object) := do
  match ← failure.body with
  | .missing => throw (.typeError "the JSON object must be str, bytes or bytearray, not NoneType")
  | .invalid => return p
  | .data typeName => throw (.attributeError s!"'{typeName}' object has no attribute 'get'")
  | .status none => throw (.attributeError "'NoneType' object has no attribute 'lower'")
  | .status (some reason) =>
    if reason.toLower = "alreadyexists" then return { p with existingResources := p.existingResources + 1 }
    else return { p with failures := p.failures ++ [failure] }

def create (document : YamlValue) : EStateM K8sError Cluster Object := do
  send client (← py (requestOf document))

/-- One round of the loop in `create_with`. -/
def createDocument (p : Progress Object) (document : YamlValue) : EStateM K8sError Cluster (Progress Object) :=
  match document with
  | .null => pure p
  | _ => tryCatch (do
      let created ← create client document
      return { p with k8sObjects := p.k8sObjects ++ [created] })
    (fun e =>
      match e with
      | .failure failure => py (skipIfAlreadyExists failure p)
      | e => throw e)

def raiseYaml (manifest : Manifest) : EStateM K8sError Cluster Unit :=
  match manifest.error with
  | none => pure ()
  | some msg => throw (.yamlError msg)

/-- `create_from_yaml_custom` of a file. -/
def createFromYamlCustom (manifest : Manifest) : EStateM K8sError Cluster (List Object) := do
  let p ← manifest.documents.foldlM (createDocument client) {}
  raiseYaml manifest
  if p.failures ≠ [] then throw (.notCreated p.failures)
  else return p.k8sObjects

/-- `apply_def_to_cluster` of a dictionary, the first element of its result. -/
def applyDefToCluster (document : YamlValue) : EStateM K8sError Cluster (Option Object) := do
  if document.truthy then return some (← client.createFromDict document)
  else return none

def alreadyExist : K8sError := .python (.valueError "At least one of the yaml resources already exist")

/-- `apply_to_k8s` of the manager, once the cluster is found. -/
def applyToK8s (manifest : Manifest) : EStateM K8sError Cluster Unit := do
  let result ← tryCatch (do
      let result ← manifest.documents.foldlM (fun _ document => do return some (← applyDefToCluster client document)) (none : Option (Option Object))
      raiseYaml manifest
      return result)
    (fun e =>
      match e with
      | .failure (.failToCreate (e :: es)) =>
        if e.status = 409 then throw alreadyExist
        else throw (.valueError (.failToCreate (e :: es)))
      | .failure (.failToCreate []) => throw (.python (.indexError "list index out of range"))
      | e => throw e)
  match result with
  | none => throw (.unboundLocalError "result")
  | some none => throw (.python (.typeError "'NoneType' object is not iterable"))
  | some (some _) => pure ()

/-- What is done to a cluster. -/
inductive Application where
  | manifest (manifest : Manifest)
  | file (manifest : Manifest)

def Application.exec (application : Application) : EStateM K8sError Cluster Unit :=
  match application with
  | .manifest m => applyToK8s client m
  | .file m => do
    let _ ← createFromYamlCustom client m

end Calls

/-! ### What a client promises -/

/-- A document of several resources. -/
def IsList (document : YamlValue) : Prop :=
  ∃ kind, document.atKey "kind" = .ok kind ∧ kind.contains "List" = .ok true

def ApiException.Says (e : ApiException) (reason : String) : Prop :=
  e.body = .status (some reason)

def ApiException.AlreadyExists (e : ApiException) : Prop :=
  ∃ reason, e.Says reason ∧ reason.toLower = "alreadyexists"

/-- The exceptions of a failure in the order they were raised. -/
def Failure.exceptions : Failure → List ApiException
  | .failToCreate apiExceptions => apiExceptions
  | .apiException e => [e]

/-- A request that is made for its document. -/
def Request.Own : Request → Prop
  | .dict _ => True
  | .custom request document => customRequest document = .ok request

/-- How the client refuses a request: `create_from_dict` goes through the resources of its document. -/
def Request.refusal (e : ApiException) (es : List ApiException) : Request → Failure
  | .dict _ => .failToCreate (e :: es)
  | .custom _ _ => .apiException e

/-- The API of Kubernetes. A resource that exists is created by no further request and stays. -/
structure Lawful (client : KubernetesClient Cluster Object) (Present : YamlValue → Cluster → Prop) : Prop where
  returned : ∀ (r : Request) c o c', r.Own → (send client r).run c = .ok o c' → Present r.document c'
  kept : ∀ document r, Maintains (Present document) (send client r)
  conflict : ∀ (r : Request) c, r.Own → Present r.document c →
    ∃ e es, (send client r).run c = .error (.failure (r.refusal e es)) c ∧ e.status = 409 ∧ e.AlreadyExists
  refused : ∀ (r : Request) c f c', (send client r).run c = .error (.failure f) c' → ∃ e es reason, f.exceptions = e :: es ∧ e.Says reason
  known : ∀ (r : Request) c f e es c', r.Own → ¬ IsList r.document → (send client r).run c = .error (.failure f) c' → f.exceptions = e :: es →
    e.AlreadyExists → Present r.document c'

section Promised

variable {Cluster Object : Type} {client : KubernetesClient Cluster Object} {Present : YamlValue → Cluster → Prop}
variable {document : YamlValue} {manifest : Manifest} {c c' : Cluster} {p p' : Progress Object}

theorem requestOf_own (h : requestOf document = .ok r) : r.document = document ∧ r.Own := by
  unfold requestOf at h
  obtain ⟨apiVer, -, h⟩ := except_bind_ok.1 h
  split at h
  · obtain ⟨request, hrequest, h⟩ := except_bind_ok.1 h
    cases h
    exact ⟨rfl, hrequest⟩
  · cases h
    exact ⟨rfl, trivial⟩

theorem run_py_ok (a : α) (c : Cluster) : (py (.ok a) : EStateM K8sError Cluster α).run c = .ok a c := rfl

theorem maintains_py {I : Cluster → Prop} (m : Except PyError α) : Maintains I (py m) := by
  cases m with
  | ok a => exact Maintains.pure a
  | error e => exact Maintains.throw _

theorem Lawful.maintains_create (h : Lawful client Present) (kept document : YamlValue) : Maintains (Present kept) (create client document) :=
  (maintains_py _).bind (fun r => h.kept kept r)

theorem maintains_raiseYaml {I : Cluster → Prop} : Maintains I (raiseYaml manifest) := by
  unfold raiseYaml
  split
  · exact Maintains.pure _
  · exact Maintains.throw _

theorem Lawful.maintains_createDocument (h : Lawful client Present) (kept document : YamlValue) (p : Progress Object) :
    Maintains (Present kept) (createDocument client p document) := by
  unfold createDocument
  split
  · exact Maintains.pure p
  · intro c hc
    have hbody := ((h.maintains_create kept document).bind (fun created => Maintains.pure ({ p with k8sObjects := p.k8sObjects ++ [created] } : Progress Object))) c hc
    refine hbody.tryCatch ?_
    intro e c' hc'
    split
    · exact maintains_py _ c' hc'
    · exact hc'

/-- Nothing that exists is lost, whatever is applied and however it ends. -/
theorem Lawful.maintains_exec (h : Lawful client Present) (kept : YamlValue) (application : Application) :
    Maintains (Present kept) (application.exec client) := by
  cases application with
  | manifest m =>
    have hloop : Maintains (Present kept) (do
        let result ← m.documents.foldlM (fun _ document => do return some (← applyDefToCluster client document)) (none : Option (Option Object))
        raiseYaml m
        return result : EStateM K8sError Cluster (Option (Option Object))) := by
      refine (Maintains.foldlM ?_ _).bind (fun result => maintains_raiseYaml.bind (fun _ => Maintains.pure result))
      intro _ document _
      refine Maintains.bind ?_ (fun object => Maintains.pure (some object))
      exact Maintains.ite ((h.kept kept (.dict document)).bind (fun _ => Maintains.pure _)) (Maintains.pure _)
    intro c hc
    refine Meets.bind ((hloop c hc).tryCatch ?_) ?_
    · intro e c' hc'
      split
      · split
        · exact hc'
        · exact hc'
      · exact hc'
      · exact hc'
    · intro result c' hc'
      split
      · exact hc'
      · exact hc'
      · exact hc'
  | file m =>
    refine Maintains.bind ?_ (fun _ => Maintains.pure _)
    refine (Maintains.foldlM (fun p document _ => h.maintains_createDocument kept document p) _).bind ?_
    intro p
    exact maintains_raiseYaml.bind (fun _ => Maintains.ite (Maintains.throw _) (Maintains.pure _))

/-- What the document describes exists, as it does once a request for it returned. -/
def Made (Present : YamlValue → Cluster → Prop) (document : YamlValue) (c : Cluster) : Prop :=
  (∃ r, requestOf document = .ok r) ∧ Present document c

theorem body_refusal (r : Request) (e : ApiException) (es : List ApiException) : (r.refusal e es).body = .ok e.body := by
  cases r <;> rfl

theorem body_eq {f : Failure} {e : ApiException} {es : List ApiException} (h : f.exceptions = e :: es) : f.body = .ok e.body := by
  cases f with
  | failToCreate apiExceptions =>
    have hlist : apiExceptions = e :: es := h
    rw [hlist]
    rfl
  | apiException e' =>
    cases h
    rfl

theorem skip_exists {f : Failure} {e : ApiException} (hbody : f.body = .ok e.body) (he : e.AlreadyExists) (p : Progress Object) :
    skipIfAlreadyExists f p = .ok { p with existingResources := p.existingResources + 1 } := by
  obtain ⟨reason, hsays, hreason⟩ := he
  rw [skipIfAlreadyExists, hbody, except_ok_bind, hsays]
  exact if_pos hreason

theorem create_eq (hr : requestOf document = .ok r) (c : Cluster) : (create client document).run c = (send client r).run c := by
  unfold create
  rw [hr]
  exact run_bind_ok _ _ (run_py_ok r c)

/-- A document that is there already is only counted. -/
theorem Lawful.createDocument_made (h : Lawful client Present) (hmade : Made Present document c) (p : Progress Object) :
    ∃ n, (createDocument client p document).run c = .ok { p with existingResources := n } c := by
  obtain ⟨⟨r, hr⟩, hpresent⟩ := hmade
  obtain ⟨hdocument, hown⟩ := requestOf_own hr
  rw [← hdocument] at hpresent
  obtain ⟨e, es, hrun, -, hexists⟩ := h.conflict r c hown hpresent
  unfold createDocument
  split
  · exact ⟨p.existingResources, rfl⟩
  · refine ⟨p.existingResources + 1, ?_⟩
    rw [run_tryCatch, run_bind_error _ _ ((create_eq hr c).trans hrun)]
    dsimp only
    rw [skip_exists (body_refusal r e es) hexists]
    rfl

theorem Lawful.foldlM_made (h : Lawful client Present) (documents : List YamlValue) (hmade : ∀ d ∈ documents, d = .null ∨ Made Present d c)
    (p : Progress Object) : ∃ n, (documents.foldlM (createDocument client) p).run c = .ok { p with existingResources := n } c := by
  induction documents generalizing p with
  | nil => exact ⟨p.existingResources, rfl⟩
  | cons d documents ih =>
    have hrest := fun p => ih (fun d' hd' => hmade d' (List.mem_cons_of_mem d hd')) p
    have hfirst : ∃ n, (createDocument client p d).run c = .ok { p with existingResources := n } c := by
      rcases hmade d List.mem_cons_self with rfl | hd
      · exact ⟨p.existingResources, rfl⟩
      · exact h.createDocument_made hd p
    obtain ⟨n, hn⟩ := hfirst
    obtain ⟨m, hm⟩ := hrest { p with existingResources := n }
    rw [List.foldlM_cons]
    exact ⟨m, (run_bind_ok _ _ hn).trans hm⟩

theorem create_run (document : YamlValue) (c : Cluster) : (create client document).run c =
    match requestOf document with
    | .ok r => (send client r).run c
    | .error e => .error (.python e) c := by
  unfold create
  rw [EStateM.run_bind]
  cases requestOf document <;> rfl

/-- A document that leaves no failure behind is there afterwards. -/
theorem Lawful.createDocument_ok (h : Lawful client Present) (hlist : ¬ IsList document) (hrun : (createDocument client p document).run c = .ok p' c')
    (hp' : p'.failures = []) : p.failures = [] ∧ (document = .null ∨ Made Present document c') := by
  unfold createDocument at hrun
  split at hrun
  · cases hrun
    exact ⟨hp', .inl rfl⟩
  · rw [run_tryCatch, EStateM.run_bind, create_run] at hrun
    cases hrequest : requestOf document with
    | error e =>
      rw [hrequest] at hrun
      cases hrun
    | ok r =>
      obtain ⟨hdocument, hown⟩ := requestOf_own hrequest
      rw [hrequest] at hrun
      dsimp only at hrun
      cases hsend : (send client r).run c with
      | ok created c₁ =>
        rw [hsend] at hrun
        cases hrun
        have hpresent := h.returned r _ _ _ hown hsend
        rw [hdocument] at hpresent
        exact ⟨hp', .inr ⟨⟨r, hrequest⟩, hpresent⟩⟩
      | error e c₁ =>
        rw [hsend] at hrun
        cases e with
        | failure f =>
          obtain ⟨e, es, reason, hexceptions, hsays⟩ := h.refused r c f c₁ hsend
          dsimp only at hrun
          by_cases hreason : reason.toLower = "alreadyexists"
          · rw [skip_exists (body_eq hexceptions) ⟨reason, hsays, hreason⟩] at hrun
            cases hrun
            have hpresent := h.known r c f e es _ hown (by rw [hdocument]; exact hlist) hsend hexceptions ⟨reason, hsays, hreason⟩
            rw [hdocument] at hpresent
            exact ⟨hp', .inr ⟨⟨r, hrequest⟩, hpresent⟩⟩
          · -- the failure is kept, and no later document takes it away
            have hkept : skipIfAlreadyExists f p = .ok { p with failures := p.failures ++ [f] } := by
              rw [skipIfAlreadyExists, body_eq hexceptions, except_ok_bind, hsays]
              exact if_neg hreason
            rw [hkept] at hrun
            cases hrun
            exact absurd hp' (List.append_ne_nil_of_right_ne_nil _ (List.cons_ne_nil f []))
        | _ => cases hrun

theorem Lawful.foldlM_ok (h : Lawful client Present) (documents : List YamlValue) (hlists : ∀ d ∈ documents, ¬ IsList d)
    (hrun : (documents.foldlM (createDocument client) p).run c = .ok p' c') (hp' : p'.failures = []) :
    p.failures = [] ∧ ∀ d ∈ documents, d = .null ∨ Made Present d c' := by
  induction documents generalizing p c with
  | nil =>
    cases hrun
    exact ⟨hp', fun d hd => absurd hd List.not_mem_nil⟩
  | cons d documents ih =>
    rw [List.foldlM_cons] at hrun
    obtain ⟨p₁, c₁, hfirst, hrest⟩ := bind_ok_inv hrun
    obtain ⟨hp₁, hmade⟩ := ih (fun d' hd' => hlists d' (List.mem_cons_of_mem d hd')) hrest
    obtain ⟨hp, hd⟩ := h.createDocument_ok (hlists d List.mem_cons_self) hfirst hp₁
    refine ⟨hp, ?_⟩
    intro d' hd'
    rcases List.mem_cons.1 hd' with rfl | hd'
    · rcases hd with hnull | ⟨hr, hpresent⟩
      · exact .inl hnull
      · have hkept : Maintains (Present d') (documents.foldlM (createDocument client) p₁) :=
          Maintains.foldlM (fun p e _ => h.maintains_createDocument d' e p) p₁
        exact .inr ⟨hr, hkept.of_ok hrest hpresent⟩
    · exact hmade d' hd'

/-- The first document that is not skipped as empty. -/
def firstDocument (manifest : Manifest) : Option YamlValue :=
  manifest.documents.find? YamlValue.truthy

theorem foldlM_applied {documents : List YamlValue} (hfind : documents.find? YamlValue.truthy = some document)
    (hrun : (client.createFromDict document).run c = .error e c) (result : Option (Option Object)) :
    (documents.foldlM (fun _ d => do return some (← applyDefToCluster client d)) result).run c = .error e c := by
  induction documents generalizing result with
  | nil => cases hfind
  | cons d documents ih =>
    rw [List.foldlM_cons]
    cases htruthy : d.truthy with
    | true =>
      rw [List.find?_cons_of_pos htruthy] at hfind
      cases hfind
      refine run_bind_error _ _ (run_bind_error _ _ ?_)
      unfold applyDefToCluster
      rw [if_pos htruthy]
      exact run_bind_error _ _ hrun
    | false =>
      rw [List.find?_cons_of_neg (by rw [htruthy]; exact Bool.false_ne_true)] at hfind
      have hskip : EStateM.run (do return some (← applyDefToCluster client d)) c = .ok (some none) c := by
        unfold applyDefToCluster
        rw [if_neg (by rw [htruthy]; exact Bool.false_ne_true)]
        rfl
      rw [run_bind_ok _ _ hskip]
      exact ih hfind _

end Promised

/-! ### A cluster of names -/

def resourceName (document : YamlValue) : Option (String × String) :=
  match document.atKey "kind", document.atKey "metadata" with
  | .ok (.str kind), .ok metadata =>
    match metadata.atKey "name" with
    | .ok (.str name) => some (kind, name)
    | _ => none
  | _, _ => none

def createNamed (refusal : ApiException → Failure) (document : YamlValue) : EStateM K8sError (List (String × String)) (String × String) := fun c =>
  match resourceName document with
  | none => .error (.python (.keyError "metadata")) c
  | some name => if name ∈ c then .error (.failure (refusal ⟨409, .status (some "AlreadyExists")⟩)) c else .ok name (c ++ [name])

def testClient : KubernetesClient (List (String × String)) (String × String) where
  createFromDict document := createNamed (fun e => .failToCreate [e]) document
  createNamespacedCustomObject _ _ _ _ body := createNamed .apiException body
  createClusterCustomObject _ _ _ body := createNamed .apiException body

def Named (document : YamlValue) (c : List (String × String)) : Prop :=
  ∃ name ∈ c, resourceName document = some name

theorem send_testClient (r : Request) : send testClient r = createNamed (fun e => r.refusal e []) r.document := by
  cases r with
  | dict document => rfl
  | custom request document =>
    rcases request with ⟨group, version, plural, _ | objectNamespace⟩
    · rfl
    · rfl

theorem createNamed_run (refusal : ApiException → Failure) (document : YamlValue) (c : List (String × String)) :
    (createNamed refusal document).run c =
      match resourceName document with
      | none => .error (.python (.keyError "metadata")) c
      | some name =>
        if name ∈ c then .error (.failure (refusal ⟨409, .status (some "AlreadyExists")⟩)) c else .ok name (c ++ [name]) := rfl

theorem testClient_lawful : Lawful testClient Named := by
  have hrun (r : Request) (c : List (String × String)) := createNamed_run (fun e => r.refusal e []) r.document c
  refine ⟨?_, ?_, ?_, ?_, ?_⟩
  · intro r c o c' _ h
    rw [send_testClient, hrun] at h
    split at h
    · cases h
    · rename_i name hname
      split at h
      · cases h
      · cases h
        exact ⟨o, List.mem_append_right _ List.mem_cons_self, hname⟩
  · rintro document r c ⟨kept, hkept, hdocument⟩
    unfold Meets
    rw [send_testClient, hrun]
    split
    · rename_i hok
      split at hok
      · cases hok
      · split at hok
        · cases hok
        · cases hok
          exact ⟨kept, List.mem_append_left _ hkept, hdocument⟩
    · rename_i herror
      split at herror
      · cases herror
        exact ⟨kept, hkept, hdocument⟩
      · split at herror
        · cases herror
          exact ⟨kept, hkept, hdocument⟩
        · cases herror
  · rintro r c _ ⟨name, hname, hdocument⟩
    refine ⟨⟨409, .status (some "AlreadyExists")⟩, [], ?_, rfl, "AlreadyExists", rfl, by decide +kernel⟩
    rw [send_testClient, hrun, hdocument]
    exact if_pos hname
  · intro r c f c' h
    rw [send_testClient, hrun] at h
    split at h
    · cases h
    · split at h
      · cases h
        exact ⟨⟨409, .status (some "AlreadyExists")⟩, [], "AlreadyExists", by cases r <;> rfl, rfl⟩
      · cases h
  · intro r c f e es c' _ _ h _ _
    rw [send_testClient, hrun] at h
    split at h
    · cases h
    · rename_i name hname
      split at h
      · rename_i hmem
        cases h
        exact ⟨name, hmem, hname⟩
      · cases h

def configMap (name : String) : YamlValue :=
  .dict [(.str "apiVersion", .str "v1"), (.str "kind", .str "ConfigMap"), (.str "metadata", .dict [(.str "name", .str name)])]

theorem not_isList_configMap (name : String) : ¬ IsList (configMap name) := by
  rintro ⟨kind, hkind, hlist⟩
  have hmap : kind = .str "ConfigMap" := by
    have hat : (configMap name).atKey "kind" = .ok (.str "ConfigMap") := rfl
    rw [hat] at hkind
    cases hkind
    rfl
  rw [hmap, YamlValue.contains] at hlist
  revert hlist
  decide +kernel

end K8sManifests
end Nfvcl
