import Nfvcl.Effects
import Nfvcl.PlaybookActions

namespace Nfvcl.Horse
set_option autoImplicit true
open Effects

/-! ### Requests to apply a playbook -/

def RTRActionType.value : RTRActionType → String
  | .dnsRateLimit => "DNS_RATE_LIMIT"
  | .dnsServDisable => "DNS_SERV_DISABLE"
  | .dnsServEnable => "DNS_SERV_ENABLE"
  | .test => "TEST"

structure DOCActionDefinition where
  ActionType : String
  Service : String
  Action : DOCAction
  deriving DecidableEq, Repr

structure DOCNorthModel where
  ActionID : String
  Target : String
  ActionDefinition : DOCActionDefinition
  deriving DecidableEq, Repr

inductive CallbackCode where
  | appliedByEpem
  | appliedByDoc
  | notAppliedByEpem
  | notAppliedByDoc
  deriving DecidableEq, Repr

def CallbackCode.value : CallbackCode → Nat
  | .appliedByEpem => 200
  | .appliedByDoc => 201
  | .notAppliedByEpem => 400
  | .notAppliedByDoc => 401

def CallbackCode.IsApplied (code : CallbackCode) : Prop :=
  code.value / 100 = 2

instance (code : CallbackCode) : Decidable code.IsApplied := inferInstanceAs (Decidable (_ = _))

structure CallbackModel where
  actionid : String
  code : CallbackCode
  description : String
  timestamp : String
  deriving DecidableEq, Repr

structure RTRRestAnswer where
  description : String := "operation submitted"
  status : String := "submitted"
  status_code : Nat := 202
  deriving DecidableEq, Repr

structure HttpResponse where
  status_code : Nat
  text : String := ""
  url : String := ""
  headers : String := ""

/-- `doc_response_debug`. -/
def HttpResponse.debug (response : HttpResponse) : String :=
  s!"HTTP Status code: {response.status_code}\nUrl: {response.url}\n" ++
    s!"Params: {response.headers}\nBody: {response.text}"

inductive HttpOutcome where
  | answer (response : HttpResponse)
  | raises (e : HttpxError)

inductive AnsibleOutcome where
  | result (status : String)
  | raises (e : PyError)

structure VmResource where
  access_ip : String
  username : String
  password : String
  deriving DecidableEq, Repr

/-- The entry "doc_module" of the collection of extra data. -/
structure DocModule where
  url : Option String
  deriving DecidableEq, Repr

/-- What the two requests find outside. -/
structure HorseServices where
  horseDebug : Bool := false
  safeLoad : Option String → Except String YamlValue
  readsInt : String → Option Int
  /-- What creating the file of a received playbook raises. -/
  touch : Option PyError := none
  /-- The VMs of each blueprint. -/
  blueprints : List (List VmResource) := []
  docModule : Option DocModule := none
  ansible : AnsibleOutcome
  doc : HttpOutcome
  callback : HttpOutcome
  uuid : String
  now : Nat → String

/-- The playbook runs with host, user name and password, and what has been posted where. -/
structure HorseLog where
  ansibleRuns : List (String × String × String × Option String) := []
  callbacks : List (String × CallbackModel) := []
  docRequests : List (String × DOCNorthModel) := []
  deriving DecidableEq, Repr

abbrev HorseM := EStateM HorseError HorseLog

def HorseError.py (e : PyError) : HorseError := .builtin (.other e)

variable (w : HorseServices)

def dumpPlaybook (playbook : Option String) : HorseM Unit :=
  match w.touch with
  | some e => throw (.py e)
  | none =>
    match playbook with
    | none => throw (.py (.typeError "data must be str, not NoneType"))
    | some _ => pure ()

def buildRequestForDoc (actionid target : String) (actiontype : RTRActionType) (service : String)
    (playbook : Option String) : Except HorseError DOCNorthModel := do
  let action ← extractAction w.safeLoad w.readsInt actiontype playbook
  return { ActionID := actionid, Target := target
           ActionDefinition := { ActionType := actiontype.value, Service := service, Action := action } }

def post : HttpOutcome → HorseM HttpResponse
  | .answer response => pure response
  | .raises e => throw (.httpx e)

def sendCallbackHttp (url actionid : Option String) (code : CallbackCode) (description : String) :
    HorseM Unit :=
  match url with
  | none => pure ()
  | some url =>
    match actionid with
    | none => throw (.py (.validationError "actionid"))
    | some actionid =>
      tryCatch
        (do
          modify (fun log => { log with callbacks := log.callbacks ++ [(url, {
            actionid := actionid, code := code, description := description
            timestamp := w.now log.callbacks.length })] })
          let response ← post w.callback
          if response.status_code ≠ 200 then
            throw (.httpException response.status_code
              s!"Callback response code is different from 200: {response.text}"))
        (fun e => match e with
          | .httpx .readTimeout => throw (.httpException 408 s!"Cannot contact for the callback at {url}")
          | .httpx .connectError =>
            throw (.httpException 500 s!"Connection refused for the callback at {url}")
          | e => throw e)

/-- The body of the `try` around the request to the DOC. -/
def askDoc (url : String) (request : DOCNorthModel) (actionId : String) (callbackUrl : Option String) :
    HorseM HttpResponse := do
  modify (fun log => { log with docRequests := log.docRequests ++ [(s!"http://{url}", request)] })
  let response ← post w.doc
  if response.status_code ≠ 200 then
    sendCallbackHttp w callbackUrl actionId .notAppliedByDoc
      s!"Error while forwarding request to DOC module.\n{response.text}"
    throw (.httpException response.status_code s!"DOC response code is different from 200: {response.text}")
  else return response

def requestDoc (url : String) (request : DOCNorthModel) (actionId : String) (callbackUrl : Option String) :
    HorseM HttpResponse :=
  tryCatch (askDoc w url request actionId callbackUrl)
    (fun e => match e with
      | .httpx .readTimeout => do
        sendCallbackHttp w callbackUrl actionId .notAppliedByDoc
          s!"Connection Timeout to DOC module at http://{url}"
        throw (.httpException 408 s!"Cannot contact DOC module at http://{url}")
      | .httpx .connectError => do
        sendCallbackHttp w callbackUrl actionId .notAppliedByDoc
          s!"Connection Error to DOC module (refused at http://{url})"
        throw (.httpException 500 s!"Connection refused by DOC module at http://{url}")
      | e => throw e)

def forwardRequestToDoc (docModInfo : Option DocModule) (request : DOCNorthModel) (actionId : String)
    (callbackUrl : Option String) : HorseM RTRRestAnswer :=
  match docModInfo with
  | none => throw (.py (.typeError "argument of type 'NoneType' is not iterable"))
  | some info =>
    match info.url with
    | some url => do
      let response ← requestDoc w url request actionId callbackUrl
      sendCallbackHttp w callbackUrl actionId .appliedByDoc
        "Missing implementation of DOC callback, need to implement in future"
      return {
        description := s!"The request has been forwarded to DOC module. DOC responce is: \n {response.debug}"
        status := "forwarded", status_code := 200 }
    | none => do
      sendCallbackHttp w callbackUrl actionId .notAppliedByDoc
        "The action should be forwarded to DOC but it's IP is missing."
      return {
        description := "The request has NOT been forwarded to DOC module cause there is NO DOC module info or missing URL. Please use /set_doc_ip_port to set the URL."
        status := "error", status_code := 500 }

def raising (m : Except HorseError α) : HorseM α :=
  match m with
  | .ok a => pure a
  | .error e => throw e

def runAnsiblePlaybook (host username password : String) (playbook : Option String) : HorseM String := do
  modify (fun log => { log with ansibleRuns := log.ansibleRuns ++ [(host, username, password, playbook)] })
  match w.ansible with
  | .result status => pure status
  | .raises e => throw (.py e)

/-- The branch in which the playbook is run here, with the texts for a failure. -/
def applyPlaybook (host username password : String) (playbook : Option String)
    (actionId callbackUrl : Option String) (description detail : String) : HorseM RTRRestAnswer := do
  let status ← runAnsiblePlaybook w host username password playbook
  if status = "failed" then
    sendCallbackHttp w callbackUrl actionId .notAppliedByEpem description
    throw (.httpException 500 detail)
  else
    sendCallbackHttp w callbackUrl actionId .appliedByEpem "Action applied by the ePEM"
    return { description := "Playbook applied", status := "success" }

/-- The branch in which the request goes to the DOC. -/
def forwardPlaybook (actionId target : String) (actionType : RTRActionType) (service : String)
    (playbook : Option String) (callbackUrl : Option String) : HorseM RTRRestAnswer := do
  let body ← raising (buildRequestForDoc w actionId target actionType service playbook)
  forwardRequestToDoc w w.docModule body actionId callbackUrl

structure WorkaroundRequest where
  target : String
  actionType : RTRActionType
  username : String
  password : String
  forwardToDoc : Bool
  payload : Option String := none
  service : Option String := none
  actionID : Option String := none
  callbackHttpUrl : Option String := none

def rtrRequestWorkaround (r : WorkaroundRequest) : HorseM RTRRestAnswer := do
  dumpPlaybook w r.payload
  if r.forwardToDoc = false then
    applyPlaybook w r.target r.username r.password r.payload r.actionID r.callbackHttpUrl
      "Action application by ePEM has failed"
      "Execution of Playbook failed. See ePEM DEBUG log for more info."
  else
    forwardPlaybook w (r.actionID.getD w.uuid) r.target r.actionType (r.service.getD "DNS") r.payload
      r.callbackHttpUrl

structure RtrRequest where
  targetIp : String
  targetPort : Option String
  service : String
  actionType : RTRActionType
  actionID : String
  payload : Option String := none
  callbackHttpUrl : Option String := none

/-- The first VM of a blueprint with the address. -/
def getVmTargetByIp (ipv4 : String) : Option VmResource :=
  w.blueprints.findSome? (fun vms => vms.find? (fun vm => decide (ipv4 = vm.access_ip)))

/-- User name and password on the target; in debug mode only the own host is one. -/
def credentials (targetIp : String) : Option (String × String) :=
  if w.horseDebug then
    if targetIp = "127.0.0.1" then some ("ubuntutest", "ubuntutest") else none
  else (getVmTargetByIp w targetIp).map (fun vm => (vm.username, vm.password))

def rtrRequest (r : RtrRequest) : HorseM RTRRestAnswer := do
  dumpPlaybook w r.payload
  match credentials w r.targetIp with
  | none => forwardPlaybook w r.actionID r.targetIp r.actionType r.service r.payload r.callbackHttpUrl
  | some (username, password) =>
    applyPlaybook w r.targetIp username password r.payload r.actionID r.callbackHttpUrl
      "Execution of Playbook failed. See NFVCL DEBUG log for more info."
      "Execution of Playbook failed. See NFVCL DEBUG log for more info."

/-! ### Callbacks of a call -/

/-- The exceptions that the request to the DOC catches. -/
def HttpxError.IsCaught (e : HttpxError) : Prop :=
  e = .readTimeout ∨ e = .connectError

/-- The DOC has been asked and has answered 200. -/
def DocAnswered : Prop :=
  (∃ url, w.docModule = some { url := some url }) ∧
    ∃ response, w.doc = .answer response ∧ response.status_code = 200

inductive HorseCall where
  | workaround (r : WorkaroundRequest)
  | request (r : RtrRequest)

/-- Who applies the playbook. -/
inductive Party where
  | epem
  | doc
  deriving DecidableEq

namespace HorseCall

def handle : HorseCall → HorseM RTRRestAnswer
  | .workaround r => rtrRequestWorkaround w r
  | .request r => rtrRequest w r

def payload : HorseCall → Option String
  | .workaround r => r.payload
  | .request r => r.payload

def actionType : HorseCall → RTRActionType
  | .workaround r => r.actionType
  | .request r => r.actionType

def actionID : HorseCall → Option String
  | .workaround r => r.actionID
  | .request r => some r.actionID

def callbackHttpUrl : HorseCall → Option String
  | .workaround r => r.callbackHttpUrl
  | .request r => r.callbackHttpUrl

def party : HorseCall → Party
  | .workaround r => if r.forwardToDoc then .doc else .epem
  | .request r => if (credentials w r.targetIp).isSome then .epem else .doc

/-- An action is extracted from the playbook. -/
def Extracts (call : HorseCall) : Prop :=
  ∃ data, w.safeLoad call.payload = .ok data ∧
    (call.actionType = .dnsRateLimit → Readable w.readsInt data)

/-- The playbook run did not fail, or the DOC answered 200 to the request. -/
def Applied (call : HorseCall) : Prop :=
  match call.party w with
  | .epem => ∃ status, w.ansible = .result status ∧ status ≠ "failed"
  | .doc => call.Extracts w ∧ DocAnswered w

/-- One callback is posted, and it says whether the action was applied. -/
def CallsBackOnce (call : HorseCall) (url : String) (log : HorseLog) : Prop :=
  ∃ callback : CallbackModel,
    (finalState ((call.handle w).run log)).callbacks = log.callbacks ++ [(url, callback)] ∧
      (callback.code.IsApplied ↔ call.Applied w)

/-- The calls in which nothing is raised before the callback. -/
def Reports (call : HorseCall) : Prop :=
  w.touch = none ∧ call.payload ≠ none ∧
    match call.party w with
    | .epem => call.actionID ≠ none ∧ ∀ e, w.ansible ≠ .raises e
    | .doc => call.Extracts w ∧ w.docModule ≠ none ∧
        ∀ url, w.docModule = some { url := some url } →
          ∀ e, w.doc = .raises e → e.IsCaught

end HorseCall

/-! ### What each part posts -/

/-- The callbacks a program posts to the URL, by their codes. -/
def Posts (url : String) (m : HorseM α) (log : HorseLog) (codes : List CallbackCode) : Prop :=
  ∃ callbacks : List CallbackModel,
    (finalState (m.run log)).callbacks = log.callbacks ++ callbacks.map (fun c => (url, c)) ∧
      callbacks.map CallbackModel.code = codes

theorem posts_nothing {m : HorseM α} (h : (finalState (m.run log)).callbacks = log.callbacks) :
    Posts url m log [] :=
  ⟨[], by simpa using h, rfl⟩

def HorseLog.reported (log : HorseLog) (url actionid : String) (code : CallbackCode) (description : String) :
    HorseLog :=
  { log with callbacks := log.callbacks ++ [(url, {
      actionid := actionid, code := code, description := description
      timestamp := w.now log.callbacks.length })] }

/-- The endpoint of the callbacks answers 200. -/
def CallbackAnswers : Prop :=
  ∃ response, w.callback = .answer response ∧ response.status_code = 200

theorem sendCallbackHttp_run (h : CallbackAnswers w) (log : HorseLog) :
    (sendCallbackHttp w (some url) (some actionid) code description).run log =
      .ok () (log.reported w url actionid code description) := by
  obtain ⟨⟨status, text, answerUrl, headers⟩, hanswer, rfl⟩ := h
  rw [sendCallbackHttp, hanswer]
  rfl

theorem posts_reported {m : HorseM α} {log : HorseLog} (log' : HorseLog)
    (h : finalState (m.run log) = log'.reported w url actionid code description)
    (hlog : log'.callbacks = log.callbacks) : Posts url m log [code] := by
  refine ⟨[⟨actionid, code, description, w.now log.callbacks.length⟩], ?_, rfl⟩
  rw [h, HorseLog.reported, hlog]
  rfl

/-- One callback is among those posted, when it is the only one. -/
theorem Posts.once_iff {m : HorseM α} (h : Posts url m log codes) {P : Prop} :
    (∃ callback : CallbackModel,
      (finalState (m.run log)).callbacks = log.callbacks ++ [(url, callback)] ∧ (callback.code.IsApplied ↔ P)) ↔
      ∃ code, codes = [code] ∧ (code.IsApplied ↔ P) := by
  obtain ⟨callbacks, hfinal, rfl⟩ := h
  rw [hfinal]
  constructor
  · rintro ⟨callback, hcallback, hP⟩
    have hmap := List.append_cancel_left hcallback
    match callbacks, hmap with
    | [c], hmap =>
      simp only [List.map_cons, List.map_nil, List.cons.injEq, Prod.mk.injEq, true_and, and_true] at hmap
      subst hmap
      exact ⟨c.code, rfl, hP⟩
  · rintro ⟨code, hcode, hP⟩
    match callbacks, hcode with
    | [c], hcode =>
      cases hcode
      exact ⟨c, rfl, hP⟩

def epemCodes (actionId : Option String) : List CallbackCode :=
  match w.ansible, actionId with
  | .result status, some _ => if status = "failed" then [.notAppliedByEpem] else [.appliedByEpem]
  | _, _ => []

theorem epemCodes_raises (h : w.ansible = .raises e) : epemCodes w actionId = [] := by
  rw [epemCodes.eq_def, h]

theorem epemCodes_none : epemCodes w none = [] := by
  rw [epemCodes.eq_def]
  split
  next h => cases h
  next => rfl

theorem epemCodes_some (h : w.ansible = .result status) :
    epemCodes w (some actionId) = if status = "failed" then [.notAppliedByEpem] else [.appliedByEpem] := by
  rw [epemCodes.eq_def, h]

theorem sendCallbackHttp_none (log : HorseLog) :
    (sendCallbackHttp w (some url) none code description).run log =
      .error (.py (.validationError "actionid")) log := rfl

theorem applyPlaybook_posts (h : CallbackAnswers w) :
    Posts url (applyPlaybook w host username password playbook actionId (some url) description detail) log
      (epemCodes w actionId) := by
  let ran : HorseLog := { log with ansibleRuns := log.ansibleRuns ++ [(host, username, password, playbook)] }
  cases hansible : w.ansible with
  | raises e =>
    have hrun : (runAnsiblePlaybook w host username password playbook).run log = .error (.py e) ran := by
      rw [runAnsiblePlaybook, hansible]
      rfl
    rw [epemCodes_raises w hansible]
    apply posts_nothing
    rw [applyPlaybook, run_bind_error _ _ hrun]
    rfl
  | result status =>
    have hrun : (runAnsiblePlaybook w host username password playbook).run log = .ok status ran := by
      rw [runAnsiblePlaybook, hansible]
      rfl
    by_cases hstatus : status = "failed"
    · cases actionId with
      | none =>
        rw [epemCodes_none]
        apply posts_nothing
        rw [applyPlaybook, run_bind_ok _ _ hrun, if_pos hstatus,
          run_bind_error _ _ (sendCallbackHttp_none w ran)]
        rfl
      | some actionId =>
        rw [epemCodes_some w hansible, if_pos hstatus]
        apply posts_reported w ran
        · rw [applyPlaybook, run_bind_ok _ _ hrun, if_pos hstatus,
            run_bind_ok _ _ (sendCallbackHttp_run w h ran)]
          rfl
        · rfl
    · cases actionId with
      | none =>
        rw [epemCodes_none]
        apply posts_nothing
        rw [applyPlaybook, run_bind_ok _ _ hrun, if_neg hstatus,
          run_bind_error _ _ (sendCallbackHttp_none w ran)]
        rfl
      | some actionId =>
        rw [epemCodes_some w hansible, if_neg hstatus]
        apply posts_reported w ran
        · rw [applyPlaybook, run_bind_ok _ _ hrun, if_neg hstatus,
            run_bind_ok _ _ (sendCallbackHttp_run w h ran)]
          rfl
        · rfl

def docCodes : List CallbackCode :=
  match w.docModule with
  | none => []
  | some { url := none } => [.notAppliedByDoc]
  | some { url := some _ } =>
    match w.doc with
    | .answer response => if response.status_code = 200 then [.appliedByDoc] else [.notAppliedByDoc]
    | .raises .readTimeout => [.notAppliedByDoc]
    | .raises .connectError => [.notAppliedByDoc]
    | .raises _ => []

def HorseLog.requested (log : HorseLog) (url : String) (request : DOCNorthModel) : HorseLog :=
  { log with docRequests := log.docRequests ++ [(s!"http://{url}", request)] }

theorem askDoc_answer (hdoc : w.doc = .answer response) (log : HorseLog) :
    (askDoc w docUrl request actionId callbackUrl).run log =
      EStateM.run (if response.status_code ≠ 200 then
          (do
            sendCallbackHttp w callbackUrl actionId .notAppliedByDoc
              s!"Error while forwarding request to DOC module.\n{response.text}"
            throw (.httpException response.status_code
              s!"DOC response code is different from 200: {response.text}"))
        else pure response) (log.requested docUrl request) := by
  rw [askDoc, hdoc]
  rfl

theorem askDoc_raises (hdoc : w.doc = .raises e) (log : HorseLog) :
    (askDoc w docUrl request actionId callbackUrl).run log = .error (.httpx e) (log.requested docUrl request) := by
  rw [askDoc, hdoc]
  rfl

theorem requestDoc_answered (hdoc : w.doc = .answer response) (hstatus : response.status_code = 200)
    (log : HorseLog) :
    (requestDoc w docUrl request actionId callbackUrl).run log = .ok response (log.requested docUrl request) := by
  rw [requestDoc, run_tryCatch, askDoc_answer w hdoc, if_neg (not_not_intro hstatus)]
  rfl

theorem requestDoc_raises (hdoc : w.doc = .raises e) (he : ¬ e.IsCaught) (log : HorseLog) :
    (requestDoc w docUrl request actionId callbackUrl).run log =
      .error (.httpx e) (log.requested docUrl request) := by
  rw [requestDoc, run_tryCatch, askDoc_raises w hdoc]
  cases e with
  | readTimeout => exact (he (.inl rfl)).elim
  | connectError => exact (he (.inr rfl)).elim
  | _ => rfl

theorem requestDoc_refused (h : CallbackAnswers w) (hdoc : w.doc = .answer response)
    (hstatus : response.status_code ≠ 200) (log : HorseLog) :
    ∃ e description, (requestDoc w docUrl request actionId (some url)).run log =
      .error e ((log.requested docUrl request).reported w url actionId .notAppliedByDoc description) := by
  refine ⟨.httpException response.status_code s!"DOC response code is different from 200: {response.text}",
    s!"Error while forwarding request to DOC module.\n{response.text}", ?_⟩
  rw [requestDoc, run_tryCatch, askDoc_answer w hdoc, if_pos hstatus,
    run_bind_ok _ _ (sendCallbackHttp_run w h _)]
  rfl

theorem requestDoc_unreached (h : CallbackAnswers w) (hdoc : w.doc = .raises e) (he : e.IsCaught)
    (log : HorseLog) :
    ∃ e' description, (requestDoc w docUrl request actionId (some url)).run log =
      .error e' ((log.requested docUrl request).reported w url actionId .notAppliedByDoc description) := by
  rw [requestDoc, run_tryCatch, askDoc_raises w hdoc]
  obtain rfl | rfl := he
  · exact ⟨.httpException 408 s!"Cannot contact DOC module at http://{docUrl}",
      s!"Connection Timeout to DOC module at http://{docUrl}", run_bind_ok _ _ (sendCallbackHttp_run w h _)⟩
  · exact ⟨.httpException 500 s!"Connection refused by DOC module at http://{docUrl}",
      s!"Connection Error to DOC module (refused at http://{docUrl})", run_bind_ok _ _ (sendCallbackHttp_run w h _)⟩

theorem forwardRequestToDoc_url (request : DOCNorthModel) :
    forwardRequestToDoc w (some { url := some docUrl }) request actionId callbackUrl =
      requestDoc w docUrl request actionId callbackUrl >>= fun response =>
        sendCallbackHttp w callbackUrl actionId .appliedByDoc
          "Missing implementation of DOC callback, need to implement in future" >>= fun _ =>
        pure {
          description := s!"The request has been forwarded to DOC module. DOC responce is: \n {response.debug}"
          status := "forwarded", status_code := 200 } := rfl

theorem forwardRequestToDoc_fails
    (h : ∃ e description, (requestDoc w docUrl request actionId (some url)).run log =
      .error e ((log.requested docUrl request).reported w url actionId .notAppliedByDoc description)) :
    Posts url (forwardRequestToDoc w (some { url := some docUrl }) request actionId (some url)) log
      [.notAppliedByDoc] := by
  obtain ⟨e, description, hrun⟩ := h
  apply posts_reported w (log.requested docUrl request)
  · rw [forwardRequestToDoc_url, run_bind_error _ _ hrun]
    rfl
  · rfl

theorem forwardRequestToDoc_posts (h : CallbackAnswers w) :
    Posts url (forwardRequestToDoc w w.docModule request actionId (some url)) log (docCodes w) := by
  unfold docCodes
  match w.docModule with
  | none => exact posts_nothing rfl
  | some { url := none } =>
    apply posts_reported w log
    · rw [forwardRequestToDoc]
      dsimp only
      rw [run_bind_ok _ _ (sendCallbackHttp_run w h log)]
      rfl
    · rfl
  | some { url := some docUrl } =>
    dsimp only
    cases hdoc : w.doc with
    | answer response =>
      dsimp only
      split
      next hstatus =>
        apply posts_reported w (log.requested docUrl request)
        · rw [forwardRequestToDoc_url, run_bind_ok _ _ (requestDoc_answered w hdoc hstatus log),
            run_bind_ok _ _ (sendCallbackHttp_run w h _)]
          rfl
        · rfl
      next hstatus => exact forwardRequestToDoc_fails w (requestDoc_refused w h hdoc hstatus log)
    | raises e =>
      cases e with
      | readTimeout => exact forwardRequestToDoc_fails w (requestDoc_unreached w h hdoc (.inl rfl) log)
      | connectError => exact forwardRequestToDoc_fails w (requestDoc_unreached w h hdoc (.inr rfl) log)
      | connectTimeout =>
        apply posts_nothing
        rw [forwardRequestToDoc_url, run_bind_error _ _ (requestDoc_raises w hdoc (by simp [HttpxError.IsCaught]) log)]
        rfl
      | other name =>
        apply posts_nothing
        rw [forwardRequestToDoc_url, run_bind_error _ _ (requestDoc_raises w hdoc (by simp [HttpxError.IsCaught]) log)]
        rfl

theorem forwardPlaybook_posts (h : CallbackAnswers w) (action : DOCAction)
    (haction : extractAction w.safeLoad w.readsInt actionType playbook = .ok action) :
    Posts url (forwardPlaybook w actionId target actionType service playbook (some url)) log (docCodes w) := by
  have hbody : forwardPlaybook w actionId target actionType service playbook (some url) =
      forwardRequestToDoc w w.docModule { ActionID := actionId, Target := target, ActionDefinition := {
        ActionType := actionType.value, Service := service, Action := action } } actionId (some url) := by
    rw [forwardPlaybook, buildRequestForDoc, haction]
    rfl
  rw [hbody]
  exact forwardRequestToDoc_posts w h

theorem forwardPlaybook_raises (h : extractAction w.safeLoad w.readsInt actionType playbook = .error e) :
    Posts url (forwardPlaybook w actionId target actionType service playbook (some url)) log [] := by
  apply posts_nothing
  rw [forwardPlaybook, buildRequestForDoc, h]
  rfl

/-! ### The calls that call back once -/

theorem epemCodes_once_iff :
    (∃ code, epemCodes w actionId = [code] ∧
      (code.IsApplied ↔ ∃ status, w.ansible = .result status ∧ status ≠ "failed")) ↔
      actionId ≠ none ∧ ∀ e, w.ansible ≠ .raises e := by
  cases hansible : w.ansible with
  | raises e =>
    rw [epemCodes_raises w hansible]
    refine iff_of_false ?_ ?_
    · rintro ⟨code, hcode, -⟩
      cases hcode
    · rintro ⟨-, h⟩
      exact h e rfl
  | result status =>
    cases actionId with
    | none =>
      rw [epemCodes_none]
      refine iff_of_false ?_ ?_
      · rintro ⟨code, hcode, -⟩
        cases hcode
      · rintro ⟨h, -⟩
        exact h rfl
    | some actionId =>
      rw [epemCodes_some w hansible]
      refine iff_of_true ?_ ⟨fun h => (nomatch h), fun e h => (nomatch h)⟩
      split
      next hstatus =>
        refine ⟨_, rfl, iff_of_false (by decide) ?_⟩
        rintro ⟨status', h, hne⟩
        cases h
        exact hne hstatus
      next hstatus => exact ⟨_, rfl, iff_of_true (by decide) ⟨status, rfl, hstatus⟩⟩

theorem docCodes_once_iff :
    (∃ code, docCodes w = [code] ∧ (code.IsApplied ↔ DocAnswered w)) ↔
      w.docModule ≠ none ∧ ∀ url, w.docModule = some { url := some url } →
        ∀ e, w.doc = .raises e → e.IsCaught := by
  unfold docCodes DocAnswered
  match w.docModule with
  | none =>
    refine iff_of_false ?_ (fun h => h.1 rfl)
    rintro ⟨code, hcode, -⟩
    cases hcode
  | some { url := none } =>
    refine iff_of_true ⟨_, rfl, iff_of_false (by decide) ?_⟩ ⟨fun h => (nomatch h), ?_⟩
    · rintro ⟨⟨url, h⟩, -⟩
      cases h
    · intro url h
      cases h
  | some { url := some docUrl } =>
    dsimp only
    cases w.doc with
    | answer response =>
      refine iff_of_true ?_ ⟨fun h => (nomatch h), fun url hurl e h => (nomatch h)⟩
      dsimp only
      split
      next hstatus =>
        exact ⟨_, rfl, iff_of_true (by decide) ⟨⟨docUrl, rfl⟩, response, rfl, hstatus⟩⟩
      next hstatus =>
        refine ⟨_, rfl, iff_of_false (by decide) ?_⟩
        rintro ⟨-, r, hr, h⟩
        cases hr
        exact hstatus h
    | raises e =>
      have hno : ¬ ((∃ url, some ({ url := some docUrl } : DocModule) = some { url := some url }) ∧
          ∃ response, HttpOutcome.raises e = .answer response ∧ response.status_code = 200) := by
        rintro ⟨-, r, hr, -⟩
        cases hr
      have hescapes (he : ¬ e.IsCaught) : ¬ (some ({ url := some docUrl } : DocModule) ≠ none ∧
          ∀ url, some ({ url := some docUrl } : DocModule) = some { url := some url } →
            ∀ e', HttpOutcome.raises e = .raises e' → e'.IsCaught) :=
        fun h => he (h.2 docUrl rfl e rfl)
      have hcaught (he : e.IsCaught) : some ({ url := some docUrl } : DocModule) ≠ none ∧
          ∀ url, some ({ url := some docUrl } : DocModule) = some { url := some url } →
            ∀ e', HttpOutcome.raises e = .raises e' → e'.IsCaught := by
        refine ⟨fun h => (nomatch h), ?_⟩
        intro url hurl e' h
        cases h
        exact he
      cases e with
      | readTimeout => exact iff_of_true ⟨_, rfl, iff_of_false (by decide) hno⟩ (hcaught (.inl rfl))
      | connectError => exact iff_of_true ⟨_, rfl, iff_of_false (by decide) hno⟩ (hcaught (.inr rfl))
      | connectTimeout =>
        refine iff_of_false ?_ (hescapes (by simp [HttpxError.IsCaught]))
        rintro ⟨code, hcode, -⟩
        cases hcode
      | other name =>
        refine iff_of_false ?_ (hescapes (by simp [HttpxError.IsCaught]))
        rintro ⟨code, hcode, -⟩
        cases hcode

theorem dumpPlaybook_ok (htouch : w.touch = none) (hpayload : payload ≠ none) :
    dumpPlaybook w payload = pure () := by
  cases payload with
  | none => exact (hpayload rfl).elim
  | some text => rw [dumpPlaybook, htouch]

theorem dumpPlaybook_raises (h : ¬ (w.touch = none ∧ payload ≠ none)) :
    ∃ e, dumpPlaybook w payload = throw e := by
  unfold dumpPlaybook
  cases htouch : w.touch with
  | some e => exact ⟨_, rfl⟩
  | none =>
    cases payload with
    | none => exact ⟨_, rfl⟩
    | some text => exact (h ⟨htouch, fun h => (nomatch h)⟩).elim

theorem posts_dumped {m : HorseM α} (htouch : w.touch = none) (hpayload : payload ≠ none)
    (h : Posts url m log codes) : Posts url (dumpPlaybook w payload >>= fun _ => m) log codes := by
  rw [dumpPlaybook_ok w htouch hpayload]
  exact h

namespace HorseCall

/-- A call is the dump of its playbook, and then the branch of one party. -/
theorem handle_branch {call : HorseCall} (hurl : call.callbackHttpUrl = some url) :
    ∃ m : HorseM RTRRestAnswer, call.handle w = (dumpPlaybook w call.payload >>= fun _ => m) ∧
      match call.party w with
      | .epem => ∃ host username password description detail,
          m = applyPlaybook w host username password call.payload call.actionID (some url) description detail
      | .doc => ∃ actionId target service,
          m = forwardPlaybook w actionId target call.actionType service call.payload (some url) := by
  cases call with
  | workaround r =>
    have hurl : r.callbackHttpUrl = some url := hurl
    cases hforward : r.forwardToDoc with
    | false =>
      refine ⟨applyPlaybook w r.target r.username r.password r.payload r.actionID (some url)
        "Action application by ePEM has failed"
        "Execution of Playbook failed. See ePEM DEBUG log for more info.", ?_, ?_⟩
      · rw [← hurl]
        simp only [handle, rtrRequestWorkaround, hforward, if_true]
        rfl
      · simp only [party, hforward, Bool.false_eq_true, if_false]
        exact ⟨_, _, _, _, _, rfl⟩
    | true =>
      refine ⟨forwardPlaybook w (r.actionID.getD w.uuid) r.target r.actionType (r.service.getD "DNS") r.payload
        (some url), ?_, ?_⟩
      · rw [← hurl]
        simp only [handle, rtrRequestWorkaround, hforward, Bool.true_eq_false, if_false]
        rfl
      · simp only [party, hforward, if_true]
        exact ⟨_, _, _, rfl⟩
  | request r =>
    have hurl : r.callbackHttpUrl = some url := hurl
    cases hcredentials : credentials w r.targetIp with
    | none =>
      refine ⟨forwardPlaybook w r.actionID r.targetIp r.actionType r.service r.payload (some url), ?_, ?_⟩
      · rw [← hurl]
        simp only [handle, rtrRequest, hcredentials]
        rfl
      · simp only [party, hcredentials, Option.isSome_none, Bool.false_eq_true, if_false]
        exact ⟨_, _, _, rfl⟩
    | some found =>
      refine ⟨applyPlaybook w r.targetIp found.1 found.2 r.payload r.actionID (some url)
        "Execution of Playbook failed. See NFVCL DEBUG log for more info."
        "Execution of Playbook failed. See NFVCL DEBUG log for more info.", ?_, ?_⟩
      · rw [← hurl]
        simp only [handle, rtrRequest, hcredentials]
        rfl
      · simp only [party, hcredentials, Option.isSome_some, if_true]
        exact ⟨_, _, _, _, _, rfl⟩

theorem callsBackOnce_iff_codes {call : HorseCall} (h : Posts url (call.handle w) log codes) :
    call.CallsBackOnce w url log ↔ ∃ code, codes = [code] ∧ (code.IsApplied ↔ call.Applied w) :=
  h.once_iff

theorem not_callsBackOnce {call : HorseCall} (h : Posts url (call.handle w) log []) :
    ¬ call.CallsBackOnce w url log := by
  rw [callsBackOnce_iff_codes w h]
  rintro ⟨code, hcode, -⟩
  cases hcode

theorem calls_back_once_iff (call : HorseCall) (url : String) (log : HorseLog)
    (hanswers : CallbackAnswers w) (hurl : call.callbackHttpUrl = some url) :
    call.CallsBackOnce w url log ↔ call.Reports w := by
  obtain ⟨m, hhandle, hbranch⟩ := handle_branch w hurl
  by_cases hdump : w.touch = none ∧ call.payload ≠ none
  · unfold Reports
    cases hparty : call.party w with
    | epem =>
      rw [hparty] at hbranch
      obtain ⟨host, username, password, description, detail, rfl⟩ := hbranch
      have happlied : call.Applied w ↔ ∃ status, w.ansible = .result status ∧ status ≠ "failed" := by
        rw [Applied, hparty]
      have hposts : Posts url (call.handle w) log (epemCodes w call.actionID) := by
        rw [hhandle]
        exact posts_dumped w hdump.1 hdump.2 (applyPlaybook_posts w hanswers)
      rw [callsBackOnce_iff_codes w hposts, happlied, epemCodes_once_iff]
      exact ⟨fun h => ⟨hdump.1, hdump.2, h⟩, fun h => h.2.2⟩
    | doc =>
      rw [hparty] at hbranch
      obtain ⟨actionId, target, service, rfl⟩ := hbranch
      have happlied : call.Applied w ↔ call.Extracts w ∧ DocAnswered w := by
        rw [Applied, hparty]
      cases haction : extractAction w.safeLoad w.readsInt call.actionType call.payload with
      | ok action =>
        have hextracts : call.Extracts w := (extractAction_ok_iff w.safeLoad w.readsInt).mp ⟨action, haction⟩
        have hposts : Posts url (call.handle w) log (docCodes w) := by
          rw [hhandle]
          exact posts_dumped w hdump.1 hdump.2 (forwardPlaybook_posts w hanswers action haction)
        rw [callsBackOnce_iff_codes w hposts, happlied, and_iff_right hextracts, docCodes_once_iff]
        exact ⟨fun h => ⟨hdump.1, hdump.2, hextracts, h⟩, fun h => h.2.2.2⟩
      | error e =>
        have hextracts : ¬ call.Extracts w := by
          intro h
          obtain ⟨action, h⟩ := (extractAction_ok_iff w.safeLoad w.readsInt).mpr h
          rw [haction] at h
          cases h
        refine iff_of_false (not_callsBackOnce w ?_) (fun h => hextracts h.2.2.1)
        rw [hhandle]
        exact posts_dumped w hdump.1 hdump.2 (forwardPlaybook_raises w haction)
  · refine iff_of_false (not_callsBackOnce w ?_) (fun h => hdump ⟨h.1, h.2.1⟩)
    obtain ⟨e, he⟩ := dumpPlaybook_raises w hdump
    apply posts_nothing
    rw [hhandle, he]
    rfl

/-- A DOC module at a known URL, with one outcome of the request to it. -/
def withDoc (doc : HttpOutcome) : HorseServices where
  safeLoad := fun _ => .ok (.list [])
  readsInt := fun _ => none
  docModule := some { url := some "10.0.0.5:9000/doc" }
  ansible := .result "successful"
  doc := doc
  callback := .answer { status_code := 200 }
  uuid := "00000000-0000-0000-0000-000000000000"
  now := fun _ => "2025-01-01 00:00:00"

def testCall : HorseCall :=
  .request { targetIp := "10.0.0.7", targetPort := none, service := "DNS", actionType := .test, actionID := "1"
             payload := some "[]", callbackHttpUrl := some "http://10.0.0.9/callback" }

theorem testCall_extracts (doc : HttpOutcome) : testCall.Extracts (withDoc doc) :=
  ⟨.list [], rfl, fun h => (nomatch h)⟩

theorem calls_back_once_answered :
    CallbackAnswers (withDoc (.answer { status_code := 200 })) ∧
      testCall.CallsBackOnce (withDoc (.answer { status_code := 200 })) "http://10.0.0.9/callback" {} := by
  have hanswers : CallbackAnswers (withDoc (.answer { status_code := 200 })) := ⟨_, rfl, rfl⟩
  refine ⟨hanswers, (calls_back_once_iff _ testCall _ {} hanswers rfl).mpr ⟨rfl, fun h => (nomatch h), ?_⟩⟩
  refine ⟨testCall_extracts _, fun h => (nomatch h), ?_⟩
  intro url hurl e h
  cases h

/-- The connection to the DOC times out. -/
theorem calls_back_once_fails :
    (finalState ((testCall.handle (withDoc (.raises .connectTimeout))).run {})).callbacks = [] ∧
      ¬ ∀ (w : HorseServices) (call : HorseCall) (url : String) (log : HorseLog), CallbackAnswers w →
        call.callbackHttpUrl = some url → call.CallsBackOnce w url log := by
  have hnothing : (finalState ((testCall.handle (withDoc (.raises .connectTimeout))).run {})).callbacks = [] := rfl
  refine ⟨hnothing, ?_⟩
  intro h
  exact not_callsBackOnce _ (posts_nothing hnothing) (h _ testCall "http://10.0.0.9/callback" {} ⟨_, rfl, rfl⟩ rfl)

end HorseCall

end Nfvcl.Horse
