import Mathlib.Data.List.Basic
import Nfvcl.Dicts
import Nfvcl.Effects
import Nfvcl.PyValue

namespace Nfvcl.Day2Routes
set_option autoImplicit true

open Effects

inductive HttpRequestType where
  | get
  | post
  | put
  | patch
  | delete
  deriving DecidableEq, Repr

/-- A function object that `day2_function` has marked. -/
structure Day2Method where
  object : Nat
  qualname : String
  finalPath : String
  requestType : List HttpRequestType
  deriving DecidableEq, Repr

/-- A class, with the marked methods it owns or inherits in the order of `dir`. -/
structure BlueprintClass where
  module : String
  qualname : String
  day2Methods : List Day2Method
  deriving DecidableEq, Repr

structure BlueprintModule where
  module : String
  className : String
  blueClass : BlueprintClass
  path : String
  deriving DecidableEq, Repr

def BlueprintClass.declaredAs (c : BlueprintClass) (blueType : String) : BlueprintModule where
  module := c.module
  className := c.qualname
  blueClass := c
  path := blueType

def BlueprintModule.str (m : BlueprintModule) : String :=
  "module='" ++ m.module ++ "' class_name='" ++ m.className ++ "' blue_class=<class '" ++ m.blueClass.module ++ "." ++
    m.blueClass.qualname ++ "'> path='" ++ m.path ++ "'"

structure BlueprintDay2Route where
  blueType : String
  finalPath : String
  methods : List HttpRequestType
  function : Day2Method
  deriving DecidableEq, Repr

/-- The two dictionaries of the decorator class. -/
structure Registry where
  blueprintModuleMapping : Dict String BlueprintModule
  pathFunctionMapping : Dict String BlueprintDay2Route

def Registry.empty : Registry where
  blueprintModuleMapping := .empty
  pathFunctionMapping := .empty

abbrev Manager := EStateM PyError Registry

def Day2Method.route (blueType : String) (method : Day2Method) : BlueprintDay2Route where
  blueType := blueType
  finalPath := method.finalPath
  methods := method.requestType
  function := method

/-- The first request type is read for a warning about the number of parameters. -/
def registerDay2 (blueType : String) (method : Day2Method) : Manager Unit := do
  let s ← get
  if method.finalPath ∈ s.pathFunctionMapping.keys then
    throw (.valueError ("Duplicate path found. The route " ++ method.finalPath ++
      " cannot be added since is already pointing function " ++ method.qualname))
  if method.requestType = [] then
    throw (.indexError "list index out of range")
  let endpointPath := blueType ++ method.finalPath
  set { s with pathFunctionMapping := s.pathFunctionMapping.set endpointPath (method.route blueType) }

/-- `__call__` up to the loop over the methods. -/
def registerType (blueType : String) (originalClass : BlueprintClass) : Manager Unit := do
  let s ← get
  match s.blueprintModuleMapping.get? blueType with
  | some module =>
    throw (.valueError ("Duplicate blue type found. " ++ blueType ++ " is already pointing class " ++ module.str))
  | none =>
    set { s with blueprintModuleMapping := s.blueprintModuleMapping.set blueType (originalClass.declaredAs blueType) }

theorem run_registerDay2 (blueType : String) (method : Day2Method) (s : Registry) :
    (registerDay2 blueType method).run s =
      if method.finalPath ∈ s.pathFunctionMapping.keys then
        .error (.valueError ("Duplicate path found. The route " ++ method.finalPath ++
          " cannot be added since is already pointing function " ++ method.qualname)) s
      else if method.requestType = [] then .error (.indexError "list index out of range") s
      else .ok () { s with pathFunctionMapping :=
        s.pathFunctionMapping.set (blueType ++ method.finalPath) (method.route blueType) } := by
  unfold registerDay2
  rw [run_bind_ok get _ rfl]
  by_cases hpath : method.finalPath ∈ s.pathFunctionMapping.keys
  · rw [if_pos hpath, if_pos hpath]
    rfl
  · rw [if_neg hpath, if_neg hpath]
    by_cases hrequest : method.requestType = []
    · simp only [if_pos hrequest]
      rfl
    · simp only [if_neg hrequest]
      rfl

theorem run_registerType (blueType : String) (originalClass : BlueprintClass) (s : Registry) :
    (registerType blueType originalClass).run s =
      (s.blueprintModuleMapping.get? blueType).elim
        (.ok () { s with blueprintModuleMapping := s.blueprintModuleMapping.set blueType (originalClass.declaredAs blueType) })
        (fun module => .error (.valueError
          ("Duplicate blue type found. " ++ blueType ++ " is already pointing class " ++ module.str)) s) := by
  unfold registerType
  rw [run_bind_ok get _ rfl]
  cases s.blueprintModuleMapping.get? blueType with
  | none => rfl
  | some module => rfl

def call (blueType : String) (originalClass : BlueprintClass) : Manager Unit := do
  registerType blueType originalClass
  forM originalClass.day2Methods (registerDay2 blueType)

/-- The decorated classes of the modules that are imported, in their order. -/
def registerClasses (declared : List (String × BlueprintClass)) : Manager Unit :=
  forM declared (fun d => call d.1 d.2)

def getRoute (s : Registry) (path : String) : Except PyError BlueprintDay2Route :=
  match s.pathFunctionMapping.get? path with
  | some route => .ok route
  | none => .error (.valueError ("There is not function for path " ++ path))

def getFunctionToBeCalled (s : Registry) (path : String) : Except PyError Day2Method := do
  return (← getRoute s path).function

theorem getFunctionToBeCalled_of_route (h : getRoute s path = .ok route) : getFunctionToBeCalled s path = .ok route.function := by
  rw [getFunctionToBeCalled, h]
  rfl

/-- `"/".join(path.split('/')[-2:])`. -/
def lastTwo (url : String) : String :=
  let parts := url.toList.splitOn '/'
  String.ofList (['/'].intercalate (parts.drop (parts.length - 2)))

/-! ### The last two parts of a path -/

def parts (path : String) : List (List Char) :=
  path.toList.splitOn '/'

theorem not_mem_part : ∀ (cs : List Char), ∀ part ∈ cs.splitOn '/', '/' ∉ part := by
  intro cs
  induction cs with
  | nil =>
    intro part hpart
    rw [List.splitOn_eq_singleton List.not_mem_nil, List.mem_singleton] at hpart
    rw [hpart]
    exact List.not_mem_nil
  | cons c cs ih =>
    intro part hpart
    rw [List.splitOn_cons_eq_if_modifyHead] at hpart
    split at hpart
    · rcases List.mem_cons.1 hpart with rfl | hpart
      · exact List.not_mem_nil
      · exact ih part hpart
    · rename_i hc
      have hslash : '/' ≠ c := fun heq => hc (beq_iff_eq.2 heq.symm)
      cases hparts : cs.splitOn '/' with
      | nil => exact absurd hparts (List.splitOn_ne_nil _ _)
      | cons first later =>
        rw [hparts, List.modifyHead_cons] at hpart
        rcases List.mem_cons.1 hpart with rfl | hpart
        · intro hmem
          rcases List.mem_cons.1 hmem with heq | hmem
          · exact hslash heq
          · exact ih first (by rw [hparts]; exact List.mem_cons_self) hmem
        · exact ih part (by rw [hparts]; exact List.mem_cons_of_mem _ hpart)

theorem parts_lastTwo (url : String) : parts (lastTwo url) = (parts url).drop ((parts url).length - 2) := by
  have hne : parts url ≠ [] := List.splitOn_ne_nil _ _
  have hpos := List.length_pos_of_ne_nil hne
  unfold lastTwo
  rw [parts, String.toList_ofList, List.splitOn_intercalate]
  · rfl
  · intro part hpart
    exact not_mem_part url.toList part (List.mem_of_mem_drop hpart)
  · intro hnil
    have hlength := List.drop_eq_nil_iff.1 hnil
    change (parts url).length ≤ (parts url).length - 2 at hlength
    omega

theorem parts_request (before path : String) : parts (before ++ "/" ++ path) = parts before ++ parts path := by
  have hlist : (before ++ "/" ++ path).toList = before.toList ++ '/' :: path.toList := by
    rw [String.toList_append, String.toList_append, List.append_assoc]
    rfl
  rw [parts, hlist, List.splitOn_append_cons_self]
  rfl

/-- The last two parts of a request that ends in a path are this path when it has two parts itself. -/
theorem lastTwo_request_iff (before path : String) :
    lastTwo (before ++ "/" ++ path) = path ↔ (parts path).length = 2 := by
  have hparts := parts_lastTwo (before ++ "/" ++ path)
  have hbefore := List.length_pos_of_ne_nil (List.splitOn_ne_nil '/' before.toList)
  have hpath := List.length_pos_of_ne_nil (List.splitOn_ne_nil '/' path.toList)
  change 0 < (parts before).length at hbefore
  change 0 < (parts path).length at hpath
  constructor
  · intro h
    have hlength := congrArg List.length hparts
    rw [h, parts_request, List.length_drop, List.length_append] at hlength
    omega
  · intro h
    unfold lastTwo
    change String.ofList (['/'].intercalate ((parts (before ++ "/" ++ path)).drop ((parts (before ++ "/" ++ path)).length - 2))) = path
    rw [parts_request, List.length_append, h, Nat.add_sub_cancel, List.drop_left, parts, List.intercalate_splitOn,
      String.ofList_toList]

/-! ### Registration, one declaration after another -/

/-- What registration does for a class: its type first, then its methods. -/
inductive Declaration where
  | type (blueType : String) (originalClass : BlueprintClass)
  | day2 (blueType : String) (method : Day2Method)

def Declaration.exec : Declaration → Manager Unit
  | .type blueType originalClass => registerType blueType originalClass
  | .day2 blueType method => registerDay2 blueType method

def declarations (declared : List (String × BlueprintClass)) : List Declaration :=
  declared.flatMap (fun d => .type d.1 d.2 :: d.2.day2Methods.map (.day2 d.1))

theorem registerClasses_eq (declared : List (String × BlueprintClass)) :
    registerClasses declared = forM (declarations declared) Declaration.exec := by
  induction declared with
  | nil => rfl
  | cons d declared ih =>
    have hmethods : ∀ ms : List Day2Method, forM (ms.map (Declaration.day2 d.1)) Declaration.exec = forM ms (registerDay2 d.1) := by
      intro ms
      induction ms with
      | nil => rfl
      | cons m ms ihms =>
        rw [List.map_cons, List.forM_cons, List.forM_cons, ihms]
        rfl
    have hcall : forM (Declaration.type d.1 d.2 :: d.2.day2Methods.map (.day2 d.1)) Declaration.exec = call d.1 d.2 := by
      rw [List.forM_cons, hmethods]
      rfl
    rw [registerClasses, List.forM_cons, declarations, List.flatMap_cons, List.forM_append, hcall]
    exact congrArg _ (funext fun _ => ih)

def types : List Declaration → List String
  | [] => []
  | .type blueType _ :: done => blueType :: types done
  | .day2 _ _ :: done => types done

def routes : List Declaration → List BlueprintDay2Route
  | [] => []
  | .type _ _ :: done => routes done
  | .day2 blueType method :: done => method.route blueType :: routes done

/-- The complete path of a route. -/
def BlueprintDay2Route.endpointPath (route : BlueprintDay2Route) : String :=
  route.blueType ++ route.finalPath

def endpoints (done : List Declaration) : List String :=
  (routes done).map BlueprintDay2Route.endpointPath

theorem types_append (done later : List Declaration) : types (done ++ later) = types done ++ types later := by
  induction done with
  | nil => rfl
  | cons d done ih =>
    cases d with
    | type blueType originalClass => exact congrArg (List.cons blueType) ih
    | day2 blueType method => exact ih

theorem routes_append (done later : List Declaration) : routes (done ++ later) = routes done ++ routes later := by
  induction done with
  | nil => rfl
  | cons d done ih =>
    cases d with
    | type blueType originalClass => exact ih
    | day2 blueType method => exact congrArg (List.cons _) ih

/-- A duplicate check refuses the declaration: the second one looks the final path up among complete paths. -/
def Declaration.Collides (done : List Declaration) : Declaration → Prop
  | .type blueType _ => blueType ∈ types done
  | .day2 _ method => method.finalPath ∈ endpoints done

/-- The type or the complete path has been declared before. -/
def Declaration.Repeats (done : List Declaration) : Declaration → Prop
  | .type blueType _ => blueType ∈ types done
  | .day2 blueType method => blueType ++ method.finalPath ∈ endpoints done

def Declaration.HasRequestType : Declaration → Prop
  | .type _ _ => True
  | .day2 _ method => method.requestType ≠ []

instance (done : List Declaration) (d : Declaration) : Decidable (d.Collides done) :=
  match d with
  | .type blueType _ => inferInstanceAs (Decidable (blueType ∈ types done))
  | .day2 _ method => inferInstanceAs (Decidable (method.finalPath ∈ endpoints done))

instance (done : List Declaration) (d : Declaration) : Decidable (d.Repeats done) :=
  match d with
  | .type blueType _ => inferInstanceAs (Decidable (blueType ∈ types done))
  | .day2 blueType method => inferInstanceAs (Decidable (blueType ++ method.finalPath ∈ endpoints done))

instance (d : Declaration) : Decidable d.HasRequestType :=
  match d with
  | .type _ _ => .isTrue trivial
  | .day2 _ method => inferInstanceAs (Decidable (method.requestType ≠ []))

/-- The registry after the declarations `done`: a complete path holds the last route declared for it. -/
structure Registered (done : List Declaration) (s : Registry) : Prop where
  types : ∀ t, s.blueprintModuleMapping.get? t = none ↔ t ∉ types done
  routes : ∀ path, s.pathFunctionMapping.get? path = (routes done).reverse.find? (fun r => decide (r.endpointPath = path))

theorem registered_empty : Registered [] .empty where
  types := fun _ => iff_of_true rfl List.not_mem_nil
  routes := fun _ => rfl

namespace Registered

variable {done : List Declaration} {s : Registry}

theorem mem_keys (h : Registered done s) (path : String) : path ∈ s.pathFunctionMapping.keys ↔ path ∈ endpoints done := by
  rw [Dict.mem_keys_iff, h.routes, ← Option.isSome_iff_exists, List.find?_isSome, endpoints, List.mem_map]
  constructor
  · rintro ⟨route, hroute, hpath⟩
    exact ⟨route, List.mem_reverse.1 hroute, of_decide_eq_true hpath⟩
  · rintro ⟨route, hroute, hpath⟩
    exact ⟨route, List.mem_reverse.2 hroute, decide_eq_true hpath⟩

theorem type (h : Registered done s) (blueType : String) (originalClass : BlueprintClass) (module : BlueprintModule) :
    Registered (done ++ [.type blueType originalClass])
      { s with blueprintModuleMapping := s.blueprintModuleMapping.set blueType module } where
  types := by
    intro t
    rw [Dict.get?_set, types_append, List.mem_append, not_or, ← h.types]
    change _ ↔ _ ∧ t ∉ [blueType]
    rw [List.mem_singleton]
    by_cases ht : t = blueType
    · rw [if_pos ht]
      exact iff_of_false (fun hnone => (nomatch hnone)) (fun hboth => hboth.2 ht)
    · rw [if_neg ht]
      exact (and_iff_left ht).symm
  routes := by
    intro path
    rw [routes_append]
    change _ = (Day2Routes.routes done ++ []).reverse.find? _
    rw [List.append_nil]
    exact h.routes path

theorem day2 (h : Registered done s) (blueType : String) (method : Day2Method) :
    Registered (done ++ [.day2 blueType method])
      { s with pathFunctionMapping := s.pathFunctionMapping.set (blueType ++ method.finalPath) (method.route blueType) } where
  types := by
    intro t
    rw [types_append]
    change _ ↔ t ∉ Day2Routes.types done ++ []
    rw [List.append_nil]
    exact h.types t
  routes := by
    intro path
    rw [Dict.get?_set, routes_append]
    change _ = (Day2Routes.routes done ++ [method.route blueType]).reverse.find? _
    rw [List.reverse_append, List.reverse_singleton, List.singleton_append, List.find?_cons]
    by_cases hpath : path = blueType ++ method.finalPath
    · rw [if_pos hpath, decide_eq_true (show (method.route blueType).endpointPath = path from hpath.symm)]
    · rw [if_neg hpath, decide_eq_false (show ¬ (method.route blueType).endpointPath = path from fun heq => hpath heq.symm)]
      exact h.routes path

/-- A declaration that a duplicate check refuses raises a `ValueError`. -/
theorem exec_collides (h : Registered done s) {d : Declaration} (hd : d.Collides done) :
    ∃ msg, d.exec.run s = .error (.valueError msg) s := by
  cases d with
  | type blueType originalClass =>
    obtain ⟨module, hmodule⟩ := Option.ne_none_iff_exists'.1 (fun hnone => (h.types blueType).1 hnone hd)
    refine ⟨"Duplicate blue type found. " ++ blueType ++ " is already pointing class " ++ module.str, ?_⟩
    rw [Declaration.exec, run_registerType, hmodule]
    rfl
  | day2 blueType method =>
    refine ⟨"Duplicate path found. The route " ++ method.finalPath ++
      " cannot be added since is already pointing function " ++ method.qualname, ?_⟩
    rw [Declaration.exec, run_registerDay2, if_pos ((h.mem_keys _).2 hd)]

theorem exec_without_request_type (h : Registered done s) {d : Declaration} (hd : ¬ d.Collides done) (hrequest : ¬ d.HasRequestType) :
    d.exec.run s = .error (.indexError "list index out of range") s := by
  cases d with
  | type blueType originalClass => exact absurd trivial hrequest
  | day2 blueType method =>
    rw [Declaration.exec, run_registerDay2, if_neg (fun hmem => hd ((h.mem_keys _).1 hmem)), if_pos (not_not.1 hrequest)]

theorem exec_accepted (h : Registered done s) {d : Declaration} (hd : ¬ d.Collides done) (hrequest : d.HasRequestType) :
    ∃ s', d.exec.run s = .ok () s' ∧ Registered (done ++ [d]) s' := by
  cases d with
  | type blueType originalClass =>
    rw [Declaration.exec, run_registerType, (h.types blueType).2 hd]
    exact ⟨_, rfl, h.type blueType originalClass _⟩
  | day2 blueType method =>
    rw [Declaration.exec, run_registerDay2, if_neg (fun hmem => hd ((h.mem_keys _).1 hmem)), if_neg hrequest]
    exact ⟨_, rfl, h.day2 blueType method⟩

end Registered

/-! ### The whole registration -/

/-- The first declaration that is not accepted, with those before it. -/
def firstRefused (done : List Declaration) : List Declaration → Option (List Declaration × Declaration)
  | [] => none
  | d :: later => if d.Collides done ∨ ¬ d.HasRequestType then some (done, d) else firstRefused (done ++ [d]) later

theorem firstRefused_append (h : firstRefused done ds = none) (later : List Declaration) :
    firstRefused done (ds ++ later) = firstRefused (done ++ ds) later := by
  induction ds generalizing done with
  | nil => rw [List.append_nil, List.nil_append]
  | cons d ds ih =>
    rw [firstRefused] at h
    rw [List.cons_append, firstRefused]
    by_cases hd : d.Collides done ∨ ¬ d.HasRequestType
    · rw [if_pos hd] at h
      cases h
    · rw [if_neg hd] at h ⊢
      rw [ih h, List.append_assoc, List.singleton_append]

theorem run_accepted (h : Registered done s) (hnone : firstRefused done ds = none) :
    ∃ s', (forM ds Declaration.exec : Manager Unit).run s = .ok () s' ∧ Registered (done ++ ds) s' := by
  induction ds generalizing done s with
  | nil => exact ⟨s, rfl, by rw [List.append_nil]; exact h⟩
  | cons d ds ih =>
    rw [firstRefused] at hnone
    by_cases hd : d.Collides done ∨ ¬ d.HasRequestType
    · rw [if_pos hd] at hnone
      cases hnone
    · rw [if_neg hd] at hnone
      obtain ⟨hcollides, hrequest⟩ := not_or.1 hd
      obtain ⟨s₁, hrun, h₁⟩ := h.exec_accepted hcollides (not_not.1 hrequest)
      obtain ⟨s', hlater, h'⟩ := ih h₁ hnone
      rw [List.append_assoc, List.singleton_append] at h'
      exact ⟨s', by rw [List.forM_cons, run_bind_ok _ _ hrun, hlater], h'⟩

theorem firstRefused_some (h : firstRefused done ds = some (before, d)) :
    (d.Collides before ∨ ¬ d.HasRequestType) ∧
      ∃ accepted later, ds = accepted ++ d :: later ∧ before = done ++ accepted ∧ firstRefused done accepted = none := by
  induction ds generalizing done with
  | nil => cases h
  | cons first ds ih =>
    rw [firstRefused] at h
    by_cases hfirst : first.Collides done ∨ ¬ first.HasRequestType
    · rw [if_pos hfirst] at h
      cases h
      exact ⟨hfirst, [], ds, rfl, (List.append_nil _).symm, rfl⟩
    · rw [if_neg hfirst] at h
      obtain ⟨hd, accepted, later, hds, hbefore, hnone⟩ := ih h
      refine ⟨hd, first :: accepted, later, by rw [hds, List.cons_append], ?_, ?_⟩
      · rw [hbefore, List.append_assoc, List.singleton_append]
      · rw [firstRefused, if_neg hfirst, hnone]

/-- A registration ends at the first declaration it refuses. -/
theorem run_refused (h : Registered done s) (hsome : firstRefused done ds = some (before, d)) :
    ∃ accepted later s', ds = accepted ++ d :: later ∧ before = done ++ accepted ∧ Registered before s' ∧
      (forM accepted Declaration.exec : Manager Unit).run s = .ok () s' ∧
      ∀ e, d.exec.run s' = .error e s' → (forM ds Declaration.exec : Manager Unit).run s = .error e s' := by
  obtain ⟨-, accepted, later, hds, hbefore, hnone⟩ := firstRefused_some hsome
  obtain ⟨s', hrun, h'⟩ := run_accepted h hnone
  rw [← hbefore] at h'
  refine ⟨accepted, later, s', hds, hbefore, h', hrun, ?_⟩
  intro e he
  rw [hds, List.forM_append, run_bind_ok _ _ hrun, List.forM_cons, run_bind_error _ _ he]

theorem accepted_of_ok (h : Registered done s) (hrun : (forM ds Declaration.exec : Manager Unit).run s = .ok () s') :
    firstRefused done ds = none ∧ Registered (done ++ ds) s' := by
  cases hfirst : firstRefused done ds with
  | none =>
    obtain ⟨s₁, hrun₁, h₁⟩ := run_accepted h hfirst
    rw [hrun] at hrun₁
    cases hrun₁
    exact ⟨rfl, h₁⟩
  | some refused =>
    obtain ⟨before, d⟩ := refused
    obtain ⟨accepted, later, s₁, -, -, h₁, -, herror⟩ := run_refused h hfirst
    obtain ⟨hd, -⟩ := firstRefused_some hfirst
    by_cases hcollides : d.Collides before
    · obtain ⟨msg, hraise⟩ := h₁.exec_collides hcollides
      rw [hrun] at herror
      cases herror _ hraise
    · rw [hrun] at herror
      cases herror _ (h₁.exec_without_request_type hcollides (hd.resolve_left hcollides))

/-- Registration raises a `ValueError` at a declaration that repeats a type or a complete path. -/
def Refuses (declared : List (String × BlueprintClass)) : Prop :=
  ∃ done d later s msg, declarations declared = done ++ d :: later ∧
    (forM done Declaration.exec : Manager Unit).run .empty = .ok () s ∧ d.exec.run s = .error (.valueError msg) s ∧
    (registerClasses declared).run .empty = .error (.valueError msg) s ∧ d.Repeats done

/-- Registration returns, and a request for any method of any type is given the route of this type to this method. -/
def Routed (declared : List (String × BlueprintClass)) : Prop :=
  ∃ s, (registerClasses declared).run .empty = .ok () s ∧
    ∀ d ∈ declared, ∀ method ∈ d.2.day2Methods, ∀ before,
      ∃ route, getRoute s (lastTwo (before ++ "/" ++ (d.1 ++ method.finalPath))) = .ok route ∧
        route.blueType = d.1 ∧ getFunctionToBeCalled s (lastTwo (before ++ "/" ++ (d.1 ++ method.finalPath))) = .ok method

theorem refuses_iff (declared : List (String × BlueprintClass)) :
    Refuses declared ↔
      ∃ done d, firstRefused [] (declarations declared) = some (done, d) ∧ d.Collides done ∧ d.Repeats done := by
  constructor
  · rintro ⟨done, d, later, s, msg, hdeclared, hdone, hraise, -, hrepeats⟩
    obtain ⟨hnone, hs⟩ := accepted_of_ok registered_empty hdone
    rw [List.nil_append] at hs
    have hcollides : d.Collides done := by
      by_contra hnot
      by_cases hrequest : d.HasRequestType
      · obtain ⟨s', hok, -⟩ := hs.exec_accepted hnot hrequest
        rw [hraise] at hok
        cases hok
      · have hindex := hs.exec_without_request_type hnot hrequest
        rw [hraise] at hindex
        cases hindex
    refine ⟨done, d, ?_, hcollides, hrepeats⟩
    rw [hdeclared, firstRefused_append hnone, List.nil_append, firstRefused, if_pos (.inl hcollides)]
  · rintro ⟨done, d, hfirst, hcollides, hrepeats⟩
    obtain ⟨accepted, later, s, hdeclared, hdone, hs, hrun, herror⟩ := run_refused registered_empty hfirst
    rw [List.nil_append] at hdone
    obtain ⟨msg, hraise⟩ := hs.exec_collides hcollides
    rw [← hdone] at hdeclared hrun
    refine ⟨done, d, later, s, msg, hdeclared, hrun, hraise, ?_, hrepeats⟩
    rw [registerClasses_eq, herror _ hraise]

theorem mem_routes {declared : List (String × BlueprintClass)} {route : BlueprintDay2Route} :
    route ∈ routes (declarations declared) ↔ ∃ d ∈ declared, ∃ method ∈ d.2.day2Methods, method.route d.1 = route := by
  have hmethods : ∀ (t : String) (ms : List Day2Method), routes (ms.map (Declaration.day2 t)) = ms.map (fun m => m.route t) := by
    intro t ms
    induction ms with
    | nil => rfl
    | cons m ms ih => exact congrArg (List.cons _) ih
  induction declared with
  | nil => exact iff_of_false List.not_mem_nil (fun ⟨d, hd, _⟩ => absurd hd List.not_mem_nil)
  | cons first declared ih =>
    have hsplit : routes (declarations (first :: declared)) =
        first.2.day2Methods.map (fun m => m.route first.1) ++ routes (declarations declared) := by
      rw [declarations, List.flatMap_cons, routes_append, ← hmethods]
      rfl
    rw [hsplit, List.mem_append, List.mem_map]
    constructor
    · rintro (⟨method, hmethod, heq⟩ | hlater)
      · exact ⟨first, List.mem_cons_self, method, hmethod, heq⟩
      · obtain ⟨d, hd, hrest⟩ := ih.1 hlater
        exact ⟨d, List.mem_cons_of_mem _ hd, hrest⟩
    · rintro ⟨d, hd, method, hmethod, heq⟩
      rcases List.mem_cons.1 hd with rfl | hd
      · exact .inl ⟨method, hmethod, heq⟩
      · exact .inr (ih.2 ⟨d, hd, method, hmethod, heq⟩)

/-- Every complete path has two parts and is declared for one type and one function. -/
def PathsApart (declared : List (String × BlueprintClass)) : Prop :=
  ∀ route ∈ routes (declarations declared), (parts route.endpointPath).length = 2 ∧
    ∀ other ∈ routes (declarations declared), other.endpointPath = route.endpointPath →
      other.blueType = route.blueType ∧ other.function = route.function

instance (declared : List (String × BlueprintClass)) : Decidable (PathsApart declared) :=
  inferInstanceAs (Decidable (∀ route ∈ routes (declarations declared), (parts route.endpointPath).length = 2 ∧
    ∀ other ∈ routes (declarations declared), other.endpointPath = route.endpointPath →
      other.blueType = route.blueType ∧ other.function = route.function))

theorem getRoute_of_registered (h : Registered done s) (hroute : getRoute s path = .ok route) :
    route ∈ routes done ∧ route.endpointPath = path := by
  unfold getRoute at hroute
  rw [h.routes path] at hroute
  cases hfind : (routes done).reverse.find? (fun r => decide (r.endpointPath = path)) with
  | none =>
    rw [hfind] at hroute
    cases hroute
  | some found =>
    rw [hfind] at hroute
    cases hroute
    have hpath := List.find?_some hfind
    exact ⟨List.mem_reverse.1 (List.mem_of_find?_eq_some hfind), of_decide_eq_true hpath⟩

theorem exists_getRoute (h : Registered done s) (hroute : route ∈ routes done) :
    ∃ found, getRoute s route.endpointPath = .ok found := by
  unfold getRoute
  have hfound : ((routes done).reverse.find? (fun r => decide (r.endpointPath = route.endpointPath))).isSome := by
    rw [List.find?_isSome]
    exact ⟨route, List.mem_reverse.2 hroute, decide_eq_true rfl⟩
  obtain ⟨found, hfind⟩ := Option.isSome_iff_exists.1 hfound
  exact ⟨found, by rw [h.routes, hfind]⟩

theorem routed_iff (declared : List (String × BlueprintClass)) :
    Routed declared ↔ firstRefused [] (declarations declared) = none ∧ PathsApart declared := by
  constructor
  · rintro ⟨s, hrun, hrouted⟩
    rw [registerClasses_eq] at hrun
    obtain ⟨hnone, hs⟩ := accepted_of_ok registered_empty hrun
    rw [List.nil_append] at hs
    -- the route a request gets is recorded under its own complete path, hence this is the path looked up
    have hlookup : ∀ route ∈ routes (declarations declared), lastTwo ("" ++ "/" ++ route.endpointPath) = route.endpointPath ∧
        ∃ found, getRoute s route.endpointPath = .ok found ∧ found.blueType = route.blueType ∧ found.function = route.function := by
      intro route hroute
      obtain ⟨d, hd, method, hmethod, rfl⟩ := mem_routes.1 hroute
      obtain ⟨found, hfound, htype, hcalled⟩ := hrouted d hd method hmethod ""
      rw [getFunctionToBeCalled_of_route hfound] at hcalled
      have hfunction := Except.ok.inj hcalled
      obtain ⟨hmem, hpath⟩ := getRoute_of_registered hs hfound
      obtain ⟨d', -, method', -, rfl⟩ := mem_routes.1 hmem
      have htype' : d'.1 = d.1 := htype
      have hfunction' : method' = method := hfunction
      have heq : lastTwo ("" ++ "/" ++ (method.route d.1).endpointPath) = (method.route d.1).endpointPath := by
        rw [hfunction', htype'] at hpath
        exact hpath.symm
      refine ⟨heq, method'.route d'.1, ?_, htype', hfunction'⟩
      rw [← heq]
      exact hfound
    refine ⟨hnone, ?_⟩
    intro route hroute
    obtain ⟨hpath, found, hfound, htype, hfunction⟩ := hlookup route hroute
    refine ⟨(lastTwo_request_iff "" _).1 hpath, ?_⟩
    intro other hother hsame
    obtain ⟨-, found', hfound', htype', hfunction'⟩ := hlookup other hother
    rw [hsame, hfound] at hfound'
    cases hfound'
    exact ⟨htype'.symm.trans htype, hfunction'.symm.trans hfunction⟩
  · rintro ⟨hnone, hapart⟩
    obtain ⟨s, hrun, hs⟩ := run_accepted registered_empty hnone
    rw [List.nil_append] at hs
    refine ⟨s, by rw [registerClasses_eq, hrun], ?_⟩
    intro d hd method hmethod before
    have hroute : method.route d.1 ∈ routes (declarations declared) := mem_routes.2 ⟨d, hd, method, hmethod, rfl⟩
    obtain ⟨hparts, honly⟩ := hapart _ hroute
    obtain ⟨found, hget⟩ := exists_getRoute hs hroute
    have hfound : getRoute s (d.1 ++ method.finalPath) = .ok found := hget
    obtain ⟨hmem, hpath⟩ := getRoute_of_registered hs hget
    obtain ⟨htype, hfunction⟩ := honly found hmem hpath
    have hrequest : lastTwo (before ++ "/" ++ (d.1 ++ method.finalPath)) = d.1 ++ method.finalPath :=
      (lastTwo_request_iff before _).2 hparts
    rw [hrequest]
    refine ⟨found, hfound, htype, ?_⟩
    rw [getFunctionToBeCalled_of_route hfound, hfunction]
    rfl

/-- Registration either reports a type or a complete path that is declared twice or routes every request, exactly if
the first declaration it refuses repeats what it complains about, or it refuses none and all paths are apart. -/
theorem registers_iff (declared : List (String × BlueprintClass)) :
    Refuses declared ∨ Routed declared ↔
      (∃ done d, firstRefused [] (declarations declared) = some (done, d) ∧ d.Collides done ∧ d.Repeats done) ∨
      (firstRefused [] (declarations declared) = none ∧ PathsApart declared) := by
  rw [refuses_iff, routed_iff]

/-- Two methods of one class at one path: the second is routed in place of the first. -/
def vyos : List (String × BlueprintClass) :=
  [("vyos", { module := "nfvcl.blueprints.vyos", qualname := "VyOSBlueprint", day2Methods :=
    [{ object := 0, qualname := "VyOSBlueprint.add_dnat_rule", finalPath := "/nat", requestType := [.post] },
      { object := 1, qualname := "VyOSBlueprint.add_snat_rule", finalPath := "/nat", requestType := [.post] }] })]

theorem registers_fails : ¬ (Refuses vyos ∨ Routed vyos) := by
  have haccepted : firstRefused [] (declarations vyos) = none := by decide
  rw [refuses_iff, routed_iff]
  rintro (⟨done, d, hrefused, -⟩ | ⟨-, hapart⟩)
  · rw [haccepted] at hrefused
    cases hrefused
  · exact absurd hapart (by decide)

end Nfvcl.Day2Routes
