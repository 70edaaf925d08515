import EndpointGuard.Demo.Service
import EndpointGuard.Proofs.CallAddress
import EndpointGuard.Proofs.LowerCase
import EndpointGuard.Proofs.Percent
import EndpointGuard.Proofs.RegistryRun

/-!
# The calls of the order desk

Which method a call of the demo service carries out. The registry says what is checked about a call,
and the service names the methods again in a table of its own. `resolve_eq` says that the two tables
agree on every spelling. Read `calls_executed_as_checked` first: whatever the gate lets pass as a
call is carried out by the method that was checked, if it is carried out at all.
-/

namespace EndpointGuard.Demo

open EndpointGuard.Http (Request Response Router callText captured dispatch)

namespace Method

/-- The name of a method of the order desk. -/
def name : Method → String
  | .version => "version"
  | .internals => "internals"
  | .count => "count"
  | .list => "list"
  | .place => "place"
  | .cancel => "cancel"

/-- What is checked when a method of the order desk is called. -/
def target : Method → Target
  | .version => ⟨.ofMarkers [.anonymousAllowed], .unspecified⟩
  | .internals => ⟨.unspecified, .unspecified⟩
  | .count => ⟨.ofMarkers [.anonymousAllowed], .ofMarkers [.permitAll]⟩
  | .list => ⟨.unspecified, .ofMarkers [.permitAll]⟩
  | .place => ⟨.unspecified, .ofMarkers [.permitAll]⟩
  | .cancel => ⟨.ofMarkers [.rolesAllowed ["ADMIN"]], .ofMarkers [.permitAll]⟩

/-- The type that declares a method of the order desk. -/
def declaringType (home : String) : Method → String
  | .version => (statusType home).own.typeName
  | .internals => (statusType home).own.typeName
  | .count => (orderType home).own.typeName
  | .list => (orderType home).own.typeName
  | .place => (orderType home).own.typeName
  | .cancel => (orderType home).own.typeName

/-- What a call of a method of the order desk resolves to. -/
def checked (home : String) (called : Method) : ResolvedMethod where
  endpoint := "orders"
  method := called.name
  declaringType := called.declaringType home
  target := called.target

end Method

/-! ## The two tables -/

variable {home : String}

/-- The service knows a method by its name in lower case. -/
theorem of_call_eq_some_iff {endpoint method : String} {called : Method} :
    Method.ofCall? endpoint method = some called ↔
      Text.lowerCase endpoint = "orders" ∧ Text.lowerCase method = called.name := by
  unfold Method.ofCall?
  by_cases hendpoint : Text.lowerCase endpoint = "orders"
  · rw [if_pos hendpoint]
    constructor
    · intro h
      refine ⟨hendpoint, ?_⟩
      split at h <;> cases h <;> assumption
    · rintro ⟨_, hmethod⟩
      rw [hmethod]
      cases called <;> rfl
  · simp [hendpoint]

/-- The registry of the demo holds one endpoint. -/
theorem find_eq_some_iff {name : String} {entry : Endpoint} :
    (registry home).find? name = some entry ↔
      Text.lowerCase name = "orders" ∧ (orderType home).toEndpoint = entry := by
  have hname : Text.lowerCase (orderType home).own.endpointName = "orders" := by
    show Text.lowerCase "orders" = "orders"
    rfl
  have hnamed : (orderType home).IsNamed name ↔ Text.lowerCase name = "orders" := by
    rw [← hname]
    exact eq_comm
  have hempty : Registry.empty.find? name = none := rfl
  rw [registry, Registry.find_add, ← hnamed]
  by_cases h : (orderType home).IsNamed name
  · simp [h]
  · simp [h, hempty]

/-- The endpoint offers the methods by their names. -/
theorem offered_eq_some_iff {name : String} {offered : OfferedMethod} :
    (orderType home).offeredMethods.get? name = some offered ↔
      ∃ called : Method, called.name = name ∧
        ⟨called.name, called.declaringType home, called.target.method⟩ = offered := by
  have hentries : (orderType home).offeredMethods.entries =
      [Method.version, .internals, .count, .list, .place, .cancel].map fun called ↦
        (called.name, ⟨called.name, called.declaringType home, called.target.method⟩) := by
    rfl
  have hall : ∀ called : Method,
      called ∈ [Method.version, .internals, .count, .list, .place, .cancel] := by
    intro called
    cases called <;> decide
  rw [KeyedList.get_eq_some_iff, hentries, List.mem_map]
  simp only [hall, true_and, Prod.mk.injEq]

/-- The two types of the demo have different names. -/
theorem type_name_ne (home : String) :
    (statusType home).own.typeName ≠ (orderType home).own.typeName := by
  intro h
  exact absurd ((String.append_right_inj home).mp h) (by decide)

/-- The registry holds the policy of the type that declares a method. -/
theorem type_policy_eq (called : Method) :
    (registry home).types.get? (called.declaringType home) = some called.target.declaringType := by
  have hne := type_name_ne home
  have htypes (name : String) : (registry home).types.get? name =
      if (orderType home).own.typeName = name then some (.ofMarkers [.permitAll])
      else if (statusType home).own.typeName = name then some .unspecified else none := by
    have hempty : Registry.empty.types.get? name = none := rfl
    rw [registry, Registry.add, KeyedList.get_insert_all, hempty, Option.or_none]
    rfl
  rw [htypes]
  cases called <;> simp [Method.declaringType, Method.target, hne.symm]

/-- A call resolves to what is checked for the method that the service carries out for it, and to
nothing where the service carries out nothing. -/
theorem resolve_eq (home endpoint method : String) :
    (registry home).resolve endpoint method =
      (Method.ofCall? endpoint method).map (Method.checked home) := by
  refine Option.ext fun resolved ↦ ?_
  simp only [Registry.resolve, Option.bind_eq_bind, Option.bind_eq_some_iff, Option.pure_def,
    Option.some.injEq, Option.map_eq_some_iff, find_eq_some_iff, of_call_eq_some_iff]
  constructor
  · rintro ⟨_, ⟨hendpoint, rfl⟩, offered, hoffered, policy, hpolicy, rfl⟩
    obtain ⟨called, hname, rfl⟩ := offered_eq_some_iff.mp hoffered
    rw [type_policy_eq] at hpolicy
    obtain rfl := Option.some.inj hpolicy
    exact ⟨called, ⟨hendpoint, hname.symm⟩, rfl⟩
  · rintro ⟨called, ⟨hendpoint, hname⟩, rfl⟩
    exact ⟨_, ⟨hendpoint, rfl⟩, _, offered_eq_some_iff.mpr ⟨called, hname.symm, rfl⟩, _,
      type_policy_eq called, rfl⟩

/-- What a call of the order desk resolves to is what the service carries out for it, and what is
checked is what the method calls for. -/
theorem resolve_cases {endpoint method : String} {resolved : ResolvedMethod}
    (h : (registry home).resolve endpoint method = some resolved) :
    ∃ called : Method, Text.lowerCase endpoint = "orders" ∧
      Text.lowerCase method = called.name ∧ resolved = called.checked home := by
  rw [resolve_eq, Option.map_eq_some_iff] at h
  obtain ⟨called, hcalled, rfl⟩ := h
  obtain ⟨hendpoint, hmethod⟩ := of_call_eq_some_iff.mp hcalled
  exact ⟨called, hendpoint, hmethod, rfl⟩

/-! ## What a call is dispatched to -/

/-- Texts that have no percent sign in lower case are handed over as they are. -/
theorem captured_of_lower_case {text name : String} (h : Text.lowerCase text = name)
    (hname : '%' ∉ name.toList) : captured text.toList = text := by
  have htext : '%' ∉ text.toList := by
    rw [← Text.mem_lower_case_iff (by decide), h]
    exact hname
  rw [captured, String.ofList_toList, Text.decode_percent_eq_self htext]

/-- The service carries out the method that a call names. -/
theorem call_method_of_name {endpoint method : String} {called : Method} (desk : OrderDesk)
    (context : RequestContext) (request : Request) (hendpoint : Text.lowerCase endpoint = "orders")
    (hmethod : Text.lowerCase method = called.name) :
    callMethod desk context request [captured endpoint.toList, captured method.toList] =
      called.run desk context (parameters request) := by
  -- The segments hold no percent sign, so that the service sees what the gate saw.
  have hname : '%' ∉ called.name.toList := by cases called <;> decide
  have hcalled : Method.ofCall? endpoint method = some called :=
    of_call_eq_some_iff.mpr ⟨hendpoint, hmethod⟩
  rw [captured_of_lower_case hendpoint (by decide), captured_of_lower_case hmethod hname]
  simp only [callMethod, hcalled]

variable {router : Router} {settings : Settings} {desk : OrderDesk} {request : Request}

/-- What a request comes to behind the gate, with what the gate has attached to it. -/
def dispatched (router : Router) (settings : Settings) (desk : OrderDesk)
    (context : RequestContext) (request : Request) : Response × OrderDesk :=
  dispatch router (callRoutes settings desk context request) (.nothingHere, desk) request.method
    request.path

/-- A request is dispatched to the handler of calls with the texts of the variables of its pattern,
or to nothing. -/
theorem dispatch_cases (router : Router) (settings : Settings) (desk : OrderDesk)
    (context : RequestContext) (request : Request) :
    dispatched router settings desk context request = (.nothingHere, desk) ∨
      request.method = "POST" ∧ ∃ found,
        router.captures? (callText settings.pathPrefix) request.path = some found ∧
        dispatched router settings desk context request =
          callMethod desk context request (found.map captured) := by
  unfold dispatched dispatch callRoutes Http.callRoute
  by_cases hmethod : request.method = "POST"
  · cases hfound : router.captures? (callText settings.pathPrefix) request.path with
    | none =>
        left
        simp [Http.Route.answer?, hfound]
    | some found =>
        right
        refine ⟨hmethod, found, rfl, ?_⟩
        simp [Http.Route.answer?, hmethod, hfound]
  · left
    have hpost : ¬ "POST" = request.method := fun e ↦ hmethod e.symm
    simp [Http.Route.answer?, hpost]

/-- Under a plain path, a request is dispatched to the method that its two segments name, or to
nothing. -/
theorem dispatch_plain_cases (hrouter : router.ReadsPlain)
    (hplain : Showcase.IsPlain settings.pathPrefix) (context : RequestContext) :
    dispatched router settings desk context request = (.nothingHere, desk) ∨
      request.method = "POST" ∧ ∃ first second, '/' ∉ first ∧
        request.path.toList = settings.pathPrefix.toList ++ '/' :: (first ++ '/' :: second) ∧
        dispatched router settings desk context request =
          callMethod desk context request [captured first, captured second] := by
  rcases dispatch_cases router settings desk context request with hnothing |
    ⟨hpost, found, hfound, hran⟩
  · exact Or.inl hnothing
  · obtain ⟨first, second, hfirst, rfl, hpath⟩ := hplain.segments_of_match hrouter hfound
    exact Or.inr ⟨hpost, first, second, hfirst, hpath, hran⟩

/-- A text that is empty or begins with a brace is no spelling of the name of the order desk. -/
theorem lower_case_captured_ne {text : List Char} (h : text.head?.all (· = '\x7b')) :
    Text.lowerCase (captured text) ≠ "orders" := by
  cases text with
  | nil => decide
  | cons c rest =>
      obtain rfl : c = '\x7b' := by simpa using h
      have hbrace : Text.lowerChar '\x7b' = ['\x7b'] := rfl
      rw [captured, Text.decode_percent_cons (by decide) (by decide), ← String.toList_inj.ne,
        Text.lowerCase, String.toList_ofList, String.toList_ofList, Text.lowerAfter,
        if_neg (by decide), hbrace]
      intro heq
      exact absurd (List.cons.inj heq).1 (by decide)

/-- Whatever the configured path is, a call is dispatched to the method that its two segments name,
or to nothing, if the first variable of the route stands right behind the text in front of it. -/
theorem dispatch_call_cases {endpoint method : String} (hrouter : router.ReadsPlain)
    (hanchored : router.Anchored (callText settings.pathPrefix))
    (hcall : CallPath.IsCall settings.pathPrefix request.path endpoint method)
    (context : RequestContext) :
    dispatched router settings desk context request = (.nothingHere, desk) ∨
      dispatched router settings desk context request =
        callMethod desk context request [captured endpoint.toList, captured method.toList] := by
  by_cases hplain : Showcase.IsPlain settings.pathPrefix
  · rcases dispatch_plain_cases hrouter hplain context with hnothing |
      ⟨_, first, second, hfirst, hpath, hran⟩
    · exact Or.inl hnothing
    · obtain ⟨rfl, rfl⟩ := hcall.segments_eq hfirst hpath
      exact Or.inr hran
  · rcases dispatch_cases router settings desk context request with hnothing |
      ⟨_, found, hfound, hran⟩
    · exact Or.inl hnothing
    · -- The first text that is handed over begins with a brace of the configured path.
      obtain ⟨first, others, rfl, hfirst⟩ :=
        Showcase.brace_of_match_under hplain hanchored hfound hcall.under
      left
      rw [hran]
      cases others with
      | nil => rfl
      | cons second others =>
          have hnone : Method.ofCall? (captured first) (captured second) = none :=
            if_neg (lower_case_captured_ne hfirst)
          simp only [List.map_cons, callMethod, hnone]

/-- Under a plain path without slashes at its end, a posted call is dispatched to the method that
its two segments name. -/
theorem dispatch_posted_call {endpoint method : String} (hrouter : router.ReadsPlain)
    (hplain : Showcase.IsPlain settings.pathPrefix)
    (hbase : CallPath.base settings.pathPrefix = settings.pathPrefix)
    (hcall : CallPath.IsCall settings.pathPrefix request.path endpoint method)
    (hpost : request.method = "POST") (context : RequestContext) :
    dispatched router settings desk context request =
      callMethod desk context request [captured endpoint.toList, captured method.toList] := by
  have haddress : request.path = callAddress settings.pathPrefix endpoint method := by
    rw [hcall.path_eq, hbase, callAddress]
  have hfound := match_address hrouter hplain
    ⟨hcall.endpoint_ne, hcall.slash_not_mem_endpoint⟩
    ⟨hcall.method_ne, hcall.slash_not_mem_method⟩
  rw [← haddress] at hfound
  simp [dispatched, dispatch, callRoutes, Http.callRoute, Http.Route.answer?, hpost, hfound]

/-! ## What a request executes -/

/-- What the gate attaches to a request that it hands on. -/
def callContext (settings : Settings) (request : Request) : RequestContext :=
  ({} : RequestContext).attach (bearer request) settings.checker.rolePrefix

/-- The service sees the user whose token a request presents. -/
@[simp]
theorem call_context_user (settings : Settings) (request : Request) :
    (callContext settings request).user = bearer request :=
  Option.or_none

/-- A request is answered as a method answers it, and leaves the orders as the method does. -/
def Executes (home : String) (router : Router) (settings : Settings) (stamp : EventStamp)
    (desk : OrderDesk) (request : Request) (called : Method) : Prop :=
  let served := serve settings stamp desk request home router
  (served.response, served.desk) =
    called.run desk (callContext settings request) (parameters request)

/-- A request is answered that nothing is there, and leaves the orders as they are. -/
def ExecutesNothing (home : String) (router : Router) (settings : Settings) (stamp : EventStamp)
    (desk : OrderDesk) (request : Request) : Prop :=
  let served := serve settings stamp desk request home router
  (served.response, served.desk) = (.nothingHere, desk)

/-- A request comes to its refusal, or to what it is dispatched to. -/
theorem serve_eq (home : String) (router : Router) (settings : Settings) (stamp : EventStamp)
    (desk : OrderDesk) (request : Request) :
    let served := serve settings stamp desk request home router
    (served.response, served.desk) =
      match ((gate settings home).examine stamp (bearer request) request.path).refusal with
      | some refusal => (refusal.response, desk)
      | none => dispatched router settings desk (callContext settings request) request := by
  unfold serve
  dsimp only
  rw [Gate.serve_answer]
  cases ((gate settings home).examine stamp (bearer request) request.path).refusal with
  | some refusal => dsimp only
  | none => rfl

/-- No method answers that nothing is there. -/
theorem run_ne_nothing (desk : OrderDesk) (context : RequestContext) (parameters : Json)
    (called : Method) : (called.run desk context parameters).1 ≠ .nothingHere := by
  have hjson (status : Nat) (value : Json) : Response.json status value ≠ .nothingHere := by
    intro h
    cases congrArg Response.contentType h
  cases called with
  | cancel =>
      simp only [Method.run]
      split
      · exact hjson _ _
      · exact hjson _ _
  | _ => exact hjson _ _

/-- A method is known by what is checked for it. -/
theorem Method.checked_inj {first second : Method}
    (h : first.checked home = second.checked home) : first = second := by
  have hname : first.name = second.name := congrArg ResolvedMethod.method h
  cases first <;> cases second <;> first | rfl | exact absurd hname (by decide)

/-- The handler of calls carries out the method that a call resolves to. -/
theorem call_method_of_resolve {endpoint method : String} {called : Method} (desk : OrderDesk)
    (context : RequestContext) (request : Request)
    (h : (registry home).resolve endpoint method = some (called.checked home)) :
    callMethod desk context request [endpoint, method] =
      called.run desk context (parameters request) := by
  rw [resolve_eq, Option.map_eq_some_iff] at h
  obtain ⟨other, hother, hchecked⟩ := h
  obtain rfl := Method.checked_inj hchecked
  simp only [callMethod, hother]

/-- The handler of calls answers that nothing is there exactly when a call resolves to nothing. -/
theorem call_method_nothing_iff (desk : OrderDesk) (context : RequestContext) (request : Request)
    (endpoint method : String) :
    (callMethod desk context request [endpoint, method]).1 = .nothingHere ↔
      (registry home).resolve endpoint method = none := by
  rw [resolve_eq, Option.map_eq_none_iff]
  cases hcalled : Method.ofCall? endpoint method with
  | none => simp [callMethod, hcalled]
  | some called =>
      simp only [callMethod, hcalled, reduceCtorEq, iff_false]
      exact run_ne_nothing _ _ _ _

/-- A call that the gate allows is carried out by the method that was checked, or by none. -/
theorem executes_of_calls {resolved : ResolvedMethod} (hrouter : router.ReadsPlain)
    (stamp : EventStamp) (desk : OrderDesk)
    (hcalls : (gate settings home).Calls request.path resolved)
    (hallowed : (gate settings home).decisionOn resolved (bearer request) = .allowed) :
    ∃ called : Method, called.checked home = resolved ∧
      (router.Anchored (callText settings.pathPrefix) →
        Executes home router settings stamp desk request called ∨
          ExecutesNothing home router settings stamp desk request) ∧
      (Showcase.IsPlain settings.pathPrefix →
        CallPath.base settings.pathPrefix = settings.pathPrefix → request.method = "POST" →
        Executes home router settings stamp desk request called) := by
  have hrefusal := ((gate settings home).refusal_eq_none_iff stamp (bearer request)
    request.path).mpr (Or.inr ⟨resolved, hcalls, hallowed⟩)
  obtain ⟨endpoint, method, hcall, hresolve⟩ := hcalls
  obtain ⟨called, hendpoint, hmethod, rfl⟩ := resolve_cases hresolve
  have hserve := serve_eq home router settings stamp desk request
  have hrun := call_method_of_name desk (callContext settings request) request hendpoint hmethod
  rw [hrefusal] at hserve
  refine ⟨called, rfl, ?_, ?_⟩
  · intro hanchored
    rcases dispatch_call_cases hrouter hanchored hcall (callContext settings request) with
      hnothing | hran
    · exact Or.inr (hserve.trans hnothing)
    · exact Or.inl (hserve.trans (hran.trans hrun))
  · intro hplain hbase hpost
    exact hserve.trans ((dispatch_posted_call hrouter hplain hbase hcall hpost _).trans hrun)

/-- The pattern of the calls under a plain path is plain itself. -/
theorem anchored_of_plain (hrouter : router.ReadsPlain)
    (hplain : Showcase.IsPlain settings.pathPrefix) :
    router.Anchored (callText settings.pathPrefix) :=
  hrouter.anchored (Option.isSome_iff_exists.mpr ⟨_, Http.call_pattern_of_plain hplain.1⟩)

/-- Under a plain path, what a request executes was checked and allowed. -/
theorem checked_of_executes (hrouter : router.ReadsPlain)
    (hplain : Showcase.IsPlain settings.pathPrefix) (stamp : EventStamp) (desk : OrderDesk)
    (hrefusal : ((gate settings home).examine stamp (bearer request) request.path).refusal = none) :
    ExecutesNothing home router settings stamp desk request ∨
      ∃ called : Method, (gate settings home).Calls request.path (called.checked home) ∧
        (gate settings home).decisionOn (called.checked home) (bearer request) = .allowed ∧
        Executes home router settings stamp desk request called := by
  have hserve := serve_eq home router settings stamp desk request
  rw [hrefusal] at hserve
  rcases (Gate.refusal_eq_none_iff _ _ _ _).mp hrefusal with hout | ⟨resolved, hcalls, hallowed⟩
  · rcases dispatch_plain_cases hrouter hplain (callContext settings request) with hnothing |
      ⟨_, _, _, _, hpath, _⟩
    · exact Or.inl (hserve.trans hnothing)
    · exact absurd (CallPath.under_of_append hpath) hout
  · obtain ⟨called, rfl, hruns, _⟩ := executes_of_calls hrouter stamp desk hcalls hallowed
    rcases hruns (anchored_of_plain hrouter hplain) with hexecutes | hnothing
    · exact Or.inr ⟨called, hcalls, hallowed, hexecutes⟩
    · exact Or.inl hnothing

/-- The registry and the service agree on every spelling of a call. What the registry resolves a
call to is what is checked for the method that the service carries out, and the service answers that
nothing is there exactly when the call resolves to nothing. So a call that the gate lets pass is
carried out by the method that was checked and by no other: always when it is posted under a path
that the route takes as it is, and under any such path nothing is executed that was not checked.
Under any other path it is so as long as the first variable of the route stands right behind the
text in front of it, as it does in every plain pattern. -/
theorem calls_executed_as_checked (home : String) (hrouter : router.ReadsPlain) :
    (∀ endpoint method, (registry home).resolve endpoint method =
      (Method.ofCall? endpoint method).map (Method.checked home)) ∧
    (∀ desk context request endpoint method,
      (∀ called : Method, (registry home).resolve endpoint method = some (called.checked home) →
        callMethod desk context request [endpoint, method] =
          called.run desk context (parameters request)) ∧
      ((callMethod desk context request [endpoint, method]).1 = .nothingHere ↔
        (registry home).resolve endpoint method = none)) ∧
    (∀ settings stamp desk request resolved,
      (gate settings home).Calls request.path resolved →
      (gate settings home).decisionOn resolved (bearer request) = .allowed →
      ∃ called : Method, called.checked home = resolved ∧
        (router.Anchored (callText settings.pathPrefix) →
          Executes home router settings stamp desk request called ∨
            ExecutesNothing home router settings stamp desk request) ∧
        (Showcase.IsPlain settings.pathPrefix →
          CallPath.base settings.pathPrefix = settings.pathPrefix → request.method = "POST" →
          Executes home router settings stamp desk request called)) ∧
    ∀ settings stamp desk request, Showcase.IsPlain settings.pathPrefix →
      ((gate settings home).examine stamp (bearer request) request.path).refusal = none →
      ExecutesNothing home router settings stamp desk request ∨
        ∃ called : Method, (gate settings home).Calls request.path (called.checked home) ∧
          (gate settings home).decisionOn (called.checked home) (bearer request) = .allowed ∧
          Executes home router settings stamp desk request called := by
  refine ⟨resolve_eq home, ?_, ?_, ?_⟩
  · intro desk context request endpoint method
    exact ⟨fun called h ↦ call_method_of_resolve desk context request h,
      call_method_nothing_iff desk context request endpoint method⟩
  · intro settings stamp desk request resolved hcalls hallowed
    exact executes_of_calls hrouter stamp desk hcalls hallowed
  · intro settings stamp desk request hplain hrefusal
    exact checked_of_executes hrouter hplain stamp desk hrefusal

/-- A call that places an order for the user of a token. -/
def placingCall : Request where
  method := "POST"
  path := "/connect/Orders/PLACE"
  headers := [("authorization", "Bearer user-token"), ("content-type", "application/json")]
  body := "\x7b\"item\":\"tea\"\x7d"

/-- The spelling of the call does not keep it from the method that was checked. -/
theorem placing_call_executed :
    Router.standard.ReadsPlain ∧
    registry.resolve "Orders" "PLACE" = some (Method.place.checked ownModule) ∧
    (gate .standard).Calls placingCall.path (Method.place.checked ownModule) ∧
    (gate .standard).decisionOn (Method.place.checked ownModule) (bearer placingCall) = .allowed ∧
    Executes ownModule .standard .standard ⟨"1", 0⟩ {} placingCall .place ∧
    (callMethod {} {} placingCall ["Orders", "PLACE"]).2.orders = [⟨1, "tea", ""⟩] ∧
    (callMethod {} {} placingCall ["Orders", "PLACED"]).1 = .nothingHere := by
  obtain ⟨htables, hhandler, hexecuted, _⟩ :=
    calls_executed_as_checked ownModule Http.standard_reads_plain
  have hresolve : registry.resolve "Orders" "PLACE" = some (Method.place.checked ownModule) := by
    rw [htables]
    rfl
  have hcalls : (gate .standard).Calls placingCall.path (Method.place.checked ownModule) :=
    ⟨"Orders", "PLACE", ⟨by decide, by decide, by decide, by decide, by decide⟩, hresolve⟩
  have hallowed : (gate .standard).decisionOn (Method.place.checked ownModule)
      (bearer placingCall) = .allowed := by
    decide
  refine ⟨Http.standard_reads_plain, hresolve, hcalls, hallowed, ?_, ?_, ?_⟩
  · obtain ⟨called, hchecked, _, hruns⟩ :=
      hexecuted .standard ⟨"1", 0⟩ {} placingCall _ hcalls hallowed
    rw [← Method.checked_inj hchecked]
    exact hruns ⟨by decide, Or.inr ⟨"connect".toList, by decide⟩⟩ (by decide) rfl
  · rw [(hhandler {} {} placingCall "Orders" "PLACE").1 .place hresolve]
    rfl
  · rw [(hhandler {} {} placingCall "Orders" "PLACED").2, htables]
    rfl

end EndpointGuard.Demo
