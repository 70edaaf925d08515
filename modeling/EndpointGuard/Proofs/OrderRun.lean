import Mathlib.Data.List.Induction
import EndpointGuard.Proofs.OrderCalls
import EndpointGuard.Proofs.RoleRule

/-!
# Who changes the orders

What requests to the demo service do to the orders of its desk. `Change` lists what one request can
do, and `serve_change` says that it does nothing else. The rest is by induction over the requests of
a run: `orders_authorized` tells who placed the orders that stand at its end, and that without the
administrator's token none of them goes away.
-/

namespace EndpointGuard.Demo

open EndpointGuard.Http (Request Router)

/-- The request presents a token: it carries it behind the word `Bearer` in its header. -/
def Presents (request : Request) (token : String) : Prop :=
  ∃ value rest, request.header? "Authorization" = some value ∧
    stripStart? "Bearer " value = some rest ∧ Text.trim rest = token

/-- The request is a call of one of the methods of the order desk. -/
def CallsMethod (settings : Settings) (request : Request) (name : String) : Prop :=
  request.method = "POST" ∧ ∃ endpoint method,
    CallPath.IsCall settings.pathPrefix request.path endpoint method ∧
    Text.lowerCase endpoint = "orders" ∧ Text.lowerCase method = name

/-- What a request can do to the orders of a desk: nothing, or place an order for the user whose
token it presents, or cancel orders when the token is the administrator's. -/
inductive Change (settings : Settings) (desk : OrderDesk) (request : Request) :
    OrderDesk → Prop where
  | unchanged : Change settings desk request desk
  | placed {token user} (item : String) :
      Presents request token → tokens.get? token = some user →
      CallsMethod settings request "place" →
      Change settings desk request ⟨desk.orders ++ [⟨desk.nextId, item, user.username⟩]⟩
  | cancelled (id : Nat) :
      Presents request "admin-token" → CallsMethod settings request "cancel" →
      Change settings desk request ⟨desk.orders.filter fun order ↦ order.id ≠ id⟩

/-- Serve requests one after the other. -/
def serveAll (home : String) (router : Router) (settings : Settings) (desk : OrderDesk)
    (arrivals : List (EventStamp × Request)) : OrderDesk :=
  arrivals.foldl
    (fun desk arrival ↦ (serve settings arrival.1 desk arrival.2 home router).desk) desk

/-! ## The callers -/

/-- The user of a request is the one whose token it presents. -/
theorem bearer_eq_some_iff {request : Request} {user : User} :
    bearer request = some user ↔
      ∃ token, Presents request token ∧ tokens.get? token = some user := by
  simp only [bearer, Option.bind_eq_bind, Option.bind_eq_some_iff, Presents]
  constructor
  · rintro ⟨value, hvalue, rest, hrest, htoken⟩
    exact ⟨_, ⟨value, rest, hvalue, hrest, rfl⟩, htoken⟩
  · rintro ⟨_, ⟨value, rest, hvalue, hrest, rfl⟩, htoken⟩
    exact ⟨value, hvalue, rest, hrest, htoken⟩

/-- The table holds two tokens. -/
theorem tokens_cases {token : String} {user : User} (h : tokens.get? token = some user) :
    token = "admin-token" ∧ user = (User.named "admin").grantRoles ["ADMIN", "USER"] ∨
      token = "user-token" ∧ user = (User.named "user").grantRoles ["USER"] := by
  have hmem := KeyedList.mem_of_find h
  have hentries : tokens.entries =
      [("admin-token", (User.named "admin").grantRoles ["ADMIN", "USER"]),
        ("user-token", (User.named "user").grantRoles ["USER"])] := rfl
  rw [hentries] at hmem
  simpa using hmem

/-- The plain user is no administrator, whatever the role prefix is. -/
theorem not_holds_admin (given : Option String) :
    (RoleHolder.ofUser? (some ((User.named "user").grantRoles ["USER"])) (.ofText? given)).holds
      "ADMIN" = false := by
  have hroles : ((User.named "user").grantRoles ["USER"]).roles.names = ["USER"] := rfl
  have hauthorities : ((User.named "user").grantRoles ["USER"]).authorities.names = [] := rfl
  rw [Bool.eq_false_iff, ne_eq, holds_known_iff rfl]
  intro hgranted
  cases hgranted with
  | stripped _ _ hrole hfound =>
      -- The role would have to end in the one that was granted.
      simp only [hroles, hauthorities, List.mem_singleton, List.not_mem_nil, or_false] at hfound
      have hlast := congrArg (fun text ↦ text.toList.getLast?) hrole
      simp [hfound] at hlast
  | lengthened _ _ _ hfound => simp [hroles, hauthorities] at hfound
  | plain _ hfound => simp [hroles, hauthorities] at hfound

/-! ## What a call is allowed to do -/

variable {home : String} {router : Router} {settings : Settings} {desk : OrderDesk}
  {request : Request}

/-- To place an order one has to be known. -/
theorem placing_user {resolved : ResolvedMethod} {user : Option User}
    (htarget : resolved.target = Method.place.target)
    (hallowed : (gate settings home).decisionOn resolved user = .allowed) :
    ∃ known, user = some known := by
  cases user with
  | some known => exact ⟨known, rfl⟩
  | none =>
      unfold Gate.decisionOn at hallowed
      rw [htarget] at hallowed
      cases hallowed

/-- To cancel orders one has to be an administrator. -/
theorem cancelling_token {resolved : ResolvedMethod} (htarget : resolved.target = Method.cancel.target)
    (hallowed : (gate settings home).decisionOn resolved (bearer request) = .allowed) :
    Presents request "admin-token" := by
  unfold Gate.decisionOn at hallowed
  rw [htarget] at hallowed
  cases hbearer : bearer request with
  | none =>
      rw [hbearer] at hallowed
      cases hallowed
  | some user =>
      obtain ⟨token, hpresents, htoken⟩ := bearer_eq_some_iff.mp hbearer
      rcases tokens_cases htoken with ⟨rfl, _⟩ | ⟨_, rfl⟩
      · exact hpresents
      · have hholds := not_holds_admin (gate settings home).settings.rolePrefix
        have hdecision : ∀ holds : String → Bool, ((gate settings home).checker.decide
            Method.cancel.target (.ofUser? (some ((User.named "user").grantRoles ["USER"])))
            holds).1 = if (holds "ADMIN" || false) = true then .allowed
              else .denied (gate settings home).checker.deniedMessage := fun _ ↦ rfl
        rw [hbearer, hdecision, hholds] at hallowed
        cases hallowed

/-- What carrying out a method does to the orders. -/
theorem run_cases (desk : OrderDesk) (context : RequestContext) (parameters : Json)
    (called : Method) :
    (called.run desk context parameters).2 = desk ∨
      called = .place ∧ (∃ item, (called.run desk context parameters).2 =
        ⟨desk.orders ++ [⟨desk.nextId, item, (context.user.map User.username).getD ""⟩]⟩) ∨
      called = .cancel ∧ ∃ id, (called.run desk context parameters).2 =
        ⟨desk.orders.filter fun order ↦ order.id ≠ id⟩ := by
  cases called with
  | version => exact Or.inl rfl
  | internals => exact Or.inl rfl
  | count => exact Or.inl rfl
  | list => exact Or.inl rfl
  | place => exact Or.inr (Or.inl ⟨rfl, _, rfl⟩)
  | cancel =>
      simp only [Method.run]
      split
      · exact Or.inr (Or.inr ⟨trivial, _, rfl⟩)
      · exact Or.inl rfl

/-! ## One request -/

/-- A request that is refused changes nothing, any other one does what it is dispatched to. -/
theorem serve_desk (home : String) (router : Router) (settings : Settings) (stamp : EventStamp)
    (desk : OrderDesk) (request : Request) :
    (serve settings stamp desk request home router).desk =
      match ((gate settings home).examine stamp (bearer request) request.path).refusal with
      | some _ => desk
      | none => (dispatched router settings desk (callContext settings request) request).2 := by
  have hserve := congrArg Prod.snd (serve_eq home router settings stamp desk request)
  dsimp only at hserve
  rw [hserve]
  cases ((gate settings home).examine stamp (bearer request) request.path).refusal <;> rfl

/-- A request does nothing to the orders but what its token allows. -/
theorem serve_change (home : String) (hrouter : router.ReadsPlain)
    (hplain : Showcase.IsPlain settings.pathPrefix) (stamp : EventStamp) (desk : OrderDesk)
    (request : Request) :
    Change settings desk request (serve settings stamp desk request home router).desk := by
  rw [serve_desk]
  cases hrefusal : ((gate settings home).examine stamp (bearer request) request.path).refusal with
  | some refusal => exact .unchanged
  | none =>
      dsimp only
      rcases dispatch_plain_cases hrouter hplain _ with hnothing |
        ⟨hpost, first, second, hfirst, hpath, hran⟩
      · rw [hnothing]
        exact .unchanged
      rcases (Gate.refusal_eq_none_iff _ _ _ _).mp hrefusal with hout | ⟨resolved, hcalls, hallowed⟩
      · exact absurd (CallPath.under_of_append hpath) hout
      obtain ⟨endpoint, method, hcall, hresolve⟩ := hcalls
      obtain ⟨rfl, rfl⟩ := hcall.segments_eq hfirst hpath
      obtain ⟨called, hendpoint, hmethod, rfl⟩ := resolve_cases hresolve
      have hnamed : CallsMethod settings request called.name :=
        ⟨hpost, endpoint, method, hcall, hendpoint, hmethod⟩
      rw [hran, call_method_of_name desk _ request hendpoint hmethod]
      rcases run_cases desk _ (parameters request) called with
        hsame | ⟨rfl, item, hplaced⟩ | ⟨rfl, id, hcancelled⟩
      · rw [hsame]
        exact .unchanged
      · obtain ⟨user, huser⟩ := placing_user rfl hallowed
        obtain ⟨token, hpresents, htoken⟩ := bearer_eq_some_iff.mp huser
        rw [hplaced, call_context_user, huser]
        exact .placed item hpresents htoken hnamed
      · rw [hcancelled]
        exact .cancelled id (cancelling_token rfl hallowed) hnamed

/-- A request without a token of the table changes nothing. -/
theorem Change.eq_of_no_token {after : OrderDesk} (h : Change settings desk request after)
    (hnone : ∀ token user, Presents request token → tokens.get? token ≠ some user) :
    after = desk := by
  cases h with
  | unchanged => rfl
  | placed _ hpresents htoken => exact absurd htoken (hnone _ _ hpresents)
  | cancelled _ hpresents =>
      have hadmin : tokens.get? "admin-token" =
          some ((User.named "admin").grantRoles ["ADMIN", "USER"]) := rfl
      exact absurd hadmin (hnone _ _ hpresents)

/-- Without the administrator's token no order goes away. -/
theorem Change.orders_kept {after : OrderDesk} (h : Change settings desk request after)
    (hnone : ¬ Presents request "admin-token") : desk.orders <+: after.orders := by
  cases h with
  | unchanged => exact List.prefix_rfl
  | placed => exact List.prefix_append _ _
  | cancelled _ hpresents => exact absurd hpresents hnone

/-! ## Runs of requests -/

/-- A run is its beginning and the rest. -/
theorem serve_all_append (home : String) (router : Router) (settings : Settings) (desk : OrderDesk)
    (earlier later : List (EventStamp × Request)) :
    serveAll home router settings desk (earlier ++ later) =
      serveAll home router settings (serveAll home router settings desk earlier) later :=
  List.foldl_append

/-- Without the administrator's token the orders of a run only grow. -/
theorem serve_all_kept (home : String) (hrouter : router.ReadsPlain)
    (hplain : Showcase.IsPlain settings.pathPrefix) (desk : OrderDesk)
    {arrivals : List (EventStamp × Request)}
    (hnone : ∀ arrival ∈ arrivals, ¬ Presents arrival.2 "admin-token") :
    desk.orders <+: (serveAll home router settings desk arrivals).orders := by
  induction arrivals generalizing desk with
  | nil => exact List.prefix_rfl
  | cons arrival rest ih =>
      obtain ⟨hfirst, hrest⟩ := List.forall_mem_cons.mp hnone
      have hstep := (serve_change home hrouter hplain arrival.1 desk arrival.2).orders_kept hfirst
      exact hstep.trans (ih _ hrest)

/-- An order was placed in a run: one of its requests presented the token of the owner and called
the method that places orders, and the order was put behind those there were. -/
def PlacedIn (home : String) (router : Router) (settings : Settings)
    (arrivals : List (EventStamp × Request)) (order : Order) : Prop :=
  ∃ earlier stamp request later token user, arrivals = earlier ++ (stamp, request) :: later ∧
    Presents request token ∧ tokens.get? token = some user ∧ user.username = order.owner ∧
    CallsMethod settings request "place" ∧
    (serveAll home router settings {} (earlier ++ [(stamp, request)])).orders =
      (serveAll home router settings {} earlier).orders ++ [order]

/-- What was placed in a run was placed in every longer one. -/
theorem PlacedIn.append {arrivals : List (EventStamp × Request)} {order : Order}
    (h : PlacedIn home router settings arrivals order) (more : List (EventStamp × Request)) :
    PlacedIn home router settings (arrivals ++ more) order := by
  obtain ⟨earlier, stamp, request, later, token, user, rfl, hplaced⟩ := h
  exact ⟨earlier, stamp, request, later ++ more, token, user, by simp, hplaced⟩

/-- Every order at the end of a run was placed in it. -/
theorem placed_of_mem (home : String) (hrouter : router.ReadsPlain)
    (hplain : Showcase.IsPlain settings.pathPrefix) (arrivals : List (EventStamp × Request)) :
    ∀ order ∈ (serveAll home router settings {} arrivals).orders,
      PlacedIn home router settings arrivals order := by
  induction arrivals using List.reverseRecOn with
  | nil =>
      intro order horder
      cases horder
  | append_singleton earlier arrival ih =>
      obtain ⟨stamp, request⟩ := arrival
      intro order horder
      have hchange := serve_change home hrouter hplain stamp
        (serveAll home router settings {} earlier) request
      have hlast : serveAll home router settings {} (earlier ++ [(stamp, request)]) =
          (serve settings stamp (serveAll home router settings {} earlier) request home
            router).desk :=
        serve_all_append _ _ _ _ _ _
      rw [← hlast] at hchange
      generalize hafter : serveAll home router settings {} (earlier ++ [(stamp, request)]) = after
        at hchange horder
      cases hchange with
      | unchanged => exact (ih order horder).append _
      | @placed token user item hpresents htoken hcalls =>
          rcases List.mem_append.mp horder with hbefore | hnew
          · exact (ih order hbefore).append _
          · obtain rfl := List.mem_singleton.mp hnew
            exact ⟨earlier, stamp, request, [], token, user, rfl, hpresents, htoken, rfl, hcalls,
              by rw [hafter]⟩
      | cancelled id => exact (ih order (List.mem_of_mem_filter horder)).append _

/-- In a run on an empty desk, no request does more than its token allows: one without a token of the
table changes nothing, one with a token places an order for its user at most, and only the
administrator's token cancels orders. So every order belongs to one of the two users and was placed
by that user, and from any point on the orders only grow unless the administrator's token is
presented. -/
theorem orders_authorized (home : String) (hrouter : router.ReadsPlain)
    (hplain : Showcase.IsPlain settings.pathPrefix)
    (arrivals : List (EventStamp × Request)) :
    (∀ earlier stamp request later, arrivals = earlier ++ (stamp, request) :: later →
      let before := serveAll home router settings {} earlier
      let after := serveAll home router settings {} (earlier ++ [(stamp, request)])
      Change settings before request after ∧
        ((∀ token user, Presents request token → tokens.get? token ≠ some user) →
          after = before)) ∧
    (∀ order ∈ (serveAll home router settings {} arrivals).orders,
      (order.owner = "admin" ∨ order.owner = "user") ∧
        PlacedIn home router settings arrivals order) ∧
    ∀ earlier later, arrivals = earlier ++ later →
      (∀ arrival ∈ later, ¬ Presents arrival.2 "admin-token") →
      (serveAll home router settings {} earlier).orders <+:
        (serveAll home router settings {} arrivals).orders := by
  refine ⟨?_, ?_, ?_⟩
  · intro earlier stamp request later _
    have hchange : Change settings (serveAll home router settings {} earlier) request
        (serveAll home router settings {} (earlier ++ [(stamp, request)])) := by
      rw [serve_all_append]
      exact serve_change home hrouter hplain stamp _ request
    exact ⟨hchange, hchange.eq_of_no_token⟩
  · intro order horder
    have hplaced := placed_of_mem home hrouter hplain arrivals order horder
    refine ⟨?_, hplaced⟩
    obtain ⟨_, _, _, _, token, user, _, _, htoken, howner, _⟩ := hplaced
    rw [← howner]
    rcases tokens_cases htoken with ⟨_, rfl⟩ | ⟨_, rfl⟩
    · exact Or.inl rfl
    · exact Or.inr rfl
  · rintro earlier later rfl hnone
    rw [serve_all_append]
    exact serve_all_kept home hrouter hplain _ hnone

/-- A call of the order desk with a token and a body in JSON. -/
def deskCall (path token body : String) : EventStamp × Request where
  fst := ⟨"1", 0⟩
  snd := {
    method := "POST"
    path := path
    headers := [("authorization", "Bearer " ++ token), ("content-type", "application/json")]
    body := body }

/-- A user places an order and tries to cancel it, and a caller with no token of the table tries to
place another one. -/
def deskRun : List (EventStamp × Request) :=
  [deskCall "/connect/Orders/PLACE" "user-token" "\x7b\"item\":\"tea\"\x7d",
    deskCall "/connect/orders/cancel" "user-token" "\x7b\"id\":1\x7d",
    deskCall "/connect/orders/place" "no-token" "\x7b\"item\":\"milk\"\x7d"]

/-- The one order of the run stays until the administrator cancels it. -/
theorem desk_run_orders :
    Router.standard.ReadsPlain ∧
      (serveAll ownModule .standard .standard {} deskRun).orders = [⟨1, "tea", "user"⟩] ∧
      PlacedIn ownModule .standard .standard deskRun ⟨1, "tea", "user"⟩ ∧
      (serveAll ownModule .standard .standard {} (deskRun ++
        [deskCall "/connect/orders/Cancel" "admin-token" "\x7b\"id\":1\x7d"])).orders = [] := by
  have hplain : Showcase.IsPlain Settings.standard.pathPrefix :=
    ⟨by decide, Or.inr ⟨"connect".toList, by decide⟩⟩
  have hdesk : serveAll ownModule .standard .standard {} deskRun = ⟨[⟨1, "tea", "user"⟩]⟩ := by
    decide +kernel
  refine ⟨Http.standard_reads_plain, by rw [hdesk], ?_, ?_⟩
  · obtain ⟨_, hplaced, _⟩ :=
      orders_authorized ownModule Http.standard_reads_plain hplain deskRun
    exact (hplaced ⟨1, "tea", "user"⟩ (by simp [hdesk])).2
  · rw [serve_all_append, hdesk]
    decide +kernel

end EndpointGuard.Demo
