import EndpointGuard.Settings.Reader
import EndpointGuard.Showcase.Site
import EndpointGuard.Proofs.Mediation
import EndpointGuard.Proofs.NormalPath
import EndpointGuard.Proofs.Routing

/-!
# The handler of calls behind the gate

Whether the handler of calls can be reached around the gate. The gate recognises calls by the
configured path, and the route of the handler is made from the same text by other rules: it gets a
slash in front, and what stands in braces is a variable. Read `calls_guarded_iff` first: the handler
is guarded exactly when its route matches nothing but paths under the configured one. Where the
pattern is plain, that is so when these rules change nothing. All results are for any router that
reads plain patterns; a path configured with regular expressions is left to the router.
-/

namespace EndpointGuard.Showcase

open EndpointGuard.Http (Request Route Router dispatch callPattern? callText captured filled
  matchParts)

variable {home : String} {settings : Settings} {audit : Option AuditLogger} {router : Router}

/-- Every request that reaches the handler of calls calls a method that exists, and the checker
allows it for the caller. -/
def CallsGuarded (home : String) (settings : Settings) (audit : Option AuditLogger)
    (router : Router) : Prop :=
  ∀ store stamp request handed,
    ((callSite home settings audit router).reach store stamp request).answer =
      .ok (.call handed) →
    ∃ endpoint method resolved,
      CallPath.IsCall settings.pathPrefix request.path endpoint method ∧
      (registry home).resolve endpoint method = some resolved ∧
      (callSite home settings audit router).gate.decisionOn resolved (headerUser request) = .allowed

/-- The handler of calls is handed the endpoint and the method that a request calls. -/
def SegmentsHandedOver (home : String) (settings : Settings) (audit : Option AuditLogger)
    (router : Router) : Prop :=
  ∀ store stamp request handed,
    ((callSite home settings audit router).reach store stamp request).answer =
      .ok (.call handed) →
    ∃ endpoint method,
      CallPath.IsCall settings.pathPrefix request.path endpoint method ∧
      handed = [captured endpoint.toList, captured method.toList]

/-! ## What reaches the handler -/

/-- No page of the site is the handler of calls. -/
theorem page_ne_call (router : Router) (context : RequestContext) (method path : String)
    (handed : List String) :
    ((pageRoutes context).findSome? (·.answer? router method path)).getD (.page .nothingHere) ≠
      .call handed := by
  cases hfound : (pageRoutes context).findSome? (·.answer? router method path) with
  | none => simp
  | some reached =>
      obtain ⟨route, hroute, hanswer⟩ := List.exists_of_findSome?_eq_some hfound
      rw [Option.getD_some]
      unfold Route.answer? at hanswer
      split at hanswer
      · obtain ⟨found, _, rfl⟩ := Option.map_eq_some_iff.mp hanswer
        simp only [pageRoutes, List.mem_cons, List.not_mem_nil, or_false] at hroute
        rcases hroute with rfl | rfl | rfl <;> exact Reached.noConfusion
      · cases hanswer

/-- Dispatching ends at the handler of calls exactly for posted requests that match the pattern of
the calls, and hands over what stands for its variables. -/
theorem dispatch_eq_call_iff (router : Router) (settings : Settings) (context : RequestContext)
    (method path : String) (handed : List String) :
    dispatch router (callRoutes settings context) (.page .nothingHere) method path =
        .call handed ↔
      method = "POST" ∧ ∃ found, router.captures? (callText settings.pathPrefix) path = some found ∧
        found.map captured = handed := by
  have hpage := page_ne_call router context method path handed
  unfold dispatch callRoutes Http.callRoute
  rw [List.findSome?_cons]
  by_cases hmethod : method = "POST"
  · cases hfound : router.captures? (callText settings.pathPrefix) path with
    | none => simpa [Route.answer?, hmethod, hfound] using hmethod ▸ hpage
    | some found => simp [Route.answer?, hmethod, hfound]
  · have hpost : ¬ "POST" = method := fun e ↦ hmethod e.symm
    simpa [Route.answer?, hmethod, hpost] using hpage

/-- A request reaches the handler of calls exactly when the gate has no refusal for it and it is
dispatched there. -/
theorem reach_eq_call_iff (home : String) (settings : Settings) (audit : Option AuditLogger)
    (router : Router) (store : EventStore) (stamp : EventStamp) (request : Request)
    (handed : List String) :
    ((callSite home settings audit router).reach store stamp request).answer =
        .ok (.call handed) ↔
      ((callSite home settings audit router).gate.examine stamp (headerUser request)
        request.path).refusal = none ∧
      request.method = "POST" ∧ ∃ found,
        router.captures? (callText settings.pathPrefix) request.path = some found ∧
        found.map captured = handed := by
  rw [← dispatch_eq_call_iff router settings
    (({} : RequestContext).attach (headerUser request) settings.checker.rolePrefix),
    Site.reach, Gate.serve_answer]
  cases ((callSite home settings audit router).gate.examine stamp (headerUser request)
      request.path).refusal with
  | none =>
      simp only [true_and, Except.ok.injEq]
      rfl
  | some refusal => simp

/-- A posted request with a path that the route of the calls matches, and that is not under the
configured path, reaches the handler without a check. -/
theorem not_calls_guarded (path : String) {found : List (List Char)}
    (hfound : router.captures? (callText settings.pathPrefix) path = some found)
    (hout : ¬ CallPath.Under settings.pathPrefix path) :
    ¬ CallsGuarded home settings audit router := by
  intro hguarded
  have hreach := (reach_eq_call_iff home settings audit router {} ⟨"", 0⟩
    { method := "POST", path := path } (found.map captured)).mpr
    ⟨(Gate.refusal_eq_none_iff _ _ _ _).mpr (Or.inl hout), rfl, found, hfound, rfl⟩
  obtain ⟨_, _, _, hcall, _⟩ := hguarded _ _ _ _ hreach
  exact hout hcall.under

/-- The handler of calls is guarded exactly when its route matches nothing but paths under the
configured one. -/
theorem calls_guarded_iff_under (home : String) (settings : Settings) (audit : Option AuditLogger)
    (router : Router) :
    CallsGuarded home settings audit router ↔
      ∀ path found, router.captures? (callText settings.pathPrefix) path = some found →
        CallPath.Under settings.pathPrefix path := by
  constructor
  · intro hguarded path found hfound
    exact Classical.byContradiction fun hout ↦ not_calls_guarded path hfound hout hguarded
  · intro hunder store stamp request handed hreach
    obtain ⟨hrefusal, _, found, hfound, _⟩ :=
      (reach_eq_call_iff home settings audit router store stamp request handed).mp hreach
    rcases (Gate.refusal_eq_none_iff _ _ _ _).mp hrefusal with hout | ⟨resolved, hcalls, hallowed⟩
    · exact absurd (hunder _ _ hfound) hout
    · obtain ⟨endpoint, method, hcall, hresolve⟩ := hcalls
      exact ⟨endpoint, method, resolved, hcall, hresolve, hallowed⟩

/-! ## Plain paths -/

/-- The route of the calls takes a path as it is given: there is no brace in it, and it begins with
a slash unless it is empty. -/
def IsPlain (pathPrefix : String) : Prop :=
  '\x7b' ∉ pathPrefix.toList ∧ (pathPrefix = "" ∨ ∃ rest, pathPrefix.toList = '/' :: rest)

/-- A plain path gets no further slash in front. -/
theorem IsPlain.with_slash_eq {pathPrefix : String} (h : IsPlain pathPrefix) :
    (Http.withSlash (pathPrefix ++ "/")).toList = pathPrefix.toList ++ ['/'] := by
  obtain ⟨_, rfl | ⟨rest, hrest⟩⟩ := h
  · rfl
  · rw [Http.to_list_with_slash (by simp), if_pos]
    · simp
    · simp [hrest]

/-- The paths that the route of the calls matches under a plain path are that path followed by two
segments, which are what stands for the variables. -/
theorem IsPlain.segments_of_match {pathPrefix path : String} {found : List (List Char)}
    (h : IsPlain pathPrefix) (hrouter : router.ReadsPlain)
    (hfound : router.captures? (callText pathPrefix) path = some found) :
    ∃ first second, '/' ∉ first ∧ found = [first, second] ∧
      path.toList = pathPrefix.toList ++ '/' :: (first ++ '/' :: second) := by
  rw [hrouter _ _ path (Http.call_pattern_of_plain h.1)] at hfound
  have hfits := Http.fits_of_match_parts hfound
  generalize hchars : path.toList = chars at hfits
  cases hfits with
  | text _ hfits =>
      cases hfits with
      | @capture _ first _ _ _ hfirst hfits =>
          cases hfits with
          | text _ hfits =>
              cases hfits with
              | @capture _ second _ _ _ _ hfits =>
                  cases hfits with
                  | text _ hfits =>
                      cases hfits
                      refine ⟨first, second, hfirst.2, rfl, ?_⟩
                      rw [h.with_slash_eq]
                      simp

/-- Under a plain path, what reaches the handler of calls was allowed. -/
theorem calls_guarded_of_plain (home : String) (audit : Option AuditLogger)
    (hrouter : router.ReadsPlain) (h : IsPlain settings.pathPrefix) :
    CallsGuarded home settings audit router := by
  rw [calls_guarded_iff_under]
  intro path found hfound
  obtain ⟨_, _, _, _, hpath⟩ := h.segments_of_match hrouter hfound
  exact CallPath.under_of_append hpath

/-- Under a plain path, the handler of calls is handed what was checked. -/
theorem segments_handed_over_of_plain (home : String) (audit : Option AuditLogger)
    (hrouter : router.ReadsPlain) (h : IsPlain settings.pathPrefix) :
    SegmentsHandedOver home settings audit router := by
  intro store stamp request handed hreach
  obtain ⟨endpoint, method, _, hcall, _⟩ :=
    calls_guarded_of_plain home audit hrouter h store stamp request handed hreach
  obtain ⟨_, _, found, hfound, rfl⟩ :=
    (reach_eq_call_iff home settings audit router store stamp request handed).mp hreach
  obtain ⟨first, second, hfirst, rfl, hpath⟩ := h.segments_of_match hrouter hfound
  obtain ⟨rfl, rfl⟩ := hcall.segments_eq hfirst hpath
  exact ⟨endpoint, method, hcall, rfl⟩

/-! ## Other paths -/

/-- The route of the calls matches a path that begins with the text before the first brace of its
pattern, followed by a letter. -/
theorem exists_match {pathPrefix : String} {front rest : List Char} (hrouter : router.ReadsPlain)
    (hplain : (callPattern? pathPrefix).isSome) (hfront : '\x7b' ∉ front)
    (htext : (Http.withSlash (callText pathPrefix)).toList = front ++ '\x7b' :: rest) :
    ∃ path found, router.captures? (callText pathPrefix) path = some found ∧
      front ++ ['x'] <+: path.toList := by
  obtain ⟨parts, hparts⟩ := Option.isSome_iff_exists.mp hplain
  have hread := hparts
  rw [callPattern?, htext] at hread
  obtain ⟨first, others, rfl⟩ := Http.pattern_parts_of_brace hfront hread
  have hfits := Http.Fits.text (String.ofList front) (Http.fits_filled (first :: others))
  rw [String.toList_ofList] at hfits
  obtain ⟨found, hfound⟩ := Option.isSome_iff_exists.mp
    (Http.match_parts_is_some_iff.mpr ⟨_, hfits⟩)
  refine ⟨String.ofList (front ++ filled (first :: others)), found, ?_, ?_⟩
  · rw [hrouter _ _ _ hparts, String.toList_ofList]
    exact hfound
  · simp [filled]

/-- Under a path that is not plain, what stands behind the text before the first brace of its
pattern is a brace. -/
theorem eq_brace_of_under {pathPrefix path : String} {front rest : List Char} {d : Char}
    (h : ¬ IsPlain pathPrefix) (hfront : '\x7b' ∉ front)
    (htext : (Http.withSlash (callText pathPrefix)).toList = front ++ '\x7b' :: rest)
    (hunder : CallPath.Under pathPrefix path) (hpath : front ++ [d] <+: path.toList) :
    d = '\x7b' := by
  have hbase := hunder.base_prefix
  rw [Http.to_list_call_text, Http.to_list_with_slash (by simp)] at htext
  cases hchars : pathPrefix.toList with
  | nil =>
      have hempty : pathPrefix = "" := by simpa using hchars
      exact absurd ⟨by simp [hempty], Or.inl hempty⟩ h
  | cons c tail =>
      by_cases hslash : c = '/'
      · -- With a slash in front there is a brace, and the base reaches over it.
        subst hslash
        have hbrace : '\x7b' ∈ pathPrefix.toList :=
          Decidable.of_not_not fun hnone ↦ h ⟨hnone, Or.inr ⟨tail, hchars⟩⟩
        obtain ⟨before, after, hsplit, hbefore⟩ := List.eq_append_cons_of_mem hbrace
        rw [if_pos (by simp [hchars]), String.toList_append, hsplit, List.append_assoc,
          List.append_assoc, List.cons_append] at htext
        obtain ⟨rfl, _⟩ := Text.append_cons_inj hbefore hfront htext
        obtain ⟨left, hleft⟩ := CallPath.base_eq_append (by decide) hsplit
        rw [hleft] at hbase
        have hsame := List.prefix_of_prefix_length_le hpath hbase (by simp)
        rw [List.prefix_append_right_inj, List.cons_prefix_cons] at hsame
        exact hsame.1
      · -- Without one, the route begins with a slash and the configured path does not.
        obtain ⟨left, hleft⟩ := @CallPath.base_eq_append _ [] _ _ hslash hchars
        rw [if_neg (by simpa [hchars] using hslash)] at htext
        rw [hleft] at hbase
        cases front with
        | nil => exact absurd (List.cons.inj htext).1 (by decide)
        | cons e front =>
            obtain ⟨rfl, _⟩ := List.cons.inj htext
            obtain ⟨chars, hchars⟩ := hpath
            rw [← hchars, List.nil_append, List.cons_append, List.cons_append,
              List.cons_prefix_cons] at hbase
            exact absurd hbase.1 hslash

/-- The pattern of the calls has a brace. -/
theorem exists_call_text_eq (pathPrefix : String) :
    ∃ front rest, (Http.withSlash (callText pathPrefix)).toList = front ++ '\x7b' :: rest ∧
      '\x7b' ∉ front := by
  refine List.eq_append_cons_of_mem ?_
  rw [Http.to_list_call_text]
  simp

/-- Where the pattern of the calls is plain and the path is not, the route of the calls matches a
path that is not under it. -/
theorem exists_match_outside {pathPrefix : String} (hrouter : router.ReadsPlain)
    (h : ¬ IsPlain pathPrefix) (hplain : (callPattern? pathPrefix).isSome) :
    ∃ path found, router.captures? (callText pathPrefix) path = some found ∧
      ¬ CallPath.Under pathPrefix path := by
  obtain ⟨front, rest, htext, hfront⟩ := exists_call_text_eq pathPrefix
  obtain ⟨path, found, hfound, hpath⟩ := exists_match hrouter hplain hfront htext
  refine ⟨path, found, hfound, fun hunder ↦ ?_⟩
  exact absurd (eq_brace_of_under h hfront htext hunder hpath) (by decide)

/-- Of a path under one that is not plain, what stands for the first variable of the route is empty
or begins with a brace. -/
theorem brace_of_match_under {pathPrefix path : String} {found : List (List Char)}
    (h : ¬ IsPlain pathPrefix) (hanchored : router.Anchored (callText pathPrefix))
    (hfound : router.captures? (callText pathPrefix) path = some found)
    (hunder : CallPath.Under pathPrefix path) :
    ∃ first others, found = first :: others ∧ first.head?.all (· = '\x7b') := by
  obtain ⟨front, rest, htext, hfront⟩ := exists_call_text_eq pathPrefix
  obtain ⟨first, others, rfl, hpath⟩ := hanchored front rest path found htext hfront hfound
  refine ⟨first, others, rfl, ?_⟩
  cases first with
  | nil => rfl
  | cons d tail =>
      have hnext : front ++ [d] <+: path.toList :=
        List.IsPrefix.trans (by simp) hpath
      rw [eq_brace_of_under h hfront htext hunder hnext]
      rfl

/-! ## Settings that were built -/

/-- Settings whose path is the standard one, or was set by the environment or by a step, and was not
left as a JSON text gives it. -/
inductive Built : Settings → Prop where
  | standard : Built .standard
  | environment (lookup : String → Option String) : Built (.ofEnvironment lookup)
  | devMode {settings : Settings} (devMode : Bool) :
      Built settings → Built (settings.setDevMode devMode)
  | pathPrefix (settings : Settings) (given : String) : Built (settings.setPathPrefix given)
  | rolePrefix {settings : Settings} (given : Option String) :
      Built settings → Built (settings.setRolePrefix given)

/-- The path that the environment gives is set, and the standard one otherwise. -/
theorem of_environment_path (lookup : String → Option String) :
    (Settings.ofEnvironment lookup).pathPrefix =
      match lookup Settings.pathPrefixVariable with
      | some given => normalizePath given
      | none => Settings.standard.pathPrefix := by
  unfold Settings.ofEnvironment
  cases lookup Settings.devModeVariable <;> cases lookup Settings.pathPrefixVariable <;>
    cases lookup Settings.rolePrefixVariable <;>
    simp only [Settings.setDevMode, Settings.setPathPrefix, Settings.setRolePrefix]

/-- The path of built settings begins with a slash. -/
theorem Built.path_slash {settings : Settings} (h : Built settings) :
    ∃ rest, settings.pathPrefix.toList = '/' :: rest := by
  induction h with
  | standard => exact ⟨"connect".toList, rfl⟩
  | environment lookup =>
      rw [of_environment_path]
      split
      · exact List.head?_eq_some_iff.mp (normalize_path_head _)
      · exact ⟨"connect".toList, rfl⟩
  | devMode _ _ ih => exact ih
  | pathPrefix _ given =>
      simp only [Settings.setPathPrefix]
      exact List.head?_eq_some_iff.mp (normalize_path_head given)
  | rolePrefix _ _ ih => exact ih

/-- The path of built settings is plain as soon as there is no brace in it. -/
theorem Built.is_plain_iff {settings : Settings} (h : Built settings) :
    IsPlain settings.pathPrefix ↔ '\x7b' ∉ settings.pathPrefix.toList :=
  ⟨fun hplain ↦ hplain.1, fun hbrace ↦ ⟨hbrace, Or.inr h.path_slash⟩⟩

/-! ## Main results -/

/-- The handler of calls cannot be reached around the gate exactly when its route matches nothing
but paths under the configured one. So it is under a plain path, where the handler is moreover
handed what was checked, and hence for all settings that the environment or a step gave a path
without braces. Where every variable of the pattern is plain, no other path is guarded. Where one
holds a regular expression, the handler can be reached around the gate as soon as some match of the
route has a first text that is not empty and begins with no brace. -/
theorem calls_guarded_iff (home : String) (settings : Settings) (audit : Option AuditLogger)
    (hrouter : router.ReadsPlain) :
    (CallsGuarded home settings audit router ↔
      ∀ path found, router.captures? (callText settings.pathPrefix) path = some found →
        CallPath.Under settings.pathPrefix path) ∧
    (IsPlain settings.pathPrefix →
      CallsGuarded home settings audit router ∧ SegmentsHandedOver home settings audit router) ∧
    (Built settings → '\x7b' ∉ settings.pathPrefix.toList →
      CallsGuarded home settings audit router) ∧
    ((callPattern? settings.pathPrefix).isSome →
      (CallsGuarded home settings audit router ↔ IsPlain settings.pathPrefix)) ∧
    (¬ IsPlain settings.pathPrefix → router.Anchored (callText settings.pathPrefix) →
      ∀ path first others,
        router.captures? (callText settings.pathPrefix) path = some (first :: others) →
        first.head?.any (· ≠ '\x7b') → ¬ CallsGuarded home settings audit router) := by
  refine ⟨calls_guarded_iff_under home settings audit router, ?_, ?_, ?_, ?_⟩
  · intro hplain
    exact ⟨calls_guarded_of_plain home audit hrouter hplain,
      segments_handed_over_of_plain home audit hrouter hplain⟩
  · intro hbuilt hbrace
    exact calls_guarded_of_plain home audit hrouter (hbuilt.is_plain_iff.mpr hbrace)
  · intro hpattern
    refine ⟨fun hguarded ↦ ?_, calls_guarded_of_plain home audit hrouter⟩
    refine Classical.byContradiction fun hplain ↦ ?_
    obtain ⟨path, found, hfound, hout⟩ := exists_match_outside hrouter hplain hpattern
    exact not_calls_guarded path hfound hout hguarded
  · intro hplain hanchored path first others hfound hfirst
    refine not_calls_guarded path hfound fun hunder ↦ ?_
    obtain ⟨_, _, heq, hbrace⟩ := brace_of_match_under hplain hanchored hfound hunder
    obtain ⟨rfl, _⟩ := List.cons.inj heq
    cases first with
    | nil => cases hfirst
    | cons c rest => exact absurd hbrace (by simpa using hfirst)

/-- Under the standard settings the handler is guarded and is handed what was checked. -/
theorem standard_calls_guarded :
    Router.standard.ReadsPlain ∧ IsPlain Settings.standard.pathPrefix ∧
      (callPattern? Settings.standard.pathPrefix).isSome ∧
      CallsGuarded "app" .standard none .standard ∧
      SegmentsHandedOver "app" .standard none .standard := by
  obtain ⟨_, hplain, _, hexact, _⟩ :=
    calls_guarded_iff "app" .standard none Http.standard_reads_plain
  have hpath : IsPlain Settings.standard.pathPrefix :=
    Built.standard.is_plain_iff.mpr (by decide)
  exact ⟨Http.standard_reads_plain, hpath, rfl, (hexact rfl).mpr hpath, (hplain hpath).2⟩

/-- A path taken from a JSON text without a slash in front lets every call reach the handler, also
that of a method which is denied to everyone. -/
theorem calls_unguarded_without_slash :
    ∃ settings, Settings.ofJson "\x7b\"prefix\":\"connect\"\x7d" = .ok settings ∧
      ((callSite "app" settings none).reach {} ⟨"", 0⟩
        { method := "POST", path := "/connect/locked/secret" }).answer =
          .ok (.call ["locked", "secret"]) ∧
      ¬ CallsGuarded "app" settings none .standard := by
  refine ⟨{ Settings.standard with pathPrefix := "connect" }, rfl, rfl, ?_⟩
  refine not_calls_guarded "/connect/locked/secret" rfl ?_
  rw [← CallPath.classify_outside_iff]
  rfl

end EndpointGuard.Showcase
