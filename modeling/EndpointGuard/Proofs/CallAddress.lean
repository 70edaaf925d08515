import EndpointGuard.Demo.Startup
import EndpointGuard.Proofs.CallSite
import EndpointGuard.Proofs.Listing

/-!
# The addresses of calls

The address of a call is the configured path with an endpoint and a method behind it. It is printed
at startup, and the route of the calls is mounted for it. Read `address_recognised_iff` first: the
gate recognises these addresses exactly when the path that was given is more than slashes. Under the
root an address begins with two slashes, and the gate takes it for a malformed call.
-/

namespace EndpointGuard

open EndpointGuard.Http (Router callText)

/-- The address of a call: the configured path with an endpoint and a method behind it. -/
def callAddress (pathPrefix endpoint method : String) : String :=
  pathPrefix ++ "/" ++ endpoint ++ "/" ++ method

/-- A text that can stand for one segment of a path. -/
structure IsSegment (text : String) : Prop where
  ne_empty : text ≠ ""
  slash_not_mem : '/' ∉ text.toList

/-- A variable of a pattern can stand for a segment. -/
theorem IsSegment.allowed {text : String} (h : IsSegment text) :
    Http.Extent.segment.Allows text.toList :=
  ⟨by simpa using h.ne_empty, h.slash_not_mem⟩

/-- The path of the settings was given by a step or by the environment, and other steps may have
followed. -/
inductive PathGiven (given : String) : Settings → Prop where
  | step (settings : Settings) : PathGiven given (settings.setPathPrefix given)
  | environment {lookup : String → Option String} :
      lookup Settings.pathPrefixVariable = some given →
      PathGiven given (.ofEnvironment lookup)
  | devMode {settings : Settings} (devMode : Bool) :
      PathGiven given settings → PathGiven given (settings.setDevMode devMode)
  | rolePrefix {settings : Settings} (rolePrefix : Option String) :
      PathGiven given settings → PathGiven given (settings.setRolePrefix rolePrefix)

/-- The path that was given is set in its normal form. -/
theorem PathGiven.path_eq {given : String} {settings : Settings} (h : PathGiven given settings) :
    settings.pathPrefix = normalizePath given := by
  induction h with
  | step settings => exact settings.path_of_set_path given
  | environment hlookup => rw [Showcase.of_environment_path, hlookup]
  | devMode _ _ ih => exact ih
  | rolePrefix _ _ ih => exact ih

/-- The path that was given is the root exactly when it is nothing but slashes. -/
theorem PathGiven.eq_root_iff {given : String} {settings : Settings}
    (h : PathGiven given settings) :
    settings.pathPrefix = "/" ↔ ¬ ∃ c ∈ Text.trimChars given.toList, c ≠ '/' := by
  rw [h.path_eq, normalize_path_eq_root_iff]
  simp

/-- Without a brace in it, a path that was given is taken by the route of the calls as it is. -/
theorem PathGiven.is_plain {given : String} {settings : Settings} (h : PathGiven given settings)
    (hbrace : '\x7b' ∉ settings.pathPrefix.toList) : Showcase.IsPlain settings.pathPrefix := by
  refine ⟨hbrace, Or.inr ?_⟩
  rw [h.path_eq]
  exact List.head?_eq_some_iff.mp (normalize_path_head given)

/-! ## Which addresses are recognised -/

/-- A path that was given is its own base unless it is the root. -/
theorem base_eq_self_iff (given : String) :
    CallPath.base (normalizePath given) = normalizePath given ↔ normalizePath given ≠ "/" := by
  constructor
  · intro h hroot
    rw [hroot] at h
    exact absurd h (by decide)
  · intro hroot
    rw [← String.toList_inj, CallPath.to_list_base]
    refine Text.drop_end_of_last fun c hlast ↦ ?_
    have hslash : c ≠ '/' := by
      rintro rfl
      exact hroot ((normalize_path_slash_end_iff given).mp hlast)
    simpa using hslash

/-- An address spells its two segments below the configured path where that path is its own base. -/
theorem address_is_call_iff {endpoint method : String} (configured : String)
    (hendpoint : IsSegment endpoint) (hmethod : IsSegment method) :
    CallPath.IsCall configured (callAddress configured endpoint method) endpoint method ↔
      CallPath.base configured = configured := by
  constructor
  · intro h
    have hpath := congrArg String.toList h.path_eq
    simp only [callAddress, String.toList_append, List.append_assoc,
      List.append_cancel_right_eq, String.toList_inj] at hpath
    exact hpath.symm
  · intro hbase
    exact {
      path_eq := by rw [hbase, callAddress]
      endpoint_ne := hendpoint.ne_empty
      method_ne := hmethod.ne_empty
      slash_not_mem_endpoint := hendpoint.slash_not_mem
      slash_not_mem_method := hmethod.slash_not_mem }

/-- Under the root an address is taken for one with an empty endpoint. -/
theorem classify_root_address (endpoint method : String) :
    CallPath.classify (callAddress "/" endpoint method) "/" =
      .malformed "" (endpoint ++ "/" ++ method) := by
  rw [CallPath.classify_malformed_iff]
  have hbase : CallPath.base "/" = "" := by decide
  refine ⟨"/" ++ endpoint ++ "/" ++ method, Or.inr ?_, ⟨by simp, Or.inr ?_⟩, Or.inl rfl⟩
  · rw [hbase, callAddress, ← String.toList_inj]
    simp
  · rw [← String.toList_inj]
    simp

/-! ## Where addresses are printed and mounted -/

/-- The startup text prints the address of every method of every endpoint. -/
theorem address_mem_startup_lines (settings : Settings) {registry : Registry} {name method : String}
    {found : ResolvedEndpoint} (hname : name ∈ registry.endpointNames)
    (hfound : registry.endpoint name = some found) (hmethod : method ∈ found.methodNames) :
    "    POST " ++ callAddress settings.pathPrefix found.name method ∈
      Demo.startupLines settings registry := by
  have hline : "    POST " ++ callAddress settings.pathPrefix found.name method ∈
      Demo.endpointLines settings found := by
    refine List.mem_cons_of_mem _ (List.mem_map.mpr ⟨method, hmethod, ?_⟩)
    simp only [callAddress, String.append_assoc]
  have hlisted : found ∈ registry.endpointNames.filterMap registry.endpoint :=
    List.mem_filterMap.mpr ⟨name, hname, hfound⟩
  rw [Demo.startupLines]
  exact List.mem_append_left _ (List.mem_append_right _
    (List.mem_flatMap.mpr ⟨found, hlisted, hline⟩))

/-- The route of the calls under a plain path takes every address, and its variables stand for the
two segments. -/
theorem match_address {router : Router} {pathPrefix endpoint method : String}
    (hrouter : router.ReadsPlain) (h : Showcase.IsPlain pathPrefix)
    (hendpoint : IsSegment endpoint) (hmethod : IsSegment method) :
    router.captures? (callText pathPrefix) (callAddress pathPrefix endpoint method) =
      some [endpoint.toList, method.toList] := by
  have hfits : Http.Fits
      [.text (Http.withSlash (pathPrefix ++ "/")), .capture .segment, .text "/",
        .capture .segment, .text ""]
      (callAddress pathPrefix endpoint method).toList [endpoint.toList, method.toList] := by
    have hlast : Http.Fits [.capture .segment, .text ""] method.toList [method.toList] := by
      have hfits := Http.Fits.capture hmethod.allowed (.text "" .nil)
      simpa using hfits
    have hfits := Http.Fits.text (Http.withSlash (pathPrefix ++ "/"))
      (.capture hendpoint.allowed (.text "/" hlast))
    rw [h.with_slash_eq] at hfits
    simpa [callAddress] using hfits
  have hread := hrouter _ _ (callAddress pathPrefix endpoint method)
    (Http.call_pattern_of_plain h.1)
  obtain ⟨found, hfound⟩ := Option.isSome_iff_exists.mp
    (Http.match_parts_is_some_iff.mpr ⟨_, hfits⟩)
  rw [← hread] at hfound
  -- Other texts for the variables would be other segments of the same path.
  obtain ⟨first, second, hfirst, rfl, hpath⟩ := h.segments_of_match hrouter hfound
  have hsegments : endpoint.toList ++ '/' :: method.toList = first ++ '/' :: second := by
    simpa [callAddress] using hpath
  obtain ⟨rfl, rfl⟩ := Text.append_cons_inj hendpoint.slash_not_mem hfirst hsegments
  exact hfound

/-! ## Main results -/

/-- The gate recognises the addresses of calls exactly when the path that was given is more than
slashes and blanks around them. Under the root it takes each of them for a malformed call. Yet these
are the addresses that are printed at startup, and that the route of the calls is mounted for. -/
theorem address_recognised_iff {given : String} {settings : Settings}
    (h : PathGiven given settings) {endpoint method : String} (hendpoint : IsSegment endpoint)
    (hmethod : IsSegment method) :
    (CallPath.classify (callAddress settings.pathPrefix endpoint method) settings.pathPrefix =
        .call endpoint method ↔ ∃ c ∈ Text.trimChars given.toList, c ≠ '/') ∧
    (CallPath.classify (callAddress settings.pathPrefix endpoint method) settings.pathPrefix =
        .malformed "" (endpoint ++ "/" ++ method) ↔
      ¬ ∃ c ∈ Text.trimChars given.toList, c ≠ '/') ∧
    (∀ (registry : Registry) (name : String) (found : ResolvedEndpoint),
      name ∈ registry.endpointNames → registry.endpoint name = some found →
      method ∈ found.methodNames →
        "    POST " ++ callAddress settings.pathPrefix found.name method ∈
          Demo.startupLines settings registry) ∧
    ('\x7b' ∉ settings.pathPrefix.toList → ∀ router : Router, router.ReadsPlain →
      router.captures? (callText settings.pathPrefix)
          (callAddress settings.pathPrefix endpoint method) =
        some [endpoint.toList, method.toList]) := by
  have hcall : CallPath.classify (callAddress settings.pathPrefix endpoint method)
      settings.pathPrefix = .call endpoint method ↔ settings.pathPrefix ≠ "/" := by
    rw [CallPath.classify_call_iff, address_is_call_iff _ hendpoint hmethod, h.path_eq,
      base_eq_self_iff]
  have hroot := h.eq_root_iff
  refine ⟨by rw [hcall, ne_eq, hroot, not_not], ?_, ?_, ?_⟩
  · rw [← hroot]
    constructor
    · intro hmalformed
      by_contra hne
      rw [hcall.mpr hne] at hmalformed
      cases hmalformed
    · intro heq
      rw [heq]
      exact classify_root_address endpoint method
  · intro registry name found hname hfound hlisted
    exact address_mem_startup_lines settings hname hfound hlisted
  · intro hbrace router hrouter
    exact match_address hrouter (h.is_plain hbrace) hendpoint hmethod

/-- The demo lists the order desk with its method that counts. -/
theorem orders_listed :
    "orders" ∈ Demo.registry.endpointNames ∧
    ∃ found, Demo.registry.endpoint "orders" = some found ∧ found.name = "orders" ∧
      "count" ∈ found.methodNames := by
  have hentry :
      Demo.registry.find? "orders" = some (Demo.orderType Demo.ownModule).toEndpoint := rfl
  have htype : Demo.registry.types.get? (Demo.orderType Demo.ownModule).toEndpoint.typeName =
      some (.ofMarkers [.permitAll]) := rfl
  have hfound : Demo.registry.endpoint "orders" = some {
      name := "orders"
      typeName := (Demo.orderType Demo.ownModule).toEndpoint.typeName
      typePolicy := .ofMarkers [.permitAll]
      methodNames := sortTexts
        ((Demo.orderType Demo.ownModule).toEndpoint.methods.values.map OfferedMethod.name) } := by
    rw [Registry.endpoint, hentry]
    simp only [Option.bind_eq_bind, Option.bind_some, htype]
    rfl
  refine ⟨?_, _, hfound, rfl, ?_⟩
  · rw [Registry.endpointNames, mem_sort_texts]
    decide +kernel
  · rw [mem_sort_texts]
    decide +kernel

/-- With a path from the environment that has blanks around it and a slash at its end, the demo
prints the address of a call, the gate recognises it and the route takes it. -/
theorem rpc_address_recognised :
    PathGiven " /rpc/ " (.ofEnvironment fun name ↦
      if name = Settings.pathPrefixVariable then some " /rpc/ " else none) ∧
    IsSegment "orders" ∧ IsSegment "count" ∧
    CallPath.classify "/rpc/orders/count" "/rpc" = .call "orders" "count" ∧
    "    POST /rpc/orders/count" ∈ Demo.startupLines
      (.ofEnvironment fun name ↦
        if name = Settings.pathPrefixVariable then some " /rpc/ " else none) Demo.registry ∧
    Router.standard.captures? (callText "/rpc") "/rpc/orders/count" =
      some ["orders".toList, "count".toList] := by
  have hgiven : PathGiven " /rpc/ " (.ofEnvironment fun name ↦
      if name = Settings.pathPrefixVariable then some " /rpc/ " else none) :=
    .environment (if_pos rfl)
  have hpath := hgiven.path_eq
  rw [show normalizePath " /rpc/ " = "/rpc" by decide +kernel] at hpath
  have hendpoint : IsSegment "orders" := ⟨by decide, by decide⟩
  have hmethod : IsSegment "count" := ⟨by decide, by decide⟩
  obtain ⟨hlisted, found, hfound, hname, hcount⟩ := orders_listed
  obtain ⟨hcall, _, hprinted, hmounted⟩ := address_recognised_iff hgiven hendpoint hmethod
  have hline := hprinted Demo.registry "orders" found hlisted hfound hcount
  have hmore : ∃ c ∈ Text.trimChars " /rpc/ ".toList, c ≠ '/' := by
    by_contra hnone
    have hroot := hgiven.eq_root_iff.mpr hnone
    rw [hpath] at hroot
    exact absurd hroot (by decide)
  rw [hpath] at hcall hmounted hline
  rw [hname] at hline
  exact ⟨hgiven, hendpoint, hmethod, hcall.mpr hmore, hline,
    hmounted (by decide) .standard Http.standard_reads_plain⟩

/-- With the root, the demo prints an address of which the gate says that nothing is found. -/
theorem root_address_not_found :
    PathGiven "/" (Settings.standard.setPathPrefix "/") ∧ IsSegment "orders" ∧ IsSegment "count" ∧
    callAddress (Settings.standard.setPathPrefix "/").pathPrefix "orders" "count" =
      "//orders/count" ∧
    "    POST //orders/count" ∈
      Demo.startupLines (Settings.standard.setPathPrefix "/") Demo.registry ∧
    CallPath.classify "//orders/count" (Settings.standard.setPathPrefix "/").pathPrefix =
      .malformed "" "orders/count" ∧
    (Demo.serve (Settings.standard.setPathPrefix "/") ⟨"1", 0⟩ {}
      { method := "POST", path := "//orders/count" }).response.status = 404 := by
  obtain ⟨hlisted, found, hfound, hname, hcount⟩ := orders_listed
  have hline := address_mem_startup_lines (Settings.standard.setPathPrefix "/") hlisted hfound
    hcount
  rw [hname] at hline
  exact ⟨.step _, ⟨by decide, by decide⟩, ⟨by decide, by decide⟩, by decide +kernel, hline,
    by decide +kernel, by decide +kernel⟩

end EndpointGuard
