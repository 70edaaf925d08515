import EndpointGuard.Proofs.LowerCase
import EndpointGuard.Proofs.PathEncoding
import EndpointGuard.Proofs.RegistryRun

/-!
# Log records and lines

Which requests leave log records of more than one line. Where the names of the registry, the
configured path and the user's name have no line break, the only text that can bring one into a
record is the path. A path that calls something is a spelling of names of the registry, but any
other path under the configured one is written to the log as it was decoded. `Gate.log_lines_iff`
puts this together: a request writes single lines unless it is such a path and percent-encodes a
line break.
-/

namespace EndpointGuard

namespace Text

/-- The text has no line break. -/
def SingleLine (text : String) : Prop :=
  '\n' ∉ text.toList ∧ '\r' ∉ text.toList

instance (text : String) : Decidable (SingleLine text) :=
  inferInstanceAs (Decidable (_ ∧ _))

/-- Texts that are put together have the line breaks of both. -/
@[simp]
theorem single_line_append {first second : String} :
    SingleLine (first ++ second) ↔ SingleLine first ∧ SingleLine second := by
  simp only [SingleLine, String.toList_append, List.mem_append, not_or]
  exact and_and_and_comm

/-- Single lines that are joined by one are a single line. -/
theorem single_line_intercalate {between : String} {texts : List String}
    (hbetween : SingleLine between) (htexts : ∀ text ∈ texts, SingleLine text) :
    SingleLine (between.intercalate texts) := by
  induction texts with
  | nil => exact ⟨by simp, by simp⟩
  | cons first rest ih =>
      obtain ⟨hfirst, hrest⟩ := List.forall_mem_cons.mp htexts
      cases rest with
      | nil => simpa using hfirst
      | cons second more =>
          rw [String.intercalate_cons_cons]
          exact single_line_append.mpr ⟨single_line_append.mpr ⟨hfirst, hbetween⟩, ih hrest⟩

/-- The only text that is given is a single line when it is one. -/
theorem single_line_some {text : String} (h : SingleLine text) :
    ∀ given ∈ some text, SingleLine given := by
  intro given hgiven
  rwa [← Option.some.inj hgiven]

/-- A name is a single line when another spelling of it is one. -/
theorem single_line_of_lower_case_eq {first second : String}
    (hsame : lowerCase first = lowerCase second) (h : SingleLine second) : SingleLine first :=
  ⟨fun hmem ↦ h.1 ((mem_iff_of_lower_case_eq (by decide) hsame).mp hmem),
    fun hmem ↦ h.2 ((mem_iff_of_lower_case_eq (by decide) hsame).mp hmem)⟩

end Text

open Text (SingleLine single_line_append single_line_intercalate single_line_some)

/-- The text of a record is a single line when its message is one. -/
theorem LogRecord.single_line_iff (record : LogRecord) :
    SingleLine record.line ↔ SingleLine record.message := by
  have hlevel : ∀ level : LogLevel, SingleLine level.name := by
    intro level
    cases level <;> decide
  have hspace : SingleLine " " := by decide
  have haudit : SingleLine " [endpoint_access::audit] " := by decide
  unfold line
  split <;> simp [hlevel, hspace, haudit]

/-! ## What checks and events write -/

/-- The roles that a policy names have no line break. -/
def Policy.RolesSingleLine (policy : Policy) : Prop :=
  ∀ roles ∈ policy.roles, ∀ role ∈ roles.names, SingleLine role

/-- The names of what a call resolves to have no line break. -/
structure ResolvedMethod.NamesSingleLine (resolved : ResolvedMethod) : Prop where
  endpoint : SingleLine resolved.endpoint
  method : SingleLine resolved.method
  declaringType : SingleLine resolved.declaringType
  methodRoles : resolved.target.method.RolesSingleLine
  typeRoles : resolved.target.declaringType.RolesSingleLine

/-- A list of roles is written as a single line. -/
theorem Marker.single_line_roles {roles : List String} (h : ∀ role ∈ roles, SingleLine role) :
    SingleLine (Marker.rolesAllowed roles).display := by
  have hjoined := single_line_intercalate (show SingleLine ", " by decide) h
  exact single_line_append.mpr ⟨single_line_append.mpr ⟨by decide, hjoined⟩, by decide⟩

/-- A policy is written as a single line. -/
theorem Policy.single_line_display {policy : Policy} (h : policy.RolesSingleLine) :
    SingleLine policy.display := by
  unfold display
  split
  · refine single_line_intercalate (by decide) ?_
    intro text htext
    obtain ⟨marker, hmarker, rfl⟩ := List.mem_map.mp htext
    cases marker with
    | rolesAllowed names =>
        obtain ⟨roles, hroles, rfl⟩ : ∃ roles, policy.roles = some roles ∧ roles.names = names := by
          simpa [markers] using hmarker
        exact Marker.single_line_roles (h roles hroles)
    | denyAll => decide
    | anonymousAllowed => decide
    | permitAll => decide
  · decide

/-- The name of a caller is a single line. -/
theorem Identity.single_line_display {user : Option User}
    (h : ∀ known ∈ user, SingleLine known.username) :
    SingleLine (Identity.ofUser? user).display := by
  cases user with
  | none => decide
  | some known =>
      cases hknown : known.isAnonymous
      · simpa [ofUser?, hknown, display] using h known rfl
      · simp only [ofUser?, hknown, if_true, display]
        decide

/-- No field of an event has a line break. -/
structure SecurityEvent.FieldsSingleLine (event : SecurityEvent) : Prop where
  username : ∀ name ∈ event.username, SingleLine name
  endpoint : ∀ name ∈ event.endpoint, SingleLine name
  method : ∀ name ∈ event.method, SingleLine name
  path : ∀ path ∈ event.path, SingleLine path
  error : ∀ message ∈ event.error, SingleLine message
  details : ∀ detail ∈ event.details.entries, SingleLine detail.1 ∧ SingleLine detail.2

/-- An event whose fields have no line break is logged as a single line. -/
theorem SecurityEvent.FieldsSingleLine.log_line {event : SecurityEvent}
    (h : event.FieldsSingleLine) : SingleLine event.logLine := by
  refine single_line_intercalate (by decide) ?_
  intro part hpart
  simp only [logParts, List.mem_append, List.mem_cons, List.not_mem_nil, or_false] at hpart
  rcases hpart with (((((rfl | rfl | rfl) | htarget) | hpath) | herror) | hdetail)
  · cases event.severity <;> decide
  · cases event.kind <;> decide
  · cases hname : event.username with
    | none => decide
    | some name => exact single_line_append.mpr ⟨by decide, h.username name hname⟩
  · split at htarget
    · rename_i endpoint method hendpoint hmethod
      have hendpoint := h.endpoint endpoint hendpoint
      have hmethod := h.method method hmethod
      rw [List.mem_singleton.mp htarget]
      simp only [single_line_append]
      exact ⟨⟨⟨by decide, hendpoint⟩, by decide⟩, hmethod⟩
    · cases htarget
  · obtain ⟨path, hsome, rfl⟩ : ∃ path, event.path = some path ∧ "path=" ++ path = part := by
      simpa using hpath
    exact single_line_append.mpr ⟨by decide, h.path path hsome⟩
  · obtain ⟨message, hsome, rfl⟩ :
        ∃ message, event.error = some message ∧ "error=\"" ++ message ++ "\"" = part := by
      simpa using herror
    simp only [single_line_append]
    exact ⟨⟨by decide, h.error message hsome⟩, by decide⟩
  · obtain ⟨detail, hsorted, rfl⟩ := List.mem_map.mp hdetail
    obtain ⟨hkey, hvalue⟩ := h.details detail (List.mem_mergeSort.mp hsorted)
    simp only [single_line_append]
    exact ⟨⟨hkey, by decide⟩, hvalue⟩

/-- A handler writes nothing but the record of the event. -/
theorem EventHandler.handle_records (handler : EventHandler) {event : SecurityEvent}
    {done : Publication} (h : ∀ record ∈ done.records, record = event.logRecord) :
    ∀ record ∈ (handler.handle event done).records, record = event.logRecord := by
  cases handler with
  | keep => exact h
  | report describe => exact h
  | log least =>
      unfold handle
      dsimp only
      split
      · exact h
      · intro record hrecord
        rcases List.mem_append.mp hrecord with hbefore | hlast
        · exact h record hbefore
        · exact List.mem_singleton.mp hlast

/-- All handlers together write nothing but records of the event. -/
theorem AuditLogger.publish_records (logger : AuditLogger) (store : EventStore)
    (event : SecurityEvent) :
    ∀ record ∈ (logger.publish store event).records, record = event.logRecord := by
  have hhandlers : ∀ (handlers : List EventHandler) (done : Publication),
      (∀ record ∈ done.records, record = event.logRecord) →
      ∀ record ∈ (handlers.foldl (fun done handler ↦ handler.handle event done) done).records,
        record = event.logRecord := by
    intro handlers
    induction handlers with
    | nil => exact fun done hdone ↦ hdone
    | cons handler rest ih => exact fun done hdone ↦ ih _ (handler.handle_records hdone)
  unfold publish
  split
  · exact hhandlers logger.handlers _ (by simp)
  · simp

/-- Every record that a policy's judgement writes is a single line. -/
theorem Policy.judge_records {policy : Policy} {identity : Identity} (holds : String → Bool)
    (hpolicy : policy.RolesSingleLine) (hidentity : SingleLine identity.display) :
    ∀ record ∈ (policy.judge identity holds).records, SingleLine record.line := by
  intro record hrecord
  rw [LogRecord.single_line_iff]
  unfold judge at hrecord
  split at hrecord
  · cases hrecord
  split at hrecord
  · cases hrecord
  split at hrecord
  · -- The caller is nobody known.
    rw [List.mem_singleton.mp hrecord]
    exact single_line_append.mpr ⟨by decide, single_line_display hpolicy⟩
  split at hrecord
  · cases hrecord
  split at hrecord
  · cases hrecord
  · rename_i roles hroles
    dsimp only at hrecord
    split at hrecord
    · cases hrecord
    · rw [List.mem_singleton.mp hrecord]
      exact single_line_append.mpr ⟨single_line_append.mpr ⟨hidentity, by decide⟩,
        Marker.single_line_roles (hpolicy roles hroles)⟩

/-- Every record of a check is a single line. -/
theorem judge_target_records {target : Target} {identity : Identity} (holds : String → Bool)
    (hmethod : target.method.RolesSingleLine) (htype : target.declaringType.RolesSingleLine)
    (hidentity : SingleLine identity.display) :
    ∀ record ∈ (judgeTarget target identity holds).records, SingleLine record.line := by
  have hscope : ∀ (policy : Policy) (scope : String), policy.RolesSingleLine → SingleLine scope →
      ∀ record ∈ ((policy.judge identity holds).after
        ⟨.trace, "resolving access for " ++ identity.display ++ scope ++ policy.display,
          .decisions⟩).records, SingleLine record.line := by
    intro policy scope hpolicy hscope record hrecord
    rcases List.mem_cons.mp hrecord with rfl | hjudged
    · rw [LogRecord.single_line_iff]
      simp only [single_line_append]
      exact ⟨⟨⟨by decide, hidentity⟩, hscope⟩, Policy.single_line_display hpolicy⟩
    · exact Policy.judge_records holds hpolicy hidentity record hjudged
  unfold judgeTarget judgeType
  split
  · exact hscope _ _ hmethod (by decide)
  split
  · exact hscope _ _ htype (by decide)
  · intro record hrecord
    rw [List.mem_singleton.mp hrecord, LogRecord.single_line_iff]
    simp only [single_line_append]
    exact ⟨⟨by decide, hidentity⟩, by decide⟩

/-! ## What a request writes -/

/-- What a ruling writes and publishes has no line break. -/
structure Ruling.SingleLines (ruling : Ruling) : Prop where
  before : ∀ record ∈ ruling.recordsBefore, SingleLine record.line
  event : ∀ event ∈ ruling.event, event.FieldsSingleLine
  after : ∀ record ∈ ruling.recordsAfter, SingleLine record.line

/-- No name of what a call can resolve to has a line break. -/
def Registry.NamesSingleLine (registry : Registry) : Prop :=
  ∀ endpoint method resolved, registry.resolve endpoint method = some resolved →
    resolved.NamesSingleLine

/-- The names that a type declares have no line break. -/
structure TypeRecord.NamesSingleLine (record : TypeRecord) : Prop where
  typeName : SingleLine record.typeName
  endpointName : SingleLine record.endpointName
  roles : record.policy.RolesSingleLine
  methods : ∀ method ∈ record.methods, SingleLine method.name ∧ method.policy.RolesSingleLine

/-- A registry of types whose names have no line break has none in what calls resolve to. -/
theorem Registry.names_single_line_of_types {definitions : List TypeDefinition}
    (h : ∀ definition ∈ definitions, ∀ record ∈ definition.chain, record.NamesSingleLine) :
    (Registry.empty.enterAll definitions).NamesSingleLine := by
  have hrun := Registry.represents_run definitions
  have hheld : ∀ definition ∈ Registry.empty.accepted definitions, ∀ record ∈ definition.chain,
      record.NamesSingleLine :=
    fun definition hmem ↦ h definition (Registry.accepted_subset _ _ hmem)
  intro endpoint method resolved hresolve
  obtain ⟨definition, hmem, _, record, found, hoffers, typePolicy, hpolicy, rfl⟩ :=
    (hrun.resolve_eq_some_iff endpoint method resolved).mp hresolve
  have hrecord := hheld definition hmem record hoffers.mem_chain
  obtain ⟨_, _, _, _, before, after, hmethods, _⟩ := hoffers
  have hfound := hrecord.methods found (by simp [hmethods])
  have hown := hheld definition hmem definition.own definition.own_mem_chain
  -- The policy known for the declaring type may be that of another type of its name.
  rw [hrun.types_get] at hpolicy
  obtain ⟨other, hother, _, rfl⟩ :=
    Registry.mem_policies.mp (List.mem_reverse.mp (KeyedList.mem_of_find hpolicy))
  obtain ⟨holder, hholder, hchain⟩ := List.mem_flatMap.mp hother
  exact {
    endpoint := hown.endpointName
    method := hfound.1
    declaringType := hrecord.typeName
    methodRoles := hfound.2
    typeRoles := (hheld holder hholder other hchain).roles }

namespace Gate

variable {gate : Gate} {stamp : EventStamp} {user : Option User} {path : String}

/-- The name of a known caller is that of the user. -/
theorem principal_single_line (huser : ∀ known ∈ user, SingleLine known.username) :
    ∀ name ∈ (Identity.ofUser? user).principal?, SingleLine name := by
  rw [Identity.principal_of_user]
  intro name hname
  obtain ⟨known, hknown, rfl⟩ := Option.map_eq_some_iff.mp hname
  exact huser known (Option.filter_eq_some_iff.mp hknown).1

/-- The refusal of a call of nothing is written in single lines when its texts are single lines. -/
theorem reject_unknown_single_lines {endpoint method warning : String}
    (huser : ∀ known ∈ user, SingleLine known.username) (hpath : SingleLine path)
    (hendpoint : SingleLine endpoint) (hmethod : SingleLine method)
    (hwarning : SingleLine warning) :
    (rejectUnknown stamp (.ofUser? user) path endpoint method warning).SingleLines where
  before := by
    intro record hrecord
    rw [List.mem_singleton.mp hrecord, LogRecord.single_line_iff]
    exact hwarning
  event := by
    rintro _ ⟨⟩
    exact {
      username := principal_single_line huser
      endpoint := single_line_some hendpoint
      method := single_line_some hmethod
      path := single_line_some hpath
      error := by rintro _ ⟨⟩
      details := by rintro _ ⟨⟩ }
  after := by
    intro record hrecord
    cases hrecord

/-- The event of a decided call has no line break when its texts have none. -/
theorem call_event_single_lines {endpoint method : String} {resolved : ResolvedMethod}
    {decision : Decision} (hresolved : resolved.NamesSingleLine)
    (huser : ∀ known ∈ user, SingleLine known.username) (hpath : SingleLine path)
    (hendpoint : SingleLine endpoint) (hmethod : SingleLine method)
    (hmessage : ∀ message ∈ decision.message?, SingleLine message) :
    (callEvent stamp (.ofUser? user) path endpoint method resolved decision).FieldsSingleLine := by
  obtain ⟨_, husername, hendpointEq, hmethodEq, hpathEq, herror, hdetails⟩ :=
    call_event_fields stamp path (.ofUser? user) endpoint method resolved decision
  exact {
    username := by
      rw [husername]
      exact principal_single_line huser
    endpoint := by
      rw [hendpointEq]
      exact single_line_some hendpoint
    method := by
      rw [hmethodEq]
      exact single_line_some hmethod
    path := by
      rw [hpathEq]
      exact single_line_some hpath
    error := by
      rw [herror]
      exact hmessage
    details := by
      have hscope : SingleLine (decidingScope resolved.target) := by
        unfold decidingScope
        split <;> decide
      rw [hdetails]
      simp only [List.forall_mem_cons]
      exact ⟨⟨by decide, hresolved.declaringType⟩, ⟨by decide, hscope⟩, by simp⟩ }

/-- The message of a denial is a single line. -/
theorem denied_message_single_line (checker : Checker) : SingleLine checker.deniedMessage := by
  unfold Checker.deniedMessage
  split <;> decide +kernel

/-- The ruling about a call is written in single lines when its texts are single lines. -/
theorem rule_call_single_lines {endpoint method : String} {resolved : ResolvedMethod}
    (hresolved : resolved.NamesSingleLine) (huser : ∀ known ∈ user, SingleLine known.username)
    (hpath : SingleLine path) (hendpoint : SingleLine endpoint) (hmethod : SingleLine method) :
    (gate.ruleCall stamp user path endpoint method resolved).SingleLines := by
  have hidentity := Identity.single_line_display huser
  have hdenied : SingleLine
      ("denied " ++ endpoint ++ "." ++ method ++ " to " ++ (Identity.ofUser? user).display) := by
    simp only [single_line_append]
    exact ⟨⟨⟨⟨⟨by decide, hendpoint⟩, by decide⟩, hmethod⟩, by decide⟩, hidentity⟩
  exact {
    before := judge_target_records _ hresolved.methodRoles hresolved.typeRoles hidentity
    event := by
      rintro _ ⟨⟩
      refine call_event_single_lines hresolved huser hpath hendpoint hmethod ?_
      show ∀ message ∈ (gate.decisionOn resolved user).message?, SingleLine message
      intro message hmessage
      rcases gate.decision_on_cases user resolved with hallowed | hrefused
      · rw [hallowed] at hmessage
        cases hmessage
      · rw [hrefused] at hmessage
        cases hmessage
        exact denied_message_single_line gate.checker
    after := by
      intro record hrecord
      dsimp only [ruleCall] at hrecord
      split at hrecord
      · cases hrecord
      · rw [List.mem_singleton.mp hrecord, LogRecord.single_line_iff]
        exact hdenied }

/-- The segments of a path without line breaks have none. -/
theorem segments_single_line {configured rest endpoint method : String}
    (hbelow : CallPath.Below configured path rest) (hcut : CallPath.Cut rest endpoint method)
    (hpath : SingleLine path) : SingleLine endpoint ∧ SingleLine method := by
  have hrest : SingleLine rest := by
    rcases hbelow with ⟨_, rfl⟩ | rfl
    · decide
    · exact (single_line_append.mp hpath).2
  rcases hcut.2 with ⟨rfl, rfl⟩ | rfl
  · exact ⟨hrest, by decide⟩
  · simp only [single_line_append] at hrest
    exact ⟨hrest.1.1, hrest.2⟩

/-- The ruling about a path without line breaks is written in single lines. -/
theorem examine_single_lines (hnames : gate.registry.NamesSingleLine)
    (huser : ∀ known ∈ user, SingleLine known.username) (hpath : SingleLine path) :
    (gate.examine stamp user path).SingleLines := by
  unfold examine
  cases hclass : CallPath.classify path gate.settings.pathPrefix with
  | outside =>
      exact ⟨by rintro _ ⟨⟩, by rintro _ ⟨⟩, by rintro _ ⟨⟩⟩
  | malformed endpoint method =>
      obtain ⟨rest, hbelow, hcut, _⟩ := CallPath.classify_malformed_iff.mp hclass
      obtain ⟨hendpoint, hmethod⟩ := segments_single_line hbelow hcut hpath
      exact reject_unknown_single_lines huser hpath hendpoint hmethod
        (single_line_append.mpr ⟨by decide, hpath⟩)
  | call endpoint method =>
      obtain ⟨rest, hbelow, hcut⟩ := (CallPath.classify_call_iff.mp hclass).below_cut
      obtain ⟨hendpoint, hmethod⟩ := segments_single_line hbelow hcut hpath
      dsimp only
      cases hresolve : gate.registry.resolve endpoint method with
      | none =>
          refine reject_unknown_single_lines huser hpath hendpoint hmethod ?_
          simp only [single_line_append]
          exact ⟨⟨⟨⟨⟨by decide, hendpoint⟩, by decide⟩, hmethod⟩, by decide⟩, hpath⟩
      | some resolved =>
          exact rule_call_single_lines (hnames endpoint method resolved hresolve) huser hpath
            hendpoint hmethod

/-- A path under the configured one that calls nothing is written to the log as it is. -/
theorem path_written (stamp : EventStamp) (user : Option User)
    (hunder : CallPath.Under gate.settings.pathPrefix path)
    (hcalls : ¬ ∃ resolved, gate.Calls path resolved) :
    ∃ front, ⟨.warn, front ++ path, .decisions⟩ ∈
      (gate.examine stamp user path).recordsBefore := by
  unfold examine
  cases hclass : CallPath.classify path gate.settings.pathPrefix with
  | outside => exact absurd hunder (CallPath.classify_outside_iff.mp hclass)
  | malformed endpoint method => exact ⟨_, List.mem_singleton_self _⟩
  | call endpoint method =>
      dsimp only
      cases hresolve : gate.registry.resolve endpoint method with
      | none => exact ⟨_, List.mem_singleton_self _⟩
      | some resolved =>
          exact absurd ⟨resolved, endpoint, method, CallPath.classify_call_iff.mp hclass, hresolve⟩
            hcalls

/-- A path that calls something spells names of the registry, so that it has no line break. -/
theorem path_single_line_of_calls {definitions : List TypeDefinition}
    (hregistry : gate.registry = Registry.empty.enterAll definitions)
    (hnames : gate.registry.NamesSingleLine) (hconfigured : SingleLine gate.settings.pathPrefix)
    {resolved : ResolvedMethod} (hcalls : gate.Calls path resolved) : SingleLine path := by
  obtain ⟨endpoint, method, hcall, hresolve⟩ := hcalls
  have hresolved := hnames endpoint method resolved hresolve
  rw [hregistry, (Registry.represents_run definitions).resolve_eq_some_iff] at hresolve
  obtain ⟨definition, _, hnamed, record, found, hoffers, _, _, rfl⟩ := hresolve
  obtain ⟨_, _, _, _, _, _, _, hsame, _⟩ := hoffers
  have hendpoint : SingleLine endpoint :=
    Text.single_line_of_lower_case_eq hnamed.symm hresolved.endpoint
  have hmethod : SingleLine method :=
    Text.single_line_of_lower_case_eq hsame.symm hresolved.method
  have hbase : SingleLine (CallPath.base gate.settings.pathPrefix) := by
    obtain ⟨n, hbase⟩ := CallPath.base_append_slashes gate.settings.pathPrefix
    rw [SingleLine, hbase] at hconfigured
    exact ⟨fun hmem ↦ hconfigured.1 (List.mem_append_left _ hmem),
      fun hmem ↦ hconfigured.2 (List.mem_append_left _ hmem)⟩
  rw [hcall.path_eq]
  simp only [single_line_append]
  exact ⟨⟨⟨⟨hbase, by decide⟩, hendpoint⟩, by decide⟩, hmethod⟩

/-- The log handlers write nothing but records of the event that is published. -/
theorem publish_records (gate : Gate) (store : EventStore) (event : Option SecurityEvent) :
    ∀ record ∈ (gate.publish store event).records,
      ∃ published, event = some published ∧ record = published.logRecord := by
  unfold publish
  split
  · rename_i logger published _
    intro record hrecord
    exact ⟨published, rfl, logger.publish_records store published record hrecord⟩
  · simp

/-- What is written when a request is served. -/
theorem serve_records {ρ : Type} (store : EventStore) (context : RequestContext)
    (service : RequestContext → ρ) :
    (gate.serve store stamp user path context service).records =
      (gate.examine stamp user path).recordsBefore ++
        (gate.publish store (gate.examine stamp user path).event).records ++
        (gate.examine stamp user path).recordsAfter := by
  unfold serve serveIn
  cases (gate.examine stamp user path).refusal <;> rfl

/-- When a registry, the configured path and the user's name have no line break, the log records of
a request for a well-formed target are single lines unless its path is under the configured one and
the target percent-encodes a line break. -/
theorem log_lines_iff {ρ : Type} {definitions : List TypeDefinition} (gate : Gate)
    (hregistry : gate.registry = Registry.empty.enterAll definitions)
    (hnames : gate.registry.NamesSingleLine) (hconfigured : SingleLine gate.settings.pathPrefix)
    (user : Option User) (huser : ∀ known ∈ user, SingleLine known.username)
    {target written : String} (htarget : Http.targetPath? target = some written)
    (store : EventStore) (stamp : EventStamp) (context : RequestContext)
    (service : RequestContext → ρ) :
    (∀ record ∈ (gate.serve store stamp user (Http.matchedPath written) context service).records,
      SingleLine record.line) ↔
      ¬ (CallPath.Under gate.settings.pathPrefix (Http.matchedPath written) ∧
        (Http.Encodes written '\n' ∨ Http.Encodes written '\r')) := by
  have hpath : SingleLine (Http.matchedPath written) ↔
      ¬ (Http.Encodes written '\n' ∨ Http.Encodes written '\r') := by
    rw [SingleLine, Http.mem_matched_path_iff htarget (by decide),
      Http.mem_matched_path_iff htarget (by decide), not_or]
  rw [serve_records]
  constructor
  · rintro hrecords ⟨hunder, hencodes⟩
    have hbroken : ¬ SingleLine (Http.matchedPath written) := fun h ↦ hpath.mp h hencodes
    have hcalls : ¬ ∃ resolved, gate.Calls (Http.matchedPath written) resolved :=
      fun ⟨_, h⟩ ↦ hbroken (path_single_line_of_calls hregistry hnames hconfigured h)
    obtain ⟨front, hwritten⟩ := path_written stamp user hunder hcalls
    have hline := hrecords _ (List.mem_append_left _ (List.mem_append_left _ hwritten))
    rw [LogRecord.single_line_iff] at hline
    exact hbroken (single_line_append.mp hline).2
  · intro hnot
    have hruling : (gate.examine stamp user (Http.matchedPath written)).SingleLines := by
      by_cases hunder : CallPath.Under gate.settings.pathPrefix (Http.matchedPath written)
      · exact examine_single_lines hnames huser (hpath.mpr fun h ↦ hnot ⟨hunder, h⟩)
      · -- Nothing is written about a request elsewhere.
        have houtside := CallPath.classify_outside_iff.mpr hunder
        unfold examine
        rw [houtside]
        exact ⟨by rintro _ ⟨⟩, by rintro _ ⟨⟩, by rintro _ ⟨⟩⟩
    intro record hrecord
    rcases List.mem_append.mp hrecord with hrecord | hafter
    · rcases List.mem_append.mp hrecord with hbefore | haudit
      · exact hruling.before record hbefore
      · obtain ⟨event, hevent, rfl⟩ := gate.publish_records store _ record haudit
        rw [LogRecord.single_line_iff]
        exact (hruling.event event hevent).log_line
    · exact hruling.after record hafter

/-- A gate in front of the closed desk that logs its events. -/
def loggedDeskGate : Gate :=
  closedDeskGate.withAudit (some .toLog)

/-- The names of the closed desk have no line break. -/
theorem logged_desk_names : loggedDeskGate.registry.NamesSingleLine := by
  refine Registry.names_single_line_of_types ?_
  intro definition hdefinition record hrecord
  rw [List.mem_singleton.mp hdefinition] at hrecord
  rw [List.mem_singleton.mp hrecord]
  exact {
    typeName := by decide
    endpointName := by decide
    roles := by rintro _ ⟨⟩
    methods := by
      intro method hmethod
      rw [List.mem_singleton.mp hmethod]
      exact ⟨by decide, by rintro _ ⟨⟩⟩ }

/-- A call of the closed method is written in single lines, whatever is percent-encoded in it, and a
call that hides a line feed is not. -/
theorem logged_desk_lines :
    (∀ record ∈ (loggedDeskGate.serve {} ⟨"1", 0⟩ (some (.named "ada"))
        (Http.matchedPath "/connect/%44esk/open") {} fun _ ↦ ()).records,
      SingleLine record.line) ∧
    ¬ ∀ record ∈ (loggedDeskGate.serve {} ⟨"2", 0⟩ (some (.named "ada"))
        (Http.matchedPath "/connect/desk%0d/open") {} fun _ ↦ ()).records,
      SingleLine record.line := by
  have hconfigured : SingleLine loggedDeskGate.settings.pathPrefix := by decide
  have huser : ∀ known ∈ some (User.named "ada"), SingleLine known.username := by
    intro known hknown
    rw [← Option.some.inj hknown]
    decide
  constructor
  · have htarget : Http.targetPath? "/connect/%44esk/open" = some "/connect/%44esk/open" := by
      decide +kernel
    rw [log_lines_iff loggedDeskGate rfl logged_desk_names hconfigured _ huser htarget,
      ← Http.mem_matched_path_iff htarget (by decide),
      ← Http.mem_matched_path_iff htarget (by decide)]
    intro h
    exact absurd h.2 (by decide +kernel)
  · have htarget : Http.targetPath? "/connect/desk%0d/open" = some "/connect/desk%0d/open" := by
      decide +kernel
    have hclass : CallPath.classify (Http.matchedPath "/connect/desk%0d/open")
        loggedDeskGate.settings.pathPrefix = .call "desk\r" "open" := by
      decide +kernel
    rw [log_lines_iff loggedDeskGate rfl logged_desk_names hconfigured _ huser htarget, not_not]
    exact ⟨(CallPath.classify_call_iff.mp hclass).under, Or.inr ⟨'0', 'd',
      ⟨by decide, Or.inl rfl⟩, ⟨by decide, Or.inl rfl⟩, "/connect/desk".toList, "/open".toList,
      by decide⟩⟩

/-- A call that hides a line feed begins a line of its own in the log. -/
theorem logged_desk_forged :
    loggedDeskGate.registry = Registry.empty.enterAll [closedDesk] ∧
      loggedDeskGate.registry.NamesSingleLine ∧
      SingleLine loggedDeskGate.settings.pathPrefix ∧
      Http.targetPath? "/connect/a%0AINFO%20b" = some "/connect/a%0AINFO%20b" ∧
      ∃ record ∈ (loggedDeskGate.serve {} ⟨"1", 0⟩ none
          (Http.matchedPath "/connect/a%0AINFO%20b") {} fun _ ↦ ()).records,
        record.line = "WARN malformed endpoint call path /connect/a\nINFO b" ∧
          ¬ SingleLine record.line := by
  refine ⟨rfl, logged_desk_names, by decide, by decide +kernel, ?_⟩
  refine ⟨⟨.warn, "malformed endpoint call path /connect/a\nINFO b", .decisions⟩, ?_, by decide,
    by decide⟩
  rw [serve_records]
  refine List.mem_append_left _ (List.mem_append_left _ ?_)
  decide +kernel

end Gate

end EndpointGuard
