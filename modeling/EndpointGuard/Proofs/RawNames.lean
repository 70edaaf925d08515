import EndpointGuard.Proofs.Declarable
import EndpointGuard.Proofs.Listing
import EndpointGuard.Proofs.LowerCase
import EndpointGuard.Proofs.Mediation
import EndpointGuard.Proofs.OwnMethods

/-!
# Generated names and raw identifiers

A raw identifier stands for the name behind its mark, but the names of a written definition are the
identifiers as they are written, marks included. Read `generated_names_iff` first: the generated
names are the names that the identifiers stand for exactly if none of the identifiers is raw, and a
call of what a raw identifier stands for does not reach its method.
-/

namespace EndpointGuard.Declare

open Source

/-! ## Identifiers -/

/-- The name that an identifier stands for: a raw one stands for what is behind its mark. -/
def identifierName (identifier : String) : String :=
  match identifier.toList with
  | 'r' :: '#' :: rest => String.ofList rest
  | _ => identifier

/-- The identifier has the mark of raw identifiers. -/
def IsRaw (identifier : String) : Prop :=
  ∃ rest, identifier.toList = 'r' :: '#' :: rest

/-- An identifier without the mark stands for itself. -/
theorem identifier_name_of_not_raw {identifier : String} (h : ¬ IsRaw identifier) :
    identifierName identifier = identifier := by
  unfold identifierName
  split
  · exact absurd ⟨_, ‹_›⟩ h
  · rfl

/-- A raw identifier and the name that it stands for differ, also up to case: the sign in the mark
stays what it is. -/
theorem lower_case_identifier_name_iff {identifier : String} :
    Text.lowerCase (identifierName identifier) = Text.lowerCase identifier ↔
      ¬ IsRaw identifier := by
  constructor
  · rintro hsame ⟨rest, hraw⟩
    have hname : (identifierName identifier).toList = rest := by
      simp [identifierName, hraw]
    have hlow : ('#').toNat < 0x41 := by decide
    -- The name has one of these signs less than the identifier, and lower case keeps their number.
    have hcount := congrArg (fun text : String ↦ text.toList.count '#') hsame
    simp only [Text.lowerCase, String.toList_ofList, Text.count_lower_after hlow, hname, hraw]
      at hcount
    simp at hcount
  · intro h
    rw [identifier_name_of_not_raw h]

/-- An identifier stands for itself exactly when it has no mark. -/
theorem identifier_name_eq_iff {identifier : String} :
    identifierName identifier = identifier ↔ ¬ IsRaw identifier := by
  constructor
  · intro h
    exact lower_case_identifier_name_iff.mp (congrArg Text.lowerCase h)
  · exact identifier_name_of_not_raw

/-- Identifiers are the names that they stand for exactly if none of them is raw. -/
theorem identifier_names_eq_iff {identifiers : List String} :
    identifiers.map identifierName = identifiers ↔
      ∀ identifier ∈ identifiers, ¬ IsRaw identifier := by
  have hsame := List.map_inj_left (l := identifiers) (f := identifierName) (g := id)
  simpa only [List.map_id, id, identifier_name_eq_iff] using hsame

/-! ## Respelling -/

/-- The identifiers of the methods of a block that can be called. -/
def callableIdentifiers (block : ImplBlock) : List String :=
  (block.methods.filter isCallable).map (·.signature.name)

/-- The method is the same one, and its identifier stands for the same name. -/
def RespelledMethod (method other : Method) : Prop :=
  ∃ name, identifierName name = identifierName method.signature.name ∧
    other = { method with signature := { method.signature with name := name } }

/-- The item is the same one, and a method has an identifier for the same name. -/
inductive RespelledItem : BlockItem → BlockItem → Prop where
  | method {method other : Method} : RespelledMethod method other →
      RespelledItem (.method method) (.method other)
  | other (tokens : List Token) : RespelledItem (.other tokens) (.other tokens)

/-- The type is the same one, and the last identifier of a path stands for the same name. -/
inductive RespelledType : TypeForm → TypeForm → Prop where
  | path {last other : String} (plain : Bool) (before after : List Token) :
      identifierName other = identifierName last →
      RespelledType ⟨.path last plain, before ++ .ident last :: after⟩
        ⟨.path other plain, before ++ .ident other :: after⟩
  | same (form : TypeForm) : RespelledType form form

/-- The block is the same one to the language: the identifiers of its methods and of its type stand
for the same names. -/
structure Respelled (block other : ImplBlock) : Prop where
  attributes : other.attributes = block.attributes
  modifiers : other.modifiers = block.modifiers
  generics : other.generics = block.generics
  ofTrait : other.ofTrait = block.ofTrait
  selfType : RespelledType block.selfType other.selfType
  items : List.Forall₂ RespelledItem block.items other.items

variable {block other : ImplBlock}

/-- A type with a name has one in another spelling. -/
theorem RespelledType.named {form other : TypeForm} (h : RespelledType form other)
    (hnamed : ∃ last plain, form.kind = .path last plain) :
    ∃ last plain, other.kind = .path last plain := by
  cases h with
  | path plain => exact ⟨_, plain, rfl⟩
  | same => exact hnamed

/-- The methods of a block are respelled with it. -/
theorem Respelled.methods (h : Respelled block other) :
    List.Forall₂ RespelledMethod block.methods other.methods := by
  refine List.rel_filterMap ?_ h.items
  rintro _ _ (hmethod | _)
  · exact .some hmethod
  · exact .none

/-- What holds of the methods of a block holds of them in another spelling, unless it is about their
identifiers. -/
theorem Respelled.forall_methods {p : Method → Prop} (h : Respelled block other)
    (hkept : ∀ {method respelled}, RespelledMethod method respelled → p method → p respelled)
    (hall : ∀ method ∈ block.methods, p method) : ∀ method ∈ other.methods, p method := by
  have hpaired := (List.forall₂_and_left _ _ |>.mpr ⟨hall, h.methods⟩).flip
  have hothers := hpaired.imp fun _ _ ⟨hmethod, hrespelled⟩ ↦
    And.intro (hkept hrespelled hmethod) hrespelled
  exact (List.forall₂_and_left _ _ |>.mp hothers).1

/-- A block in another spelling is declarable as well. -/
theorem Respelled.declarable (h : Respelled block other) {kind : Kind} {arguments : Arguments}
    (hdeclarable : Declarable kind arguments block) : Declarable kind arguments other where
  inherent := h.ofTrait.trans hdeclarable.inherent
  unnamed_if_exposed := hdeclarable.unnamed_if_exposed
  block_markers := by
    rw [h.attributes]
    exact hdeclarable.block_markers
  method_markers := by
    refine h.forall_methods ?_ hdeclarable.method_markers
    rintro method _ ⟨_, -, rfl⟩ hmethod
    exact hmethod
  only_on_callable := by
    refine h.forall_methods ?_ hdeclarable.only_on_callable
    rintro method _ ⟨_, -, rfl⟩ hmethod
    exact hmethod
  named_type := h.selfType.named hdeclarable.named_type

/-! ## Names of a definition -/

/-- The names of a written definition are the identifiers of the block as they are written. -/
theorem names_as_written (context : Context) {kind : Kind} {arguments : Arguments}
    {expansion : Expansion} (h : declareBlock kind arguments block = .ok expansion) :
    simpleName block.selfType = .ok (expansion.definition.meaning context).own.simpleName ∧
    (expansion.definition.meaning context).own.methods.map MethodDefinition.name =
      callableIdentifiers block := by
  obtain ⟨markers, taken, name, -, htaken, -, hname, rfl⟩ := declare_block_ok h
  have hidentifiers : callableIdentifiers block = taken.map CallableMethod.name := by
    rw [callableIdentifiers, ← List.forall₂_eq_eq_eq, List.forall₂_map_left_iff,
      List.forall₂_map_right_iff]
    exact htaken.imp fun _ _ hfound ↦ hfound.1.symm
  rw [meaning_of_steps]
  refine ⟨hname, ?_⟩
  rw [hidentifiers, List.map_map]
  rfl

/-- The names in a definition: that of the type, which an endpoint has by default, and those of its
methods. -/
def generatedNames (definition : TypeDefinition) : String × List String :=
  (definition.own.simpleName, definition.own.methods.map MethodDefinition.name)

/-- In another spelling a block is declared as well, and has the same names exactly if its type and
its methods that can be called have the same identifiers, marks included. -/
theorem respelled_names_iff (context : Context) {kind : Kind} {arguments : Arguments}
    {expansion : Expansion} (h : declareBlock kind arguments block = .ok expansion)
    (hrespelled : Respelled block other) :
    ∃ respelled, declareBlock kind arguments other = .ok respelled ∧
      (generatedNames (respelled.definition.meaning context) =
          generatedNames (expansion.definition.meaning context) ↔
        simpleName other.selfType = simpleName block.selfType ∧
          callableIdentifiers other = callableIdentifiers block) := by
  have hdeclarable := (exists_declared_iff kind arguments block).mp ⟨expansion, h⟩
  obtain ⟨respelled, hother⟩ :=
    (exists_declared_iff kind arguments other).mpr (hrespelled.declarable hdeclarable)
  refine ⟨respelled, hother, ?_⟩
  obtain ⟨htype, hmethods⟩ := names_as_written context h
  obtain ⟨hothertype, hothermethods⟩ := names_as_written context hother
  rw [generatedNames, generatedNames, Prod.mk.injEq, hmethods, hothermethods, htype, hothertype,
    Except.ok.injEq]

end EndpointGuard.Declare

namespace EndpointGuard

open Source
open Declare (IsRaw callableIdentifiers declareBlock generatedNames identifierName
  lower_case_identifier_name_iff simpleName)

/-! ## Calls -/

/-- The last of the methods that a type declares with this identifier for name is what a call
resolves to. -/
def TypeDefinition.Answers (definition : TypeDefinition) (identifier : String)
    (resolved : ResolvedMethod) : Prop :=
  ∃ last, definition.own.DeclaresLast identifier last ∧
    resolved = definition.resolution definition.own last definition.own.policy

namespace Registry

variable {registry : Registry} {definition : TypeDefinition} {held : List TypeDefinition}

/-- A call under the name that an identifier stands for reaches the method with that identifier
exactly if the identifier is not raw. -/
theorem resolve_name_iff (hkeyed : (registry.add definition).Keyed) {identifier : String}
    (hdeclared : definition.own.Declares identifier) :
    (∃ resolved, (registry.add definition).resolve definition.own.endpointName
        (identifierName identifier) = some resolved ∧ definition.Answers identifier resolved) ↔
      ¬ IsRaw identifier := by
  rw [← lower_case_identifier_name_iff]
  constructor
  · rintro ⟨_, hresolve, last, hlast, rfl⟩
    obtain ⟨entry, offered, hentry, hoffered, -, hname⟩ := offered_of_resolve hresolve
    obtain ⟨hmem, -⟩ := hkeyed.mem_of_find hentry
    -- A method is kept under its own name.
    rw [← (hkeyed.methods entry hmem).mem_of_get hoffered |>.2, ← hname]
    exact (mem_of_declares_last hlast).2
  · intro hsame
    obtain ⟨last, hlast⟩ := exists_declares_last hdeclared
    refine ⟨_, ?_, last, hlast, rfl⟩
    rw [resolve, hsame, ← resolve]
    exact resolve_own registry hlast

/-- A definition that was added is found under its name. -/
theorem find_own (registry : Registry) {name : String} (hnamed : definition.IsNamed name) :
    (registry.add definition).find? name = some definition.toEndpoint := by
  rw [find_add, if_pos hnamed]

/-- A call of an endpoint that was added resolves to nothing exactly for the names of which no type
of its chain declares a method. -/
theorem resolve_own_none_iff (h : (registry.add definition).Represents held)
    (hkeyed : (registry.add definition).Keyed) (called : String) :
    (registry.add definition).resolve definition.own.endpointName called = none ↔
      ∀ record ∈ definition.chain, ¬ record.Declares called := by
  have hoffered : (definition.offeredMethods.get? (Text.lowerCase called)).isSome ↔
      ∃ record ∈ definition.chain, record.Declares called := TypeDefinition.offered_is_some_iff
  rw [(h.coherent hkeyed).resolve_none_iff, find_own registry rfl]
  simpa [TypeDefinition.toEndpoint] using not_congr hoffered

/-- An endpoint that was added is found under the name that its own name stands for as an identifier
exactly if that identifier is not raw. -/
theorem endpoint_name_iff (h : (registry.add definition).Represents held)
    (hkeyed : (registry.add definition).Keyed) :
    (∃ found, (registry.add definition).endpoint (identifierName definition.own.endpointName) =
        some found ∧ found.name = definition.own.endpointName) ↔
      ¬ IsRaw definition.own.endpointName := by
  rw [← lower_case_identifier_name_iff]
  constructor
  · rintro ⟨found, hfound, hname⟩
    obtain ⟨entry, hentry⟩ := entry_of_endpoint hfound
    obtain ⟨other, hother, hothername, -⟩ := h.endpoint_of_entry hentry
    rw [hfound] at hother
    cases hother
    rw [← (hkeyed.mem_of_find hentry).2, ← hothername, hname]
  · intro hsame
    obtain ⟨found, hfound, hname, -⟩ := h.endpoint_of_entry (find_own registry hsame.symm)
    exact ⟨found, hfound, hname⟩

end Registry

/-- A request whose path calls an endpoint under the name that the identifier of one of its methods
stands for is one for that method exactly if the identifier is not raw. Otherwise, unless the chain
has another method of the name, it is answered that nothing is found. -/
theorem Gate.calls_name_iff (gate : Gate) {registry : Registry} {definition : TypeDefinition}
    {held : List TypeDefinition} (hregistry : gate.registry = registry.add definition)
    (h : (registry.add definition).Represents held) (hkeyed : (registry.add definition).Keyed)
    {identifier path : String} (hdeclared : definition.own.Declares identifier)
    (hpath : CallPath.IsCall gate.settings.pathPrefix path definition.own.endpointName
      (identifierName identifier)) :
    ((∃ resolved, gate.Calls path resolved ∧ definition.Answers identifier resolved) ↔
      ¬ IsRaw identifier) ∧
    ((∀ record ∈ definition.chain, ¬ record.Declares (identifierName identifier)) →
      ∀ stamp user, (gate.examine stamp user path).refusal =
        some (.endpointNotFound definition.own.endpointName (identifierName identifier))) := by
  have hclass := CallPath.classify_call_iff.mpr hpath
  constructor
  · simp only [gate.calls_iff_of_call path hclass, hregistry]
    exact Registry.resolve_name_iff hkeyed hdeclared
  · intro hnone stamp user
    have hresolve := (Registry.resolve_own_none_iff h hkeyed (identifierName identifier)).mpr hnone
    rw [Gate.examine_refusal, hclass, hregistry]
    simp only [hresolve]

/-! ## Main result -/

/-- The names that a declaration generates are the identifiers as they are written, in every
spelling of a block. They are the names that these identifiers stand for exactly if none of them is
raw. When the definition is registered, after any run, an endpoint that was given no name is found
under the name of its type exactly if the identifier of the type is not raw. A request for a method
under its name is one for the method exactly if its identifier is not raw; where the name is no
other method's, it is answered that nothing is found. -/
theorem generated_names_iff (context : Declare.Context) {kind : Declare.Kind}
    {arguments : Declare.Arguments} {block : ImplBlock} {expansion : Declare.Expansion}
    (hdeclared : declareBlock kind arguments block = .ok expansion) :
    ∃ definition identifier, definition = expansion.definition.meaning context ∧
      simpleName block.selfType = .ok identifier ∧
      generatedNames definition = (identifier, callableIdentifiers block) ∧
      (generatedNames definition =
          (identifierName identifier, (callableIdentifiers block).map identifierName) ↔
        ¬ IsRaw identifier ∧ ∀ method ∈ callableIdentifiers block, ¬ IsRaw method) ∧
      (∀ other, Declare.Respelled block other → ∃ respelled,
        declareBlock kind arguments other = .ok respelled ∧
          (generatedNames (respelled.definition.meaning context) = generatedNames definition ↔
            simpleName other.selfType = .ok identifier ∧
              callableIdentifiers other = callableIdentifiers block)) ∧
      ∀ earlier, (∃ records, ((Registry.empty.enterAll earlier).enter definition).1 = .ok records) →
        (definition.own.givenName = none →
          ((∃ found, ((Registry.empty.enterAll earlier).enter definition).2.endpoint
              (identifierName identifier) = some found ∧ found.name = identifier) ↔
            ¬ IsRaw identifier)) ∧
        ∀ method ∈ callableIdentifiers block, ∀ (gate : Gate) (path : String),
          gate.registry = ((Registry.empty.enterAll earlier).enter definition).2 →
          CallPath.IsCall gate.settings.pathPrefix path definition.own.endpointName
            (identifierName method) →
          ((∃ resolved, gate.Calls path resolved ∧ definition.Answers method resolved) ↔
            ¬ IsRaw method) ∧
          ((∀ record ∈ definition.chain, ¬ record.Declares (identifierName method)) →
            ∀ stamp user, (gate.examine stamp user path).refusal =
              some (.endpointNotFound definition.own.endpointName (identifierName method))) := by
  obtain ⟨htype, hmethods⟩ := Declare.names_as_written context hdeclared
  refine ⟨_, _, rfl, htype, Prod.ext rfl hmethods, ?_, ?_, ?_⟩
  · rw [generatedNames, Prod.mk.injEq, hmethods, eq_comm, Declare.identifier_name_eq_iff, eq_comm,
      Declare.identifier_names_eq_iff]
  · intro other hrespelled
    rw [← htype]
    exact Declare.respelled_names_iff context hdeclared hrespelled
  · intro earlier haccepted
    have haccepts := Registry.enter_ok_iff.mp haccepted
    -- The registry after the run and the registration, in both descriptions.
    have hrun := (Registry.represents_run earlier).add haccepts
    have hkeyed := (Registry.keyed_run earlier).enter (expansion.definition.meaning context)
    rw [Registry.enter_of_accepts haccepts] at hkeyed ⊢
    constructor
    · intro hunnamed
      have hendpoint := Registry.endpoint_name_iff hrun hkeyed
      rwa [TypeRecord.endpointName, hunnamed, Option.getD_none] at hendpoint
    · intro method hmethod gate path hgate hpath
      have hown : (expansion.definition.meaning context).own.Declares method := by
        rw [← hmethods] at hmethod
        obtain ⟨declared, hmem, rfl⟩ := List.mem_map.mp hmethod
        exact ⟨declared, hmem, rfl⟩
      exact gate.calls_name_iff hgate hrun hkeyed hown hpath

/-- The identifiers of the vault are not raw: it is declared under its name, and the request for its
method is one for that method. -/
theorem vault_names_kept :
    ∃ expansion, declareBlock .endpoint {} Declare.vaultBlock = .ok expansion ∧
      generatedNames (expansion.definition.meaning Declare.plainContext) = ("Vault", ["open"]) ∧
      ∃ resolved, Gate.Calls ⟨(Registry.empty.enter
          (expansion.definition.meaning Declare.plainContext)).2, .standard, none⟩
          "/connect/Vault/open" resolved ∧
        (expansion.definition.meaning Declare.plainContext).Answers "open" resolved := by
  obtain ⟨expansion, hexpansion⟩ : ∃ expansion,
      declareBlock .endpoint {} Declare.vaultBlock = .ok expansion := ⟨_, rfl⟩
  obtain ⟨_, identifier, rfl, hidentifier, hnames, -, -, hcalls⟩ :=
    generated_names_iff Declare.plainContext hexpansion
  have hwritten : callableIdentifiers Declare.vaultBlock = ["open"] := by decide
  have htype : identifier = "Vault" := by
    cases hidentifier
    rfl
  rw [htype, hwritten] at hnames
  refine ⟨expansion, hexpansion, hnames, ?_⟩
  have haccepted : ∃ records, ((Registry.empty.enterAll []).enter
      (expansion.definition.meaning Declare.plainContext)).1 = .ok records := by
    cases hexpansion
    exact ⟨_, rfl⟩
  have hendpoint : (expansion.definition.meaning Declare.plainContext).own.endpointName =
      "Vault" := by
    cases hexpansion
    rfl
  have hraw : ¬ IsRaw "open" := by
    rintro ⟨rest, hrest⟩
    simp at hrest
  have hpath : CallPath.IsCall "/connect" "/connect/Vault/open" "Vault" "open" :=
    CallPath.classify_call_iff.mp (by decide +kernel)
  have hmethod := (hcalls [] haccepted).2 "open" (by simp [hwritten])
    ⟨(Registry.empty.enter (expansion.definition.meaning Declare.plainContext)).2, .standard, none⟩
    "/connect/Vault/open" rfl
  rw [hendpoint, Declare.identifier_name_of_not_raw hraw] at hmethod
  exact (hmethod hpath).1.mpr hraw

/-- A block with a method whose name is a keyword, so that its identifier has to be raw. -/
def keywordItem : List Token :=
  [.ident "impl", .ident "Vault", .group .brace [.ident "pub", .ident "fn", .ident "r#type",
    .group .paren [.punct '&' false, .ident "self"], .group .brace []]]

/-- The block is declared, but the method does not have its name: a request for it is answered that
nothing is found. -/
theorem raw_method_not_found :
    ∃ expansion, Declare.declareItem .endpoint [] keywordItem = .ok expansion ∧
      identifierName "r#type" = "type" ∧
      generatedNames (expansion.definition.meaning Declare.plainContext) =
        ("Vault", ["r#type"]) ∧
      (∃ records, (Registry.empty.enter
        (expansion.definition.meaning Declare.plainContext)).1 = .ok records) ∧
      (Gate.examine ⟨(Registry.empty.enter
          (expansion.definition.meaning Declare.plainContext)).2, .standard, none⟩ ⟨"1", 0⟩
        (some (.named "ada")) "/connect/Vault/type").refusal =
          some (.endpointNotFound "Vault" "type") := by
  refine ⟨_, rfl, by decide +kernel, rfl, ⟨_, rfl⟩, by decide +kernel⟩

end EndpointGuard
