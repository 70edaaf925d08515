import EndpointGuard.Declare.Expansion
import EndpointGuard.Proofs.BuilderChain
import EndpointGuard.Proofs.MarkerAttribute

/-!
# What declaring a type keeps

A declared block against the block that was written. `Describes` says which definition a block has:
its policies are those of the marker attributes at each place, and its methods the callable ones.
Read `expansion_faithful` first: the written definition builds what the block describes, every
marker attribute is in it once, and the block stays as it was except for these attributes. The
functions of a block are its methods, which have a body. `take_items_ok` is the induction over the
items of the block.
-/

namespace EndpointGuard.Source

/-- The method that an item is, if it is one. -/
def BlockItem.method? : BlockItem → Option Method
  | .method m => some m
  | .other _ => none

/-- The methods of a block, in order: its functions with a body. What has none is no method, and
stays among the other items. -/
def ImplBlock.methods (block : ImplBlock) : List Method :=
  block.items.filterMap BlockItem.method?

end EndpointGuard.Source

namespace EndpointGuard.Declare

open Source

/-! ## The block without markers -/

/-- An item without the attributes that are markers. -/
def withoutMarkers : BlockItem → BlockItem
  | .method method => .method { method with attributes := otherAttributes method.attributes }
  | .other tokens => .other tokens

/-- A block without the attributes that are markers, its own and those of its methods. -/
def bareBlock (block : ImplBlock) : ImplBlock :=
  { block with
    attributes := otherAttributes block.attributes
    items := block.items.map withoutMarkers }

/-- The marker attributes of a block, first its own and then those of its methods. -/
def allMarkerAttributes (block : ImplBlock) : List Attribute :=
  markerAttributes block.attributes ++
    block.methods.flatMap fun method ↦ markerAttributes method.attributes

/-- The markers in a step of a written definition. -/
def Step.markers : Step → List WrittenMarker
  | .policy markers => markers
  | .method _ markers => markers
  | _ => []

/-! ## The definition of a block -/

/-- The policy is that of the markers among the attributes. -/
def PolicyOf (context : Context) (attributes : List Attribute) (policy : Policy) : Prop :=
  ∃ markers, AllDeclare attributes markers ∧
    policy = .ofMarkers (markers.map (·.meaning context.role))

/-- The definition of a method has its name and its policy. -/
def MethodDescribes (context : Context) (method : Method) (definition : MethodDefinition) : Prop :=
  definition.name = method.signature.name ∧ PolicyOf context method.attributes definition.policy

/-- The definition that a block has when it is declared with arguments. -/
structure Describes (context : Context) (kind : Kind) (arguments : Arguments) (block : ImplBlock)
    (definition : TypeDefinition) : Prop where
  type_name_eq : definition.own.typeName = context.typeName block.selfType.tokens
  simple_name_eq : simpleName block.selfType = .ok definition.own.simpleName
  is_endpoint_iff : definition.own.isEndpoint = true ↔ kind = .endpoint
  given_name_eq : definition.own.givenName =
    if kind = .endpoint then (arguments.name.map context.text).filter (· ≠ "") else none
  policy : PolicyOf context block.attributes definition.own.policy
  methods : List.Forall₂ (MethodDescribes context)
    (block.methods.filter fun method ↦ method.visibility.isPublic && method.signature.hasReceiver)
    definition.own.methods
  parent_eq : definition.parent? = arguments.parent.map context.definition

/-! ## Taking the items -/

/-- A callable method is taken with its name and the markers that it declares. -/
def TakenFrom (method : Method) (taken : CallableMethod) : Prop :=
  taken.name = method.signature.name ∧ AllDeclare method.attributes taken.markers

/-- What is taken from the items of a block: each callable method with its markers, in order, and
each item without them. Methods that cannot be called have none. -/
theorem take_items_ok {items bare : List BlockItem} {taken : List CallableMethod}
    (h : takeItems items = .ok (taken, bare)) :
    List.Forall₂ TakenFrom ((items.filterMap BlockItem.method?).filter isCallable) taken ∧
      (∀ method ∈ items.filterMap BlockItem.method?, isCallable method = false →
        markerAttributes method.attributes = []) ∧
      bare = items.map withoutMarkers := by
  induction items generalizing taken bare with
  | nil =>
      cases h
      exact ⟨.nil, by simp, rfl⟩
  | cons item rest ih =>
      cases item with
      | other tokens =>
          unfold takeItems at h
          split at h
          · rename_i hrest
            cases h
            obtain ⟨htaken, hothers, rfl⟩ := ih hrest
            exact ⟨htaken, hothers, rfl⟩
          · cases h
      | method method =>
          unfold takeItems at h
          split at h
          · cases h
          · rename_i markers kept hmarkers
            obtain ⟨hdeclare, rfl⟩ := (take_markers_eq_ok_iff _ _ _).mp hmarkers
            dsimp only at h
            split at h
            · cases h
            · rename_i hallowed
              split at h
              · rename_i more items hrest
                cases h
                obtain ⟨htaken, hothers, rfl⟩ := ih hrest
                refine ⟨?_, ?_, rfl⟩
                · cases hcallable : isCallable method with
                  | true =>
                      simp only [List.filterMap_cons, BlockItem.method?, List.filter_cons,
                        hcallable, if_true, List.singleton_append]
                      exact .cons ⟨rfl, hdeclare⟩ htaken
                  | false =>
                      simpa [List.filterMap_cons, BlockItem.method?, hcallable] using htaken
                · intro other hmem hother
                  simp only [List.filterMap_cons, BlockItem.method?, List.mem_cons] at hmem
                  rcases hmem with rfl | hmem
                  · -- Markers of a method that cannot be called would have been rejected.
                    have hnone : markers = [] := by simpa [hother] using hallowed
                    rw [hnone] at hdeclare
                    exact List.forall₂_nil_right_iff.mp hdeclare
                  · exact hothers other hmem hother
              · cases h

/-- The marker attributes of all methods are those of the callable ones. -/
theorem marker_attributes_of_callable {methods : List Method}
    (h : ∀ method ∈ methods, isCallable method = false → markerAttributes method.attributes = []) :
    (methods.flatMap fun method ↦ markerAttributes method.attributes) =
      (methods.filter isCallable).flatMap fun method ↦ markerAttributes method.attributes := by
  induction methods with
  | nil => rfl
  | cons method rest ih =>
      have hrest := ih fun other hmem ↦ h other (List.mem_cons_of_mem _ hmem)
      rw [List.flatMap_cons, hrest]
      cases hcallable : isCallable method with
      | true => simp [hcallable]
      | false => simp [hcallable, h method List.mem_cons_self hcallable]

/-! ## Building the definition -/

/-- The steps for methods add their definitions in order and change nothing else. -/
theorem meaning_method_steps (context : Context) (built : TypeDefinition)
    (methods : List CallableMethod) :
    (methods.map fun method ↦ Step.method method.name method.markers).foldl
        (Step.meaning context) built =
      { built with own := { built.own with
          methods := built.own.methods ++ methods.map fun method ↦
            ⟨method.name, .ofMarkers (method.markers.map (·.meaning context.role))⟩ } } := by
  induction methods generalizing built with
  | nil => simp
  | cons method rest ih =>
      rw [List.map_cons, List.foldl_cons, ih]
      simp [Step.meaning, TypeRecord.withMethod]

/-- The definition that the steps of a declaration build. -/
theorem meaning_of_steps (context : Context) (generics : Generics) (selfType : List Token)
    (name : String) (kind : Kind) (arguments : Arguments) (markers : List WrittenMarker)
    (methods : List CallableMethod) :
    WrittenDefinition.meaning context ⟨generics, selfType, name,
        steps kind arguments markers methods⟩ =
      { own := {
          typeName := context.typeName selfType
          simpleName := name
          givenName := if kind = .endpoint then
            (arguments.name.map context.text).filter (· ≠ "") else none
          isEndpoint := decide (kind = .endpoint)
          policy := .ofMarkers (markers.map (·.meaning context.role))
          methods := methods.map fun method ↦
            ⟨method.name, .ofMarkers (method.markers.map (·.meaning context.role))⟩ }
        ancestors := (arguments.parent.map fun parent ↦
          (context.definition parent).chain).getD [] } := by
  unfold WrittenDefinition.meaning steps
  rw [List.foldl_append, List.foldl_append, List.foldl_cons, meaning_method_steps]
  cases kind <;> cases arguments.parent <;> rfl

/-- The markers in the steps of a declaration are those of the block and those of its methods. -/
theorem markers_of_steps (kind : Kind) (arguments : Arguments) (markers : List WrittenMarker)
    (methods : List CallableMethod) :
    (steps kind arguments markers methods).flatMap Step.markers =
      markers ++ methods.flatMap CallableMethod.markers := by
  unfold steps
  cases kind <;> cases arguments.parent <;>
    simp [Step.markers, List.flatMap_map]

/-! ## Declared blocks -/

/-- What a declared type consists of. -/
theorem declare_block_ok {kind : Kind} {arguments : Arguments} {block : ImplBlock}
    {expansion : Expansion} (h : declareBlock kind arguments block = .ok expansion) :
    ∃ markers taken name, AllDeclare block.attributes markers ∧
      List.Forall₂ TakenFrom (block.methods.filter isCallable) taken ∧
      (∀ method ∈ block.methods, isCallable method = false →
        markerAttributes method.attributes = []) ∧
      simpleName block.selfType = .ok name ∧
      expansion = ⟨bareBlock block, block.generics, block.selfType.tokens, name,
        steps kind arguments markers taken⟩ := by
  unfold declareBlock at h
  split at h
  · cases h
  · split at h
    · cases h
    · split at h
      · cases h
      · rename_i markers kept hmarkers
        obtain ⟨hdeclare, rfl⟩ := (take_markers_eq_ok_iff _ _ _).mp hmarkers
        split at h
        · cases h
        · rename_i taken items hitems
          obtain ⟨htaken, hothers, rfl⟩ := take_items_ok hitems
          dsimp only at h
          split at h
          · cases h
          · rename_i name hname
            cases h
            exact ⟨markers, taken, name, hdeclare, htaken, hothers, hname, rfl⟩

/-- Declaring a type loses no marker and changes nothing else. The written definition is code that
builds the definition which the block describes; the markers in it are those that the marker
attributes of the block and its methods declare, each once and in order, and none is on a method
that cannot be called. The block is the one that was written without these attributes. -/
theorem expansion_faithful (context : Context) (kind : Kind) (arguments : Arguments)
    (block : ImplBlock) (expansion : Expansion)
    (h : declareBlock kind arguments block = .ok expansion) :
    DenotesDefinition context block.selfType.tokens expansion.definition.expression
      (expansion.definition.meaning context) ∧
    Describes context kind arguments block (expansion.definition.meaning context) ∧
    List.Forall₂ Declares (allMarkerAttributes block)
      (expansion.definition.steps.flatMap Step.markers) ∧
    (∀ method ∈ block.methods, isCallable method = false →
      markerAttributes method.attributes = []) ∧
    expansion.block = bareBlock block := by
  obtain ⟨markers, taken, name, hdeclare, htaken, hothers, hname, rfl⟩ := declare_block_ok h
  refine ⟨WrittenDefinition.denotes context ⟨block.generics, block.selfType.tokens, name,
    steps kind arguments markers taken⟩, ?_, ?_, hothers, rfl⟩
  · rw [meaning_of_steps]
    exact {
      type_name_eq := rfl
      simple_name_eq := hname
      is_endpoint_iff := decide_eq_true_iff
      given_name_eq := rfl
      policy := ⟨markers, hdeclare, rfl⟩
      methods := by
        rw [List.forall₂_map_right_iff]
        exact htaken.imp fun method found hfound ↦ ⟨hfound.1, found.markers, hfound.2, rfl⟩
      parent_eq := by cases arguments.parent <;> rfl }
  · rw [markers_of_steps, allMarkerAttributes, marker_attributes_of_callable hothers]
    refine List.rel_append hdeclare (List.rel_flatMap htaken ?_)
    intro method found hfound
    exact hfound.2

/-- A block that is closed to everyone but for one method, with an attribute and a method that are
not about access. -/
def vaultBlock : ImplBlock where
  attributes := [⟨false, [.ident "deny_all"], .nothing⟩,
    ⟨false, [.ident "cfg"], .arguments .paren [.ident "test"]⟩]
  modifiers := []
  generics := .none
  ofTrait := none
  selfType := ⟨.path "Vault" true, [.ident "Vault"]⟩
  items := [
    .method {
      attributes := [⟨false, [.ident "roles_allowed"],
        .arguments .paren (.ident "ADMIN" :: (Token.symbol "," ++ [.literal "\"OPS\""]))⟩]
      visibility := ⟨true, [.ident "pub"]⟩
      modifier := []
      signature := ⟨[.ident "fn"], "open", true, [.group .paren [.ident "self"]]⟩
      body := [] },
    .method {
      attributes := []
      visibility := ⟨false, []⟩
      modifier := []
      signature := ⟨[.ident "fn"], "key", true, [.group .paren [.ident "self"]]⟩
      body := [] }]

/-- Names and roles that stand for what is written. -/
def plainContext : Context where
  text := Token.render
  role := fun role ↦ Token.render role.tokens
  typeName := Token.render
  definition := fun parent ↦ ⟨{ typeName := Token.render parent, simpleName := "" }, []⟩

/-- The block of the vault is declared as an endpoint, with its one public method. -/
theorem vault_block_declared :
    ∃ expansion, declareBlock .endpoint { name := some [.ident "vault"] } vaultBlock =
        .ok expansion ∧
      Describes plainContext .endpoint { name := some [.ident "vault"] } vaultBlock
        (expansion.definition.meaning plainContext) ∧
      expansion.block = bareBlock vaultBlock ∧
      (expansion.definition.meaning plainContext).own.methods =
        [⟨"open", .ofMarkers [.rolesAllowed ["ADMIN", "\"OPS\""]]⟩] := by
  obtain ⟨expansion, hdeclared⟩ : ∃ expansion,
      declareBlock .endpoint { name := some [.ident "vault"] } vaultBlock = .ok expansion :=
    ⟨_, rfl⟩
  obtain ⟨_, hdescribes, _, _, hblock⟩ :=
    expansion_faithful plainContext .endpoint _ vaultBlock expansion hdeclared
  refine ⟨expansion, hdeclared, hdescribes, hblock, ?_⟩
  cases hdeclared
  decide +kernel

end EndpointGuard.Declare
