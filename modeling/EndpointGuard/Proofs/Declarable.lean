import EndpointGuard.Proofs.Expansion
import EndpointGuard.Proofs.RoleList

/-!
# Which blocks are declared

`Declarable` lists what a block has to be like, and `expansion_fails_closed` says that exactly such
blocks are declared: any other block is answered with an error and without a definition. Read these
two first. Of a rejected block only attributes are lost.

The functions of a block are its methods, which have a body, as they are for `expansion_faithful`.
`SignaturesDeclarable` asks the same of signatures that stand in a block without a body, which a
declaration does not: see `bodiless_function_is_not_checked`.
-/

namespace EndpointGuard.Declare

open Source Source.Parser

/-! ## What is asked of a block -/

/-- An attribute with the name of a marker is written as the marker has to be: alone, or for roles
with a list of string literals and paths. -/
inductive WellFormed (attr : Attribute) : Prop where
  | alone {name : String} : name ∈ ["deny_all", "anonymous_allowed", "permit_all"] →
      attr.name? = some name → attr.input = .nothing → WellFormed attr
  | roles {delimiter : Delimiter} {tokens : List Token} : attr.name? = some "roles_allowed" →
      attr.input = .arguments delimiter tokens → IsRoleList tokens → WellFormed attr

/-- The block can be declared with these arguments. -/
structure Declarable (kind : Kind) (arguments : Arguments) (block : ImplBlock) : Prop where
  inherent : block.ofTrait = none
  unnamed_if_exposed : kind = .exposed → arguments.name = none
  block_markers : ∀ attr ∈ markerAttributes block.attributes, WellFormed attr
  method_markers : ∀ method ∈ block.methods, ∀ attr ∈ markerAttributes method.attributes,
    WellFormed attr
  only_on_callable : ∀ method ∈ block.methods,
    method.visibility.isPublic = false ∨ method.signature.hasReceiver = false →
      markerAttributes method.attributes = []
  named_type : ∃ last plain, block.selfType.kind = .path last plain

/-! ## Markers -/

/-- An attribute with the name of a marker declares one exactly when it is well formed. -/
theorem exists_declares_iff {attr : Attribute} :
    (∃ marker, Declares attr marker) ↔ WellFormed attr := by
  constructor
  · rintro ⟨marker, hmarker⟩
    cases hmarker with
    | denyAll hname hinput => exact .alone (by simp) hname hinput
    | anonymousAllowed hname hinput => exact .alone (by simp) hname hinput
    | permitAll hname hinput => exact .alone (by simp) hname hinput
    | @rolesAllowed delimiter tokens expressions roles hname hinput hexpressions hroles =>
        have hread := (roles_of_eq_ok_iff (.arguments delimiter tokens) roles).mpr
          ⟨_, _, _, rfl, hexpressions, hroles⟩
        exact .roles hname hinput ((exists_roles_iff delimiter tokens).mp ⟨roles, hread⟩)
  · rintro (⟨hmem, hname, hinput⟩ | @⟨delimiter, tokens, hname, hinput, hroles⟩)
    · simp only [List.mem_cons, List.not_mem_nil, or_false] at hmem
      rcases hmem with rfl | rfl | rfl
      · exact ⟨_, .denyAll hname hinput⟩
      · exact ⟨_, .anonymousAllowed hname hinput⟩
      · exact ⟨_, .permitAll hname hinput⟩
    · obtain ⟨roles, hread⟩ := (exists_roles_iff delimiter tokens).mpr hroles
      obtain ⟨_, _, expressions, heq, hexpressions, hnames⟩ :=
        (roles_of_eq_ok_iff _ roles).mp hread
      cases heq
      exact ⟨_, .rolesAllowed hname hinput hexpressions hnames⟩

/-- The markers can be taken out of attributes exactly when they are well formed. -/
theorem exists_take_markers_iff (attributes : List Attribute) :
    (∃ taken, takeMarkers attributes = .ok taken) ↔
      ∀ attr ∈ markerAttributes attributes, WellFormed attr := by
  simp only [Prod.exists, take_markers_eq_ok_iff, exists_eq_right, ← exists_declares_iff]
  exact exists_forall₂_iff

/-! ## Items -/

/-- The item is the one that was written, but for attributes of a method that may be missing. -/
inductive KeptItem : BlockItem → BlockItem → Prop where
  | method (method : Method) {attributes : List Attribute} :
      attributes.Sublist method.attributes →
      KeptItem (.method method) (.method { method with attributes := attributes })
  | other (tokens : List Token) : KeptItem (.other tokens) (.other tokens)

/-- Items are kept by leaving them as they are. -/
theorem kept_items_refl (items : List BlockItem) : List.Forall₂ KeptItem items items := by
  refine List.forall₂_same.mpr fun item _ ↦ ?_
  cases item with
  | method method => exact .method method (List.Sublist.refl _)
  | other tokens => exact .other tokens

/-- An item without its markers is kept. -/
theorem kept_item_bare (item : BlockItem) : KeptItem item (withoutMarkers item) := by
  cases item with
  | method method => exact .method method List.filter_sublist
  | other tokens => exact .other tokens

/-- A method cannot be called exactly when it is not public or has no receiver. -/
theorem is_callable_eq_false_iff {method : Method} :
    isCallable method = false ↔
      method.visibility.isPublic = false ∨ method.signature.hasReceiver = false :=
  Bool.and_eq_false_iff

/-- The markers of a method are well formed, and it has none unless it can be called. -/
def MethodDeclarable (method : Method) : Prop :=
  (∀ attr ∈ markerAttributes method.attributes, WellFormed attr) ∧
    (isCallable method = false → markerAttributes method.attributes = [])

/-- The items can be taken exactly when this holds of every method among them. -/
theorem exists_take_items_iff (items : List BlockItem) :
    (∃ taken, takeItems items = .ok taken) ↔
      ∀ method ∈ items.filterMap BlockItem.method?, MethodDeclarable method := by
  induction items with
  | nil => simp [takeItems]
  | cons item rest ih =>
      cases item with
      | other tokens =>
          simp only [List.filterMap_cons, BlockItem.method?, ← ih]
          rw [takeItems]
          cases takeItems rest <;> simp
      | method method =>
          simp only [List.filterMap_cons, BlockItem.method?, List.forall_mem_cons, ← ih]
          have hmarkers := exists_take_markers_iff method.attributes
          rw [takeItems]
          cases htaken : takeMarkers method.attributes with
          | error rejection =>
              have hfaulty : ¬ MethodDeclarable method := by
                rintro ⟨hwell, -⟩
                obtain ⟨taken, htaken'⟩ := hmarkers.mpr hwell
                rw [htaken] at htaken'
                cases htaken'
              simp [hfaulty]
          | ok taken =>
              obtain ⟨markers, kept⟩ := taken
              -- The markers stand for the marker attributes one by one.
              have hnone : markers = [] ↔ markerAttributes method.attributes = [] := by
                obtain ⟨hdeclare, -⟩ := (take_markers_eq_ok_iff _ _ _).mp htaken
                rw [← List.length_eq_zero_iff, ← hdeclare.length_eq, List.length_eq_zero_iff]
              have hmethod : MethodDeclarable method ↔
                  (isCallable method = false → markerAttributes method.attributes = []) :=
                and_iff_right (hmarkers.mp ⟨_, htaken⟩)
              rw [hmethod, ← hnone]
              dsimp only
              split
              · rename_i hmarked
                simp only [Bool.and_eq_true, Bool.not_eq_true', List.isEmpty_eq_false_iff]
                  at hmarked
                simp [hmarked]
              · rename_i hmarked
                have hallowed : isCallable method = false → markers = [] := by
                  simpa using hmarked
                rw [and_iff_right hallowed]
                cases takeItems rest <;> simp

/-- A rejection of the items loses only attributes. -/
theorem take_items_error {items kept : List BlockItem} {rejection : Rejection}
    (h : takeItems items = .error (rejection, kept)) : List.Forall₂ KeptItem items kept := by
  induction items generalizing kept with
  | nil => cases h
  | cons item rest ih =>
      cases item with
      | other tokens =>
          rw [takeItems] at h
          split at h
          · cases h
          · rename_i hrest
            cases h
            exact .cons (.other tokens) (ih hrest)
      | method method =>
          rw [takeItems] at h
          split at h
          · cases h
            exact .cons (.method method (List.nil_sublist _)) (kept_items_refl rest)
          · rename_i hmarkers
            obtain ⟨-, rfl⟩ := (take_markers_eq_ok_iff _ _ _).mp hmarkers
            have hbare : KeptItem (.method method) _ :=
              kept_item_bare (.method method)
            dsimp only at h
            split at h
            · cases h
              exact .cons hbare (kept_items_refl rest)
            · split at h
              · cases h
              · rename_i hrest
                cases h
                exact .cons hbare (ih hrest)

/-! ## Blocks -/

/-- The block is the one that was written, but for attributes that may be missing from it and from
its methods. -/
structure KeptBlock (block kept : ImplBlock) : Prop where
  modifiers : kept.modifiers = block.modifiers
  generics : kept.generics = block.generics
  ofTrait : kept.ofTrait = block.ofTrait
  selfType : kept.selfType = block.selfType
  attributes : kept.attributes.Sublist block.attributes
  items : List.Forall₂ KeptItem block.items kept.items

/-- The types with a name are the paths without a qualifier. -/
theorem simple_name_eq_ok_iff {form : TypeForm} {name : String} :
    simpleName form = .ok name ↔ ∃ plain, form.kind = .path name plain := by
  unfold simpleName
  split <;> simp_all

/-- Exactly the declarable blocks are declared. -/
theorem exists_declared_iff (kind : Kind) (arguments : Arguments) (block : ImplBlock) :
    (∃ expansion, declareBlock kind arguments block = .ok expansion) ↔
      Declarable kind arguments block := by
  have hmarkers := exists_take_markers_iff block.attributes
  have hitems := exists_take_items_iff block.items
  constructor
  · rintro ⟨expansion, h⟩
    unfold declareBlock at h
    split at h
    · cases h
    · rename_i htrait
      split at h
      · cases h
      · rename_i hexposed
        split at h
        · cases h
        · rename_i taken
          split at h
          · cases h
          · rename_i found
            dsimp only at h
            split at h
            · cases h
            · rename_i name hname
              have hmethods := hitems.mp ⟨_, found⟩
              exact {
                inherent := by simpa using htrait
                unnamed_if_exposed := by simpa using hexposed
                block_markers := hmarkers.mp ⟨_, taken⟩
                method_markers := fun method hmem ↦ (hmethods method hmem).1
                only_on_callable := fun method hmem hclosed ↦
                  (hmethods method hmem).2 (is_callable_eq_false_iff.mpr hclosed)
                named_type := ⟨name, simple_name_eq_ok_iff.mp hname⟩ }
  · rintro ⟨htrait, hexposed, hblock, hmethods, hcallable, name, hname⟩
    obtain ⟨⟨markers, kept⟩, htaken⟩ := hmarkers.mpr hblock
    obtain ⟨⟨methods, items⟩, hfound⟩ := hitems.mpr fun method hmem ↦
      ⟨hmethods method hmem, fun hclosed ↦
        hcallable method hmem (is_callable_eq_false_iff.mp hclosed)⟩
    have hunnamed : ¬ (kind = .exposed && arguments.name.isSome) = true := by
      simpa using hexposed
    unfold declareBlock
    rw [htrait, if_neg (by simp), if_neg hunnamed, htaken]
    simp only [hfound, simple_name_eq_ok_iff.mpr hname]
    exact ⟨_, rfl⟩

/-- A rejected block is answered as it was written, but for attributes. -/
theorem declare_block_error {kind : Kind} {arguments : Arguments} {block : ImplBlock}
    {failure : Failure} (h : declareBlock kind arguments block = .error failure) :
    ∃ kept, failure.block = some kept ∧ KeptBlock block kept := by
  unfold declareBlock at h
  split at h
  · cases h
    exact ⟨block, rfl, rfl, rfl, rfl, rfl, .refl _, kept_items_refl _⟩
  · split at h
    · cases h
      exact ⟨block, rfl, rfl, rfl, rfl, rfl, .refl _, kept_items_refl _⟩
    · split at h
      · cases h
        exact ⟨_, rfl, rfl, rfl, rfl, rfl, List.nil_sublist _, kept_items_refl _⟩
      · rename_i hmarkers
        obtain ⟨-, rfl⟩ := (take_markers_eq_ok_iff _ _ _).mp hmarkers
        have hothers : (otherAttributes block.attributes).Sublist block.attributes :=
          List.filter_sublist
        split at h
        · rename_i hitems
          cases h
          exact ⟨_, rfl, rfl, rfl, rfl, rfl, hothers, take_items_error hitems⟩
        · rename_i hitems
          obtain ⟨-, -, rfl⟩ := take_items_ok hitems
          dsimp only at h
          split at h
          · cases h
            exact ⟨_, rfl, rfl, rfl, rfl, rfl, hothers,
              List.forall₂_map_right_iff.mpr (List.forall₂_same.mpr fun item _ ↦
                kept_item_bare item)⟩
          · cases h

/-! ## What is emitted -/

/-- The declaration of a type fails closed, and exactly when it should. A definition stands in the
place of a declaration if and only if the block is declarable, and then no error does; in the place
of any other stand an error and the block as it was written, but for attributes. -/
theorem expansion_fails_closed (kind : Kind) {arguments item : List Token} {given : Arguments}
    {block : ImplBlock} (harguments : Arguments.ofTokens arguments = .ok given)
    (hblock : Grammar.read implBlock item = some block) :
    ((∃ definition, .definition definition ∈ emitted (declareItem kind arguments item)) ↔
      Declarable kind given block) ∧
    (Declarable kind given block → ∃ definition,
      emitted (declareItem kind arguments item) =
        [.block (bareBlock block), .definition definition]) ∧
    (¬ Declarable kind given block → ∃ rejection kept,
      emitted (declareItem kind arguments item) = [.error rejection, .block kept] ∧
        KeptBlock block kept) := by
  have hdeclare : declareItem kind arguments item = declareBlock kind given block := by
    unfold declareItem
    rw [harguments, hblock]
  rw [hdeclare, ← exists_declared_iff]
  cases houtcome : declareBlock kind given block with
  | ok expansion =>
      obtain ⟨_, _, _, -, -, -, -, rfl⟩ := declare_block_ok houtcome
      simp [emitted]
  | error failure =>
      obtain ⟨kept, hkept, hsame⟩ := declare_block_error houtcome
      have hemitted : emitted (.error failure) = [.error failure.rejection, .block kept] := by
        simp [emitted, hkept]
      rw [hemitted]
      exact ⟨by simp, by simp, fun _ ↦ ⟨_, kept, rfl, hsame⟩⟩

/-- The block of the vault is declared as an endpoint with a name, and rejected with that name when
it is only exposed. -/
theorem vault_fails_closed :
    (∃ definition,
      emitted (declareItem .endpoint [.literal "\"vault\""] vaultBlock.tokens) =
        [.block (bareBlock vaultBlock), .definition definition]) ∧
    ∃ rejection kept,
      emitted (declareItem .exposed [.literal "\"vault\""] vaultBlock.tokens) =
        [.error rejection, .block kept] ∧ KeptBlock vaultBlock kept := by
  have harguments : Arguments.ofTokens [.literal "\"vault\""] =
      .ok { name := some [.literal "\"vault\""] } := rfl
  have hblock : Grammar.read implBlock vaultBlock.tokens = some vaultBlock := rfl
  constructor
  · refine (expansion_fails_closed .endpoint harguments hblock).2.1 ?_
    exact (exists_declared_iff _ _ _).mp ⟨_, rfl⟩
  · refine (expansion_fails_closed .exposed harguments hblock).2.2 fun hdeclarable ↦ ?_
    cases hdeclarable.unnamed_if_exposed rfl

/-! ## Signatures without a body -/

/-- A signature without a body. It makes no method: the item stays as it stands. -/
def bodilessFunction (g : Grammar) : Parser (List Attribute × Visibility × Signature) := do
  let attributes ← outerAttributes g
  let visibility ← visibility
  let signature ← signature g
  let _ ← symbol ";"
  return (attributes, visibility, signature)

/-- The attributes, the visibility and the signature of an item, a method or one without a body. -/
def signatureOf? : BlockItem → Option (List Attribute × Visibility × Signature)
  | .method method => some (method.attributes, method.visibility, method.signature)
  | .other tokens => Grammar.read bodilessFunction tokens

/-- The markers on all signatures of a block, with a body or without, are well formed, and stand on
such as can be called. -/
def SignaturesDeclarable (block : ImplBlock) : Prop :=
  ∀ item ∈ block.items, ∀ attributes visibility signature,
    signatureOf? item = some (attributes, visibility, signature) →
      (∀ attr ∈ markerAttributes attributes, WellFormed attr) ∧
        (visibility.isPublic = false ∨ signature.hasReceiver = false →
          markerAttributes attributes = [])

/-- A block with a marker on a function without a body, which is not public and has no receiver. -/
def sealedItem : List Token :=
  [.ident "impl", .ident "Vault", .group .brace [.punct '#' false,
    .group .bracket [.ident "deny_all"], .ident "fn", .ident "key", .group .paren [],
    .punct ';' false]]

/-- A block is declared though one of its signatures, which has no body, is not as asked. -/
theorem bodiless_function_is_not_checked :
    ∃ block, Grammar.read implBlock sealedItem = some block ∧ ¬ SignaturesDeclarable block ∧
      ∃ definition, .definition definition ∈ emitted (declareItem .endpoint [] sealedItem) := by
  refine ⟨_, rfl, fun hdeclarable ↦ ?_, ⟨_, .tail _ (.head _)⟩⟩
  have hkey := (hdeclarable _ (.head _) _ _ _ rfl).2 (.inl rfl)
  exact List.cons_ne_nil _ _ hkey

end EndpointGuard.Declare
