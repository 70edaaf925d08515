import EndpointGuard.Declare.Arguments
import EndpointGuard.Declare.Definition

/-!
# Declaring a type

A block of methods with markers becomes the same block without them and a written definition of its
type. A block that cannot be declared is answered as far as its markers had been taken.
-/

namespace EndpointGuard.Declare

open Source

/-! ## Methods -/

/-- A method that can be called, and its markers. -/
structure CallableMethod where
  name : String
  markers : List WrittenMarker

/-- The method can be called: it is public and has a receiver. -/
def isCallable (method : Method) : Bool :=
  method.visibility.isPublic && method.signature.hasReceiver

/-- The methods of a block that can be called, and its items without their markers. No other method
has markers. On a rejection the items are answered as far as their markers had been taken; the
attributes of a method with a bad marker are lost. -/
def takeItems :
    List BlockItem → Except (Rejection × List BlockItem) (List CallableMethod × List BlockItem)
  | [] => .ok ([], [])
  | .other tokens :: rest =>
    match takeItems rest with
    | .ok (methods, items) => .ok (methods, .other tokens :: items)
    | .error (rejection, items) => .error (rejection, .other tokens :: items)
  | .method method :: rest =>
    match takeMarkers method.attributes with
    | .error rejection => .error (rejection, .method { method with attributes := [] } :: rest)
    | .ok (markers, kept) =>
      let bare := .method { method with attributes := kept }
      if !isCallable method && !markers.isEmpty then
        .error (.notCallable, bare :: rest)
      else
        let found := if isCallable method then [⟨method.signature.name, markers⟩] else []
        match takeItems rest with
        | .ok (methods, items) => .ok (found ++ methods, bare :: items)
        | .error (rejection, items) => .error (rejection, bare :: items)

/-! ## Blocks -/

/-- The name of a type that is a path without a qualifier. -/
def simpleName (form : TypeForm) : Except Rejection String :=
  match form.kind with
  | .path last _ => .ok last
  | _ => .error .unnamedType

/-- A declared type: its block without markers, and its definition. -/
structure Expansion where
  block : ImplBlock
  definition : WrittenDefinition

/-- A rejected declaration: the reason, and the block if it was read. -/
structure Failure where
  rejection : Rejection
  block : Option ImplBlock

/-- The steps that build the definition of a type. -/
def steps (kind : Kind) (arguments : Arguments) (markers : List WrittenMarker)
    (methods : List CallableMethod) : List Step :=
  (if kind = .endpoint then [.endpoint arguments.name] else []) ++
    .policy markers :: methods.map (fun method ↦ .method method.name method.markers) ++
    (arguments.parent.map Step.extending).toList

/-- Declare the type of a block. -/
def declareBlock (kind : Kind) (arguments : Arguments) (block : ImplBlock) :
    Except Failure Expansion :=
  if block.ofTrait.isSome then
    .error ⟨.traitBlock kind, block⟩
  else if kind = .exposed && arguments.name.isSome then
    .error ⟨.exposedName, block⟩
  else
    match takeMarkers block.attributes with
    | .error rejection => .error ⟨rejection, some { block with attributes := [] }⟩
    | .ok (markers, kept) =>
      match takeItems block.items with
      | .error (rejection, items) =>
        .error ⟨rejection, some { block with attributes := kept, items := items }⟩
      | .ok (methods, items) =>
        let bare := { block with attributes := kept, items := items }
        match simpleName block.selfType with
        | .error rejection => .error ⟨rejection, some bare⟩
        | .ok name =>
          .ok {
            block := bare
            definition := {
              generics := block.generics
              selfType := block.selfType.tokens
              simpleName := name
              steps := steps kind arguments markers methods } }

/-- Declare the type of the block that the tokens of an item are, with arguments. -/
def declareItem (kind : Kind) (arguments item : List Token) : Except Failure Expansion :=
  match Arguments.ofTokens arguments with
  | .error rejection => .error ⟨rejection, none⟩
  | .ok arguments =>
    match Grammar.read implBlock item with
    | none => .error ⟨.malformed, none⟩
    | some block => declareBlock kind arguments block

/-! ## What is emitted -/

/-- A part of what stands in the place of a declaration: an error for the compiler, the block that
was declared, or the block that gives its type a definition. -/
inductive Emitted where
  | error (rejection : Rejection)
  | block (block : ImplBlock)
  | definition (written : WrittenDefinition)

/-- What stands in the place of a declaration. Behind an error stands the block, if it was read. -/
def emitted : Except Failure Expansion → List Emitted
  | .ok expansion => [.block expansion.block, .definition expansion.definition]
  | .error failure => .error failure.rejection :: (failure.block.map Emitted.block).toList

namespace Expansion

/-- The code of a declared type. -/
def tokens (expansion : Expansion) : List Token :=
  expansion.block.tokens ++ expansion.definition.tokens

end Expansion

/-! ## Parts -/

/-- The attributes that the tokens are. -/
def attributesOf? (tokens : List Token) : Option (List Attribute) :=
  Grammar.read outerAttributes tokens

/-- The name of the type that the tokens are. -/
def typeName (tokens : List Token) : Except Rejection String :=
  match Grammar.read (fun g ↦ g.type true) tokens with
  | some form => simpleName form
  | none => .error .malformed

/-- The code for a marker that stands outside of the block of a declared type: an error, and the
item. -/
def misplacedMarker (name : String) (item : List Token) : List Token :=
  let message := "#[" ++ name ++ "] must be placed inside an #[endpoint] or #[endpoint_exposed] " ++
    "impl block, after the #[endpoint] attribute"
  absolutePath ["std", "compile_error"] ++ Token.symbol "!" ++
    [.group .paren [stringToken message]] ++ Token.symbol ";" ++ item

end EndpointGuard.Declare
