import CollectionTypes.Property.Basic

/-!
From collections to models. Relations are looked up by identifier in a whole pool of collections,
of which only some are selected for generation; what could not be settled is reported, one
diagnostic at most for each property, in the order of the properties.
-/

namespace CollectionTypes

inductive DiagnosticCause where
  | unresolvedRelation (collectionId : String)
  | targetNotSelected (target : String)
  | missingEnumValues
deriving DecidableEq, Repr

structure Diagnostic where
  collection : String
  field : String
  cause : DiagnosticCause
deriving DecidableEq, Repr

namespace Diagnostic

def message (diagnostic : Diagnostic) : String :=
  let place := diagnostic.collection ++ "." ++ diagnostic.field ++ ": "
  match diagnostic.cause with
  | .unresolvedRelation collectionId =>
      place ++ "relation to unknown collection id '" ++ collectionId ++ "', falling back to object"
  | .targetNotSelected target =>
      place ++ "relation target '" ++ target ++ "' is not selected for generation"
  | .missingEnumValues => place ++ "select field without values, generating an empty enum"

end Diagnostic

structure InterpretOptions where
  includeHidden : Bool := false
  excludedFields : List String := []
deriving DecidableEq, Repr

def InterpretOptions.skips (options : InterpretOptions) (field : Field) : Bool :=
  (field.hidden && !options.includeHidden) || options.excludedFields.contains field.name

structure Interpretation where
  models : List Model
  diagnostics : List Diagnostic
deriving DecidableEq, Repr

namespace Interpretation

/-- The name of the first collection of the pool with an identifier. -/
def nameOfId? (pool : List Collection) (id : String) : Option String :=
  (pool.find? (·.id == id)).map (·.name)

def relationOf (pool : List Collection) (collectionId : String) : RelationTarget :=
  match nameOfId? pool collectionId with
  | some name => .resolved name
  | none => .unresolved collectionId

def dataOf (pool : List Collection) (field : Field) : PropertyData :=
  match field.kind with
  | .enumeration => .options field.values
  | .relation => .relation (relationOf pool field.collectionId)
  | _ => .plain

def propertyOf (pool : List Collection) (owner : String) (field : Field) : Property where
  name := field.name
  owner := owner
  optional := !field.required
  kind := field.kind
  array := field.kind.supportsMultiple && field.maxSelect > 1
  data := dataOf pool field

/-- What is left open about a field, given the names of the selected collections. -/
def causeOf (pool : List Collection) (selectedNames : List String) (field : Field) :
    Option DiagnosticCause :=
  match field.kind with
  | .enumeration => if field.values.isEmpty then some .missingEnumValues else none
  | .relation =>
      match relationOf pool field.collectionId with
      | .resolved name =>
          if selectedNames.contains name then none else some (.targetNotSelected name)
      | .unresolved collectionId => some (.unresolvedRelation collectionId)
  | _ => none

def visibleFields (options : InterpretOptions) (collection : Collection) : List Field :=
  collection.fields.filter fun field => !options.skips field

def modelOf (pool : List Collection) (options : InterpretOptions) (collection : Collection) :
    Model :=
  ⟨collection, (visibleFields options collection).map (propertyOf pool collection.name)⟩

def diagnosticsOf (pool : List Collection) (options : InterpretOptions)
    (selectedNames : List String) (collection : Collection) : List Diagnostic :=
  (visibleFields options collection).filterMap fun field =>
    (causeOf pool selectedNames field).map fun cause => ⟨collection.name, field.name, cause⟩

end Interpretation

def interpret (pool : List Collection) (options : InterpretOptions) (selected : List Collection) :
    Interpretation :=
  let selectedNames := selected.map (·.name)
  { models := selected.map (Interpretation.modelOf pool options)
    diagnostics := selected.flatMap (Interpretation.diagnosticsOf pool options selectedNames) }

end CollectionTypes
