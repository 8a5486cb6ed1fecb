import CollectionTypes.Go.Name
import CollectionTypes.Target

/-!
The names of all declarations of one output. A collection declares a group of names under its type
name, an enumeration its type and, in Go, a constant for each literal; all groups share one
namespace. Collections come first, so that enumerations never rename them. A declaration that gets
another name is one of the things that a generation warns of.
-/

namespace CollectionTypes

inductive Warning where
  | collectionRenamed (collection typeName : String)
  | enumRenamed (owner field typeName : String)
  | expandMemberSkipped (collection : String)
  | expandFieldSkipped (collection : String)
  | styleIgnored (target : Target)
deriving DecidableEq, Repr

def Warning.message : Warning → String
  | .collectionRenamed collection typeName =>
      "Collection " ++ collection ++ " clashes with an earlier declaration, generating it as " ++
        typeName
  | .enumRenamed owner field typeName =>
      "Enum of " ++ owner ++ "." ++ field ++
        " clashes with an earlier declaration, generating it as " ++ typeName
  | .expandMemberSkipped collection =>
      "Collection " ++ collection ++ " has a field named 'expand', skipping the expand member"
  | .expandFieldSkipped collection =>
      "Collection " ++ collection ++ " has a field named 'expand', skipping the Expand field"
  | .styleIgnored target => "Style options do not apply to " ++ target.name ++ " output"

namespace Target

def expandName (typeName : String) : String := typeName ++ "Expand"

def collectionConstant (typeName : String) : String := typeName ++ "CollectionName"

def wrapName (typeName : String) : String := "Wrap" ++ typeName

def newName (typeName : String) : String := "New" ++ typeName

def findByIdName (typeName : String) : String := "Find" ++ typeName ++ "ById"

def findFirstName (typeName : String) : String := "FindFirst" ++ typeName ++ "ByData"

def findByFilterName (typeName : String) : String := "Find" ++ typeName ++ "ByFilter"

/-- What a collection declares. -/
def collectionDeclarations (target : Target) (typeName : String) : List String :=
  match target with
  | .typeScript | .goStruct => [typeName, expandName typeName]
  | .goRecord => [typeName, collectionConstant typeName, wrapName typeName, newName typeName,
      findByIdName typeName, findFirstName typeName, findByFilterName typeName]

/-- What an enumeration declares; members of a TypeScript enumeration are no declarations. -/
def enumDeclarations (target : Target) (literals : List String) (typeName : String) :
    List String :=
  match target with
  | .typeScript => [typeName]
  | .goStruct | .goRecord => typeName :: Go.constantNames typeName literals

end Target

structure Symbols where
  types : List (String × String) := []
  /-- By owner and field name. -/
  enums : List ((String × String) × String) := []
deriving DecidableEq, Repr, Inhabited

namespace Symbols

def typeName? (symbols : Symbols) (collection : String) : Option String :=
  symbols.types.lookup collection

/-- A collection without a type of its own gets its plain name. -/
def typeName (symbols : Symbols) (collection : String) : String :=
  (symbols.typeName? collection).getD (Go.exportedName collection)

def expandName (symbols : Symbols) (collection : String) : String :=
  Target.expandName (symbols.typeName collection)

def enumKey (property : Property) : String × String := (property.owner, property.name)

def enumStem (property : Property) : String := Go.exportedName property.enumTypeName

def enumName? (symbols : Symbols) (property : Property) : Option String :=
  symbols.enums.lookup (enumKey property)

def enumName (symbols : Symbols) (property : Property) : String :=
  (symbols.enumName? property).getD (enumStem property)

end Symbols

/-- Symbols under construction. -/
structure Allocation where
  symbols : Symbols := {}
  space : Namespace := {}
  warnings : List Warning := []

namespace Allocation

/-- A collection whose name was met before keeps its first type. -/
def addCollection (target : Target) (allocation : Allocation) (collection : String) :
    Allocation :=
  match allocation.symbols.typeName? collection with
  | some _ => allocation
  | none =>
      let stem := Go.exportedName collection
      let (name, space) := allocation.space.claimGroup stem target.collectionDeclarations
      { symbols := { allocation.symbols with
          types := allocation.symbols.types ++ [(collection, name)] }
        space := space
        warnings := allocation.warnings ++
          if name = stem then [] else [.collectionRenamed collection name] }

def addEnum (target : Target) (allocation : Allocation) (property : Property) : Allocation :=
  match allocation.symbols.enumName? property with
  | some _ => allocation
  | none =>
      let stem := Symbols.enumStem property
      let (name, space) :=
        allocation.space.claimGroup stem (target.enumDeclarations property.options)
      { symbols := { allocation.symbols with
          enums := allocation.symbols.enums ++ [(Symbols.enumKey property, name)] }
        space := space
        warnings := allocation.warnings ++
          if name = stem then [] else [.enumRenamed property.owner property.name name] }

def ofModels (models : List Model) (target : Target) : Allocation :=
  let collections := (models.map (·.name)).foldl (addCollection target) {}
  (models.flatMap (·.distinctEnums)).foldl (addEnum target) collections

end Allocation

def Symbols.ofModels (models : List Model) (target : Target) : Symbols :=
  (Allocation.ofModels models target).symbols

end CollectionTypes
