import CollectionTypes.Go.Types

/-!
The head of a Go file: a comment, the package, and the imports that the declarations need.
-/

namespace CollectionTypes.Go

def queryImport : String := "github.com/pocketbase/dbx"

def coreImport : String := "github.com/pocketbase/pocketbase/core"

def typesImport : String := "github.com/pocketbase/pocketbase/tools/types"

def importText (imports : List String) : String :=
  match imports with
  | [] => ""
  | [single] => "\n\nimport \"" ++ single ++ "\""
  | several =>
      "\n\nimport (\n" ++ String.join (several.map fun path => "\t\"" ++ path ++ "\"\n") ++ ")"

def header (package : String) (imports : List String) : String :=
  "// Code generated by pocketgen. DO NOT EDIT.\n\npackage " ++ package ++ importText imports

def usesDates (models : List Model) : Bool :=
  models.any fun model => model.properties.any (·.kind == .date)

def structImports (models : List Model) : List String :=
  if usesDates models then [typesImport] else []

def recordImports (models : List Model) : List String :=
  [queryImport, coreImport] ++ if usesDates models then [typesImport] else []

end CollectionTypes.Go
