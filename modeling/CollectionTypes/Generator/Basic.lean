import CollectionTypes.Collection.Document
import CollectionTypes.Go.Header
import CollectionTypes.Go.Record
import CollectionTypes.Selection.Policy
import CollectionTypes.TypeScript.Declaration

/-!
Whole outputs: a header, if the target has one, and the declarations of each model, with an empty
line between any two and a line feed at the end. No models give no text.
-/

namespace CollectionTypes

structure Generator where
  target : Target
  style : Style
  package : String

namespace Generator

def defaultPackage : String := "models"

def forTarget (target : Target) : Generator := ⟨target, target.defaultStyle, defaultPackage⟩

def joinBlocks (blocks : List String) : String := "\n\n".intercalate blocks

def header? (generator : Generator) (models : List Model) : Option String :=
  match generator.target with
  | .typeScript => none
  | .goStruct => some (Go.header generator.package (Go.structImports models))
  | .goRecord => some (Go.header generator.package (Go.recordImports models))

def blocks (generator : Generator) (symbols : Symbols) (model : Model) : List String :=
  match generator.target with
  | .typeScript => (TypeScript.declarations generator.style symbols model).map (·.write)
  | .goStruct => Go.Struct.blocks generator.style symbols model
  | .goRecord => Go.Record.blocks symbols model

def modelWarnings (target : Target) (model : Model) : List Warning :=
  match target with
  | .typeScript => TypeScript.warnings model
  | .goStruct => Go.Struct.warnings model
  | .goRecord => []

def styleWarnings (generator : Generator) : List Warning :=
  if generator.target = .goRecord ∧ generator.style ≠ generator.target.defaultStyle then
    [.styleIgnored generator.target]
  else []

/-- One model, with names for the given symbols. -/
def renderWith (generator : Generator) (symbols : Symbols) (model : Model) : String :=
  joinBlocks (generator.blocks symbols model)

/-- One model on its own. -/
def render (generator : Generator) (model : Model) : String :=
  generator.renderWith (Symbols.ofModels [model] generator.target) model

def generate (generator : Generator) (models : List Model) : String :=
  if models.isEmpty then ""
  else
    let symbols := Symbols.ofModels models generator.target
    joinBlocks ((generator.header? models).toList ++ models.map (generator.renderWith symbols)) ++
      "\n"

def warnings (generator : Generator) (models : List Model) : List Warning :=
  if models.isEmpty then []
  else
    generator.styleWarnings ++ (Allocation.ofModels models generator.target).warnings ++
      models.flatMap (modelWarnings generator.target)

def renderWarnings (generator : Generator) (model : Model) : List Warning :=
  (Allocation.ofModels [model] generator.target).warnings ++ modelWarnings generator.target model

def interpret (generator : Generator) (selected all : List Collection) : Interpretation :=
  CollectionTypes.interpret all generator.target.interpretOptions selected

def generateCollections (generator : Generator) (selected all : List Collection) : String :=
  generator.generate (generator.interpret selected all).models

end Generator

/-- A generation fails only if its document cannot be used. -/
inductive GenerateError where
  | document (error : DocumentError)
  | file (fault : FileFault)
deriving DecidableEq, Repr

def GenerateError.message : GenerateError → String
  | .document error => "schema parse error: " ++ error.message
  | .file fault => "IO error: " ++ fault.message

end CollectionTypes
