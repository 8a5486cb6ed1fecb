import CollectionTypes.TypeScript.Types

/-!
Declarations in TypeScript: an enumeration with its literals, or an interface with its members, and
those that a model gives rise to.
-/

namespace CollectionTypes.TypeScript

inductive Declaration where
  /-- Members with their literals. -/
  | enumeration (name : String) (members : List (String × String))
  | interface (name : String) (members : List Member)
deriving DecidableEq, Repr

namespace Declaration

def indent : String := "    "

def enumMemberText (member : String × String) : String :=
  indent ++ member.1 ++ " = " ++ Text.Quoted.literal member.2

def write : Declaration → String
  | .enumeration name [] => "export enum " ++ name ++ " \x7b\x7d"
  | .enumeration name members =>
      "export enum " ++ name ++ " \x7b\n" ++ ",\n".intercalate (members.map enumMemberText) ++
        "\n\x7d"
  | .interface name members =>
      "export interface " ++ name ++ " \x7b\n" ++
        String.join (members.map fun member => indent ++ member.write ++ "\n") ++ "\x7d"

theorem write_empty_enumeration (name : String) :
    (enumeration name []).write = "export enum " ++ name ++ " \x7b\x7d" := rfl

theorem write_enumeration (name : String) (first : String × String)
    (rest : List (String × String)) :
    (enumeration name (first :: rest)).write = "export enum " ++ name ++ " \x7b\n" ++
      ",\n".intercalate ((first :: rest).map enumMemberText) ++ "\n\x7d" := rfl

theorem write_interface (name : String) (members : List Member) :
    (interface name members).write = "export interface " ++ name ++ " \x7b\n" ++
      String.join (members.map fun member => indent ++ member.write ++ "\n") ++ "\x7d" := rfl

def name : Declaration → String
  | .enumeration name _ => name
  | .interface name _ => name

end Declaration

def enumMembers (literals : List String) : List (String × String) :=
  (uniqueNames enumMember literals).zip literals

def enumDeclaration (symbols : Symbols) (property : Property) : Declaration :=
  .enumeration (symbols.enumName property) (enumMembers property.options)

/-- The member that holds the expanded relations. -/
def expandField : String := "expand"

def hasExpandMember (model : Model) : Bool :=
  model.hasRelations && !model.hasProperty expandField

def interfaceMembers (style : Style) (symbols : Symbols) (model : Model) : List Member :=
  model.properties.map (Member.ofProperty style symbols) ++
    if hasExpandMember model then
      [⟨expandField, true, .plain (.named (symbols.expandName model.name))⟩]
    else []

def expandDeclaration (symbols : Symbols) (model : Model) : Declaration :=
  .interface (symbols.expandName model.name)
    (model.relations.map (Member.ofExpansion symbols))

def declarations (style : Style) (symbols : Symbols) (model : Model) : List Declaration :=
  model.distinctEnums.map (enumDeclaration symbols) ++
    [.interface (symbols.typeName model.name) (interfaceMembers style symbols model)] ++
    if model.hasRelations then [expandDeclaration symbols model] else []

def warnings (model : Model) : List Warning :=
  if model.hasRelations && model.hasProperty expandField then [.expandMemberSkipped model.name]
  else []

end CollectionTypes.TypeScript
