import CollectionTypes.Generator.Basic
import CollectionTypes.Proofs.Go.Methods
import CollectionTypes.Proofs.Go.Types
import CollectionTypes.Proofs.TypeScript.Types

/-!
The places at which an output writes the type of a property: members and fields, those of
expansions, and methods. Each stands in a block of its model, and names nothing but what the symbols
give for the property; a relation without a target is an identifier or an object of no type. Members
that hold a whole expansion belong to no property and are no such place.
-/

namespace CollectionTypes

open Naming Text

namespace Go

def Method.typeText : Method → String
  | .getter _ _ result _ => result.write
  | .integerGetter _ _ => "int"
  | .setter _ _ _ type _ => type.write
  | .expander _ _ expansion => expansion.type.write

namespace Record

def attributed (symbols : Symbols) : Namespace → List Property → List (Property × Method)
  | _, [] => []
  | space, property :: rest =>
      let (methods, next) := methodsOf symbols space property
      methods.map (fun method => (property, method)) ++ attributed symbols next rest

theorem attributed_methods (symbols : Symbols) (space : Namespace) (properties : List Property) :
    (attributed symbols space properties).map Prod.snd = allMethods symbols space properties := by
  induction properties generalizing space with
  | nil => rfl
  | cons property properties induction =>
      simp [attributed, allMethods, induction, Function.comp_def]

/-- Every method is a block of its model. -/
theorem attributed_written {symbols : Symbols} {model : Model} {property : Property}
    {method : Method}
    (member : (property, method) ∈ attributed symbols ⟨proxyMembers⟩ model.properties) :
    method.write (symbols.typeName model.name) ∈ blocks symbols model := by
  have isMethod : method ∈ methods symbols model := by
    rw [methods, ← attributed_methods]
    exact List.mem_map.mpr ⟨(property, method), member, rfl⟩
  exact List.mem_append_left _ (List.mem_append_right _ (List.mem_map_of_mem isMethod))

theorem method_of_attributed {symbols : Symbols} {space : Namespace}
    {properties : List Property} {property : Property} {method : Method}
    (member : (property, method) ∈ attributed symbols space properties) :
    property ∈ properties ∧ MethodOf symbols property method := by
  induction properties generalizing space with
  | nil => contradiction
  | cons first properties induction =>
      rw [attributed] at member
      rcases List.mem_append.mp member with own | later
      · obtain ⟨found, foundMember, same⟩ := List.mem_map.mp own
        obtain ⟨rfl, rfl⟩ := Prod.mk.inj same
        exact ⟨List.mem_cons_self .., method_of_methods_of foundMember⟩
      · obtain ⟨inRest, found⟩ := induction later
        exact ⟨List.mem_cons_of_mem _ inRest, found⟩

end Record

end Go

/-- A place at which an output writes the type of a property. -/
structure TypeSite where
  property : Property
  type : String
  /-- Where names are looked for: the type, or all that follows the name of a method. -/
  text : String
  /-- Names that the text itself binds. -/
  parameters : List String
deriving DecidableEq

def builtinWords : Target → List String
  | .typeScript => TypeScript.vocabulary
  | .goStruct | .goRecord => Go.vocabulary

namespace TypeSite

def ofType (property : Property) (type : String) : TypeSite := ⟨property, type, type, []⟩

def ofMethod (property : Property) (method : Go.Method) : TypeSite :=
  ⟨property, method.typeText, method.tail, method.parameters⟩

/-- The words of a place that neither belong to the language and its libraries nor are
parameters. -/
def names (target : Target) (site : TypeSite) : List String :=
  foreign (builtinWords target ++ site.parameters) site.text

/-- Whether a block has the place where its target writes types: behind the key of a member, in
front of the tag of a field, or behind the name of a method of the record type. -/
def StandsIn (site : TypeSite) (receiver block : String) : Target → Prop
  | .typeScript => ∃ (optional : Bool) (front back : String), block = front ++
      ("    " ++ TypeScript.propertyName site.property.name ++ (if optional then "?" else "") ++
        ": " ++ site.text ++ ";\n") ++ back
  | .goStruct => ∃ name front back, block = front ++
      ("\t" ++ name ++ " " ++ site.text ++ " `json:\"" ++ site.property.name) ++ back
  | .goRecord => ∃ name, block = "func (p *" ++ receiver ++ ") " ++ name ++ site.text

end TypeSite

namespace Generator

def typeSites (generator : Generator) (symbols : Symbols) (model : Model) : List TypeSite :=
  match generator.target with
  | .typeScript =>
      List.zipWith .ofType model.properties
        ((TypeScript.interfaceMembers generator.style symbols model).map (·.type.write)) ++
      List.zipWith .ofType model.relations
        (model.relations.map fun property =>
          (TypeScript.Member.ofExpansion symbols property).type.write)
  | .goStruct =>
      List.zipWith .ofType model.properties
        ((Go.Struct.ofModel generator.style symbols model).fields.map (·.type.write)) ++
      List.zipWith .ofType model.relations
        ((Go.Struct.expansionOf symbols model).fields.map (·.type.write))
  | .goRecord =>
      (Go.Record.attributed symbols ⟨Go.Record.proxyMembers⟩ model.properties).map fun entry =>
        .ofMethod entry.1 entry.2

inductive SiteOf (generator : Generator) (symbols : Symbols) (property : Property) :
    TypeSite → Prop where
  | member (target : generator.target = .typeScript) :
      SiteOf generator symbols property
        (.ofType property (TypeScript.typeOf generator.style symbols property).write)
  | expandedMember (target : generator.target = .typeScript)
      (relation : property.isRelation = true) :
      SiteOf generator symbols property (.ofType property
        (TypeScript.compose property (TypeScript.resolvedElement symbols property)).write)
  | field (target : generator.target = .goStruct) :
      SiteOf generator symbols property
        (.ofType property (Go.typeOf generator.style symbols property).write)
  | expandedField (target : generator.target = .goStruct)
      (relation : property.isRelation = true) :
      SiteOf generator symbols property
        (.ofType property (Go.expandType symbols property).write)
  | method (target : generator.target = .goRecord) {method : Go.Method}
      (found : Go.Record.MethodOf symbols property method) :
      SiteOf generator symbols property (.ofMethod property method)

theorem zip_of_properties {properties : List Property} {type : Property → String}
    {rest : List String} {site : TypeSite}
    (member : site ∈ List.zipWith .ofType properties (properties.map type ++ rest)) :
    ∃ property ∈ properties, site = .ofType property (type property) := by
  induction properties with
  | nil => simp at member
  | cons property properties induction =>
      rcases List.mem_cons.mp member with rfl | later
      · exact ⟨property, List.mem_cons_self .., rfl⟩
      · obtain ⟨other, otherMember, same⟩ := induction later
        exact ⟨other, List.mem_cons_of_mem _ otherMember, same⟩

theorem relations_mem {model : Model} {property : Property} (member : property ∈ model.relations) :
    property ∈ model.properties ∧ property.isRelation = true :=
  List.mem_filter.mp member

theorem site_of_type_sites {generator : Generator} {symbols : Symbols} {model : Model}
    {site : TypeSite} (member : site ∈ generator.typeSites symbols model) :
    ∃ property ∈ model.properties, generator.SiteOf symbols property site := by
  cases target : generator.target with
  | typeScript =>
      simp only [typeSites, target] at member
      rcases List.mem_append.mp member with own | expanded
      · rw [TypeScript.interfaceMembers, List.map_append, List.map_map] at own
        obtain ⟨property, inModel, rfl⟩ := zip_of_properties own
        exact ⟨property, inModel, .member target⟩
      · rw [← List.append_nil (List.map _ _)] at expanded
        obtain ⟨property, isRelation, rfl⟩ := zip_of_properties expanded
        obtain ⟨inModel, relation⟩ := relations_mem isRelation
        exact ⟨property, inModel, .expandedMember target relation⟩
  | goStruct =>
      have types (fields : List Go.StructField) :
          (Go.Struct.distinguish fields).map (·.type.write) = fields.map (·.type.write) := by
        have same := congrArg (List.map Go.TypeExpr.write) (Go.Struct.distinguish_types fields)
        rwa [List.map_map, List.map_map] at same
      simp only [typeSites, target] at member
      rcases List.mem_append.mp member with own | expanded
      · simp only [Go.Struct.ofModel, types, List.map_append, List.map_map] at own
        obtain ⟨property, inModel, rfl⟩ := zip_of_properties own
        exact ⟨property, inModel, .field target⟩
      · simp only [Go.Struct.expansionOf, types, List.map_map] at expanded
        rw [← List.append_nil (List.map _ _)] at expanded
        obtain ⟨property, isRelation, rfl⟩ := zip_of_properties expanded
        obtain ⟨inModel, relation⟩ := relations_mem isRelation
        exact ⟨property, inModel, .expandedField target relation⟩
  | goRecord =>
      simp only [typeSites, target] at member
      obtain ⟨⟨property, method⟩, entry, rfl⟩ := List.mem_map.mp member
      obtain ⟨inModel, found⟩ := Go.Record.method_of_attributed entry
      exact ⟨property, inModel, .method target found⟩

theorem join_of_mem {line : String} {lines : List String} (member : line ∈ lines) :
    ∃ front back, String.join lines = front ++ line ++ back := by
  obtain ⟨before, after, rfl⟩ := List.append_of_mem member
  exact ⟨String.join before, String.join after, by
    rw [String.join_append, String.join_cons, String.append_assoc]⟩

theorem stands_in_interface {site : TypeSite} {receiver name : String}
    {members : List TypeScript.Member} {member : TypeScript.Member} (found : member ∈ members)
    (key : member.name = site.property.name) (text : member.type.write = site.text) :
    site.StandsIn receiver (TypeScript.Declaration.interface name members).write .typeScript := by
  have line := List.mem_map_of_mem
    (f := fun member => TypeScript.Declaration.indent ++ member.write ++ "\n") found
  obtain ⟨front, back, lines⟩ := join_of_mem line
  refine ⟨member.optional, "export interface " ++ name ++ " \x7b\n" ++ front,
    back ++ "\x7d", ?_⟩
  rw [TypeScript.Declaration.write_interface, lines]
  simp only [TypeScript.Declaration.indent, TypeScript.Member.write, key, text,
    String.append_assoc]
  rfl

/-- The fields of a struct have the keys and the types of the fields that were put in. -/
theorem stands_in_struct {site : TypeSite} {receiver name : String}
    {fields : List Go.StructField} {field : Go.StructField} (found : field ∈ fields)
    (key : field.key = site.property.name) (text : field.type.write = site.text) :
    site.StandsIn receiver (Go.Struct.write ⟨name, Go.Struct.distinguish fields⟩) .goStruct := by
  have views := Go.Struct.distinguish_view (fun field => (field.key, field.type))
    (fun _ _ => rfl) fields
  have view : (field.key, field.type) ∈
      (Go.Struct.distinguish fields).map fun field => (field.key, field.type) :=
    views ▸ List.mem_map_of_mem found
  obtain ⟨settled, settledMember, same⟩ := List.mem_map.mp view
  obtain ⟨sameKey, sameType⟩ := Prod.mk.inj same
  have line := List.mem_map_of_mem
    (f := fun (field : Go.StructField) => "\t" ++ field.write ++ "\n") settledMember
  obtain ⟨front, back, lines⟩ := join_of_mem line
  refine ⟨settled.name, "type " ++ name ++ " struct \x7b\n" ++ front,
    (if settled.omitEmpty then ",omitempty" else "") ++ "\"\x60" ++ "\n" ++ back ++ "\x7d", ?_⟩
  rw [Go.Struct.write, lines]
  simp only [Go.StructField.write, Go.jsonTag, sameKey, sameType, key, text,
    String.append_assoc]
  rfl

section Written

variable (style : Style) (symbols : Symbols) (model : Model)

theorem interface_declared :
    .interface (symbols.typeName model.name) (TypeScript.interfaceMembers style symbols model) ∈
      TypeScript.declarations style symbols model :=
  List.mem_append_left _ (List.mem_append_right _ (List.mem_singleton_self _))

theorem struct_written :
    (Go.Struct.ofModel style symbols model).write ∈ Go.Struct.blocks style symbols model :=
  List.mem_append_left _ (List.mem_append_right _ (List.mem_singleton_self _))

variable {model} {property : Property} (relation : property ∈ model.relations)

include relation

theorem has_relations_of_mem : model.hasRelations = true := by
  simp [Model.hasRelations, List.ne_nil_of_mem relation]

theorem expansion_declared : TypeScript.expandDeclaration symbols model ∈
    TypeScript.declarations style symbols model := by
  refine List.mem_append_right _ ?_
  rw [if_pos (has_relations_of_mem relation)]
  exact List.mem_singleton_self _

theorem expansion_written :
    (Go.Struct.expansionOf symbols model).write ∈ Go.Struct.blocks style symbols model := by
  refine List.mem_append_right _ ?_
  rw [if_pos (has_relations_of_mem relation)]
  exact List.mem_singleton_self _

end Written

/-- Every place stands in a block of its model. -/
theorem type_sites_written {generator : Generator} {symbols : Symbols} {model : Model}
    {site : TypeSite} (member : site ∈ generator.typeSites symbols model) :
    ∃ block ∈ generator.blocks symbols model,
      site.StandsIn (symbols.typeName model.name) block generator.target := by
  cases target : generator.target with
  | goRecord =>
      simp only [typeSites, target] at member
      obtain ⟨⟨property, method⟩, entry, rfl⟩ := List.mem_map.mp member
      refine ⟨method.write (symbols.typeName model.name), ?_, method.name, rfl⟩
      simpa only [blocks, target] using Go.Record.attributed_written entry
  | typeScript =>
      obtain ⟨property, inModel, found⟩ := site_of_type_sites member
      simp only [blocks, target]
      cases found with
      | member _ =>
          have own : TypeScript.Member.ofProperty generator.style symbols property ∈
              TypeScript.interfaceMembers generator.style symbols model :=
            List.mem_append_left _ (List.mem_map_of_mem inModel)
          exact ⟨_, List.mem_map_of_mem (interface_declared _ _ _),
            stands_in_interface own rfl rfl⟩
      | expandedMember _ relation =>
          have isRelation : property ∈ model.relations := List.mem_filter.mpr ⟨inModel, relation⟩
          have own : TypeScript.Member.ofExpansion symbols property ∈
              model.relations.map (TypeScript.Member.ofExpansion symbols) :=
            List.mem_map_of_mem isRelation
          exact ⟨_, List.mem_map_of_mem (expansion_declared _ _ isRelation),
            stands_in_interface own rfl rfl⟩
      | field other | expandedField other _ | method other _ =>
          rw [target] at other
          contradiction
  | goStruct =>
      obtain ⟨property, inModel, found⟩ := site_of_type_sites member
      simp only [blocks, target]
      cases found with
      | field _ =>
          have own : Go.Struct.propertyField generator.style symbols property ∈
              model.properties.map (Go.Struct.propertyField generator.style symbols) :=
            List.mem_map_of_mem inModel
          exact ⟨_, struct_written _ _ _, stands_in_struct (List.mem_append_left _ own) rfl rfl⟩
      | expandedField _ relation =>
          have isRelation : property ∈ model.relations := List.mem_filter.mpr ⟨inModel, relation⟩
          have own : Go.Struct.expansionField symbols property ∈
              model.relations.map (Go.Struct.expansionField symbols) :=
            List.mem_map_of_mem isRelation
          exact ⟨_, expansion_written _ _ isRelation, stands_in_struct own rfl rfl⟩
      | member other | expandedMember other _ | method other _ =>
          rw [target] at other
          contradiction

/-- A place names only what the symbols give for its property. -/
theorem site_names {generator : Generator} {symbols : Symbols} (worded : symbols.Worded)
    {property : Property} {site : TypeSite} (found : generator.SiteOf symbols property site) :
    site.property = property ∧ ∀ name ∈ site.names generator.target,
      name ∈ symbols.referenced generator.target property := by
  have words (target : Target) {name : String}
      (member : name ∈ symbols.referenced target property) :
      IsWord name ∧ name ∈ symbols.referenced target property :=
    ⟨Symbols.referenced_are_words worded target property name member, member⟩
  have inGo {type : Go.TypeExpr} (leaf : ∀ name ∈ type.leaf?, name ∈ Go.vocabulary ∨
      name ∈ symbols.referenced .goStruct property) :
      ∀ name ∈ (TypeSite.ofType property type.write).names .goStruct,
        name ∈ symbols.referenced .goStruct property := by
    have spelled : Go.Spelled ([] ++ symbols.referenced .goStruct property) (type.write ++ "") :=
      Go.spelled_type (fun name member => (leaf name member).imp_right (words .goStruct))
        (Or.inl rfl) within_empty
    rw [String.append_empty] at spelled
    exact foreign_of_within spelled
  cases found with
  | member target =>
      rw [target]
      refine ⟨rfl, foreign_of_within (TypeScript.within_type ?_)⟩
      intro name member
      rw [TypeScript.typeOf, TypeScript.element_of_compose] at member
      exact words _ (TypeScript.element_type_names _ _ _ name member)
  | expandedMember target relation =>
      rw [target]
      refine ⟨rfl, foreign_of_within (TypeScript.within_type ?_)⟩
      intro name member
      rw [TypeScript.element_of_compose] at member
      exact words _ (TypeScript.resolved_element_names _ relation name member)
  | field target =>
      rw [target]
      refine ⟨rfl, inGo ?_⟩
      intro name member
      rw [Go.leaf_of_type_of] at member
      exact Go.element_type_names _ _ _ name member
  | expandedField target relation =>
      rw [target]
      refine ⟨rfl, inGo ?_⟩
      intro name member
      rw [Go.leaf_of_expand_type] at member
      exact Or.inr (Go.resolved_type_names _ relation name member)
  | @method target method methodOf =>
      rw [target]
      refine ⟨rfl, foreign_of_within (Go.Method.spelled_tail ?_ ?_)⟩
      · intro name member
        exact Or.inr ⟨Go.Record.method_of_parameters methodOf name member,
          List.mem_append_left _ member⟩
      · intro name member
        refine (Go.Record.method_of_type_names methodOf name member).imp_right ?_
        intro referenced
        exact ⟨(words _ referenced).1, List.mem_append_right _ referenced⟩

def opaqueTypes : Target → List String
  | .typeScript => ["object", "object[]"]
  | .goStruct => ["map[string]any", "[]map[string]any", "*[]map[string]any"]
  | .goRecord => ["*core.Record", "[]*core.Record"]

def identifierTypes : Target → List String
  | .typeScript => ["string", "string[]"]
  | .goStruct => ["string", "*string", "[]string", "*[]string"]
  | .goRecord => ["string", "[]string"]

def writesIdentifiers (generator : Generator) : Bool :=
  generator.target = .goRecord || generator.style.relationIds

theorem untargeted_site {generator : Generator} {symbols : Symbols} {property : Property}
    {site : TypeSite} (found : generator.SiteOf symbols property site)
    (relation : property.isRelation = true) (untargeted : property.relationTarget? = none) :
    site.type ∈ opaqueTypes generator.target ∨
      generator.writesIdentifiers = true ∧ site.type ∈ identifierTypes generator.target := by
  have kind : property.kind = .relation := eq_of_beq relation
  cases found with
  | member target =>
      cases ids : generator.style.relationIds <;> cases array : property.array <;>
        simp [TypeSite.ofType, TypeScript.typeOf, TypeScript.elementType, kind, ids, target,
          TypeScript.resolvedElement, untargeted, TypeScript.compose, array, opaqueTypes,
          identifierTypes, writesIdentifiers, TypeScript.TypeExpr.write,
          TypeScript.Element.write]
  | expandedMember target _ =>
      cases array : property.array <;>
        simp [TypeSite.ofType, kind, target, TypeScript.resolvedElement, untargeted,
          TypeScript.compose, array, opaqueTypes, TypeScript.TypeExpr.write,
          TypeScript.Element.write]
  | field target =>
      have resolved : Go.resolvedType symbols property = .objectMap := by
        simp [Go.resolvedType, untargeted]
      cases ids : generator.style.relationIds <;> cases array : property.array <;>
        cases explicit : property.optional && generator.style.explicitOptional <;>
        simp [TypeSite.ofType, Go.typeOf, Go.elementType, kind, ids, target, resolved, array,
          explicit, opaqueTypes, identifierTypes, writesIdentifiers, Go.TypeExpr.write,
          Go.TypeExpr.string, Go.TypeExpr.isNilable]
  | expandedField target _ =>
      cases array : property.array <;>
        simp [TypeSite.ofType, target, Go.expandType, Go.resolvedType, untargeted, array,
          opaqueTypes, Go.TypeExpr.write]
  | method target methodOf =>
      have identifiers : (Go.valueType symbols property).write ∈ identifierTypes .goRecord := by
        cases array : property.array <;>
          simp [Go.valueType, kind, array, Go.TypeExpr.write, Go.TypeExpr.string,
            identifierTypes]
      have writes : generator.writesIdentifiers = true := by simp [writesIdentifiers, target]
      rw [target]
      cases methodOf with
      | getter word => exact Or.inr ⟨writes, identifiers⟩
      | integerGetter word number =>
          simp [Go.Record.hasIntegerGetter, kind] at number
      | setter word writable => exact Or.inr ⟨writes, identifiers⟩
      | expander word _ =>
          left
          cases array : property.array <;>
            simp [TypeSite.ofMethod, Go.Method.typeText, Go.Expansion.ofProperty, untargeted,
              array, Go.Expansion.type, Go.Expansion.recordType, Go.TypeExpr.write, opaqueTypes]

end Generator

end CollectionTypes
