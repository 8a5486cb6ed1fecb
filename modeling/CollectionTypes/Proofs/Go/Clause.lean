import CollectionTypes.Proofs.Generator.Imports
import CollectionTypes.Proofs.Go.Exported
import CollectionTypes.Settings

/-!
The package that a Go file declares. Its name is the one of the command line, of the configuration
or the usual one, and it is an identifier in its letters. A file declares it if it is a word that a
package may have as its name; keywords and the blank name are identifiers in their letters too, are
taken like any other name, and leave the file without a package.
-/

namespace CollectionTypes.Go

open Naming

/-- The words of the language itself, which nothing can be named. -/
def keywords : List String := [
    "break", "case", "chan", "const", "continue", "default", "defer", "else", "fallthrough", "for",
    "func", "go", "goto", "if", "import", "interface", "map", "package", "range", "return",
    "select", "struct", "switch", "type", "var"
  ]

def blankName : String := "_"

def isPackageName (name : String) : Bool :=
  match name.toList with
  | [] => false
  | first :: rest =>
      isWordLetter first && !first.isDigit && rest.all isWordLetter && !keywords.contains name &&
        name != blankName

/-! Reading what a file declares. -/

def isIdleLine (line : String) : Bool := line.isEmpty || "//".toList.isPrefixOf line.toList

def clauseName? (line : String) : Option String :=
  ((line.toList.dropPrefix? "package ".toList).map String.ofList).filter isPackageName

/-- The package of a file, which its first line but for comments and empty ones declares. -/
def declaredPackage? (text : String) : Option String :=
  match (Text.split '\n' text).dropWhile isIdleLine with
  | [] => none
  | line :: _ => clauseName? line

section Clauses

variable {name : String}

theorem package_name_iff (identifier : IsIdentifier name) :
    isPackageName name = true ↔ name ∉ keywords ∧ name ≠ blankName := by
  cases letters : name.toList with
  | nil => exact absurd (String.toList_eq_nil_iff.mp letters) identifier.nonempty
  | cons first rest =>
      have start : first.isDigit = false := identifier.start first (by simp [letters])
      obtain ⟨own, others⟩ := List.forall_mem_cons.mp (letters ▸ identifier.letters)
      have rest : rest.all isWordLetter = true := List.all_eq_true.mpr others
      simp [isPackageName, letters, start, own, rest]

theorem clause_name_of_clause (name : String) : clauseName? ("package " ++ name) =
    if isPackageName name then some name else none := by
  rw [clauseName?, String.toList_append, List.dropPrefix?_append_of_beq _ (beq_self_eq_true _),
    Option.map_some, String.ofList_toList, Option.filter_some]

theorem clause_not_idle (name : String) : isIdleLine ("package " ++ name) = false := by
  have letters : ("package " ++ name).toList = 'p' :: ("ackage ".toList ++ name.toList) :=
    String.toList_append
  have spelled : ("package " ++ name).isEmpty = false := by
    rw [String.isEmpty_eq_false_iff, ne_eq, ← String.toList_eq_nil_iff, letters]
    exact List.cons_ne_nil _ _
  rw [isIdleLine, spelled, letters]
  rfl

def generatedMark : String := "// Code generated by pocketgen. DO NOT EDIT."

/-- A header is a comment, an empty line and a clause. -/
theorem package_clause_parts (name : String) : packageClause name =
    generatedMark ++ ("\n" ++ ("" ++ ("\n" ++ ("package " ++ name)))) := by
  have opening : "// Code generated by pocketgen. DO NOT EDIT.\n\npackage " =
      generatedMark ++ "\n" ++ "" ++ "\n" ++ "package " := by decide +kernel
  refine (congrArg (· ++ name) opening).trans ?_
  simp only [String.append_assoc, -String.reduceAppend]

theorem clause_lines (word : IsWord name) (rest : String) :
    Text.split '\n' (packageClause name ++ ("\n" ++ rest)) =
      generatedMark :: "" :: ("package " ++ name) :: Text.split '\n' rest := by
  have markClean : '\n' ∉ generatedMark.toList := by decide +kernel
  have emptyClean : '\n' ∉ "".toList := by decide
  have clauseClean : '\n' ∉ ("package " ++ name).toList := by
    rw [String.toList_append, List.mem_append]
    rintro (own | named)
    · revert own
      decide
    · exact word_on_line word named
  have parts : packageClause name ++ ("\n" ++ rest) =
      generatedMark ++ ("\n" ++ ("" ++ ("\n" ++ ("package " ++ name ++ ("\n" ++ rest))))) := by
    rw [package_clause_parts]
    simp only [String.append_assoc, -String.reduceAppend]
  rw [parts, Text.split_first markClean, Text.split_first emptyClean, Text.split_first clauseClean]

theorem declared_of_clause (word : IsWord name) (rest : String) :
    declaredPackage? (packageClause name ++ ("\n" ++ rest)) =
      if isPackageName name then some name else none := by
  have mark : isIdleLine generatedMark = true := by decide
  have empty : isIdleLine "" = true := by decide
  rw [declaredPackage?, clause_lines word, List.dropWhile_cons_of_pos mark,
    List.dropWhile_cons_of_pos empty,
    List.dropWhile_cons_of_neg (Bool.not_eq_true _ ▸ clause_not_idle name)]
  exact clause_name_of_clause name

theorem opens_line {first rest : String} (opening : first = "\n" ++ rest) (text : String) :
    first ++ text = "\n" ++ (rest ++ text) := by
  rw [opening, String.append_assoc]

/-- Imports, if there are any, stand on lines of their own. -/
theorem import_text_line (imports : List String) (text : String) :
    ∃ rest, importText imports ++ ("\n\n" ++ text) = "\n" ++ rest := by
  unfold importText
  split
  · rw [String.empty_append]
    exact ⟨_, opens_line (show "\n\n" = "\n" ++ "\n" by decide) text⟩
  · rw [String.append_assoc, String.append_assoc]
    exact ⟨_, opens_line (show "\n\nimport \"" = "\n" ++ "\nimport \"" by decide) _⟩
  · rw [String.append_assoc, String.append_assoc]
    exact ⟨_, opens_line (show "\n\nimport (\n" = "\n" ++ "\nimport (\n" by decide) _⟩

end Clauses

end CollectionTypes.Go

namespace CollectionTypes.Settings

open Naming

section Packages

variable {arguments : OutputArguments} {config : Config} {settings : Settings}
  {generator : Generator} {models : List Model}

theorem header_with_imports (inGo : generator.target ≠ .typeScript) (models : List Model) :
    ∃ imports, generator.header? models =
      some (Go.packageClause generator.package ++ Go.importText imports) := by
  cases target : generator.target with
  | typeScript => exact absurd target inGo
  | goStruct => exact ⟨_, Generator.struct_header target⟩
  | goRecord => exact ⟨_, Generator.record_header target⟩

/-- Whatever an output holds, its clause is a line of its own. -/
theorem generated_clause (inGo : generator.target ≠ .typeScript) (someModel : models ≠ []) :
    ∃ rest, generator.generate models = Go.packageClause generator.package ++ ("\n" ++ rest) := by
  obtain ⟨imports, header⟩ := header_with_imports inGo models
  obtain ⟨rest, line⟩ := Go.import_text_line imports ("\n\n".intercalate
    (models.map (generator.renderWith (Symbols.ofModels models generator.target))) ++ "\n")
  refine ⟨rest, ?_⟩
  rw [Generator.generate_headed someModel header, Generator.joinBlocks,
    String.intercalate_cons_of_ne_nil (by simpa using someModel), ← line]
  simp only [String.append_assoc, -String.reduceAppend]

theorem declared_package (inGo : generator.target ≠ .typeScript) (someModel : models ≠ [])
    (word : IsWord generator.package) : Go.declaredPackage? (generator.generate models) =
      if Go.isPackageName generator.package then some generator.package else none := by
  obtain ⟨rest, text⟩ := generated_clause inGo someModel
  rw [text, Go.declared_of_clause word]

theorem identifier_of_package_name {name : String} (taken : isPackageName name = true) :
    IsIdentifier name := by
  cases letters : name.toList with
  | nil => simp [isPackageName, letters] at taken
  | cons first rest =>
      rw [isPackageName, letters, Bool.and_eq_true, List.all_eq_true] at taken
      obtain ⟨start, others⟩ := taken
      have noDigit : first.isDigit = false := by
        rcases Bool.or_eq_true_iff.mp start with alpha | underscore
        · by_contra digit
          rw [digit_not_alpha (Bool.not_eq_false _ ▸ digit)] at alpha
          contradiction
        · rw [of_decide_eq_true underscore]
          decide
      have own : isWordLetter first = true := by
        rcases Bool.or_eq_true_iff.mp start with alpha | underscore
        · simp [isWordLetter, Char.isAlphanum, alpha]
        · simp [isWordLetter, of_decide_eq_true underscore]
      refine ⟨⟨?_, ?_⟩, ?_⟩
      · rw [letters]
        exact List.forall_mem_cons.mpr ⟨own, others⟩
      · rintro rfl
        contradiction
      · intro letter found
        rw [letters] at found
        exact Option.some.inj found ▸ noDigit

theorem package_of_resolved (resolved : resolve arguments config = .ok settings) :
    settings.package = packageOf arguments config ∧ isPackageName settings.package = true := by
  rw [resolve] at resolved
  cases target : targetOf arguments config with
  | error failure =>
      rw [target] at resolved
      cases resolved
  | ok target' =>
      rw [target] at resolved
      simp only [bind, Except.bind] at resolved
      split at resolved
      · rename_i taken
        cases resolved
        exact ⟨rfl, taken⟩
      · cases resolved

/-- The package is the one of the command line, of the configuration or else the usual one. Whatever
the models, a Go file declares it, unless it is a keyword or the blank name: then the file declares
none. -/
theorem package_declared_unless_keyword (resolved : resolve arguments config = .ok settings)
    (inGo : settings.target ≠ .typeScript) (someModel : models ≠ []) :
    settings.package = (arguments.package <|> config.package).getD "models" ∧
      IsIdentifier settings.package ∧
      Go.declaredPackage? (settings.generator.generate models) =
        if settings.package ∈ Go.keywords ∨ settings.package = Go.blankName then none
        else some settings.package := by
  obtain ⟨source, taken⟩ := package_of_resolved resolved
  have identifier := identifier_of_package_name taken
  have declared : Go.declaredPackage? (settings.generator.generate models) =
      if Go.isPackageName settings.package then some settings.package else none :=
    declared_package inGo someModel identifier.toIsWord
  refine ⟨source, identifier, ?_⟩
  rw [declared]
  simp only [Go.package_name_iff identifier, ← not_or, ite_not]

end Packages

def plainModel : Model := ⟨{ id := "1", name := "posts" }, []⟩

def flaggedOutput : OutputArguments where
  target := some .goStruct
  package := some "blog_models"

/-- A name on the command line, before one of the configuration that would not do. -/
theorem package_declared_unless_keyword_flagged : ∃ settings,
    resolve flaggedOutput { package := some "type" } = .ok settings ∧
      settings.target ≠ .typeScript ∧ [plainModel] ≠ [] ∧
      Go.declaredPackage? (settings.generator.generate [plainModel]) = some "blog_models" := by
  have resolved : resolve flaggedOutput { package := some "type" } =
      .ok ⟨.goStruct, { relationIds := true }, "blog_models", none⟩ := rfl
  have inGo : Target.goStruct ≠ .typeScript := by decide
  have some : [plainModel] ≠ [] := by decide
  obtain ⟨_, _, declared⟩ := package_declared_unless_keyword resolved inGo some
  exact ⟨_, resolved, inGo, some, declared.trans (if_neg (by decide))⟩

/-- A keyword is taken as well, and the file begins with a clause that is none. -/
theorem keyword_taken_for_package : ∃ settings,
    resolve { target := some .goStruct, package := some "type" } {} = .ok settings ∧
      settings.package ∈ Go.keywords ∧
      settings.generator.generate [plainModel] =
        "// Code generated by pocketgen. DO NOT EDIT.\n\npackage type\n\n" ++
          "type Posts struct \x7b\n\x7d\n" ∧
      Go.declaredPackage? (settings.generator.generate [plainModel]) = none :=
  ⟨⟨.goStruct, { relationIds := true }, "type", none⟩, rfl, by decide, by decide +kernel,
    by decide +kernel⟩

end CollectionTypes.Settings
