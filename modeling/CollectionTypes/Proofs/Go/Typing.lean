import CollectionTypes.Proofs.Go.Code
import CollectionTypes.Proofs.Go.Bodies
import CollectionTypes.Proofs.Go.Parameters

/-!
Static types of the methods of record types. In a package that declares none of the words that the
bodies are written with, a getter hands out the type that its value is read as, a setter takes any
parameter that it can read, and an expander hands out what its related records are wrapped in. The
signatures of the imported packages are given.
-/

namespace CollectionTypes.Go

/-- The signatures that the server library states for what bodies select. -/
structure Library.Documented (library : Library) : Prop where
  record : library.field .proxy "Record" = some .record
  adopt : library.method .proxy "SetProxyRecord" = some ⟨[.record], none⟩
  set : library.method .proxy "Set" = some ⟨[.text, .basic "any"], none⟩
  string : library.method .proxy "GetString" = some ⟨[.text], some .text⟩
  strings : library.method .proxy "GetStringSlice" = some ⟨[.text], some (.slice .text)⟩
  float : library.method .proxy "GetFloat" = some ⟨[.text], some (.basic "float64")⟩
  boolean : library.method .proxy "GetBool" = some ⟨[.text], some (.basic "bool")⟩
  dateTime : library.method .proxy "GetDateTime" = some ⟨[.text], some .dateTime⟩
  integer : library.method .proxy "GetInt" = some ⟨[.text], some (.basic "int")⟩
  decode : library.method .proxy "UnmarshalJSONField" =
    some ⟨[.text, .basic "any"], some .error⟩
  one : library.method .proxy "ExpandedOne" = some ⟨[.text], some .record⟩
  many : library.method .proxy "ExpandedAll" = some ⟨[.text], some (.slice .record)⟩
  expand : library.method .app "ExpandRecord" =
    some ⟨[.record, .slice .text, .imported "core" "ExpandFetchFunc"], some (.map .text .error)⟩
  fetch : library.nilTypes.contains (.imported "core" "ExpandFetchFunc") = true

/-- Variables of the bodies; parameters of setters come on top. -/
def localWords : List String :=
  ["p", "app", "err", "errs", "i", "value", "values", "record", "records", "result"]

def languageWords : List String :=
  ["string", "float64", "bool", "int", "any", "error", "nil", "make", "len"]

def bodyWords : List String := localWords ++ languageWords ++ ["core", "types"]

/-- The words of the bodies mean what they should, and no method hides a member of the proxy. -/
structure Package.Unhidden (package : Package) : Prop where
  undeclared : ∀ word ∈ bodyWords, package.declares word = false
  unimported : ∀ word ∈ localWords ++ languageWords, package.imports.contains word = false
  core : package.imports.contains "core" = true
  members : ∀ receiver, ∀ name ∈ Record.proxyMembers,
    package.methods.contains (receiver, name) = false

def Scope.Inert (scope : Scope) : Prop := ∀ entry ∈ scope, entry.1 ∈ localWords

@[simp]
theorem Scope.lookup_bound (name bound : String) (type : GoType) (scope : Scope) :
    List.lookup name ((bound, type) :: scope) =
      if name = bound then some type else scope.lookup name := by
  rw [List.lookup_cons]
  split <;> simp_all

@[simp]
theorem Scope.inert_nil : Scope.Inert [] := List.forall_mem_nil _

@[simp]
theorem Scope.inert_bound (bound : String) (type : GoType) (scope : Scope) :
    Scope.Inert ((bound, type) :: scope) ↔ bound ∈ localWords ∧ scope.Inert := by simp [Inert]

namespace Package

variable {package : Package} (unhidden : package.Unhidden) {scope : Scope}

theorem lookup_other {name bound : String} (other : name ≠ bound) (type : GoType)
    (scope : Scope) : ((bound, type) :: scope).lookup name = scope.lookup name := by
  rw [List.lookup_cons, beq_false_of_ne other]

theorem lookup_inert (inert : scope.Inert) {name : String} (other : name ∉ localWords) :
    scope.lookup name = none := by
  rw [List.lookup_eq_none_iff]
  intro entry member
  rw [bne_iff_ne]
  rintro rfl
  exact other (inert entry member)

@[simp]
theorem type_pointer (target : TypeExpr) :
    package.type? scope (.pointer target) = (package.type? scope target).map .pointer := rfl

@[simp]
theorem type_slice (element : TypeExpr) :
    package.type? scope (.slice element) = (package.type? scope element).map .slice := rfl

theorem meaning_of_free {name : String} (free : scope.lookup name = none) :
    package.meaning scope name = package.meaning [] name := by
  rw [meaning, meaning, free]
  rfl

theorem type_named_of_free {name : String} (free : scope.lookup name = none) :
    package.typeNamed? scope name = package.typeNamed? [] name := by
  rw [typeNamed?, typeNamed?, meaning_of_free free]

theorem applied_of_free {name : String} (free : scope.lookup name = none) (given : GoType) :
    package.applied? scope name given = package.applied? [] name given := by
  rw [applied?, applied?, type_named_of_free free, meaning_of_free free]

theorem declared_of_function {name : String} {given result : GoType}
    (found : package.function? name given = some result) :
    package.meaning [] name = .declared := by
  obtain ⟨function, first, _⟩ := Option.bind_eq_some_iff.mp found
  have fits := List.find?_some first
  have named : function.name = name := of_decide_eq_true (Bool.and_eq_true_iff.mp fits).1
  have declared : package.declares name = true := by
    rw [declares, List.contains_iff_mem, Declarations.names, ← named]
    exact List.mem_append_left _ (List.mem_append_right _
      (List.mem_map_of_mem (List.mem_of_find?_eq_some first)))
  rw [meaning, List.lookup_nil]
  simp only [declared, if_true]

/-- What is no text is converted to nothing, so that the name can only be that of a function. -/
theorem applied_to_other {name : String} (free : scope.lookup name = none) {given : GoType}
    (noText : package.isText given = false) :
    package.applied? scope name given = package.function? name given := by
  have nothing : (package.typeNamed? [] name).filter (fun target =>
      package.isText given && package.isText target) = none := by simp [noText]
  have called : package.applied? [] name given =
      if package.meaning [] name = .declared then package.function? name given else none := by
    rw [applied?, nothing]
  rw [applied_of_free free, called]
  split
  · rfl
  · rename_i undeclared
    rw [eq_comm, Option.eq_none_iff_forall_ne_some]
    exact fun result found => undeclared (declared_of_function found)

theorem applied_to_text {name : String} {given target : GoType}
    (named : package.typeNamed? scope name = some target) (givenText : package.isText given = true)
    (text : package.isText target = true) :
    package.applied? scope name given = some target := by
  have chosen : (some target).filter (fun target =>
      package.isText given && package.isText target) = some target := by simp [givenText, text]
  rw [applied?, named, chosen]

include unhidden

theorem meaning_of_word {word : String} (isWord : word ∈ localWords ++ languageWords) :
    package.meaning [] word = .predeclared := by
  have undeclared := unhidden.undeclared word (List.mem_append_left _ isWord)
  have unimported := unhidden.unimported word isWord
  rw [meaning, List.lookup_nil]
  simp only [undeclared, unimported]
  rfl

theorem meaning_of_language {word : String} (isWord : word ∈ languageWords)
    (free : scope.lookup word = none) : package.meaning scope word = .predeclared :=
  (meaning_of_free free).trans (meaning_of_word unhidden (List.mem_append_right _ isWord))

theorem type_of_language {word : String} (isWord : word ∈ languageWords)
    (isType : predeclaredTypes.contains word = true) (free : scope.lookup word = none) :
    package.typeNamed? scope word = some (.basic word) := by
  rw [typeNamed?, meaning_of_language unhidden isWord free]
  simp only [isType, if_true]

section Inert

variable (inert : scope.Inert)

include inert

omit unhidden in
/-- Variables of the bodies hide nothing that the package declares or imports. -/
theorem meaning_inert (name : String) : package.meaning scope name = package.meaning [] name ∨
    name ∈ localWords ∧ ∃ type, package.meaning scope name = .variable type := by
  cases found : scope.lookup name with
  | none => exact Or.inl (meaning_of_free found)
  | some type =>
      right
      refine ⟨?_, type, by rw [meaning, found]⟩
      by_contra other
      rw [lookup_inert inert other] at found
      contradiction

theorem type_named_inert (name : String) :
    package.typeNamed? scope name = package.typeNamed? [] name := by
  have noType : ∀ word ∈ localWords, predeclaredTypes.contains word = false := by decide
  rcases meaning_inert inert name with same | ⟨isLocal, type, isVariable⟩
  · rw [typeNamed?, typeNamed?, same]
  · rw [typeNamed?, typeNamed?, isVariable,
      meaning_of_word unhidden (List.mem_append_left _ isLocal)]
    simp only [noType name isLocal]
    rfl

theorem type_inert (type : TypeExpr) : package.type? scope type = package.type? [] type := by
  have imported (name : String) : package.meaning scope name = .imported ↔
      package.meaning [] name = .imported := by
    rcases meaning_inert inert name with same | ⟨isLocal, type, isVariable⟩
    · rw [same]
    · rw [isVariable, meaning_of_word unhidden (List.mem_append_left _ isLocal)]
      simp
  induction type with
  | named name => simp only [type?, qualifiedType?, type_named_inert unhidden inert, imported]
  | objectMap => simp only [type?, type_named_inert unhidden inert]
  | pointer target induction | slice target induction => simp only [type?, induction]

end Inert

section Words

theorem type_of_word {word : String} (isWord : word ∈ languageWords)
    (isType : predeclaredTypes.contains word = true) (single : '.' ∉ word.toList) :
    package.type? [] (.named word) = some (.basic word) := by
  rw [type?, qualifiedType?, Text.split_single single]
  exact type_of_language unhidden isWord isType rfl

theorem type_string : package.type? [] .string = some .text :=
  type_of_word unhidden (by decide) (by decide) (by decide)

theorem type_error : package.type? [] .error = some .error :=
  type_of_word unhidden (by decide) (by decide) (by decide)

theorem type_object_map : package.type? [] .objectMap = some .objectMap := by
  rw [type?, type_of_language unhidden (by decide) (by decide) rfl,
    type_of_language unhidden (by decide) (by decide) rfl]
  rfl

theorem type_imported {name qualifier member : String} (word : qualifier ∈ bodyWords)
    (imported : package.imports.contains qualifier = true)
    (parts : Text.split '.' name = [qualifier, member]) :
    package.type? [] (.named name) = some (.imported qualifier member) := by
  have meant : package.meaning [] qualifier = .imported := by
    rw [meaning, List.lookup_nil]
    simp only [unhidden.undeclared qualifier word, imported]
    rfl
  rw [type?, qualifiedType?, parts]
  simp only [meant, if_true]

theorem type_app : package.type? [] .app = some .app :=
  type_imported unhidden (by decide) unhidden.core (by decide)

theorem type_record : package.type? [] Expansion.recordType = some .record := by
  have record := type_imported unhidden (by decide) unhidden.core
    (show Text.split '.' "core.Record" = ["core", "Record"] by decide)
  rw [Expansion.recordType, type?, record]
  rfl

end Words

structure HasType (package : Package) (name : String) (kind : TypeKind) : Prop where
  named : package.typeNamed? [] name = some (.own name)
  declared : package.declarations.types.contains (name, kind) = true
  single : '.' ∉ name.toList

section Declared

variable {name : String} {kind : TypeKind}

omit unhidden in
theorem HasType.type (has : package.HasType name kind) :
    package.type? [] (.named name) = some (.own name) := by
  rw [type?, qualifiedType?, Text.split_single has.single]
  exact has.named

/-- A text becomes any type of texts. -/
theorem HasType.converted (has : package.HasType name .text) (inert : scope.Inert) :
    package.applied? scope name .text = some (.own name) :=
  applied_to_text ((type_named_inert unhidden inert name).trans has.named) rfl has.declared

end Declared

end Package

def Surroundings.inside (around : Surroundings) : Scope := [("p", around.wrapper)]

@[simp]
theorem Surroundings.lookup_inside (around : Surroundings) (name : String) :
    around.inside.lookup name = if name = "p" then some around.wrapper else none :=
  Scope.lookup_bound name "p" around.wrapper []

@[simp]
theorem Surroundings.inside_inert (around : Surroundings) : around.inside.Inert := by
  simp [Scope.Inert, inside, localWords]

theorem Surroundings.receiver_bound (around : Surroundings) :
    around.inside.lookup "p" = some around.wrapper := by simp

/-! What one step of a body needs. -/

section Steps

variable {around : Surroundings} {scope next : Scope} {results : List GoType}

theorem bind_fresh {name : String} (named : name ≠ "_") (fresh : scope.lookup name = none)
    (type : GoType) : scope.bind? name type = some ((name, type) :: scope) := by
  simp [Scope.bind?, named, fresh]

theorem typed_step {statement : Statement}
    (step : statement.after? around scope results = some next) (later : List Statement)
    (returned : List Term) :
    areTyped around scope results (statement :: later) returned =
      areTyped around next results later returned := by
  simp [areTyped, step]

theorem after_define {name : String} {value : Term} {type : GoType}
    (typed : value.type? around scope = some (.of type))
    (bound : scope.bind? name type = some next) :
    (Statement.define name value).after? around scope results = some next := by
  simp only [Statement.after?, typed, bound]

theorem after_run {base name : String} {arguments : List Atom} {signature : Signature}
    (callee : callee? around scope base name arguments = some signature) :
    (Statement.run base name arguments).after? around scope results = some scope := by
  simp only [Statement.after?, callee, Option.map_some]

theorem after_guard {name : String} {value : Term} {type : GoType} {returned : List Term}
    (typed : value.type? around scope = some (.of type))
    (left : leaves around ((name, type) :: scope) type results returned = true) :
    (Statement.guard name value returned).after? around scope results = some scope := by
  simp only [Statement.after?, typed, left, if_true]

theorem after_absent {name : String} {type : GoType} {returned : List Term}
    (bound : scope.lookup name = some type)
    (left : leaves around scope type results returned = true) :
    (Statement.absent name returned).after? around scope results = some scope := by
  simp only [Statement.after?, bound, left, if_true]

theorem after_fill {slots key value values : String} {entry : Term} {given element : GoType}
    (bound : scope.lookup values = some (.slice given))
    (target : ((value, given) :: (key, .basic "int") :: scope).lookup slots =
      some (.slice element)) :
    (Statement.fill slots key value values entry).after? around scope results =
      if entry.type? around ((value, given) :: (key, .basic "int") :: scope) =
        some (.of element) then some scope else none := by
  simp only [Statement.after?, bound, target]

theorem variable_typed {name : String} {type : GoType} (bound : scope.lookup name = some type) :
    (Term.plain (.variable name)).type? around scope = some (.of type) := by
  simp [Term.type?, Atom.type?, bound]

theorem applied_typed {name argument : String} {given : GoType}
    (bound : scope.lookup argument = some given) :
    (Term.plain (.applied name argument)).type? around scope =
      (around.package.applied? scope name given).map .of := by
  cases applied : around.package.applied? scope name given <;>
    simp [Term.type?, Atom.type?, bound, applied]

theorem callee_of_literal {base name : String} {type : GoType} {result : Option GoType}
    (bound : scope.lookup base = some type)
    (declared : around.member? around.package.library.method type name =
      some ⟨[.text], result⟩) (field : String) :
    callee? around scope base name [.literal field] = some ⟨[.text], result⟩ := by
  simp [callee?, bound, declared, Atom.type?]

theorem call_typed {base name : String} {type result : GoType}
    (bound : scope.lookup base = some type)
    (declared : around.member? around.package.library.method type name =
      some ⟨[.text], some result⟩) (field : String) :
    (Term.call base name [.literal field]).type? around scope = some (.of result) := by
  simp [Term.type?, callee_of_literal bound declared]

theorem typed_inside {outer : Scope} {code : Code} (inside : code.inside? around outer = some scope)
    (named : code.results.mapM (around.package.type? []) = some results) :
    code.isTyped around outer =
      areTyped around scope results code.statements code.returned := by
  rw [Code.isTyped, inside, named]

end Steps

structure Surroundings.Sound (around : Surroundings) : Prop where
  documented : around.package.library.Documented
  unhidden : around.package.Unhidden
  declared : around.package.HasType around.receiver .record

section Sound

variable {around : Surroundings} (sound : around.Sound) {scope : Scope} {results : List GoType}

include sound

theorem member_of_wrapper {name : String} (known : name ∈ Record.proxyMembers) {α : Type}
    {members : GoType → String → Option α} {declared : α}
    (stated : members .proxy name = some declared) :
    around.member? members around.wrapper name = some declared := by
  have free := sound.unhidden.members around.receiver name known
  simp only [Surroundings.member?, if_true, sound.declared.declared, free]
  exact stated

theorem nil_typed (free : scope.lookup "nil" = none) :
    (Term.plain .nil).type? around scope = some .nil := by
  have isWord : "nil" ∈ languageWords := by decide
  simp only [Term.type?, Atom.type?, Package.meaning_of_language sound.unhidden isWord free,
    if_true]

theorem leaves_if_returned {type : GoType} {returned : List Term}
    (free : scope.lookup "nil" = none) (nilable : around.package.hasNil type = true)
    (typed : areReturned around scope results returned = true) :
    leaves around scope type results returned = true := by
  have isWord : "nil" ∈ languageWords := by decide
  simp only [leaves, Package.meaning_of_language sound.unhidden isWord free, nilable, typed]
  rfl

theorem slots_typed {element : TypeExpr} {values : String} {given : GoType}
    (free : scope.lookup "make" = none ∧ scope.lookup "len" = none)
    (bound : scope.lookup values = some (.slice given)) :
    (Term.slots element values).type? around scope =
      (around.package.type? scope element).map fun type => .of (.slice type) := by
  have make : "make" ∈ languageWords := by decide
  have len : "len" ∈ languageWords := by decide
  simp only [Term.type?, Package.meaning_of_language sound.unhidden make free.1,
    Package.meaning_of_language sound.unhidden len free.2, bound, and_self, if_true]

end Sound

section Getters

variable {around : Surroundings} (sound : around.Sound) (field : String)

include sound

theorem call_code_typed {method : String} (known : method ∈ Record.proxyMembers) {type : GoType}
    (declared : around.package.library.method .proxy method = some ⟨[.text], some type⟩)
    {result : TypeExpr} (named : around.package.type? [] result = some type) :
    (Reading.callCode method field result).isTyped around around.inside = true := by
  have called := call_typed around.receiver_bound (member_of_wrapper sound known declared) field
  have results : [result].mapM (around.package.type? []) = some [type] := by simp [named]
  rw [Reading.callCode, typed_inside rfl results]
  simp [areTyped, areReturned, called]

omit sound in
/-- What has a type of its own is no value of another type. -/
theorem call_code_untyped (around : Surroundings) (field : String) {method : String} {type : GoType}
    (declared : around.package.library.method .proxy method = some ⟨[.text], some type⟩)
    {result : TypeExpr} {given : GoType} (named : around.package.type? [] result = some given)
    (other : type ≠ given) :
    (Reading.callCode method field result).isTyped around around.inside = false := by
  have results : [result].mapM (around.package.type? []) = some [given] := by simp [named]
  have member : around.member? around.package.library.method around.wrapper method = none ∨
      around.member? around.package.library.method around.wrapper method =
        some ⟨[.text], some type⟩ := by
    rw [Surroundings.member?, if_pos rfl, declared]
    split <;> simp
  rw [Reading.callCode, typed_inside rfl results]
  rcases member with hidden | shown
  · simp [areTyped, areReturned, Term.type?, callee?, around.receiver_bound, hidden]
  · simp [areTyped, areReturned, call_typed around.receiver_bound shown field, other]

/-- A value that cannot be decoded is returned as nil, which a map can be. -/
theorem decoded_typed :
    (Reading.code field .objectMap .decoded).isTyped around around.inside = true := by
  have named := Package.type_object_map sound.unhidden
  have results : [TypeExpr.objectMap].mapM (around.package.type? []) = some [.objectMap] := by
    simp [named]
  let inside : Scope := ("value", .objectMap) :: around.inside
  have declared : (Statement.declare "value" .objectMap).after? around around.inside [.objectMap] =
      some inside := by
    have fresh : around.inside.lookup "value" = none := by simp
    simp [Statement.after?, Package.type_inert sound.unhidden around.inside_inert, named,
      bind_fresh (by decide) fresh, inside]
  have called : (Term.call "p" "UnmarshalJSONField" [.literal field, .address "value"]).type?
      around inside = some (.of .error) := by
    have decode := member_of_wrapper sound (by decide) sound.documented.decode
    simp [Term.type?, callee?, Atom.type?, inside, decode]
  have nothing : areReturned around (("err", .error) :: inside) [.objectMap] [.plain .nil] =
      true := by
    have nil := nil_typed sound (show List.lookup "nil" (("err", .error) :: inside) = none by
      simp [inside])
    simp [areReturned, nil, Package.hasNil, GoType.objectMap]
  have guarded := after_guard called (leaves_if_returned sound (by simp [inside]) rfl nothing)
  have value : (Term.plain (.variable "value")).type? around inside = some (.of .objectMap) :=
    variable_typed (by simp [inside])
  rw [typed_inside rfl results]
  simp only [Reading.code]
  rw [typed_step declared, typed_step guarded]
  simp [areTyped, areReturned, value]

theorem enum_slice_typed {typeName : String} (declared : around.package.HasType typeName .text) :
    (Reading.code field (.slice (.named typeName)) (.enumSlice typeName)).isTyped around
      around.inside = true := by
  have named : [TypeExpr.slice (.named typeName)].mapM (around.package.type? []) =
      some [.slice (.own typeName)] := by
    simp [declared.type]
  let results := [GoType.slice (.own typeName)]
  let given : Scope := ("values", .slice .text) :: around.inside
  let made : Scope := ("result", .slice (.own typeName)) :: given
  let inner : Scope := ("value", .text) :: ("i", .basic "int") :: made
  have first : (Statement.define "values" (.call "p" "GetStringSlice" [.literal field])).after?
      around around.inside results = some given := by
    have strings := member_of_wrapper sound (by decide) sound.documented.strings
    exact after_define (call_typed around.receiver_bound strings field)
      (bind_fresh (by decide) (by simp) _)
  have second : (Statement.define "result" (.slots (.named typeName) "values")).after? around given
      results = some made := by
    have inert : given.Inert := by simp [given, localWords]
    have slots : (Term.slots (.named typeName) "values").type? around given =
        some (.of (.slice (.own typeName))) := by
      rw [slots_typed sound (by simp [given])
        (show given.lookup "values" = some (.slice .text) by simp [given]),
        Package.type_inert sound.unhidden inert, declared.type]
      rfl
    exact after_define slots
      (bind_fresh (by decide) (by simp [given]) _)
  have third : (Statement.fill "result" "i" "value" "values"
      (.plain (.applied typeName "value"))).after? around made results = some made := by
    have inert : inner.Inert := by simp [inner, made, given, localWords]
    have entry : (Term.plain (.applied typeName "value")).type? around inner =
        some (.of (.own typeName)) := by
      rw [applied_typed (show inner.lookup "value" = some .text by simp [inner]),
        declared.converted sound.unhidden inert]
      rfl
    exact (after_fill (by simp [made, given]) (by simp [made])).trans (if_pos entry)
  have value : (Term.plain (.variable "result")).type? around made =
      some (.of (.slice (.own typeName))) :=
    variable_typed (by simp [made])
  rw [typed_inside rfl named]
  simp only [Reading.code]
  rw [typed_step first, typed_step second, typed_step third]
  simp [areTyped, areReturned, value, results]

theorem enum_typed {typeName : String} (declared : around.package.HasType typeName .text) :
    (Reading.code field (.named typeName) (.enum typeName)).isTyped around around.inside =
      true := by
  have named : [TypeExpr.named typeName].mapM (around.package.type? []) =
      some [.own typeName] := by
    simp [declared.type]
  have string := member_of_wrapper sound (by decide) sound.documented.string
  have called := call_typed around.receiver_bound string field
  have converted := declared.converted sound.unhidden around.inside_inert
  have value : (Term.applied typeName (.call "p" "GetString" [.literal field])).type? around
      around.inside = some (.of (.own typeName)) := by
    rw [Term.type?, called]
    simp [converted]
  rw [typed_inside rfl named]
  simp [Reading.code, areTyped, areReturned, value]

/-- A getter is well typed with the type that its value is read as. -/
theorem reading_typed (reading : Reading)
    (dates : reading = .dateTime → around.package.imports.contains "types" = true)
    (known : ∀ name ∈ reading.typeName?, around.package.HasType name .text) :
    (reading.code field reading.type).isTyped around around.inside = true := by
  have unhidden := sound.unhidden
  cases reading with
  | decoded => exact decoded_typed sound field
  | enumSlice typeName => exact enum_slice_typed sound field (known typeName rfl)
  | enum typeName => exact enum_typed sound field (known typeName rfl)
  | float =>
      exact call_code_typed sound field (by decide) sound.documented.float
        (Package.type_of_word unhidden (by decide) (by decide) (by decide))
  | boolean =>
      exact call_code_typed sound field (by decide) sound.documented.boolean
        (Package.type_of_word unhidden (by decide) (by decide) (by decide))
  | dateTime =>
      exact call_code_typed sound field (by decide) sound.documented.dateTime
        (Package.type_imported unhidden (by decide) (dates rfl) (by decide))
  | stringSlice =>
      refine call_code_typed sound field (by decide) sound.documented.strings ?_
      rw [Reading.type, Package.type_slice, Package.type_string unhidden]
      rfl
  | string =>
      exact call_code_typed sound field (by decide) sound.documented.string
        (Package.type_string unhidden)

theorem integer_typed : (integerCode field).isTyped around around.inside = true :=
  call_code_typed sound field (by decide) sound.documented.integer
    (Package.type_of_word sound.unhidden (by decide) (by decide) (by decide))

end Getters

section Setters

variable {around : Surroundings} (sound : around.Sound) (field : String)

def Writing.accepts (package : Package) : Writing → GoType → Bool
  | .enumSlice, .slice element => package.isText element
  | .enum, type => package.isText type
  | .plain, _ => true
  | _, _ => false

include sound

theorem set_typed {scope : Scope} (bound : scope.lookup "p" = some around.wrapper) {value : Atom}
    {type : GoType} (typed : value.type? around scope = some (.of type)) (results : List GoType) :
    (Statement.run "p" "Set" [.literal field, value]).after? around scope results =
      some scope := by
  have set := member_of_wrapper sound (by decide) sound.documented.set
  have literal : (Atom.literal field).type? around scope = some (.of .text) := rfl
  have callee : callee? around scope "p" "Set" [.literal field, value] =
      some ⟨[.text, .basic "any"], none⟩ := by
    simp [callee?, bound, set, literal, typed]
  exact after_run callee

/-- The text of a value; the name of the type is that of the language. -/
theorem text_typed {scope : Scope} (free : scope.lookup "string" = none) {argument : String}
    {given : GoType} (bound : scope.lookup argument = some given)
    (isText : around.package.isText given = true) :
    (Atom.applied "string" argument).type? around scope = some (.of .text) := by
  have named := Package.type_of_language sound.unhidden (show "string" ∈ languageWords by decide)
    (by decide) free
  have converted := Package.applied_to_text named isText rfl
  simp [Atom.type?, bound, converted, GoType.text]

/-- The texts of a slice are put into a record one by one. -/
theorem texts_put {scope : Scope} (receiver : scope.lookup "p" = some around.wrapper)
    (free : ∀ name ∈ ["values", "string", "make", "len"], scope.lookup name = none)
    {parameter : String} {element : GoType} (own : scope.lookup parameter = some (.slice element))
    (isText : around.package.isText element = true) :
    areTyped around scope [] (Writing.enumSlice.statements field parameter) [] = true := by
  simp only [List.forall_mem_cons] at free
  obtain ⟨noValues, noString, noMake, noLen, _⟩ := free
  have notValues : parameter ≠ "values" := by
    rintro rfl
    rw [noValues] at own
    contradiction
  let made : Scope := ("values", .slice .text) :: scope
  let inner : Scope := ("value", element) :: ("i", .basic "int") :: made
  have first : (Statement.define "values" (.slots .string parameter)).after? around scope [] =
      some made := by
    have text : around.package.type? scope .string = some .text :=
      Package.type_of_language sound.unhidden (show "string" ∈ languageWords by decide) (by decide)
        noString
    have slots : (Term.slots .string parameter).type? around scope =
        some (.of (.slice .text)) := by
      rw [slots_typed sound ⟨noMake, noLen⟩ own, text]
      rfl
    exact after_define slots (bind_fresh (by decide) noValues _)
  have second : (Statement.fill "values" "i" "value" parameter
      (.plain (.applied "string" "value"))).after? around made [] = some made := by
    have entry : (Term.plain (.applied "string" "value")).type? around inner =
        some (.of .text) :=
      text_typed sound (by simp [inner, made, noString])
        (show inner.lookup "value" = some element by simp [inner]) isText
    exact (after_fill ((Package.lookup_other notValues _ _).trans own) (by simp)).trans
      (if_pos entry)
  have value : (Atom.variable "values").type? around made = some (.of (.slice .text)) := by
    simp [Atom.type?, made]
  have put := set_typed sound field (by simp [made, receiver]) value []
  rw [Writing.statements, typed_step first, typed_step second, typed_step put]
  rfl

theorem setter_typed {parameter : String} (named : parameter ≠ "_")
    (free : parameter ∉ ["p", "i", "value", "values", "string", "make", "len"]) {type : TypeExpr}
    {given : GoType} (hasType : around.package.type? [] type = some given) {writing : Writing}
    (accepts : writing.accepts around.package given = true) :
    (writing.code field parameter type).isTyped around around.inside = true := by
  let inside : Scope := (parameter, given) :: around.inside
  have notReceiver : parameter ≠ "p" := fun same => free (same ▸ List.mem_cons_self ..)
  have entered : (writing.code field parameter type).inside? around around.inside =
      some inside := by
    have fresh : around.inside.lookup parameter = none := by simp [notReceiver]
    simp [Code.inside?, Writing.code, hasType, bind_fresh named fresh, inside]
  have receiver : inside.lookup "p" = some around.wrapper :=
    (Package.lookup_other (Ne.symm notReceiver) _ _).trans around.receiver_bound
  have own : inside.lookup parameter = some given := by simp [inside]
  have unbound : ∀ name ∈ ["values", "string", "make", "len"], inside.lookup name = none := by
    have words : ∀ name ∈ ["values", "string", "make", "len"], name ≠ "p" ∧
        name ∈ ["p", "i", "value", "values", "string", "make", "len"] := by decide
    intro name member
    obtain ⟨noReceiver, isWord⟩ := words name member
    have other : name ≠ parameter := fun same => free (same ▸ isWord)
    simp [inside, other, noReceiver]
  have results : ([] : List TypeExpr).mapM (around.package.type? []) = some [] := rfl
  rw [typed_inside entered results]
  cases writing with
  | plain =>
      have value : (Atom.variable parameter).type? around inside = some (.of given) := by
        simp [Atom.type?, own]
      simp only [Writing.code, Writing.statements]
      rw [typed_step (set_typed sound field receiver value _)]
      rfl
  | enum =>
      have value := text_typed sound (unbound "string" (by decide)) own accepts
      simp only [Writing.code, Writing.statements]
      rw [typed_step (set_typed sound field receiver value _)]
      rfl
  | enumSlice =>
      obtain ⟨element, rfl⟩ : ∃ element, given = .slice element := by
        cases given <;> simp_all [Writing.accepts]
      exact texts_put sound field receiver unbound own accepts

omit sound in
/-- What is never bound cannot be read. -/
theorem blank_setter_untyped (around : Surroundings) (field : String) (type : TypeExpr)
    (writing : Writing) :
    (writing.code field "_" type).isTyped around around.inside = false := by
  have unbound : around.inside.lookup "_" = none := by simp
  cases named : around.package.type? [] type with
  | none => simp [Code.isTyped, Code.inside?, Writing.code, named]
  | some given =>
      have entered : (writing.code field "_" type).inside? around around.inside =
          some around.inside := by
        simp [Code.inside?, Writing.code, named, Scope.bind?]
      have results : ([] : List TypeExpr).mapM (around.package.type? []) = some [] := rfl
      rw [typed_inside entered results]
      cases writing <;>
        simp [Writing.code, Writing.statements, areTyped, Statement.after?, Term.type?, callee?,
          Atom.type?, unbound]

end Setters

section Expanders

/-- A type of a name, and the function that makes its values of records. -/
def Package.Wraps (package : Package) (typeName : String) : Prop :=
  ∃ type, package.type? [] (.named typeName) = some type ∧
    package.function? (Target.wrapName typeName) .record = some (.pointer type)

variable {around : Surroundings} (sound : around.Sound) (field : String)

def Surroundings.loaded (around : Surroundings) : Scope :=
  ("errs", .map .text .error) :: ("app", .app) :: around.inside

@[simp]
theorem Surroundings.lookup_loaded (around : Surroundings) (name : String) :
    around.loaded.lookup name =
      if name = "errs" then some (.map .text .error)
      else if name = "app" then some .app
      else if name = "p" then some around.wrapper else none := by
  simp [loaded]

@[simp]
theorem Surroundings.loaded_inert (around : Surroundings) : around.loaded.Inert := by
  simp [loaded, localWords]

theorem wrap_name_not_local (typeName : String) : Target.wrapName typeName ∉ localWords := by
  have other : ∀ word ∈ localWords, word.toList.head? ≠ some 'W' := by decide
  intro isLocal
  exact other _ isLocal (by simp [Target.wrapName])

include sound

theorem typed_loading {type : GoType} (nilable : around.package.hasNil type = true)
    (later : List Statement) (returned : List Term) :
    areTyped around (("app", .app) :: around.inside) [type, .error]
        (Expansion.loading field ++ later) returned =
      areTyped around around.loaded [type, .error] later returned := by
  let inside : Scope := ("app", .app) :: around.inside
  let failed : Scope := ("err", .error) :: around.loaded
  have first : (Statement.define "errs" (.call "app" "ExpandRecord"
      [.field "p" "Record", .texts field, .nil])).after? around inside [type, .error] =
        some around.loaded := by
    have noString : inside.lookup "string" = none := by simp [inside]
    have record : (Atom.field "p" "Record").type? around inside = some (.of .record) := by
      have member := member_of_wrapper sound (by decide) sound.documented.record
      simp [Atom.type?, inside, member]
    have texts : (Atom.texts field).type? around inside = some (.of (.slice .text)) := by
      have named := Package.type_of_language sound.unhidden
        (show "string" ∈ languageWords by decide) (by decide) noString
      simp [Atom.type?, named, Package.isText, GoType.text]
    have nil : Atom.nil.type? around inside = some .nil :=
      nil_typed sound (by simp [inside])
    have expand : around.member? around.package.library.method .app "ExpandRecord" = _ :=
      (if_neg (by simp [Surroundings.wrapper, GoType.app])).trans sound.documented.expand
    have fetch : around.package.hasNil (.imported "core" "ExpandFetchFunc") = true :=
      sound.documented.fetch
    have called : (Term.call "app" "ExpandRecord" [.field "p" "Record", .texts field, .nil]).type?
        around inside = some (.of (.map .text .error)) := by
      simp [Term.type?, callee?, inside, expand, record, texts, nil, fetch]
    exact after_define called
      (bind_fresh (by decide) (by simp [inside]) _)
  have second : (Statement.guard "err" (.entry "errs" (.literal field))
      [.plain .nil, .plain (.variable "err")]).after? around around.loaded [type, .error] =
        some around.loaded := by
    have entry : (Term.entry "errs" (.literal field)).type? around around.loaded =
        some (.of .error) := by simp [Term.type?, Atom.type?]
    have noNil : failed.lookup "nil" = none := by simp [failed]
    have err : (Term.plain (.variable "err")).type? around failed = some (.of .error) :=
      variable_typed (by simp [failed])
    have returned : areReturned around failed [type, .error]
        [.plain .nil, .plain (.variable "err")] = true := by
      simp [areReturned, nil_typed sound noNil, err, nilable]
    exact after_guard entry (leaves_if_returned sound noNil rfl returned)
  simp only [Expansion.loading, List.cons_append, List.nil_append]
  rw [typed_step first, typed_step second]

theorem expander_entered (expansion : Expansion) :
    (expansion.code field).inside? around around.inside =
      some (("app", .app) :: around.inside) := by
  have fresh : around.inside.lookup "app" = none := by simp
  simp [Code.inside?, Expansion.code, Package.type_app sound.unhidden,
    bind_fresh (by decide) fresh]

theorem expander_results {expansion : Expansion} {type : GoType}
    (named : around.package.type? [] expansion.type = some type) :
    (expansion.code field).results.mapM (around.package.type? []) = some [type, .error] := by
  simp [Expansion.code, named, Package.type_error sound.unhidden]

/-- An expander whose result has a type is typed as what it does with the records it loads. -/
theorem expander_typed {expansion : Expansion} {type : GoType}
    (named : around.package.type? [] expansion.type = some type)
    (nilable : around.package.hasNil type = true) :
    (expansion.code field).isTyped around around.inside =
      areTyped around around.loaded [type, .error] (expansion.picking field)
        [expansion.picked field, .plain .nil] := by
  rw [typed_inside (expander_entered sound field _) (expander_results sound field named)]
  exact typed_loading sound field nilable _ _

omit sound in
/-- Without a type for its results no expander is typed. -/
theorem untyped_without_results {expansion : Expansion}
    (unnamed : around.package.type? [] expansion.type = none) :
    (expansion.code field).isTyped around around.inside = false := by
  have results : (expansion.code field).results.mapM (around.package.type? []) = none := by
    simp [Expansion.code, unnamed]
  rw [Code.isTyped, results]
  split <;> simp_all

omit sound in
/-- What the name of a wrapping function is applied to a record for. -/
theorem wrapped_typed {scope : Scope} (inert : scope.Inert)
    (bound : scope.lookup "record" = some .record) (typeName : String) :
    (Term.plain (.applied (Target.wrapName typeName) "record")).type? around scope =
      (around.package.function? (Target.wrapName typeName) .record).map .of := by
  have free := Package.lookup_inert inert (wrap_name_not_local typeName)
  rw [applied_typed bound, Package.applied_to_other free rfl]

theorem many_typed_iff (typeName : String) :
    ((Expansion.many typeName).code field).isTyped around around.inside = true ↔
      around.package.Wraps typeName := by
  cases named : around.package.type? [] (.named typeName) with
  | none =>
      rw [untyped_without_results field (by simp [Expansion.type, named])]
      simp [Package.Wraps, named]
  | some type =>
      let results := [GoType.slice (.pointer type), .error]
      let found : Scope := ("records", .slice .record) :: around.loaded
      let made : Scope := ("result", .slice (.pointer type)) :: found
      let inner : Scope := ("record", .record) :: ("i", .basic "int") :: made
      have first : (Statement.define "records" (.call "p" "ExpandedAll" [.literal field])).after?
          around around.loaded results = some found := by
        have many := member_of_wrapper sound (by decide) sound.documented.many
        exact after_define (call_typed (by simp) many field) (bind_fresh (by decide) (by simp) _)
      have second : (Statement.define "result"
          (.slots (.pointer (.named typeName)) "records")).after? around found results =
            some made := by
        have inert : found.Inert := by simp [found, localWords]
        have slots : (Term.slots (.pointer (.named typeName)) "records").type? around found =
            some (.of (.slice (.pointer type))) := by
          rw [slots_typed sound (by simp [found])
            (show found.lookup "records" = some (.slice .record) by simp [found]),
            Package.type_inert sound.unhidden inert, Package.type_pointer, named]
          rfl
        exact after_define slots (bind_fresh (by decide) (by simp [found]) _)
      have third : (Statement.fill "result" "i" "record" "records"
          (.plain (.applied (Target.wrapName typeName) "record"))).after? around made results =
            if around.package.function? (Target.wrapName typeName) .record = some (.pointer type)
            then some made else none := by
        have inert : inner.Inert := by simp [inner, made, found, localWords]
        have wrapped : (Term.plain (.applied (Target.wrapName typeName) "record")).type? around
            inner = (around.package.function? (Target.wrapName typeName) .record).map .of :=
          wrapped_typed inert (by simp [inner]) typeName
        rw [after_fill (show made.lookup "records" = some (.slice .record) by
          simp [made, found])
          (show inner.lookup "result" = some (.slice (.pointer type)) by
            simp [inner, made]), wrapped]
        simp
      have value : (Term.plain (.variable "result")).type? around made =
          some (.of (.slice (.pointer type))) := variable_typed (by simp [made])
      have nil : (Term.plain .nil).type? around made = some .nil := nil_typed sound
        (by simp [made, found])
      have result : around.package.type? [] (Expansion.many typeName).type =
          some (.slice (.pointer type)) := by simp [Expansion.type, named]
      rw [expander_typed sound field result rfl]
      simp only [Expansion.picking, Expansion.picked]
      rw [typed_step first, typed_step second]
      by_cases wraps : around.package.function? (Target.wrapName typeName) .record =
          some (.pointer type)
      · rw [if_pos wraps] at third
        rw [typed_step third]
        simp [areTyped, areReturned, value, nil, Package.Wraps, named, wraps, results,
          Package.hasNil, GoType.error]
      · rw [if_neg wraps] at third
        simp [areTyped, third, Package.Wraps, named, wraps]

theorem one_typed_iff (typeName : String) :
    ((Expansion.one typeName).code field).isTyped around around.inside = true ↔
      around.package.Wraps typeName := by
  cases named : around.package.type? [] (.named typeName) with
  | none =>
      rw [untyped_without_results field (by simp [Expansion.type, named])]
      simp [Package.Wraps, named]
  | some type =>
      let results := [GoType.pointer type, .error]
      let found : Scope := ("record", .record) :: around.loaded
      have inert : found.Inert := by simp [found, localWords]
      have noNil : found.lookup "nil" = none := by simp [found]
      have nil := nil_typed sound noNil
      have record : found.lookup "record" = some .record := by simp [found]
      have first : (Statement.define "record" (.call "p" "ExpandedOne" [.literal field])).after?
          around around.loaded results = some found := by
        have one := member_of_wrapper sound (by decide) sound.documented.one
        exact after_define (call_typed (by simp) one field) (bind_fresh (by decide) (by simp) _)
      have second : (Statement.absent "record" [.plain .nil, .plain .nil]).after? around found
          results = some found := by
        refine after_absent record (leaves_if_returned sound noNil rfl ?_)
        simp [areReturned, nil, results, Package.hasNil, GoType.error]
      have result : around.package.type? [] (Expansion.one typeName).type =
          some (.pointer type) := by simp [Expansion.type, named]
      have wrapped : (Term.plain (.applied (Target.wrapName typeName) "record")).type? around
          found = (around.package.function? (Target.wrapName typeName) .record).map .of :=
        wrapped_typed inert record typeName
      rw [expander_typed sound field result rfl]
      simp only [Expansion.picking, Expansion.picked]
      rw [typed_step first, typed_step second]
      cases given : around.package.function? (Target.wrapName typeName) .record <;>
        simp [areTyped, areReturned, wrapped, given, nil, Package.Wraps, named, results,
          Package.hasNil, GoType.error]

/-- Records of no known type are handed out as they are. -/
theorem untyped_typed {expansion : Expansion}
    (untyped : expansion = .manyUntyped ∨ expansion = .oneUntyped) :
    (expansion.code field).isTyped around around.inside = true := by
  have record := Package.type_record sound.unhidden
  have receiver : around.loaded.lookup "p" = some around.wrapper := by simp
  have nil : (Term.plain .nil).type? around around.loaded = some .nil :=
    nil_typed sound (by simp)
  rcases untyped with rfl | rfl
  · have many := call_typed receiver (member_of_wrapper sound (by decide) sound.documented.many)
      field
    have result : around.package.type? [] Expansion.manyUntyped.type = some (.slice .record) := by
      simp [Expansion.type, record]
    rw [expander_typed sound field result rfl]
    simp [Expansion.picking, Expansion.picked, areTyped, areReturned, many, nil, Package.hasNil,
      GoType.error]
  · have one := call_typed receiver (member_of_wrapper sound (by decide) sound.documented.one)
      field
    have result : around.package.type? [] Expansion.oneUntyped.type = some .record := record
    rw [expander_typed sound field result rfl]
    simp [Expansion.picking, Expansion.picked, areTyped, areReturned, one, nil, Package.hasNil,
      GoType.error]

/-- An expander is typed exactly if its package can wrap the records that it loads. -/
theorem expander_typed_iff (expansion : Expansion) :
    (expansion.code field).isTyped around around.inside = true ↔
      ∀ name ∈ expansion.typeName?, around.package.Wraps name := by
  cases expansion with
  | many typeName => simpa [Expansion.typeName?] using many_typed_iff sound field typeName
  | one typeName => simpa [Expansion.typeName?] using one_typed_iff sound field typeName
  | manyUntyped | oneUntyped =>
      simp [Expansion.typeName?, untyped_typed sound field]

/-- The function that wraps a record makes a value of the record type. -/
theorem wrap_typed : (wrapCode around.receiver).isTyped around [] = true := by
  have declared := sound.declared
  let inside : Scope := [("record", .record)]
  let made : Scope := ("result", around.wrapper) :: inside
  have entered : (wrapCode around.receiver).inside? around [] = some inside := by
    simp [Code.inside?, wrapCode, Package.type_record sound.unhidden, Scope.bind?, inside]
  have results : (wrapCode around.receiver).results.mapM (around.package.type? []) =
      some [around.wrapper] := by
    simp [wrapCode, declared.type, Surroundings.wrapper]
  have first : (Statement.define "result" (.fresh around.receiver)).after? around inside
      [around.wrapper] = some made := by
    have inert : inside.Inert := by simp [inside, localWords]
    have fresh : (Term.fresh around.receiver).type? around inside = some (.of around.wrapper) := by
      rw [Term.type?, Package.type_named_inert sound.unhidden inert, declared.named]
      exact if_pos declared.declared
    exact after_define fresh (bind_fresh (by decide) (by simp [inside]) _)
  have second : (Statement.run "result" "SetProxyRecord" [.variable "record"]).after? around made
      [around.wrapper] = some made := by
    have adopt := member_of_wrapper sound (by decide) sound.documented.adopt
    have callee : callee? around made "result" "SetProxyRecord" [.variable "record"] =
        some ⟨[.record], none⟩ := by simp [callee?, made, inside, Atom.type?, adopt]
    exact after_run callee
  have value : (Term.plain (.variable "result")).type? around made = some (.of around.wrapper) :=
    variable_typed (by simp [made])
  rw [typed_inside entered results]
  simp only [wrapCode]
  rw [typed_step first, typed_step second]
  simp [areTyped, areReturned, value]

end Expanders

end CollectionTypes.Go
