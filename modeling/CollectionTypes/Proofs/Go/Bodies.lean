import CollectionTypes.Proofs.Go.Code

/-!
The methods of record types as code, and the function that wraps a record: each is written exactly
as its code is, whatever names it is made of.
-/

namespace CollectionTypes.Go

open Text

namespace Reading

def callCode (method field : String) (result : TypeExpr) : Code where
  results := [result]
  returned := [.call "p" method [.literal field]]

def code (field : String) (result : TypeExpr) : Reading → Code
  | .decoded =>
      { results := [result]
        statements := [
          .declare "value" .objectMap,
          .guard "err" (.call "p" "UnmarshalJSONField" [.literal field, .address "value"])
            [.plain .nil]]
        returned := [.plain (.variable "value")] }
  | .enumSlice typeName =>
      { results := [result]
        statements := [
          .define "values" (.call "p" "GetStringSlice" [.literal field]),
          .define "result" (.slots (.named typeName) "values"),
          .fill "result" "i" "value" "values" (.plain (.applied typeName "value"))]
        returned := [.plain (.variable "result")] }
  | .enum typeName =>
      { results := [result]
        returned := [.applied typeName (.call "p" "GetString" [.literal field])] }
  | .float => callCode "GetFloat" field result
  | .boolean => callCode "GetBool" field result
  | .dateTime => callCode "GetDateTime" field result
  | .stringSlice => callCode "GetStringSlice" field result
  | .string => callCode "GetString" field result

end Reading

namespace Writing

def statements (field parameter : String) : Writing → List Statement
  | .enumSlice => [
      .define "values" (.slots .string parameter),
      .fill "values" "i" "value" parameter (.plain (.applied "string" "value")),
      .run "p" "Set" [.literal field, .variable "values"]]
  | .enum => [.run "p" "Set" [.literal field, .applied "string" parameter]]
  | .plain => [.run "p" "Set" [.literal field, .variable parameter]]

def code (field parameter : String) (type : TypeExpr) (writing : Writing) : Code where
  parameters := [(parameter, type)]
  statements := writing.statements field parameter

end Writing

namespace Expansion

/-- Every expander loads the records first, and stops if that fails. -/
def loading (field : String) : List Statement := [
    .define "errs" (.call "app" "ExpandRecord" [.field "p" "Record", .texts field, .nil]),
    .guard "err" (.entry "errs" (.literal field)) [.plain .nil, .plain (.variable "err")]
  ]

def picking (field : String) : Expansion → List Statement
  | .many typeName => [
      .define "records" (.call "p" "ExpandedAll" [.literal field]),
      .define "result" (.slots (.pointer (.named typeName)) "records"),
      .fill "result" "i" "record" "records" (.plain (.applied (Target.wrapName typeName) "record"))]
  | .one _ => [
      .define "record" (.call "p" "ExpandedOne" [.literal field]),
      .absent "record" [.plain .nil, .plain .nil]]
  | .manyUntyped | .oneUntyped => []

def picked (field : String) : Expansion → Term
  | .many _ => .plain (.variable "result")
  | .one typeName => .plain (.applied (Target.wrapName typeName) "record")
  | .manyUntyped => .call "p" "ExpandedAll" [.literal field]
  | .oneUntyped => .call "p" "ExpandedOne" [.literal field]

def code (field : String) (expansion : Expansion) : Code where
  parameters := [("app", .app)]
  results := [expansion.type, .error]
  statements := loading field ++ expansion.picking field
  returned := [expansion.picked field, .plain .nil]

end Expansion

def integerCode (field : String) : Code := Reading.callCode "GetInt" field .int

def Method.code : Method → Code
  | .getter _ field result reading => reading.code field result
  | .integerGetter _ field => integerCode field
  | .setter _ field parameter type writing => writing.code field parameter type
  | .expander _ field expansion => expansion.code field

def wrapCode (typeName : String) : Code where
  parameters := [("record", Expansion.recordType)]
  results := [.pointer (.named typeName)]
  statements := [
    .define "result" (.fresh typeName),
    .run "result" "SetProxyRecord" [.variable "record"]]
  returned := [.plain (.variable "result")]

/-! The texts of the model. They are cut at other places than the parts of the code, so that both
sides are compared letter by letter. -/

section Texts

variable (field : String)

theorem getter_tail_eq_code (result : TypeExpr) (reading : Reading) :
    Method.getterTail field result reading = (reading.code field result).write := by
  apply String.toList_inj.mp
  unfold Method.getterTail Reading.body Reading.code
  cases reading with
  | decoded =>
      unfold Reading.decodedBody
      simp [Code.write, TypeExpr.write, String.join_cons, String.intercalate_cons_cons]
  | enumSlice typeName =>
      unfold Reading.enumSliceBody
      simp [Code.write, TypeExpr.write, String.join_cons]
  | enum typeName =>
      unfold Reading.enumBody
      simp [Code.write]
  | float | boolean | dateTime | stringSlice | string =>
      unfold Reading.selectedBody Reading.callCode
      simp [Code.write]

theorem integer_tail_eq_code : Method.integerTail field = (integerCode field).write := by
  apply String.toList_inj.mp
  unfold Method.integerTail integerCode Reading.callCode
  simp [Code.write, TypeExpr.write, TypeExpr.int]

theorem setter_tail_eq_code (parameter : String) (type : TypeExpr) (writing : Writing) :
    Method.setterTail field parameter type writing = (writing.code field parameter type).write := by
  apply String.toList_inj.mp
  unfold Method.setterTail Writing.body Writing.code Writing.statements
  cases writing with
  | enumSlice =>
      unfold Writing.enumSliceBody
      simp [Code.write, TypeExpr.write, TypeExpr.string, String.join_cons,
        String.intercalate_cons_cons]
  | enum =>
      unfold Writing.enumBody
      simp [Code.write, String.intercalate_cons_cons]
  | plain =>
      unfold Writing.plainBody
      simp [Code.write, String.intercalate_cons_cons]

theorem load_eq_code (field : String) :
    Expansion.load (Quoted.literal field) =
      String.join ((Expansion.loading field).map Statement.write) := by
  apply String.toList_inj.mp
  unfold Expansion.load Expansion.loading
  simp [String.join_cons, String.intercalate_cons_cons]

theorem pick_eq_code (expansion : Expansion) :
    expansion.pick (Quoted.literal field) =
      String.join ((expansion.picking field).map Statement.write) ++ "\t" ++
        writeReturn [expansion.picked field, .plain .nil] := by
  apply String.toList_inj.mp
  unfold Expansion.pick Expansion.picking Expansion.picked
  cases expansion with
  | many typeName =>
      unfold Expansion.pickMany
      simp [TypeExpr.write, String.join_cons, String.intercalate_cons_cons]
  | one typeName =>
      unfold Expansion.pickOne
      simp [String.join_cons, String.intercalate_cons_cons]
  | manyUntyped | oneUntyped =>
      unfold Expansion.pickUntyped
      simp [String.intercalate_cons_cons]

theorem expander_tail_eq_code (expansion : Expansion) :
    Method.expanderTail field expansion = (expansion.code field).write := by
  apply String.toList_inj.mp
  unfold Method.expanderTail Expansion.body Expansion.code
  rw [load_eq_code, pick_eq_code]
  simp [Code.write, TypeExpr.write, TypeExpr.app, TypeExpr.error, String.join_append,
    String.intercalate_cons_cons, -writeReturn]

/-- A method is written as its code is. -/
theorem Method.tail_eq_code (method : Method) : method.tail = method.code.write := by
  cases method with
  | getter _ field result reading => exact getter_tail_eq_code field result reading
  | integerGetter _ field => exact integer_tail_eq_code field
  | setter _ field parameter type writing => exact setter_tail_eq_code field parameter type writing
  | expander _ field expansion => exact expander_tail_eq_code field expansion

theorem wrap_function_eq_code (typeName : String) :
    Record.wrapFunction typeName =
      "func " ++ Target.wrapName typeName ++ (wrapCode typeName).write := by
  apply String.toList_inj.mp
  unfold Record.wrapFunction wrapCode
  simp [Code.write, TypeExpr.write, Expansion.recordType, String.join_cons]

end Texts

end CollectionTypes.Go
