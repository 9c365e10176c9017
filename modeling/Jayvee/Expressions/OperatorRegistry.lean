import Jayvee.Expressions.TypeInference

/-! # Type inference through the operator registry

`inferExpressionType` of `expressions/type-inference.ts` infers the operands
and hands their types to the typing function that the operator registry holds
for the operator. The registry of `operator-registry.ts` is not in the source,
so it is a parameter. With the typing rules of `model-util.ts` as the registry,
it computes what `inferTypeFromExpression` computes, result and diagnostics
alike; and for every registry whose typing functions only append diagnostics,
it only appends diagnostics itself.
-/

namespace Jayvee

/-- The typing functions of the operator registry. Each receives the operand
types, once they are all known, and the expression node. -/
structure OperatorRegistry where
  unaryTypeInference : UnaryOperator → PropertyValuetype → Expression → InferenceContext →
    Option PropertyValuetype × InferenceContext
  binaryTypeInference : BinaryOperator → PropertyValuetype → PropertyValuetype → Expression →
    InferenceContext → Option PropertyValuetype × InferenceContext

variable (registry : OperatorRegistry)

/-- Literals are typed as `inferTypeFromExpressionLiteral` types them. -/
def inferExpressionType :
    Expression → InferenceContext → Option PropertyValuetype × InferenceContext
  | .textLiteral _, context => (some .text, context)
  | .booleanLiteral _, context => (some .boolean, context)
  | .numericLiteral value, context =>
    (some (if isInteger value then .integer else .decimal), context)
  | expression@(.unaryExpression operator inner), context =>
    let innerResult := inferExpressionType inner context
    match innerResult.1 with
    | none => (none, innerResult.2)
    | some innerType => registry.unaryTypeInference operator innerType expression innerResult.2
  | expression@(.binaryExpression operator left right), context =>
    let leftResult := inferExpressionType left context
    let rightResult := inferExpressionType right leftResult.2
    match leftResult.1, rightResult.1 with
    | some leftType, some rightType =>
      registry.binaryTypeInference operator leftType rightType expression rightResult.2
    | _, _ => (none, rightResult.2)

/-- The typing rules of `model-util.ts` as a registry: the helper of each
operator family, on the operand types. -/
def modelUtilRegistry : OperatorRegistry where
  unaryTypeInference _ innerType expression context :=
    match expression with
    | .unaryExpression _ inner => inferTypeFromUnaryLogicalExpression inner (some innerType) context
    | _ => (none, context)
  binaryTypeInference operator leftType rightType expression context :=
    match expression with
    | .binaryExpression _ left right =>
      inferTypeFromBinaryExpression expression left right operator (some leftType) (some rightType)
        context
    | _ => (none, context)

def unaryContinuation (operator : UnaryOperator) (inner : Expression)
    (innerType : Option PropertyValuetype) (context : InferenceContext) :
    Option PropertyValuetype × InferenceContext :=
  match innerType with
  | none => (none, context)
  | some innerType =>
    registry.unaryTypeInference operator innerType (.unaryExpression operator inner) context

def binaryContinuation (operator : BinaryOperator) (left right : Expression)
    (leftType rightType : Option PropertyValuetype) (context : InferenceContext) :
    Option PropertyValuetype × InferenceContext :=
  match leftType, rightType with
  | some leftType, some rightType =>
    registry.binaryTypeInference operator leftType rightType (.binaryExpression operator left right)
      context
  | _, _ => (none, context)

theorem inferExpressionType_unary (operator : UnaryOperator) (inner : Expression)
    (context : InferenceContext) :
    inferExpressionType registry (.unaryExpression operator inner) context =
      unaryContinuation registry operator inner (inferExpressionType registry inner context).1
        (inferExpressionType registry inner context).2 := by
  rfl

theorem inferExpressionType_binary (operator : BinaryOperator) (left right : Expression)
    (context : InferenceContext) :
    inferExpressionType registry (.binaryExpression operator left right) context =
      binaryContinuation registry operator left right (inferExpressionType registry left context).1
        (inferExpressionType registry right (inferExpressionType registry left context).2).1
        (inferExpressionType registry right (inferExpressionType registry left context).2).2 := by
  rfl

/-- With the typing rules of `model-util.ts` as its registry, the registry-based
inference computes the type and the diagnostics that `inferTypeFromExpression`
computes, on every expression and in every context. -/
theorem inferExpressionType_modelUtilRegistry (e : Expression) (context : InferenceContext) :
    inferExpressionType modelUtilRegistry e context = inferTypeFromExpression e context := by
  induction e generalizing context with
  | textLiteral | booleanLiteral | numericLiteral => rfl
  | unaryExpression operator inner ih =>
    cases operator
    rw [inferExpressionType_unary, ih]
    simp only [inferTypeFromExpression, unaryContinuation]
    cases (inferTypeFromExpression inner context).1 <;> rfl
  | binaryExpression operator left right ihl ihr =>
    rw [inferExpressionType_binary, ihl, ihr, inferTypeFromExpression_binary]
    cases (inferTypeFromExpression left context).1 <;>
      cases (inferTypeFromExpression right (inferTypeFromExpression left context).2).1 <;>
      cases operator <;> rfl

/-- Every typing function of the registry only appends diagnostics. -/
structure OperatorRegistry.AppendsOnly (registry : OperatorRegistry) : Prop where
  unary : ∀ operator innerType expression,
    Appends (registry.unaryTypeInference operator innerType expression)
  binary : ∀ operator leftType rightType expression,
    Appends (registry.binaryTypeInference operator leftType rightType expression)

section Frame

variable {registry} (h : registry.AppendsOnly)
include h

theorem appends_unaryContinuation (operator : UnaryOperator) (inner : Expression)
    (innerType : Option PropertyValuetype) :
    Appends (unaryContinuation registry operator inner innerType) := by
  cases innerType with
  | none => intro context; simp [unaryContinuation]
  | some innerType => exact h.unary _ _ _

theorem appends_binaryContinuation (operator : BinaryOperator) (left right : Expression)
    (leftType rightType : Option PropertyValuetype) :
    Appends (binaryContinuation registry operator left right leftType rightType) := by
  cases leftType <;> cases rightType
  case some.some leftType rightType => exact h.binary _ _ _ _
  all_goals intro context; simp [binaryContinuation]

/-- When the registry's typing functions only append diagnostics, whatever the
diagnostics before, so does the registry-based inference on every expression. -/
theorem appends_inferExpressionType (e : Expression) :
    Appends (inferExpressionType registry e) := by
  induction e with
  | textLiteral | booleanLiteral | numericLiteral => intro context; simp [inferExpressionType]
  | unaryExpression operator inner ih =>
    intro context
    simpa only [inferExpressionType_unary] using
      Appends.bind ih (appends_unaryContinuation h operator inner) context
  | binaryExpression operator left right ihl ihr =>
    intro context
    simpa only [inferExpressionType_binary] using (Appends.bind ihl fun leftType =>
      Appends.bind ihr (appends_binaryContinuation h operator left right leftType)) context

end Frame

theorem modelUtilRegistry_appendsOnly : modelUtilRegistry.AppendsOnly where
  unary operator innerType expression := by
    cases expression
    case unaryExpression inner => exact appends_unaryLogical inner (some innerType)
    all_goals intro context; simp [modelUtilRegistry]
  binary operator leftType rightType expression := by
    cases expression
    case binaryExpression left right =>
      exact appends_binary _ left right operator (some leftType) (some rightType)
    all_goals intro context; simp [modelUtilRegistry]

theorem appends_inferExpressionType_modelUtilRegistry :
    modelUtilRegistry.AppendsOnly ∧ Appends (inferExpressionType modelUtilRegistry
      (.binaryExpression .eq (.numericLiteral 1) (.textLiteral "a"))) :=
  ⟨modelUtilRegistry_appendsOnly, appends_inferExpressionType modelUtilRegistry_appendsOnly _⟩

end Jayvee
