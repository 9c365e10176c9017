import Jayvee.Expressions.Syntax

/-! # Type inference for property values

`inferTypeFromValue` of `model-util.ts`, with the validation context passed
explicitly. Each operator helper receives the operand types, which the
dispatcher infers left before right before calling it, as the helpers of the
source do first. Inference succeeds exactly on the well-typed expressions, and
returns `undefined` exactly when it reports an error.
-/

namespace Jayvee

abbrev InferenceContext := ValidationContext Expression

def operandTypeMessage (expected : String) (actual : PropertyValuetype) : String :=
  "The operand needs to be of type " ++ expected ++ " but is of type " ++ actual.value

def differentNumericTypesMessage (leftType rightType : PropertyValuetype) : String :=
  "The operands are of different numeric types (left: " ++ leftType.value ++ ", right: " ++
    rightType.value ++ ")"

/-- `inner` is the operand node `expression.expression`. -/
def inferTypeFromUnaryLogicalExpression (inner : Expression)
    (innerType : Option PropertyValuetype) (context : InferenceContext) :
    Option PropertyValuetype × InferenceContext :=
  match innerType with
  | none => (none, context)
  | some innerType =>
    if innerType ≠ .boolean then
      (none, context.accept .error (operandTypeMessage PropertyValuetype.boolean.value innerType)
        inner)
    else (some .boolean, context)

def inferTypeFromBinaryEqualityExpression (expression : Expression)
    (leftType rightType : Option PropertyValuetype) (context : InferenceContext) :
    Option PropertyValuetype × InferenceContext :=
  match leftType, rightType with
  | some leftType, some rightType =>
    if leftType ≠ rightType then
      if isNumericType leftType && isNumericType rightType then
        (some .boolean,
          context.accept .warning (differentNumericTypesMessage leftType rightType) expression)
      else
        (none, context.accept .error
          ("The types of the operands need to be equal but they differ (left: " ++
            leftType.value ++ ", right: " ++ rightType.value ++ ")") expression)
    else (some .boolean, context)
  | _, _ => (none, context)

def inferTypeFromBinaryRelationalExpression (expression left right : Expression)
    (leftType rightType : Option PropertyValuetype) (context : InferenceContext) :
    Option PropertyValuetype × InferenceContext :=
  match leftType, rightType with
  | some leftType, some rightType =>
    if !isNumericType leftType then
      (none, context.accept .error (operandTypeMessage
        (PropertyValuetype.decimal.value ++ " or " ++ PropertyValuetype.integer.value) leftType)
        left)
    else if !isNumericType rightType then
      (none, context.accept .error (operandTypeMessage
        (PropertyValuetype.decimal.value ++ " or " ++ PropertyValuetype.integer.value) rightType)
        right)
    else if leftType ≠ rightType then
      (some .boolean,
        context.accept .warning (differentNumericTypesMessage leftType rightType) expression)
    else (some .boolean, context)
  | _, _ => (none, context)

/-- Each operand that is not boolean gets its own error. -/
def inferTypeFromBinaryLogicalExpression (left right : Expression)
    (leftType rightType : Option PropertyValuetype) (context : InferenceContext) :
    Option PropertyValuetype × InferenceContext :=
  match leftType, rightType with
  | some leftType, some rightType =>
    if leftType ≠ .boolean ∨ rightType ≠ .boolean then
      let context := if leftType ≠ .boolean then
        context.accept .error (operandTypeMessage PropertyValuetype.boolean.value leftType) left
        else context
      let context := if rightType ≠ .boolean then
        context.accept .error (operandTypeMessage PropertyValuetype.boolean.value rightType) right
        else context
      (none, context)
    else (some .boolean, context)
  | _, _ => (none, context)

def inferTypeFromExpression : Expression → InferenceContext →
    Option PropertyValuetype × InferenceContext
  | .textLiteral _, context => (some .text, context)
  | .booleanLiteral _, context => (some .boolean, context)
  | .numericLiteral value, context =>
    (some (if isInteger value then .integer else .decimal), context)
  | .unaryExpression .not inner, context =>
    let innerResult := inferTypeFromExpression inner context
    inferTypeFromUnaryLogicalExpression inner innerResult.1 innerResult.2
  | expression@(.binaryExpression operator left right), context =>
    let leftResult := inferTypeFromExpression left context
    let rightResult := inferTypeFromExpression right leftResult.2
    match operator.family with
    | .equality => inferTypeFromBinaryEqualityExpression expression leftResult.1 rightResult.1
        rightResult.2
    | .relational => inferTypeFromBinaryRelationalExpression expression left right
        leftResult.1 rightResult.1 rightResult.2
    | .logical => inferTypeFromBinaryLogicalExpression left right leftResult.1 rightResult.1
        rightResult.2

def inferTypeFromValue : PropertyValueLiteral → InferenceContext →
    Option PropertyValuetype × InferenceContext
  | .collectionLiteral, context => (some .collection, context)
  | .cellRangeLiteral, context => (some .cellRange, context)
  | .regexLiteral, context => (some .regex, context)
  | .valuetypeAssignmentLiteral, context => (some .valuetypeAssignment, context)
  | .constraintReferenceLiteral, context => (some .constraint, context)
  | .expression expression, context => inferTypeFromExpression expression context

/-- The diagnostics inference of `e` reports when run on its own. -/
def inferenceDiagnostics (e : Expression) : List (Diagnostic Expression) :=
  (inferTypeFromExpression e .empty).2.diagnostics

section Frame

/-- `f` only appends diagnostics, and what it returns and appends does not
depend on the diagnostics reported before. -/
def Appends {α : Type} (f : InferenceContext → α × InferenceContext) : Prop :=
  ∀ context, f context = ((f .empty).1, ⟨context.diagnostics ++ (f .empty).2.diagnostics⟩)

theorem Appends.bind {α γ : Type} {f : InferenceContext → α × InferenceContext}
    {g : α → InferenceContext → γ × InferenceContext} (hf : Appends f) (hg : ∀ a, Appends (g a)) :
    Appends fun context => g (f context).1 (f context).2 := by
  intro context
  show g (f context).1 (f context).2 = ((g (f .empty).1 (f .empty).2).1,
    ⟨context.diagnostics ++ (g (f .empty).1 (f .empty).2).2.diagnostics⟩)
  rw [hf context, hg _ ⟨_⟩, hg _ (f .empty).2, List.append_assoc]

theorem appends_unaryLogical (inner : Expression) (innerType : Option PropertyValuetype) :
    Appends (inferTypeFromUnaryLogicalExpression inner innerType) := by
  intro context
  unfold inferTypeFromUnaryLogicalExpression
  split <;> (try split_ifs) <;> simp [ValidationContext.accept]

theorem appends_binaryEquality (expression : Expression)
    (leftType rightType : Option PropertyValuetype) :
    Appends (inferTypeFromBinaryEqualityExpression expression leftType rightType) := by
  intro context
  unfold inferTypeFromBinaryEqualityExpression
  split <;> (try split_ifs) <;> simp [ValidationContext.accept]

theorem appends_binaryRelational (expression left right : Expression)
    (leftType rightType : Option PropertyValuetype) :
    Appends (inferTypeFromBinaryRelationalExpression expression left right leftType rightType) := by
  intro context
  unfold inferTypeFromBinaryRelationalExpression
  split <;> (try split_ifs) <;> simp [ValidationContext.accept]

theorem appends_binaryLogical (left right : Expression)
    (leftType rightType : Option PropertyValuetype) :
    Appends (inferTypeFromBinaryLogicalExpression left right leftType rightType) := by
  intro context
  unfold inferTypeFromBinaryLogicalExpression
  split <;> (try split_ifs) <;> simp [ValidationContext.accept]

def inferTypeFromBinaryExpression (expression left right : Expression) (operator : BinaryOperator)
    (leftType rightType : Option PropertyValuetype) (context : InferenceContext) :
    Option PropertyValuetype × InferenceContext :=
  match operator.family with
  | .equality => inferTypeFromBinaryEqualityExpression expression leftType rightType context
  | .relational => inferTypeFromBinaryRelationalExpression expression left right leftType
      rightType context
  | .logical => inferTypeFromBinaryLogicalExpression left right leftType rightType context

theorem inferTypeFromExpression_binary (operator : BinaryOperator) (left right : Expression)
    (context : InferenceContext) :
    inferTypeFromExpression (.binaryExpression operator left right) context =
      inferTypeFromBinaryExpression (.binaryExpression operator left right) left right operator
        (inferTypeFromExpression left context).1
        (inferTypeFromExpression right (inferTypeFromExpression left context).2).1
        (inferTypeFromExpression right (inferTypeFromExpression left context).2).2 := by
  simp only [inferTypeFromExpression, inferTypeFromBinaryExpression]

theorem appends_binary (expression left right : Expression) (operator : BinaryOperator)
    (leftType rightType : Option PropertyValuetype) :
    Appends (inferTypeFromBinaryExpression expression left right operator leftType rightType) := by
  unfold inferTypeFromBinaryExpression
  split
  · exact appends_binaryEquality _ _ _
  · exact appends_binaryRelational _ _ _ _ _
  · exact appends_binaryLogical _ _ _ _

theorem appends_inferTypeFromExpression (e : Expression) : Appends (inferTypeFromExpression e) := by
  induction e with
  | textLiteral | booleanLiteral | numericLiteral => intro context; simp [inferTypeFromExpression]
  | unaryExpression operator inner ih =>
    cases operator
    exact Appends.bind ih (appends_unaryLogical inner)
  | binaryExpression operator left right ihl ihr =>
    have h := Appends.bind ihl fun leftType =>
      Appends.bind ihr (appends_binary (.binaryExpression operator left right) left right operator
        leftType)
    intro context
    simpa only [inferTypeFromExpression_binary] using h context

theorem inferTypeFromExpression_eq (e : Expression) (context : InferenceContext) :
    inferTypeFromExpression e context =
      ((inferTypeFromExpression e .empty).1, ⟨context.diagnostics ++ inferenceDiagnostics e⟩) :=
  appends_inferTypeFromExpression e context

/-- The type inference gives `e`, whatever the context. -/
def inferredType (e : Expression) : Option PropertyValuetype :=
  (inferTypeFromExpression e .empty).1

theorem inferTypeFromExpression_not (inner : Expression) (context : InferenceContext) :
    inferTypeFromExpression (.unaryExpression .not inner) context =
      ((inferTypeFromUnaryLogicalExpression inner (inferredType inner) .empty).1,
        ⟨context.diagnostics ++ inferenceDiagnostics inner ++
          (inferTypeFromUnaryLogicalExpression inner (inferredType inner)
            .empty).2.diagnostics⟩) := by
  simp only [inferTypeFromExpression]
  rw [inferTypeFromExpression_eq inner context, appends_unaryLogical]
  rfl

theorem inferredType_not (inner : Expression) :
    inferredType (.unaryExpression .not inner) =
      (inferTypeFromUnaryLogicalExpression inner (inferredType inner) .empty).1 := by
  show (inferTypeFromExpression _ .empty).1 = _
  rw [inferTypeFromExpression_not]

theorem inferenceDiagnostics_not (inner : Expression) :
    inferenceDiagnostics (.unaryExpression .not inner) = inferenceDiagnostics inner ++
      (inferTypeFromUnaryLogicalExpression inner (inferredType inner) .empty).2.diagnostics := by
  simpa using congrArg (·.2.diagnostics) (inferTypeFromExpression_not inner .empty)

theorem inferTypeFromExpression_binaryExpression (operator : BinaryOperator)
    (left right : Expression) (context : InferenceContext) :
    inferTypeFromExpression (.binaryExpression operator left right) context =
      ((inferTypeFromBinaryExpression (.binaryExpression operator left right) left right operator
          (inferredType left) (inferredType right) .empty).1,
        ⟨context.diagnostics ++ inferenceDiagnostics left ++ inferenceDiagnostics right ++
          (inferTypeFromBinaryExpression (.binaryExpression operator left right) left right operator
            (inferredType left) (inferredType right) .empty).2.diagnostics⟩) := by
  rw [inferTypeFromExpression_binary, inferTypeFromExpression_eq left context,
    inferTypeFromExpression_eq right, appends_binary]
  rfl

theorem inferredType_binaryExpression (operator : BinaryOperator) (left right : Expression) :
    inferredType (.binaryExpression operator left right) =
      (inferTypeFromBinaryExpression (.binaryExpression operator left right) left right operator
        (inferredType left) (inferredType right) .empty).1 := by
  show (inferTypeFromExpression _ .empty).1 = _
  rw [inferTypeFromExpression_binaryExpression]

theorem inferenceDiagnostics_binaryExpression (operator : BinaryOperator)
    (left right : Expression) :
    inferenceDiagnostics (.binaryExpression operator left right) =
      inferenceDiagnostics left ++ inferenceDiagnostics right ++
        (inferTypeFromBinaryExpression (.binaryExpression operator left right) left right operator
          (inferredType left) (inferredType right) .empty).2.diagnostics := by
  simpa using congrArg (·.2.diagnostics)
    (inferTypeFromExpression_binaryExpression operator left right .empty)

end Frame

section Results

variable {context : InferenceContext} {t : PropertyValuetype}

theorem unaryLogical_fst_eq_some {inner : Expression} {innerType : Option PropertyValuetype} :
    (inferTypeFromUnaryLogicalExpression inner innerType context).1 = some t ↔
      innerType = some .boolean ∧ t = .boolean := by
  unfold inferTypeFromUnaryLogicalExpression
  split <;> (try split_ifs) <;> simp_all [eq_comm]

theorem binary_some_some {expression left right : Expression} (operator : BinaryOperator)
    (a b : PropertyValuetype) :
    (inferTypeFromBinaryExpression expression left right operator (some a) (some b) context).1 =
        (if operator.family.Accepts a b then some .boolean else none) ∧
      (HasError (inferTypeFromBinaryExpression expression left right operator (some a) (some b)
        .empty).2.diagnostics ↔ ¬ operator.family.Accepts a b) := by
  unfold inferTypeFromBinaryExpression
  cases operator.family
  case equality =>
    unfold inferTypeFromBinaryEqualityExpression
    dsimp only
    by_cases hab : a = b
    · subst hab
      have hacc : OperatorFamily.equality.Accepts a a := .inl rfl
      simp [hacc]
    · cases hn : isNumericType a && isNumericType b
      · have hacc : ¬ OperatorFamily.equality.Accepts a b := fun h =>
          h.elim hab fun h' => by simp [h'.1, h'.2] at hn
        simp [hab, hacc, ValidationContext.accept]
      · have hacc : OperatorFamily.equality.Accepts a b := .inr (Bool.and_eq_true _ _ ▸ hn)
        simp [hab, hacc, ValidationContext.accept]
  case relational =>
    unfold inferTypeFromBinaryRelationalExpression
    dsimp only
    cases ha : isNumericType a
    · have hacc : ¬ OperatorFamily.relational.Accepts a b := fun h => absurd h.1 (by simp [ha])
      simp [hacc, ValidationContext.accept]
    cases hb : isNumericType b
    · have hacc : ¬ OperatorFamily.relational.Accepts a b := fun h => absurd h.2 (by simp [hb])
      simp [hacc, ValidationContext.accept]
    have hacc : OperatorFamily.relational.Accepts a b := ⟨ha, hb⟩
    by_cases hab : a = b
    · subst hab
      simp [hacc]
    · simp [hab, hacc, ValidationContext.accept]
  case logical =>
    unfold inferTypeFromBinaryLogicalExpression
    dsimp only
    by_cases ha : a = .boolean <;> by_cases hb : b = .boolean <;>
      simp [ha, hb, OperatorFamily.Accepts, ValidationContext.accept, HasError]

theorem binary_none_left {expression left right : Expression} {operator : BinaryOperator}
    (rightType : Option PropertyValuetype) :
    inferTypeFromBinaryExpression expression left right operator none rightType context =
      (none, context) := by
  unfold inferTypeFromBinaryExpression
  cases operator.family <;> rfl

theorem binary_none_right {expression left right : Expression} {operator : BinaryOperator}
    (leftType : Option PropertyValuetype) :
    inferTypeFromBinaryExpression expression left right operator leftType none context =
      (none, context) := by
  unfold inferTypeFromBinaryExpression
  cases operator.family <;> cases leftType <;> rfl

theorem binary_fst_eq_some {expression left right : Expression} {operator : BinaryOperator}
    {leftType rightType : Option PropertyValuetype} :
    (inferTypeFromBinaryExpression expression left right operator leftType rightType
      context).1 = some t ↔
      ∃ a b, leftType = some a ∧ rightType = some b ∧ operator.family.Accepts a b ∧
        t = .boolean := by
  cases leftType with
  | none => simp [binary_none_left]
  | some a =>
    cases rightType with
    | none => simp [binary_none_right]
    | some b =>
      rw [(binary_some_some operator a b).1]
      split_ifs with h <;> simp [h, eq_comm]

theorem unaryLogical_fst_eq_none {inner : Expression} {innerType : Option PropertyValuetype} :
    (inferTypeFromUnaryLogicalExpression inner innerType context).1 = none ↔
      innerType = none ∨ HasError (inferTypeFromUnaryLogicalExpression inner innerType
        .empty).2.diagnostics := by
  unfold inferTypeFromUnaryLogicalExpression
  split <;> (try split_ifs) <;> simp [ValidationContext.accept]

theorem binary_fst_eq_none {expression left right : Expression} {operator : BinaryOperator}
    {leftType rightType : Option PropertyValuetype} :
    (inferTypeFromBinaryExpression expression left right operator leftType rightType
      context).1 = none ↔
      leftType = none ∨ rightType = none ∨
        HasError (inferTypeFromBinaryExpression expression left right operator leftType rightType
          .empty).2.diagnostics := by
  cases leftType with
  | none => simp [binary_none_left]
  | some a =>
    cases rightType with
    | none => simp [binary_none_right]
    | some b =>
      rw [(binary_some_some operator a b).1, (@binary_some_some context _ _ _ operator a b).2]
      split_ifs with h <;> simp [h]

end Results

/-- Inference is sound and complete for the typing rules. -/
theorem inferredType_eq_some_iff {e : Expression} {t : PropertyValuetype} :
    inferredType e = some t ↔ WellTyped e t := by
  induction e generalizing t with
  | textLiteral value =>
    refine ⟨fun h => ?_, fun h => ?_⟩
    · cases h; exact .textLiteral value
    · cases h; rfl
  | booleanLiteral value =>
    refine ⟨fun h => ?_, fun h => ?_⟩
    · cases h; exact .booleanLiteral value
    · cases h; rfl
  | numericLiteral value =>
    refine ⟨fun h => ?_, fun h => ?_⟩
    · cases hi : isInteger value <;>
        simp [inferredType, inferTypeFromExpression, hi] at h <;> subst h
      · exact .decimalLiteral hi
      · exact .integerLiteral hi
    · cases h <;> simp_all [inferredType, inferTypeFromExpression]
  | unaryExpression operator inner ih =>
    cases operator
    rw [inferredType_not, unaryLogical_fst_eq_some, ih]
    exact ⟨fun ⟨h, ht⟩ => ht ▸ .not h, fun h => by cases h; exact ⟨‹_›, rfl⟩⟩
  | binaryExpression operator left right ihl ihr =>
    simp only [inferredType_binaryExpression, binary_fst_eq_some, ihl, ihr]
    exact ⟨fun ⟨_, _, hl, hr, ha, ht⟩ => ht ▸ .binary hl hr ha,
      fun h => by cases h; exact ⟨_, _, ‹_›, ‹_›, ‹_›, rfl⟩⟩

theorem hasError_inferenceDiagnostics (e : Expression) :
    HasError (inferenceDiagnostics e) ↔ inferredType e = none := by
  induction e with
  | textLiteral | booleanLiteral | numericLiteral =>
    simp [inferenceDiagnostics, inferredType, inferTypeFromExpression]
  | unaryExpression operator inner ih =>
    cases operator
    rw [inferenceDiagnostics_not, inferredType_not, hasError_append, ih, unaryLogical_fst_eq_none]
  | binaryExpression operator left right ihl ihr =>
    rw [inferenceDiagnostics_binaryExpression, inferredType_binaryExpression, hasError_append,
      hasError_append, ihl, ihr, binary_fst_eq_none, or_assoc]

/-- For every expression and every context, inference appends the diagnostics of
the expression on its own, returns `undefined` exactly when one of them is an
error, and reports first what the operands report on their own, left before right. -/
theorem inferTypeFromValue_undefined_iff_error (e : Expression) (context : InferenceContext) :
    (inferTypeFromValue (.expression e) context).2.diagnostics =
        context.diagnostics ++ inferenceDiagnostics e ∧
      ((inferTypeFromValue (.expression e) context).1 = none ↔
        HasError (inferenceDiagnostics e)) ∧
      (∀ operator inner, e = .unaryExpression operator inner →
        inferenceDiagnostics inner <+: inferenceDiagnostics e) ∧
      (∀ operator left right, e = .binaryExpression operator left right →
        inferenceDiagnostics left ++ inferenceDiagnostics right <+: inferenceDiagnostics e) := by
  simp only [inferTypeFromValue, inferTypeFromExpression_eq e context,
    hasError_inferenceDiagnostics]
  refine ⟨trivial, Iff.rfl, ?_, ?_⟩
  · rintro ⟨⟩ inner rfl
    exact ⟨_, (inferenceDiagnostics_not inner).symm⟩
  · rintro operator left right rfl
    exact ⟨_, (inferenceDiagnostics_binaryExpression operator left right).symm⟩

end Jayvee
