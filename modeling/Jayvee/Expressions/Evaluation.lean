import Jayvee.Expressions.TypeInference

/-! # Evaluation of constant expressions

`evaluateExpression` returns a JavaScript boolean, number or string and
asserts the `typeof` of each operand it uses; a failed assertion throws. Every
expression the inference accepts evaluates without a failed assertion to a
value of the inferred type: the typing rules are sound for the evaluator.
-/

namespace Jayvee

/-- The values `boolean | number | string` of the evaluator. -/
inductive ExpressionValue
  | boolean (value : Bool)
  | number (value : Float)
  | string (value : String)

namespace ExpressionValue

def typeof : ExpressionValue → String
  | .boolean _ => "boolean"
  | .number _ => "number"
  | .string _ => "string"

/-- `===` between two values. -/
def strictEquals : ExpressionValue → ExpressionValue → Bool
  | .boolean a, .boolean b => a == b
  | .number a, .number b => a == b
  | .string a, .string b => a == b
  | _, _ => false

/-- `assert(typeof value === 'boolean')`, after which `value` is a boolean. -/
def asBoolean : ExpressionValue → Except String Bool
  | .boolean value => pure value
  | _ => throw assertionError

/-- `assert(typeof value === 'number')`, after which `value` is a number. -/
def asNumber : ExpressionValue → Except String Float
  | .number value => pure value
  | _ => throw assertionError

/-- The runtime kind a static type denotes; an integer is an integral number. -/
def HasType : ExpressionValue → PropertyValuetype → Prop
  | .boolean _, .boolean => True
  | .string _, .text => True
  | .number _, .decimal => True
  | .number value, .integer => isInteger value = true
  | _, _ => False

end ExpressionValue

open ExpressionValue

def evaluateExpression : Expression → Except String ExpressionValue
  | .textLiteral value => pure (.string value)
  | .booleanLiteral value => pure (.boolean value)
  | .numericLiteral value => pure (.number value)
  | .unaryExpression .not expression => do
    let innerValue ← asBoolean (← evaluateExpression expression)
    pure (.boolean !innerValue)
  | .binaryExpression .eq left right => do
    let leftValue ← evaluateExpression left
    let rightValue ← evaluateExpression right
    if leftValue.typeof ≠ rightValue.typeof then throw assertionError
    pure (.boolean (leftValue.strictEquals rightValue))
  | .binaryExpression .neq left right => do
    let leftValue ← evaluateExpression left
    let rightValue ← evaluateExpression right
    if leftValue.typeof ≠ rightValue.typeof then throw assertionError
    pure (.boolean !(leftValue.strictEquals rightValue))
  | .binaryExpression .lt left right => do
    let leftValue ← asNumber (← evaluateExpression left)
    let rightValue ← asNumber (← evaluateExpression right)
    pure (.boolean (decide (leftValue < rightValue)))
  | .binaryExpression .le left right => do
    let leftValue ← asNumber (← evaluateExpression left)
    let rightValue ← asNumber (← evaluateExpression right)
    pure (.boolean (decide (leftValue ≤ rightValue)))
  | .binaryExpression .gt left right => do
    let leftValue ← asNumber (← evaluateExpression left)
    let rightValue ← asNumber (← evaluateExpression right)
    pure (.boolean (decide (leftValue > rightValue)))
  | .binaryExpression .ge left right => do
    let leftValue ← asNumber (← evaluateExpression left)
    let rightValue ← asNumber (← evaluateExpression right)
    pure (.boolean (decide (leftValue ≥ rightValue)))
  | .binaryExpression .xor left right => do
    let leftValue ← asBoolean (← evaluateExpression left)
    let rightValue ← asBoolean (← evaluateExpression right)
    pure (.boolean ((leftValue && !rightValue) || (!leftValue && rightValue)))
  | .binaryExpression .and left right => do
    let leftValue ← asBoolean (← evaluateExpression left)
    if !leftValue then return .boolean false
    let rightValue ← asBoolean (← evaluateExpression right)
    pure (.boolean rightValue)
  | .binaryExpression .or left right => do
    let leftValue ← asBoolean (← evaluateExpression left)
    if leftValue then return .boolean true
    let rightValue ← asBoolean (← evaluateExpression right)
    pure (.boolean rightValue)

namespace ExpressionValue

theorem HasType.boolean {v : ExpressionValue} (h : v.HasType .boolean) : ∃ b, v = .boolean b := by
  cases v <;> simp_all [HasType]

theorem HasType.number {v : ExpressionValue} {t : PropertyValuetype} (h : v.HasType t)
    (ht : isNumericType t = true) : ∃ x, v = .number x := by
  cases v <;> cases t <;> simp_all [HasType]

theorem HasType.typeof_eq {v w : ExpressionValue} {a b : PropertyValuetype} (hv : v.HasType a)
    (hw : w.HasType b) (h : OperatorFamily.equality.Accepts a b) : v.typeof = w.typeof := by
  rcases h with rfl | ⟨ha, hb⟩
  · cases v <;> cases w <;> cases a <;> simp_all [HasType, typeof]
  · obtain ⟨x, rfl⟩ := hv.number ha
    obtain ⟨y, rfl⟩ := hw.number hb
    rfl

end ExpressionValue

theorem exists_ok_boolean {x : Except String ExpressionValue} {b : Bool}
    (h : x = .ok (.boolean b)) : ∃ v, x = .ok v ∧ v.HasType .boolean := ⟨_, h, trivial⟩

/-- A well-typed expression evaluates, with every assertion holding, to a value
of its type. -/
theorem WellTyped.evaluate {e : Expression} {t : PropertyValuetype} (h : WellTyped e t) :
    ∃ v, evaluateExpression e = .ok v ∧ v.HasType t := by
  induction h with
  | textLiteral | booleanLiteral | decimalLiteral => exact ⟨_, rfl, trivial⟩
  | integerLiteral hi => exact ⟨_, rfl, hi⟩
  | not _ ih =>
    obtain ⟨v, hv, hb⟩ := ih
    obtain ⟨b, rfl⟩ := hb.boolean
    exact exists_ok_boolean
      (by simp only [evaluateExpression, hv, asBoolean, ok_bind, pure_eq_ok]; rfl)
  | @binary operator left right a b _ _ hacc ihl ihr =>
    obtain ⟨v, hv, hva⟩ := ihl
    obtain ⟨w, hw, hwb⟩ := ihr
    cases operator <;> simp only [BinaryOperator.family] at hacc
    case eq | neq =>
      have htypeof := hva.typeof_eq hwb hacc
      exact exists_ok_boolean (by simp only [evaluateExpression, hv, hw, htypeof, ok_bind, ne_eq,
        not_true_eq_false, ↓reduceIte, pure_eq_ok]; rfl)
    case lt | le | gt | ge =>
      obtain ⟨x, rfl⟩ := hva.number hacc.1
      obtain ⟨y, rfl⟩ := hwb.number hacc.2
      exact exists_ok_boolean
        (by simp only [evaluateExpression, hv, hw, asNumber, ok_bind, pure_eq_ok]; rfl)
    case xor | and | or =>
      obtain ⟨rfl, rfl⟩ := hacc
      obtain ⟨x, rfl⟩ := hva.boolean
      obtain ⟨y, rfl⟩ := hwb.boolean
      cases x <;> exact exists_ok_boolean (by
        simp only [evaluateExpression, hv, hw, asBoolean, ok_bind, pure_eq_ok, Bool.not_false,
          Bool.not_true, ↓reduceIte]
        rfl)

/-- When inference gives a property value expression a type, evaluating the
expression passes every assertion and returns a value of that type: a boolean,
a string, a number, or an integral number for `integer`. -/
theorem evaluateExpression_sound {e : Expression} {context : InferenceContext}
    {t : PropertyValuetype} (h : (inferTypeFromValue (.expression e) context).1 = some t) :
    ∃ v, evaluateExpression e = .ok v ∧ v.HasType t := by
  rw [inferTypeFromValue, inferTypeFromExpression_eq] at h
  exact (inferredType_eq_some_iff.mp h).evaluate

theorem evaluateExpression_sound_and :
    (inferTypeFromValue (.expression (.binaryExpression .and (.booleanLiteral true)
        (.booleanLiteral false))) .empty).1 = some .boolean ∧
      ∃ v, evaluateExpression (.binaryExpression .and (.booleanLiteral true)
        (.booleanLiteral false)) = .ok v ∧ v.HasType .boolean :=
  ⟨rfl, @evaluateExpression_sound _ .empty _ rfl⟩

end Jayvee
