import Jayvee.Interpreter.RuntimeParameters

/-! # Run options

`parseRunOptions` of `run-options.ts`. It checks that the raw value is an object
with the six option fields, then runs one check per field, each logging an
error when its field is malformed. The results of the checks are not used: the
options are built from the raw fields whatever the checks said, and building
the debug targets calls `split` on the raw `debugTarget`, which throws when it
is not a string. Printing a rejected value can throw too, when `JSON.stringify`
meets a BigInt; these are the only ways `parseRunOptions` throws.
-/

namespace Jayvee

/-- A plain-data JavaScript value. An object lists its own enumerable properties
in the order `Object.keys` gives them, a `Map` its entries; cyclic objects,
getters, Proxies, functions, symbols and `toJSON` methods are left out. -/
inductive JsValue
  | undefined
  | null
  | boolean (value : Bool)
  | number (value : Float)
  | bigint (value : Int)
  | string (value : String)
  | object (properties : List (String × JsValue))
  | array (elements : List JsValue)
  | map (entries : List (JsValue × JsValue))

namespace JsValue

def typeof : JsValue → String
  | .undefined => "undefined"
  | .null => "object"
  | .boolean _ => "boolean"
  | .number _ => "number"
  | .bigint _ => "bigint"
  | .string _ => "string"
  | .object _ | .array _ | .map _ => "object"

/-- `value == null`. -/
def looseEqualsNull : JsValue → Bool
  | .undefined | .null => true
  | _ => false

/-- `key in value` on an object, for keys that no prototype defines. -/
def hasProperty : JsValue → String → Bool
  | .object properties, key => properties.any (·.1 == key)
  | .array elements, key => key == "length" || (List.range elements.length).any (toString · == key)
  | _, _ => false

/-- `value[key]` on an object. -/
def getProperty : JsValue → String → JsValue
  | .object properties, key => (properties.lookup key).getD .undefined
  | _, _ => .undefined

end JsValue

section Json

variable (numberToString : Float → String)

def wrapJSON (opening closing gap stepback : String) (members : List String) : String :=
  if members = [] then opening ++ closing
  else if gap = "" then opening ++ ",".intercalate members ++ closing
  else opening ++ "\n" ++ stepback ++ gap ++ (",\n" ++ stepback ++ gap).intercalate members ++
    "\n" ++ stepback ++ closing

mutual

/-- `SerializeJSONProperty` of the ECMAScript standard at the current `indent`:
`none` is `undefined`, and a BigInt throws a `TypeError`. `numberToString` is
`Number::toString`, whose digit generation is not modelled. -/
def serializeJSONProperty (gap indent : String) : JsValue → Except String (Option String)
  | .undefined => pure none
  | .null => pure (some "null")
  | .boolean value => pure (some (if value then "true" else "false"))
  | .number value => pure (some (if value.isFinite then numberToString value else "null"))
  | .bigint _ => throw "Do not know how to serialize a BigInt"
  | .string value => pure (some (jsonStringify value))
  | .object properties => do
    let members ← serializeJSONMembers gap (indent ++ gap) properties
    pure (some (wrapJSON "\x7b" "\x7d" gap indent members))
  | .array elements => do
    let members ← serializeJSONElements gap (indent ++ gap) elements
    pure (some (wrapJSON "[" "]" gap indent members))
  | .map _ => pure (some "\x7b\x7d")

def serializeJSONMembers (gap indent : String) :
    List (String × JsValue) → Except String (List String)
  | [] => pure []
  | (key, value) :: rest => do
    let strP ← serializeJSONProperty gap indent value
    let members ← serializeJSONMembers gap indent rest
    pure (match strP with
      | some text => (jsonStringify key ++ ":" ++ (if gap = "" then "" else " ") ++ text) :: members
      | none => members)

def serializeJSONElements (gap indent : String) : List JsValue → Except String (List String)
  | [] => pure []
  | value :: rest => do
    let strP ← serializeJSONProperty gap indent value
    let members ← serializeJSONElements gap indent rest
    pure (strP.getD "null" :: members)

end

/-- `${JSON.stringify(value)}` in a template literal, where `undefined` prints as such. -/
def jsonStringifyText (value : JsValue) : Except String String :=
  (serializeJSONProperty numberToString "" "" value).map (·.getD "undefined")

end Json

namespace JsValue

mutual

/-- A BigInt that `JSON.stringify` reaches; the entries of a `Map` are not visited. -/
def containsBigInt : JsValue → Bool
  | .bigint _ => true
  | .object properties => propertiesContainBigInt properties
  | .array elements => elementsContainBigInt elements
  | _ => false

def propertiesContainBigInt : List (String × JsValue) → Bool
  | [] => false
  | (_, value) :: rest => containsBigInt value || propertiesContainBigInt rest

def elementsContainBigInt : List JsValue → Bool
  | [] => false
  | value :: rest => containsBigInt value || elementsContainBigInt rest

end

end JsValue

/-- `x` throws exactly when `b` holds. -/
def ThrowsWhen {α : Type} (b : Bool) : Except String α → Prop
  | .ok _ => b = false
  | .error _ => b = true

namespace ThrowsWhen

variable {α γ : Type} {b c : Bool} {x : Except String α}

theorem pure (a : α) : ThrowsWhen false (Pure.pure a : Except String α) := rfl

theorem bind {f : α → Except String γ} (hx : ThrowsWhen b x) (hf : ∀ a, ThrowsWhen c (f a)) :
    ThrowsWhen (b || c) (x >>= f) := by
  cases x with
  | error => obtain rfl : b = true := hx; rfl
  | ok a => obtain rfl : b = false := hx; exact hf a

theorem map (f : α → γ) (hx : ThrowsWhen b x) : ThrowsWhen b (x.map f) := by
  cases x <;> exact hx

theorem exists_error_iff (hx : ThrowsWhen b x) : (∃ message, x = .error message) ↔ b = true := by
  cases x <;> simp_all [ThrowsWhen]

end ThrowsWhen

section Json

variable (numberToString : Float → String)

mutual

/-- `JSON.stringify` throws exactly on the values that reach a BigInt. -/
theorem serializeJSONProperty_throwsWhen (gap indent : String) : (value : JsValue) →
    ThrowsWhen value.containsBigInt (serializeJSONProperty numberToString gap indent value)
  | .undefined | .null | .boolean _ | .number _ | .bigint _ | .string _ | .map _ => rfl
  | .object properties => by
    rw [serializeJSONProperty, JsValue.containsBigInt,
      ← Bool.or_false (JsValue.propertiesContainBigInt properties)]
    exact (serializeJSONMembers_throwsWhen gap (indent ++ gap) properties).bind fun _ =>
      .pure _
  | .array elements => by
    rw [serializeJSONProperty, JsValue.containsBigInt,
      ← Bool.or_false (JsValue.elementsContainBigInt elements)]
    exact (serializeJSONElements_throwsWhen gap (indent ++ gap) elements).bind fun _ => .pure _

theorem serializeJSONMembers_throwsWhen (gap indent : String) :
    (properties : List (String × JsValue)) →
    ThrowsWhen (JsValue.propertiesContainBigInt properties)
      (serializeJSONMembers numberToString gap indent properties)
  | [] => rfl
  | (_, value) :: rest => by
    rw [serializeJSONMembers, JsValue.propertiesContainBigInt,
      ← Bool.or_false (JsValue.propertiesContainBigInt rest)]
    exact (serializeJSONProperty_throwsWhen gap indent value).bind fun _ =>
      (serializeJSONMembers_throwsWhen gap indent rest).bind fun _ => .pure _

theorem serializeJSONElements_throwsWhen (gap indent : String) : (elements : List JsValue) →
    ThrowsWhen (JsValue.elementsContainBigInt elements)
      (serializeJSONElements numberToString gap indent elements)
  | [] => rfl
  | value :: rest => by
    rw [serializeJSONElements, JsValue.elementsContainBigInt,
      ← Bool.or_false (JsValue.elementsContainBigInt rest)]
    exact (serializeJSONProperty_throwsWhen gap indent value).bind fun _ =>
      (serializeJSONElements_throwsWhen gap indent rest).bind fun _ => .pure _

end

theorem jsonStringifyText_throwsWhen (value : JsValue) :
    ThrowsWhen value.containsBigInt (jsonStringifyText numberToString value) :=
  (serializeJSONProperty_throwsWhen numberToString "" "" value).map _

end Json

/-- The errors `logErr` has printed, oldest first. -/
structure Logger where
  errors : List String

def Logger.logErr (logger : Logger) (message : String) : Logger := ⟨logger.errors ++ [message]⟩

@[simp] theorem Logger.logErr_errors (logger : Logger) (message : String) :
    (logger.logErr message).errors = logger.errors ++ [message] := rfl

/-- What `run-options.ts` imports from the execution library, which is not in the source. -/
structure DebugLibrary where
  debugGranularityValues : List String
  defaultDebugTargetsValue : String
  isDebugGranularity : JsValue → Bool

inductive DebugTargets
  | defaultValue
  | blocks (names : List String)

structure RunOptions where
  pipeline : JsValue
  env : JsValue
  debug : Bool
  debugGranularity : JsValue
  debugTarget : DebugTargets
  parseOnly : Bool

def isBooleanLike : JsValue → Bool
  | .boolean _ => true
  | .string value => value == "true" || value == "false"
  | _ => false

def isTrueLike : JsValue → Bool
  | .boolean value => value
  | .string value => value == "true"
  | _ => false

def isStringMap : JsValue → Bool
  | .map entries =>
    entries.all fun entry => entry.1.typeof == "string" && entry.2.typeof == "string"
  | _ => false

/-- The characters `String.prototype.trim` removes: white space and line terminators. -/
def isJsWhitespace (c : Char) : Bool :=
  c.toNat ∈ [0x09, 0x0A, 0x0B, 0x0C, 0x0D, 0x20, 0xA0, 0x1680, 0x2028, 0x2029, 0x202F, 0x205F,
    0x3000, 0xFEFF] || (0x2000 ≤ c.toNat && c.toNat ≤ 0x200A)

def jsTrim (value : String) : String :=
  String.mk ((value.data.dropWhile isJsWhitespace).reverse.dropWhile isJsWhitespace).reverse

section Parse

variable (lib : DebugLibrary) (numberToString : Float → String)

/-- The argument checks share one shape: when `valid` rejects the argument, log
that its value is invalid for `option`, then what the option requires. -/
def checkArgument (valid : JsValue → Bool) (option requirement : String) (arg : JsValue)
    (logger : Logger) : Except String (Bool × Logger) :=
  if valid arg then pure (true, logger)
  else do
    let text ← jsonStringifyText numberToString arg
    pure (false, logger.logErr ("Invalid value \"" ++ text ++ "\" for " ++ option ++ ".\n" ++
      requirement))

def isPipelineArgument : JsValue → Logger → Except String (Bool × Logger) :=
  checkArgument numberToString (·.typeof == "string") "pipeline selection option: -p --pipeline"
    "Must be a string value."

def isDebugGranularityArgument : JsValue → Logger → Except String (Bool × Logger) :=
  checkArgument numberToString lib.isDebugGranularity
    "debug granularity option: -dg --debug-granularity"
    ("Must be one of the following values: " ++ ", ".intercalate lib.debugGranularityValues ++ ".")

def isDebugTargetArgument : JsValue → Logger → Except String (Bool × Logger) :=
  checkArgument numberToString (·.typeof == "string") "debug target option: -dt --debug-target"
    "Must be a string value."

def isDebugArgument : JsValue → Logger → Except String (Bool × Logger) :=
  checkArgument numberToString isBooleanLike "debug option: -d --debug" "Must be true or false."

def isParseOnlyArgument : JsValue → Logger → Except String (Bool × Logger) :=
  checkArgument numberToString isBooleanLike "parse-only option: -po --parse-only"
    "Must be true or false."

def isEnvArgument : JsValue → Logger → Except String (Bool × Logger) :=
  checkArgument numberToString isStringMap "env option: -e --env"
    "Must be map from string keys to string values."

/-- `debugTargetsString === DefaultDebugTargetsValue` holds only of that string;
any other value is split, and `split` is a method of strings alone. -/
def getDebugTargets (debugTargetsString : JsValue) : Except String DebugTargets :=
  match debugTargetsString with
  | .string value =>
    if value = lib.defaultDebugTargetsValue then pure .defaultValue
    else pure (.blocks ((value.splitOn ",").map jsTrim))
  | .undefined => throw "Cannot read properties of undefined (reading \x27split\x27)"
  | .null => throw "Cannot read properties of null (reading \x27split\x27)"
  | _ => throw "debugTargetsString.split is not a function"

def requiredFields : List String :=
  ["pipeline", "env", "debug", "debugGranularity", "debugTarget", "parseOnly"]

def parseRunOptionsFields (options : JsValue) (logger : Logger) :
    Except String (Option RunOptions × Logger) := do
  let (_, logger) ← isPipelineArgument numberToString (options.getProperty "pipeline") logger
  let (_, logger) ← isEnvArgument numberToString (options.getProperty "env") logger
  let (_, logger) ← isDebugArgument numberToString (options.getProperty "debug") logger
  let (_, logger) ← isDebugGranularityArgument lib numberToString
    (options.getProperty "debugGranularity") logger
  let (_, logger) ← isDebugTargetArgument numberToString (options.getProperty "debugTarget") logger
  let (_, logger) ← isParseOnlyArgument numberToString (options.getProperty "parseOnly") logger
  let debugTarget ← getDebugTargets lib (options.getProperty "debugTarget")
  pure (some ⟨options.getProperty "pipeline", options.getProperty "env",
    isTrueLike (options.getProperty "debug"), options.getProperty "debugGranularity", debugTarget,
    isTrueLike (options.getProperty "parseOnly")⟩, logger)

/-- The outer `Except` is a thrown `TypeError`; `none` is `undefined`. -/
def parseRunOptions (optionsRaw : JsValue) (logger : Logger) :
    Except String (Option RunOptions × Logger) :=
  if optionsRaw.typeof ≠ "object" ∨ optionsRaw.looseEqualsNull then
    pure (none,
      logger.logErr "Error in the interpreter: didn\x27t receive a valid RunOptions object.")
  else if requiredFields.any (!optionsRaw.hasProperty ·) then do
    let text ← (serializeJSONProperty numberToString "  " "" optionsRaw).map (·.getD "undefined")
    pure (none, logger.logErr
      ("Error in the interpreter: didn\x27t receive a valid RunOptions object. Must have the fields " ++
        ", ".intercalate (requiredFields.map fun f => "\"" ++ f ++ "\"") ++ " but got object " ++
        text))
  else parseRunOptionsFields lib numberToString optionsRaw logger

def fieldChecks : List (String × (JsValue → Bool)) :=
  [("pipeline", (·.typeof == "string")), ("env", isStringMap), ("debug", isBooleanLike),
    ("debugGranularity", lib.isDebugGranularity), ("debugTarget", (·.typeof == "string")),
    ("parseOnly", isBooleanLike)]

end Parse

variable {lib : DebugLibrary} {numberToString : Float → String}

def loggedCheck (valid : JsValue → Bool) (option requirement text : String) (arg : JsValue)
    (logger : Logger) : Logger :=
  if valid arg then logger
  else logger.logErr ("Invalid value \"" ++ text ++ "\" for " ++ option ++ ".\n" ++ requirement)

theorem loggedCheck_length (valid : JsValue → Bool) (option requirement text : String)
    (arg : JsValue) (logger : Logger) :
    (loggedCheck valid option requirement text arg logger).errors.length =
      logger.errors.length + if (!valid arg) = true then 1 else 0 := by
  unfold loggedCheck
  cases valid arg <;> simp

theorem checkArgument_eq {valid : JsValue → Bool} {option requirement : String} {arg : JsValue}
    {text : String} (htext : jsonStringifyText numberToString arg = .ok text) (logger : Logger) :
    checkArgument numberToString valid option requirement arg logger =
      .ok (valid arg, loggedCheck valid option requirement text arg logger) := by
  unfold checkArgument loggedCheck
  cases valid arg <;> simp [htext]

theorem getDebugTargets_ok_iff (debugTargetsString : JsValue) :
    (∃ debugTargets, getDebugTargets lib debugTargetsString = .ok debugTargets) ↔
      debugTargetsString.typeof = "string" := by
  unfold getDebugTargets
  cases debugTargetsString <;> simp [JsValue.typeof]
  split_ifs <;> simp

theorem parseRunOptionsFields_eq {options : JsValue}
    (hprint : ∀ f ∈ requiredFields,
      ∃ text, jsonStringifyText numberToString (options.getProperty f) = .ok text)
    (logger : Logger) :
    ∃ logger', parseRunOptionsFields lib numberToString options logger =
        (getDebugTargets lib (options.getProperty "debugTarget")).map (fun debugTarget =>
          (some ⟨options.getProperty "pipeline", options.getProperty "env",
            isTrueLike (options.getProperty "debug"), options.getProperty "debugGranularity",
            debugTarget, isTrueLike (options.getProperty "parseOnly")⟩, logger')) ∧
      logger'.errors.length = logger.errors.length +
        (fieldChecks lib).countP fun check => !check.2 (options.getProperty check.1) := by
  simp only [requiredFields, List.mem_cons, List.mem_singleton, forall_eq_or_imp, forall_eq,
    List.not_mem_nil, false_imp_iff, implies_true, and_true] at hprint
  obtain ⟨⟨t₁, h₁⟩, ⟨t₂, h₂⟩, ⟨t₃, h₃⟩, ⟨t₄, h₄⟩, ⟨t₅, h₅⟩, ⟨t₆, h₆⟩⟩ := hprint
  simp only [parseRunOptionsFields, isPipelineArgument, isEnvArgument, isDebugArgument,
    isDebugGranularityArgument, isDebugTargetArgument, isParseOnlyArgument]
  rw [checkArgument_eq h₁, ok_bind, checkArgument_eq h₂, ok_bind, checkArgument_eq h₃, ok_bind,
    checkArgument_eq h₄, ok_bind, checkArgument_eq h₅, ok_bind, checkArgument_eq h₆, ok_bind]
  refine ⟨_, by cases getDebugTargets lib (options.getProperty "debugTarget") <;> rfl, ?_⟩
  simp only [loggedCheck_length, fieldChecks, List.countP_cons, List.countP_nil]
  omega

theorem parseRunOptions_eq_fields {optionsRaw : JsValue} (hobject : optionsRaw.typeof = "object")
    (hnull : optionsRaw.looseEqualsNull = false)
    (hfields : ∀ f ∈ requiredFields, optionsRaw.hasProperty f = true) (logger : Logger) :
    parseRunOptions lib numberToString optionsRaw logger =
      parseRunOptionsFields lib numberToString optionsRaw logger := by
  have hany : requiredFields.any (!optionsRaw.hasProperty ·) = false :=
    List.any_eq_false.mpr fun f hf => by simp [hfields f hf]
  simp [parseRunOptions, hobject, hnull, hany]

theorem checkArgument_throwsWhen (valid : JsValue → Bool) (option requirement : String)
    (arg : JsValue) (logger : Logger) :
    ThrowsWhen (!valid arg && arg.containsBigInt)
      (checkArgument numberToString valid option requirement arg logger) := by
  unfold checkArgument
  cases valid arg with
  | true => rfl
  | false =>
    rw [Bool.not_false, Bool.true_and, ← Bool.or_false arg.containsBigInt]
    exact (jsonStringifyText_throwsWhen numberToString arg).bind fun _ => .pure _

theorem getDebugTargets_throwsWhen (debugTargetsString : JsValue) :
    ThrowsWhen (debugTargetsString.typeof != "string")
      (getDebugTargets lib debugTargetsString) := by
  cases debugTargetsString <;> try rfl
  unfold getDebugTargets
  dsimp only
  split_ifs <;> rfl

theorem parseRunOptionsFields_throwsWhen (options : JsValue) (logger : Logger) :
    ThrowsWhen ((fieldChecks lib).any (fun check =>
        !check.2 (options.getProperty check.1) && (options.getProperty check.1).containsBigInt) ||
        (options.getProperty "debugTarget").typeof != "string")
      (parseRunOptionsFields lib numberToString options logger) := by
  have h : ThrowsWhen _ (parseRunOptionsFields lib numberToString options logger) :=
    (checkArgument_throwsWhen _ _ _ _ logger).bind fun p =>
    (checkArgument_throwsWhen _ _ _ _ p.2).bind fun p =>
    (checkArgument_throwsWhen _ _ _ _ p.2).bind fun p =>
    (checkArgument_throwsWhen _ _ _ _ p.2).bind fun p =>
    (checkArgument_throwsWhen _ _ _ _ p.2).bind fun p =>
    (checkArgument_throwsWhen _ _ _ _ p.2).bind fun _ =>
    (@getDebugTargets_throwsWhen lib _).bind fun _ => .pure _
  simpa only [fieldChecks, List.any_cons, List.any_nil, Bool.or_false, Bool.or_assoc] using h

/-- `parseRunOptions` throws in two ways only: `JSON.stringify` meets a BigInt in
a value it prints (the whole raw value when a field is missing, otherwise a field
whose check rejects it), or `debugTarget` is not a string. -/
theorem parseRunOptions_throws_iff (optionsRaw : JsValue) (logger : Logger) :
    (∃ message, parseRunOptions lib numberToString optionsRaw logger = .error message) ↔
      optionsRaw.typeof = "object" ∧ optionsRaw.looseEqualsNull = false ∧
        if ∀ f ∈ requiredFields, optionsRaw.hasProperty f = true then
          (∃ check ∈ fieldChecks lib, check.2 (optionsRaw.getProperty check.1) = false ∧
            (optionsRaw.getProperty check.1).containsBigInt = true) ∨
          (optionsRaw.getProperty "debugTarget").typeof ≠ "string"
        else optionsRaw.containsBigInt = true := by
  unfold parseRunOptions
  by_cases hobject : optionsRaw.typeof ≠ "object" ∨ optionsRaw.looseEqualsNull = true
  · rw [if_pos hobject]
    constructor
    · rintro ⟨_, ⟨⟩⟩
    · rintro ⟨h₁, h₂, -⟩
      rcases hobject with h | h <;> simp_all
  · rw [if_neg hobject]
    obtain ⟨h₁, h₂⟩ : optionsRaw.typeof = "object" ∧ optionsRaw.looseEqualsNull = false := by
      simpa [not_or] using hobject
    have hmissing : requiredFields.any (!optionsRaw.hasProperty ·) = true ↔
        ¬ ∀ f ∈ requiredFields, optionsRaw.hasProperty f = true := by
      simp [List.any_eq_true]
    simp only [h₁, h₂, true_and]
    split_ifs with hany hall hall
    · exact absurd hall (hmissing.mp hany)
    · rw [(((serializeJSONProperty_throwsWhen numberToString "  " "" optionsRaw).map _).bind
        fun _ => .pure _).exists_error_iff, Bool.or_false]
    · rw [(parseRunOptionsFields_throwsWhen optionsRaw logger).exists_error_iff]
      simp [List.any_eq_true]
    · exact absurd (hmissing.mpr hall) hany

def booleanPipelineOptions : JsValue :=
  .object [("pipeline", .boolean true), ("env", .map []), ("debug", .boolean false),
    ("debugGranularity", .string "peek"), ("debugTarget", .string "all"),
    ("parseOnly", .boolean false)]

theorem booleanPipelineOptions_printable (numberToString : Float → String) :
    ∀ f ∈ requiredFields,
      ∃ text,
        jsonStringifyText numberToString (booleanPipelineOptions.getProperty f) = .ok text := by
  simp only [requiredFields, List.mem_cons, List.mem_singleton, List.not_mem_nil, or_false]
  rintro f (rfl | rfl | rfl | rfl | rfl | rfl) <;> exact ⟨_, rfl⟩

def nullDebugTargetOptions : JsValue :=
  .object [("pipeline", .string "p"), ("env", .map []), ("debug", .boolean false),
    ("debugGranularity", .string "peek"), ("debugTarget", .null), ("parseOnly", .boolean false)]

/-- Whatever the library: the pipeline check rejects a boolean `pipeline` and
logs an error, yet `parseRunOptions` returns options whose `pipeline` is that
boolean; and a `null` debug target, which its check rejects too, makes it throw. -/
theorem parseRunOptions_returns_after_failed_check (lib : DebugLibrary)
    (numberToString : Float → String) :
    isPipelineArgument numberToString (.boolean true) ⟨[]⟩ = .ok (false,
        ⟨["Invalid value \"true\" for pipeline selection option: -p --pipeline.\nMust be a string value."]⟩) ∧
      (∃ options logger, parseRunOptions lib numberToString booleanPipelineOptions ⟨[]⟩ =
          .ok (some options, logger) ∧ options.pipeline = .boolean true ∧ logger.errors ≠ []) ∧
      parseRunOptions lib numberToString nullDebugTargetOptions ⟨[]⟩ =
        .error "Cannot read properties of null (reading \x27split\x27)" := by
  refine ⟨rfl, ?_, ?_⟩
  · obtain ⟨logger', heq, hlen⟩ := @parseRunOptionsFields_eq lib _ _
      (booleanPipelineOptions_printable numberToString) ⟨[]⟩
    obtain ⟨debugTarget, hdebug⟩ :=
      (@getDebugTargets_ok_iff lib (booleanPipelineOptions.getProperty "debugTarget")).mpr rfl
    have hobject : booleanPipelineOptions.typeof = "object" := rfl
    refine ⟨_, logger', by rw [parseRunOptions_eq_fields hobject rfl (by decide), heq, hdebug]; rfl,
      rfl, fun hnil => ?_⟩
    have hpipeline : (!(booleanPipelineOptions.getProperty "pipeline").typeof == "string") = true :=
      rfl
    simp only [hnil, List.length_nil, fieldChecks, List.countP_cons, List.countP_nil, hpipeline,
      ↓reduceIte] at hlen
    omega
  · have hprint : ∀ f ∈ requiredFields,
        ∃ text,
          jsonStringifyText numberToString (nullDebugTargetOptions.getProperty f) = .ok text := by
      simp only [requiredFields, List.mem_cons, List.mem_singleton, List.not_mem_nil, or_false]
      rintro f (rfl | rfl | rfl | rfl | rfl | rfl) <;> exact ⟨_, rfl⟩
    obtain ⟨logger', heq, -⟩ := @parseRunOptionsFields_eq lib _ _ hprint ⟨[]⟩
    have hobject : nullDebugTargetOptions.typeof = "object" := rfl
    rw [parseRunOptions_eq_fields hobject rfl (by decide), heq]
    rfl

end Jayvee
