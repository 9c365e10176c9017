import Jayvee.Ast.Pipeline

/-! # Runtime parameters

`extractRuntimeParameters` of `runtime-parameter-util.ts`. Each placeholder is
looked up in the environment and parsed to the type of the attribute it stands
in; a missing or malformed value becomes an error diagnostic and the loop goes
on, so every failing placeholder is reported, in order. The values go into one
map keyed by name: when several placeholders share a name, the last one decides
the value, whatever the types of the others.
-/

namespace Jayvee

/-- A JavaScript `Map` with string keys: its entries in insertion order, each key once. -/
structure JsMap (α : Type) where
  entries : List (String × α)
  keys_nodup : (entries.map Prod.fst).Nodup

namespace JsMap

variable {α : Type}

def empty : JsMap α := ⟨[], List.nodup_nil⟩

def keys (m : JsMap α) : List String := m.entries.map Prod.fst

def get (m : JsMap α) (key : String) : Option α := m.entries.lookup key

theorem map_update_keys (entries : List (String × α)) (key : String) (value : α) :
    (entries.map fun e => if e.1 = key then (key, value) else e).map Prod.fst =
      entries.map Prod.fst := by
  rw [List.map_map]
  congr 1
  funext e
  by_cases he : e.1 = key <;> simp [he]

/-- An existing key keeps its place and takes the new value; a new key goes last. -/
def set (m : JsMap α) (key : String) (value : α) : JsMap α :=
  if h : key ∈ m.keys then
    ⟨m.entries.map fun e => if e.1 = key then (key, value) else e,
      (map_update_keys _ _ _).symm ▸ m.keys_nodup⟩
  else ⟨m.entries ++ [(key, value)], by
    simpa [List.nodup_append] using ⟨m.keys_nodup, fun x hx => h (List.mem_map.mpr ⟨_, hx, rfl⟩)⟩⟩

@[simp] theorem get_empty (key : String) : (empty : JsMap α).get key = none := rfl

@[simp] theorem keys_empty : (empty : JsMap α).keys = [] := rfl

theorem lookup_cons_eq (e : String × α) (rest : List (String × α)) (k : String) :
    (e :: rest).lookup k = if k = e.1 then some e.2 else rest.lookup k := by
  obtain ⟨key, value⟩ := e
  by_cases h : k = key
  · subst h; simp [List.lookup_cons]
  · have hbeq : (k == key) = false := by simpa using h
    simp [List.lookup_cons, h, hbeq]

theorem lookup_map_update (entries : List (String × α)) (key k : String) (value : α) :
    (entries.map fun e => if e.1 = key then (key, value) else e).lookup k =
      if k = key ∧ key ∈ entries.map Prod.fst then some value else entries.lookup k := by
  induction entries with
  | nil => simp
  | cons e rest ih =>
    simp only [List.map_cons, List.mem_cons, lookup_cons_eq, ih]
    by_cases hk : k = key
    · subst hk
      by_cases he : e.1 = k
      · simp only [he, eq_self_iff_true, ↓reduceIte, true_and, true_or]
      · simp only [he, Ne.symm he, eq_self_iff_true, ↓reduceIte, true_and, false_or]
    · by_cases he : e.1 = key <;> simp only [he, hk, ↓reduceIte, false_and]

theorem lookup_append_singleton (entries : List (String × α)) (key k : String) (value : α)
    (h : key ∉ entries.map Prod.fst) :
    (entries ++ [(key, value)]).lookup k = if k = key then some value else entries.lookup k := by
  induction entries with
  | nil => simp [lookup_cons_eq]
  | cons e rest ih =>
    simp only [List.map_cons, List.mem_cons, not_or] at h
    simp only [List.cons_append, lookup_cons_eq, ih h.2]
    by_cases hk : k = key
    · subst hk
      simp only [h.1, ↓reduceIte]
    · simp only [hk, ↓reduceIte]

@[simp] theorem get_set (m : JsMap α) (key k : String) (value : α) :
    (m.set key value).get k = if k = key then some value else m.get k := by
  unfold set get
  split
  · rw [lookup_map_update]
    by_cases hk : k = key <;> simp_all [keys]
  · exact lookup_append_singleton _ _ _ _ ‹_›

@[simp] theorem mem_keys_set (m : JsMap α) (key k : String) (value : α) :
    k ∈ (m.set key value).keys ↔ k = key ∨ k ∈ m.keys := by
  unfold set
  split
  · simp only [keys, map_update_keys]
    exact ⟨.inr, fun hk => hk.elim (· ▸ ‹_›) id⟩
  · simp [keys, or_comm]

section Fold

variable {γ : Type} (key : γ → String) (f : γ → Option α)

theorem mem_keys_foldl (L : List γ) (m : JsMap α) (k : String) :
    k ∈ (L.foldl (fun m x => (f x).elim m (m.set (key x))) m).keys ↔
      k ∈ m.keys ∨ ∃ x ∈ L, (f x).isSome ∧ key x = k := by
  induction L generalizing m with
  | nil => simp
  | cons x rest ih =>
    rw [List.foldl_cons, ih]
    cases hx : f x <;> simp [hx, or_assoc, or_left_comm, @eq_comm _ k]

theorem get_foldl_of_forall_ne (L : List γ) (m : JsMap α) (k : String)
    (h : ∀ x ∈ L, key x ≠ k) :
    (L.foldl (fun m x => (f x).elim m (m.set (key x))) m).get k = m.get k := by
  induction L generalizing m with
  | nil => rfl
  | cons x rest ih =>
    rw [List.foldl_cons, ih _ fun y hy => h y (List.mem_cons_of_mem _ hy)]
    cases f x <;> simp [Ne.symm (h x (List.mem_cons_self _ _))]

end Fold

end JsMap

inductive RuntimeParameterValue
  | string (value : String)
  | number (value : Float)
  | boolean (value : Bool)

/-- A `${name}` placeholder: its name, the name of the attribute it stands in
(`$container.name`) and that attribute's block (`$container.$container`). -/
structure RuntimeParameter (β : Type) where
  name : String
  attributeName : String
  block : β
  deriving DecidableEq

/-- `/^[1-9][0-9]*$/.test(value)`. -/
def matchesIntegerPattern (value : String) : Bool :=
  match value.data with
  | first :: rest => ('1' ≤ first && first ≤ '9') && rest.all fun c => '0' ≤ c && c ≤ '9'
  | [] => false

def digitsValue (value : String) : Nat :=
  value.data.foldl (fun n c => 10 * n + (c.toNat - '0'.toNat)) 0

/-- The Number value of `n`: `n` rounded to 53 significant bits, to nearest with
ties to even, and `Infinity` past the largest double. -/
def numberValue (n : Nat) : Float :=
  let shift := n.log2 + 1 - 53
  let q := n >>> shift
  let r := n % (1 <<< shift)
  let m := if 1 <<< shift < 2 * r ∨ 1 <<< shift = 2 * r ∧ q % 2 = 1 then q + 1 else q
  m.toUInt64.toFloat.scaleB shift

/-- `Number.parseInt(value, 10)` on a string of decimal digits: the Number value of
the integer they denote. -/
def parseInt (value : String) : Float := numberValue (digitsValue value)

def hex4 (n : Nat) : String :=
  let digits := Nat.toDigits 16 n
  String.mk (List.replicate (4 - digits.length) '0' ++ digits)

def jsonEscape (c : Char) : String :=
  if c = '"' then "\\\""
  else if c = '\\' then "\\\\"
  else if c = '\x08' then "\\b"
  else if c = '\t' then "\\t"
  else if c = '\n' then "\\n"
  else if c = '\x0c' then "\\f"
  else if c = '\r' then "\\r"
  else if c.toNat < 32 then "\\u" ++ hex4 c.toNat
  else c.toString

/-- `JSON.stringify` of a string. -/
def jsonStringify (value : String) : String :=
  "\"" ++ String.join (value.data.map jsonEscape) ++ "\""

variable {β : Type}

section Resolver

variable (getMetaInformation : β → Option BlockMetaInformation) (blockTypeName : β → String)

/-- The outer `Except` is a failed assertion, the inner one the returned `R.Result`.
The registry lookup `getOrFailMetaInformation` throws when the type is unknown. -/
def parseParameterAsMatchingType (value : String) (requiredParameter : RuntimeParameter β) :
    Except String (Except (Diagnostic (RuntimeParameter β)) RuntimeParameterValue) := do
  let some metaInf := getMetaInformation requiredParameter.block | throw assertionError
  let some attributeSpec := metaInf.getAttributeSpecification requiredParameter.attributeName
    | throw ("Attribute with name \"" ++ requiredParameter.attributeName ++
        "\" is not allowed in a block of type " ++ blockTypeName requiredParameter.block)
  match attributeSpec.type with
  | .string => pure (.ok (.string value))
  | .int =>
    if !matchesIntegerPattern value then
      pure (.error ⟨.error, "Runtime parameter " ++ requiredParameter.name ++ " has value " ++
        jsonStringify value ++ " but should be of type integer.", requiredParameter⟩)
    else pure (.ok (.number (parseInt value)))
  | .layout => throw "Runtime parameters are not allowed for attributes of type layout"

def extractRuntimeParameter (env : JsMap String)
    (state : JsMap RuntimeParameterValue × List (Diagnostic (RuntimeParameter β)))
    (requiredParameter : RuntimeParameter β) :
    Except String (JsMap RuntimeParameterValue × List (Diagnostic (RuntimeParameter β))) :=
  match env.get requiredParameter.name with
  | none => pure (state.1, state.2 ++ [⟨.error, "Runtime parameter " ++ requiredParameter.name ++
      " is missing. Please provide a value by adding \"-e " ++ requiredParameter.name ++
      "=<value>\" to your command.", requiredParameter⟩])
  | some parameterValue => do
    match ← parseParameterAsMatchingType getMetaInformation blockTypeName parameterValue
        requiredParameter with
    | .error diagnostic => pure (state.1, state.2 ++ [diagnostic])
    | .ok value => pure (state.1.set requiredParameter.name value, state.2)

/-- `Left` (`.error`) carries the diagnostics, `Right` (`.ok`) the values by name. -/
def extractRuntimeParameters (requiredParameters : List (RuntimeParameter β))
    (env : JsMap String) :
    Except String
      (Except (List (Diagnostic (RuntimeParameter β))) (JsMap RuntimeParameterValue)) := do
  let (parameters, diagnostics) ← requiredParameters.foldlM
    (extractRuntimeParameter getMetaInformation blockTypeName env) (JsMap.empty, [])
  if diagnostics.length > 0 then pure (.error diagnostics)
  else pure (.ok parameters)

def requiredType (requiredParameter : RuntimeParameter β) : Option AttributeType :=
  ((getMetaInformation requiredParameter.block).bind
    (·.getAttributeSpecification requiredParameter.attributeName)).map (·.type)

/-- The attribute resolves to a type a runtime parameter may stand for, as the
validator ensures. -/
def AllowsRuntimeParameter (requiredParameter : RuntimeParameter β) : Prop :=
  requiredType getMetaInformation requiredParameter = some .string ∨
    requiredType getMetaInformation requiredParameter = some .int

/-- A placeholder is reported when it has no value, or when an integer is
required and its value is not an integer literal. -/
def failsToResolve (env : JsMap String) (requiredParameter : RuntimeParameter β) : Bool :=
  match env.get requiredParameter.name with
  | none => true
  | some value =>
    requiredType getMetaInformation requiredParameter == some .int && !matchesIntegerPattern value

def resolve (env : JsMap String) (requiredParameter : RuntimeParameter β) :
    Option RuntimeParameterValue :=
  match env.get requiredParameter.name, requiredType getMetaInformation requiredParameter with
  | some value, some .string => some (.string value)
  | some value, some .int =>
    if matchesIntegerPattern value then some (.number (parseInt value)) else none
  | _, _ => none

end Resolver

variable {getMetaInformation : β → Option BlockMetaInformation} {blockTypeName : β → String}
  {env : JsMap String}

theorem resolve_eq_none_iff {requiredParameter : RuntimeParameter β}
    (hp : AllowsRuntimeParameter getMetaInformation requiredParameter) :
    resolve getMetaInformation env requiredParameter = none ↔
      failsToResolve getMetaInformation env requiredParameter = true := by
  unfold resolve failsToResolve
  rcases hp with hp | hp <;> cases env.get requiredParameter.name <;> simp [hp]

theorem resolve_eq_some {requiredParameter : RuntimeParameter β} {v : RuntimeParameterValue}
    (h : resolve getMetaInformation env requiredParameter = some v) :
    ∃ value, env.get requiredParameter.name = some value ∧
      (requiredType getMetaInformation requiredParameter = some .string → v = .string value) ∧
      (requiredType getMetaInformation requiredParameter = some .int →
        v = .number (parseInt value)) := by
  unfold resolve at h
  split at h
  · cases h; exact ⟨_, ‹_›, fun _ => rfl, by simp_all⟩
  · split_ifs at h
    cases h; exact ⟨_, ‹_›, by simp_all, fun _ => rfl⟩
  · cases h

theorem extractRuntimeParameter_ok {requiredParameter : RuntimeParameter β}
    (hp : AllowsRuntimeParameter getMetaInformation requiredParameter)
    (state : JsMap RuntimeParameterValue × List (Diagnostic (RuntimeParameter β))) :
    ∃ next, extractRuntimeParameter getMetaInformation blockTypeName env state requiredParameter =
        .ok next ∧
      match resolve getMetaInformation env requiredParameter with
      | some value => next = (state.1.set requiredParameter.name value, state.2)
      | none => next.1 = state.1 ∧
          ∃ d, d.node = requiredParameter ∧ d.severity = .error ∧ next.2 = state.2 ++ [d] := by
  have htype := hp
  unfold AllowsRuntimeParameter requiredType at htype
  unfold extractRuntimeParameter resolve requiredType
  cases hm : getMetaInformation requiredParameter.block with
  | none => simp [hm] at htype
  | some metaInf =>
    cases hs : metaInf.getAttributeSpecification requiredParameter.attributeName with
    | none => simp [hm, hs] at htype
    | some attributeSpec =>
      simp only [hm, hs, Option.some_bind, Option.map_some', Option.some.injEq] at htype
      cases he : env.get requiredParameter.name with
      | none => exact ⟨_, rfl, rfl, _, rfl, rfl, rfl⟩
      | some value =>
        rcases htype with ht | ht <;>
          simp only [parseParameterAsMatchingType, hm, hs, ht, Option.some_bind, Option.map_some']
        · exact ⟨_, rfl, rfl⟩
        · cases hmatch : matchesIntegerPattern value
          · exact ⟨_, rfl, rfl, _, rfl, rfl, rfl⟩
          · exact ⟨_, rfl, rfl⟩

theorem foldlM_extractRuntimeParameter {P : List (RuntimeParameter β)}
    (hP : ∀ p ∈ P, AllowsRuntimeParameter getMetaInformation p)
    (state : JsMap RuntimeParameterValue × List (Diagnostic (RuntimeParameter β))) :
    ∃ out, P.foldlM (extractRuntimeParameter getMetaInformation blockTypeName env) state = .ok out ∧
      out.1 =
        P.foldl (fun m p => (resolve getMetaInformation env p).elim m (m.set p.name)) state.1 ∧
      out.2.map (·.node) =
        state.2.map (·.node) ++ P.filter (failsToResolve getMetaInformation env) ∧
      ∀ d ∈ out.2, d ∈ state.2 ∨ d.severity = .error := by
  induction P generalizing state with
  | nil => exact ⟨state, rfl, rfl, by simp, fun d hd => .inl hd⟩
  | cons p rest ih =>
    have hp := hP p (List.mem_cons_self _ _)
    obtain ⟨next, hnext, hspec⟩ := @extractRuntimeParameter_ok _ _ blockTypeName _ _ hp state
    obtain ⟨out, hout, hmap, hnodes, hsev⟩ := ih (fun q hq => hP q (List.mem_cons_of_mem _ hq)) next
    refine ⟨out, by rw [List.foldlM_cons, hnext, ok_bind, hout], ?_⟩
    cases hr : resolve getMetaInformation env p with
    | some value =>
      rw [hr] at hspec
      have hfails : failsToResolve getMetaInformation env p = false :=
        Bool.eq_false_iff.mpr fun h => by simp [(resolve_eq_none_iff hp).mpr h] at hr
      subst hspec
      exact ⟨by simpa [hr] using hmap, by simpa [List.filter_cons, hfails] using hnodes, hsev⟩
    | none =>
      rw [hr] at hspec
      obtain ⟨hfst, d, hd, hderr, hsnd⟩ := hspec
      have hfails := (resolve_eq_none_iff hp).mp hr
      refine ⟨by simpa [hr, ← hfst] using hmap,
        by simpa [List.filter_cons, hfails, hsnd, hd] using hnodes, fun d' hd' => ?_⟩
      rcases hsev d' hd' with hd' | hd'
      · rw [hsnd, List.mem_append, List.mem_singleton] at hd'
        rcases hd' with hd' | rfl
        · exact .inl hd'
        · exact .inr hderr
      · exact .inr hd'

theorem extractRuntimeParameters_eq {P : List (RuntimeParameter β)}
    {parameters : JsMap RuntimeParameterValue}
    {diagnostics : List (Diagnostic (RuntimeParameter β))}
    (h : P.foldlM (extractRuntimeParameter getMetaInformation blockTypeName env) (JsMap.empty, []) =
      .ok (parameters, diagnostics)) :
    extractRuntimeParameters getMetaInformation blockTypeName P env =
      .ok (if diagnostics.length > 0 then .error diagnostics else .ok parameters) := by
  unfold extractRuntimeParameters
  rw [h, ok_bind]
  dsimp only
  split_ifs <;> rfl

/-- Without a failed assertion, the resolver returns `Left` exactly when some
placeholder is reported, with one error diagnostic for each reported placeholder,
in order, and none for the others. -/
theorem extractRuntimeParameters_reports_failing {P : List (RuntimeParameter β)}
    (hP : ∀ p ∈ P, AllowsRuntimeParameter getMetaInformation p) :
    ∃ r, extractRuntimeParameters getMetaInformation blockTypeName P env = .ok r ∧
      ((∃ ds, r = .error ds) ↔ ∃ p ∈ P, failsToResolve getMetaInformation env p = true) ∧
      ∀ ds, r = .error ds →
        ds.map (·.node) = P.filter (failsToResolve getMetaInformation env) ∧
          ∀ d ∈ ds, d.severity = .error := by
  obtain ⟨⟨parameters, diagnostics⟩, hfold, -, hnodes, hsev⟩ :=
    @foldlM_extractRuntimeParameter _ _ blockTypeName env _ hP (JsMap.empty, [])
  simp only [List.map_nil, List.nil_append] at hnodes
  have hnil : diagnostics = [] ↔ ∀ p ∈ P, failsToResolve getMetaInformation env p = false := by
    rw [← List.map_eq_nil_iff, hnodes, List.filter_eq_nil_iff]
    simp
  refine ⟨_, extractRuntimeParameters_eq hfold, ?_, fun ds hds => ?_⟩
  · cases diagnostics <;> simp_all
  · cases diagnostics with
    | nil => simp at hds
    | cons d rest =>
      obtain rfl : d :: rest = ds := by simpa using hds
      exact ⟨hnodes, fun d hd => (hsev d hd).resolve_left (List.not_mem_nil d)⟩

/-- When the resolver returns `Right` with the map `m`, the keys of `m` are the
names of the placeholders, and each name has the value its last placeholder
makes of the environment text: the text itself for a text attribute, its
`parseInt` for an integer attribute. -/
theorem extractRuntimeParameters_last_placeholder {P : List (RuntimeParameter β)}
    (hP : ∀ p ∈ P, AllowsRuntimeParameter getMetaInformation p) {m : JsMap RuntimeParameterValue}
    (h : extractRuntimeParameters getMetaInformation blockTypeName P env = .ok (.ok m)) :
    (∀ k, k ∈ m.keys ↔ ∃ p ∈ P, p.name = k) ∧
      ∀ pre p post, P = pre ++ p :: post → (∀ q ∈ post, q.name ≠ p.name) →
        ∃ value, env.get p.name = some value ∧
          (requiredType getMetaInformation p = some .string → m.get p.name = some (.string value)) ∧
          (requiredType getMetaInformation p = some .int →
            m.get p.name = some (.number (parseInt value))) := by
  obtain ⟨⟨parameters, diagnostics⟩, hfold, hmap, hnodes, -⟩ :=
    @foldlM_extractRuntimeParameter _ _ blockTypeName env _ hP (JsMap.empty, [])
  rw [extractRuntimeParameters_eq hfold] at h
  obtain ⟨rfl, hm⟩ : diagnostics = [] ∧ m = parameters := by
    cases diagnostics <;> simp_all
  subst hm
  simp only [List.map_nil, List.nil_append] at hmap hnodes
  have hresolved : ∀ p ∈ P, (resolve getMetaInformation env p).isSome := fun p hp =>
    Option.isSome_iff_ne_none.mpr fun hr => List.not_mem_nil p
      (hnodes ▸ List.mem_filter.mpr ⟨hp, (resolve_eq_none_iff (hP p hp)).mp hr⟩)
  refine ⟨fun k => ?_, fun pre p post hsplit hlast => ?_⟩
  · rw [hmap, JsMap.mem_keys_foldl]
    simp only [JsMap.keys_empty, List.not_mem_nil, false_or]
    exact ⟨fun ⟨x, hx, _, hk⟩ => ⟨x, hx, hk⟩, fun ⟨x, hx, hk⟩ => ⟨x, hx, hresolved x hx, hk⟩⟩
  · obtain ⟨v, hv⟩ := Option.isSome_iff_exists.mp
      (hresolved p (hsplit ▸ List.mem_append_right _ (List.mem_cons_self _ _)))
    obtain ⟨value, henv, hs, hi⟩ := resolve_eq_some hv
    have hget : m.get p.name = some v := by
      rw [hmap, hsplit, List.foldl_append, List.foldl_cons,
        JsMap.get_foldl_of_forall_ne _ _ _ _ _ hlast, hv]
      simp
    exact ⟨value, henv, fun ht => hget.trans (congrArg some (hs ht)),
      fun ht => hget.trans (congrArg some (hi ht))⟩

def urlAndPortMetaInformation : Nat → Option BlockMetaInformation
  | 0 => some ⟨"HttpExtractor", .none, .file, [("url", ⟨.string⟩)]⟩
  | _ => some ⟨"PostgresLoader", .table, .none, [("port", ⟨.int⟩)]⟩

def portEnvironment : JsMap String := ⟨[("x", "42")], by decide⟩

theorem extractRuntimeParameters_reports_failing_missing :
    (∀ p ∈ [(⟨"y", "url", 0⟩ : RuntimeParameter Nat), ⟨"x", "port", 1⟩],
        AllowsRuntimeParameter urlAndPortMetaInformation p) ∧
      ∃ r, extractRuntimeParameters urlAndPortMetaInformation (fun _ => "")
          [⟨"y", "url", 0⟩, ⟨"x", "port", 1⟩] portEnvironment = .ok r ∧
        ((∃ ds, r = .error ds) ↔ ∃ p ∈ [(⟨"y", "url", 0⟩ : RuntimeParameter Nat), ⟨"x", "port", 1⟩],
          failsToResolve urlAndPortMetaInformation portEnvironment p = true) ∧
        ∀ ds, r = .error ds →
          ds.map (·.node) = [(⟨"y", "url", 0⟩ : RuntimeParameter Nat), ⟨"x", "port", 1⟩].filter
              (failsToResolve urlAndPortMetaInformation portEnvironment) ∧
            ∀ d ∈ ds, d.severity = .error :=
  have hP : ∀ p ∈ [(⟨"y", "url", 0⟩ : RuntimeParameter Nat), ⟨"x", "port", 1⟩],
      AllowsRuntimeParameter urlAndPortMetaInformation p := by
    simp [AllowsRuntimeParameter, requiredType, urlAndPortMetaInformation,
      BlockMetaInformation.getAttributeSpecification]
  ⟨hP, extractRuntimeParameters_reports_failing hP⟩

theorem extractRuntimeParameters_last_placeholder_url_port :
    (∀ p ∈ [(⟨"x", "url", 0⟩ : RuntimeParameter Nat), ⟨"x", "port", 1⟩],
        AllowsRuntimeParameter urlAndPortMetaInformation p) ∧
      ∃ m, extractRuntimeParameters urlAndPortMetaInformation (fun _ => "")
          [⟨"x", "url", 0⟩, ⟨"x", "port", 1⟩] portEnvironment = .ok (.ok m) ∧
        (∀ k, k ∈ m.keys ↔
          ∃ p ∈ [(⟨"x", "url", 0⟩ : RuntimeParameter Nat), ⟨"x", "port", 1⟩], p.name = k) ∧
        ∀ pre p post,
          [(⟨"x", "url", 0⟩ : RuntimeParameter Nat), ⟨"x", "port", 1⟩] = pre ++ p :: post →
          (∀ q ∈ post, q.name ≠ p.name) →
          ∃ value, portEnvironment.get p.name = some value ∧
            (requiredType urlAndPortMetaInformation p = some .string →
              m.get p.name = some (.string value)) ∧
            (requiredType urlAndPortMetaInformation p = some .int →
              m.get p.name = some (.number (parseInt value))) :=
  have hP : ∀ p ∈ [(⟨"x", "url", 0⟩ : RuntimeParameter Nat), ⟨"x", "port", 1⟩],
      AllowsRuntimeParameter urlAndPortMetaInformation p := by
    simp [AllowsRuntimeParameter, requiredType, urlAndPortMetaInformation,
      BlockMetaInformation.getAttributeSpecification]
  have hrun : extractRuntimeParameters urlAndPortMetaInformation (fun _ => "")
      [⟨"x", "url", 0⟩, ⟨"x", "port", 1⟩] portEnvironment =
        .ok (.ok ⟨[("x", .number (parseInt "42"))], by decide⟩) := rfl
  ⟨hP, _, hrun, extractRuntimeParameters_last_placeholder hP hrun⟩

/-- Two placeholders share the name `x`: the first stands in the text attribute
`url`, the second in the integer attribute `port`. The map holds the number the
second makes of `"42"`, not the text the type of the first asks for. -/
theorem extractRuntimeParameters_shared_name :
    ∃ m, extractRuntimeParameters urlAndPortMetaInformation (fun _ => "")
        [⟨"x", "url", 0⟩, ⟨"x", "port", 1⟩] portEnvironment = .ok (.ok m) ∧
      requiredType urlAndPortMetaInformation ⟨"x", "url", 0⟩ = some .string ∧
      portEnvironment.get "x" = some "42" ∧
      m.get "x" = some (.number (parseInt "42")) ∧ m.get "x" ≠ some (.string "42") := by
  refine ⟨_, rfl, rfl, rfl, ?_⟩
  exact ⟨by simp, fun h => by simp at h⟩

end Jayvee
