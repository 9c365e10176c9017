import Mathlib.Data.Nat.Digits
import Jayvee.Interpreter.RuntimeParameters

/-! # Integer runtime parameters

An integer attribute takes the text of a runtime parameter when it matches
`/^[1-9][0-9]*$/`, and `Number.parseInt` then reads it. The pattern matches
exactly the decimal numerals of the positive integers, as `toString` prints them:
no sign, no blank, no leading zero, and so not `0`. The digits of such a numeral
read back as the integer it is the numeral of, and the one rounding is to the
nearest double. The numerals are `Nat.toDigits 10`, whose last digit comes off
first.
-/

namespace Jayvee

theorem toDigitsCore_append (fuel n : Nat) (ds : List Char) :
    Nat.toDigitsCore 10 fuel n ds = Nat.toDigitsCore 10 fuel n [] ++ ds := by
  induction fuel generalizing n ds with
  | zero => rfl
  | succ fuel ih =>
    simp only [Nat.toDigitsCore]
    split_ifs
    · rfl
    · rw [ih _ (_ :: ds), ih _ [_], List.append_assoc, List.singleton_append]

theorem toDigitsCore_fuel {f g n : Nat} (ds : List Char) (hf : n < f) (hg : n < g) :
    Nat.toDigitsCore 10 f n ds = Nat.toDigitsCore 10 g n ds := by
  induction f generalizing g n ds with
  | zero => omega
  | succ f ih =>
    obtain ⟨g, rfl⟩ : ∃ g', g = g' + 1 := ⟨g - 1, by omega⟩
    simp only [Nat.toDigitsCore]
    split_ifs
    · rfl
    · exact ih _ (by omega) (by omega)

theorem toDigits_eq (n : Nat) :
    Nat.toDigits 10 n =
      (if n < 10 then [] else Nat.toDigits 10 (n / 10)) ++ [Nat.digitChar (n % 10)] := by
  unfold Nat.toDigits
  rw [Nat.toDigitsCore]
  split_ifs with h h' h'
  · rfl
  · omega
  · omega
  · rw [toDigitsCore_append, toDigitsCore_fuel _ (by omega) (Nat.lt_succ_self _)]

theorem toString_eq_toDigits (n : Nat) : toString n = ⟨Nat.toDigits 10 n⟩ := rfl

theorem isDigit_iff (c : Char) : ('0' ≤ c && c ≤ '9') = true ↔ 48 ≤ c.toNat ∧ c.toNat ≤ 57 := by
  simp only [Bool.and_eq_true, decide_eq_true_eq]
  exact Iff.rfl

theorem digitChar_spec : ∀ d < 10, ('0' ≤ Nat.digitChar d && Nat.digitChar d ≤ '9') ∧
    (Nat.digitChar d).toNat - 48 = d ∧ (0 < d → '1' ≤ Nat.digitChar d) := by
  decide

theorem digitChar_toNat_sub {c : Char} (h : ('0' ≤ c && c ≤ '9') = true) :
    Nat.digitChar (c.toNat - 48) = c ∧ c.toNat - 48 < 10 := by
  have hdigit : ∀ k < 10, Nat.digitChar k = Char.ofNat (48 + k) := by decide
  rw [isDigit_iff] at h
  have hlt : c.toNat - 48 < 10 := by omega
  exact ⟨by rw [hdigit _ hlt, Nat.add_sub_cancel' h.1, Char.ofNat_toNat], hlt⟩

theorem digitsValue_append_singleton (l : List Char) (c : Char) :
    digitsValue ⟨l ++ [c]⟩ = 10 * digitsValue ⟨l⟩ + (c.toNat - 48) := by
  simp only [digitsValue, List.foldl_append, List.foldl_cons, List.foldl_nil]
  rfl

theorem matchesIntegerPattern_append_singleton {l : List Char} (hl : l ≠ []) (c : Char) :
    matchesIntegerPattern ⟨l ++ [c]⟩ = (matchesIntegerPattern ⟨l⟩ && ('0' ≤ c && c ≤ '9')) := by
  cases l with
  | nil => contradiction
  | cons first rest => simp [matchesIntegerPattern, List.all_append, Bool.and_assoc]

theorem matchesIntegerPattern_toString {n : Nat} (hn : 0 < n) :
    matchesIntegerPattern (toString n) = true ∧ digitsValue (toString n) = n := by
  induction n using Nat.strong_induction_on with
  | _ n ih =>
    obtain ⟨hdigit, hval, hpos⟩ := digitChar_spec (n % 10) (Nat.mod_lt _ (by decide))
    rw [toString_eq_toDigits, toDigits_eq]
    split_ifs with hlt
    · simp only [Nat.mod_eq_of_lt hlt] at hdigit hval hpos ⊢
      have hzero : digitsValue ⟨[]⟩ = 0 := rfl
      rw [digitsValue_append_singleton, hzero, hval]
      simp only [Bool.and_eq_true, decide_eq_true_eq] at hdigit
      simp [matchesIntegerPattern, hpos hn, hdigit.2]
    · obtain ⟨hmatch, hdigits⟩ := ih (n / 10) (by omega) (by omega)
      rw [toString_eq_toDigits] at hmatch hdigits
      have hne : Nat.toDigits 10 (n / 10) ≠ [] := by
        rintro h
        simp [h, matchesIntegerPattern] at hmatch
      rw [matchesIntegerPattern_append_singleton hne, digitsValue_append_singleton, hval, hdigits,
        hmatch, hdigit]
      exact ⟨rfl, by omega⟩

theorem toString_digitsValue {value : String} (h : matchesIntegerPattern value = true) :
    0 < digitsValue value ∧ toString (digitsValue value) = value := by
  obtain ⟨l⟩ := value
  induction l using List.reverseRecOn with
  | nil => simp [matchesIntegerPattern] at h
  | append_singleton l c ih =>
    by_cases hl : l = []
    · subst hl
      have hc : '1' ≤ c ∧ c ≤ '9' := by simpa [matchesIntegerPattern] using h
      have hc' : 49 ≤ c.toNat ∧ c.toNat ≤ 57 := hc
      obtain ⟨hdigit, hlt⟩ := digitChar_toNat_sub ((isDigit_iff c).mpr (by omega))
      have hzero : digitsValue ⟨[]⟩ = 0 := rfl
      rw [digitsValue_append_singleton, hzero, Nat.mul_zero, Nat.zero_add, toString_eq_toDigits,
        toDigits_eq, if_pos hlt, Nat.mod_eq_of_lt hlt, hdigit]
      exact ⟨by omega, rfl⟩
    · rw [matchesIntegerPattern_append_singleton hl, Bool.and_eq_true] at h
      obtain ⟨hpos, hstr⟩ := ih h.1
      obtain ⟨hc, hlt⟩ := digitChar_toNat_sub h.2
      rw [digitsValue_append_singleton]
      have hdata : Nat.toDigits 10 (digitsValue ⟨l⟩) = l := congrArg String.data hstr
      refine ⟨by omega, ?_⟩
      rw [toString_eq_toDigits, toDigits_eq, if_neg (by omega), Nat.mul_add_div (by decide),
        Nat.div_eq_of_lt hlt, Nat.add_zero, Nat.mul_add_mod, Nat.mod_eq_of_lt hlt, hc, hdata]

/-- The pattern matches exactly the numerals of the positive integers. -/
theorem matchesIntegerPattern_iff (value : String) :
    matchesIntegerPattern value = true ↔ ∃ n, 0 < n ∧ toString n = value :=
  ⟨fun h => ⟨_, toString_digitsValue h⟩,
    fun ⟨_, hn, h⟩ => h ▸ (matchesIntegerPattern_toString hn).1⟩

variable {β : Type} {getMetaInformation : β → Option BlockMetaInformation}
  {blockTypeName : β → String}

theorem parseParameterAsMatchingType_of_int {requiredParameter : RuntimeParameter β}
    (h : requiredType getMetaInformation requiredParameter = some .int) (value : String) :
    parseParameterAsMatchingType getMetaInformation blockTypeName value requiredParameter =
      .ok (if matchesIntegerPattern value then .ok (.number (parseInt value))
        else .error ⟨.error, "Runtime parameter " ++ requiredParameter.name ++ " has value " ++
          jsonStringify value ++ " but should be of type integer.", requiredParameter⟩) := by
  unfold requiredType at h
  cases hm : getMetaInformation requiredParameter.block with
  | none => simp [hm] at h
  | some metaInf =>
    cases hs : metaInf.getAttributeSpecification requiredParameter.attributeName with
    | none => simp [hm, hs] at h
    | some attributeSpec =>
      simp only [hm, hs, Option.some_bind, Option.map_some', Option.some.injEq] at h
      simp only [parseParameterAsMatchingType, hm, hs, h]
      cases matchesIntegerPattern value <;> rfl

/-- For an integer attribute, the text of a runtime parameter is taken exactly
when it is the numeral of a positive integer, and its value is then the Number
value of that integer. -/
theorem parseParameterAsMatchingType_int_ok_iff {requiredParameter : RuntimeParameter β}
    (h : requiredType getMetaInformation requiredParameter = some .int) (value : String)
    (v : RuntimeParameterValue) :
    parseParameterAsMatchingType getMetaInformation blockTypeName value requiredParameter =
        .ok (.ok v) ↔
      ∃ n, 0 < n ∧ toString n = value ∧ v = .number (numberValue n) := by
  rw [parseParameterAsMatchingType_of_int h]
  constructor
  · intro hv
    cases hmatch : matchesIntegerPattern value
    · simp [hmatch] at hv
    · obtain ⟨hpos, hstr⟩ := toString_digitsValue hmatch
      simp only [hmatch, ↓reduceIte, Except.ok.injEq] at hv
      exact ⟨_, hpos, hstr, hv.symm⟩
  · rintro ⟨n, hn, rfl, rfl⟩
    obtain ⟨hmatch, hdigits⟩ := matchesIntegerPattern_toString hn
    simp only [hmatch, ↓reduceIte, parseInt, hdigits]

theorem parseParameterAsMatchingType_int_ok_iff_port :
    requiredType urlAndPortMetaInformation ⟨"x", "port", 1⟩ = some .int ∧
      (parseParameterAsMatchingType urlAndPortMetaInformation (fun _ => "") "42" ⟨"x", "port", 1⟩ =
          .ok (.ok (.number (numberValue 42))) ↔
        ∃ n, 0 < n ∧ toString n = "42" ∧
          RuntimeParameterValue.number (numberValue 42) = .number (numberValue n)) :=
  have h : requiredType urlAndPortMetaInformation ⟨"x", "port", 1⟩ = some .int := rfl
  ⟨h, parseParameterAsMatchingType_int_ok_iff h "42" _⟩

end Jayvee
