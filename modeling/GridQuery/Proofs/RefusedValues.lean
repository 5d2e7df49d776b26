-- Values that are refused by a conversion. A failure tells of the value, of its
-- kind and of the type that was asked for. One conversion calls another, and
-- what that one refuses is told as its own, but for one thing: a double beyond
-- 64 bits is refused as a 64-bit integer also where one of 32 bits was asked for.
import GridQuery.Value.Convert

namespace GridQuery

open GridQuery.Number

/-- A failure that tells of a value and of the type that it was to be converted to. -/
inductive ConversionError.Tells (v : Value) (target : BaseType) : ConversionError → Prop
  | incompatible : Tells v target (.incompatible v.display v.kind target)
  | outOfRange : Tells v target (.outOfRange v.display target)

theorem ConversionError.Tells.target_eq {v : Value} {target target' : BaseType}
    {e : ConversionError} (h : e.Tells v target) (h' : e.Tells v target') : target = target' := by
  cases h with
  | incompatible =>
    cases h'
    rfl
  | outOfRange =>
    cases h'
    rfl

namespace Value

/-- A double whose nearest integer is not one of 64 bits. -/
def IsBeyondInt64 (v : Value) : Prop :=
  ∃ x n, v = float x ∧ nearest? x = some n ∧ ¬ (leastInt64 ≤ n ∧ n ≤ greatestInt64 + 1)

variable {v : Value} {e : ConversionError}

/-! ## Integers -/

theorem toInt64_of_beyond (h : v.IsBeyondInt64) :
    v.toInt64 = .error (.outOfRange v.display .bigint) := by
  obtain ⟨x, n, rfl, hn, hbeyond⟩ := h
  simp only [toInt64, roundFloat, hn]
  exact if_neg hbeyond

/-- Whatever else fails to be a 64-bit integer is refused by its kind. -/
theorem toInt64_error (h : v.toInt64 = .error e) (hin : ¬ v.IsBeyondInt64) :
    e = v.incompatible .bigint := by
  unfold toInt64 at h
  split at h
  · cases h
  · cases h
  · cases h
  · rename_i x
    unfold roundFloat at h
    split at h
    · exact (Except.error.inj h).symm
    · rename_i n hn
      split at h
      · cases h
      · rename_i hbeyond
        exact absurd ⟨x, n, rfl, hn, hbeyond⟩ hin
  · -- a double that is read from a text is refused as the text
    split at h
    · cases h
    · split at h
      · exact (Except.error.inj h).symm
      · split at h
        · cases h
        · exact (Except.error.inj h).symm
  · exact (Except.error.inj h).symm

theorem toInt32_of_beyond (h : v.IsBeyondInt64) :
    v.toInt32 = .error (.outOfRange v.display .bigint) := by
  simp only [toInt32, toInt64_of_beyond h]

theorem toInt32_error (h : v.toInt32 = .error e) (hin : ¬ v.IsBeyondInt64) :
    e.Tells v .integer := by
  unfold toInt32 at h
  rcases hlong : v.toInt64 with e' | n
  · obtain rfl := toInt64_error hlong hin
    rw [hlong] at h
    obtain rfl := Except.error.inj h
    exact .incompatible
  · rw [hlong] at h
    simp only at h
    split at h
    · cases h
    · obtain rfl := Except.error.inj h
      exact .outOfRange

/-! ## The other types -/

theorem toFloat_error (h : v.toFloat = .error e) : e = v.incompatible .double := by
  unfold toFloat at h
  split at h
  · cases h
  · cases h
  · cases h
  · split at h
    · cases h
    · exact (Except.error.inj h).symm
  · exact (Except.error.inj h).symm

theorem toBool_error (h : v.toBool = .error e) : e = v.incompatible .bool := by
  unfold toBool at h
  split at h
  · cases h
  · cases h
  · split at h
    · cases h
    · split at h
      · cases h
      · exact (Except.error.inj h).symm
  · split at h
    · cases h
    · exact (Except.error.inj h).symm
  · exact (Except.error.inj h).symm

theorem error_of_map {α : Type} {result : Except ConversionError α} {shown : α → Value}
    (h : result.map shown = .error e) : result = .error e := by
  rcases result with e' | a
  · exact congrArg Except.error (Except.error.inj h)
  · cases h

/-- A failure tells of the type, whatever the type is, unless a double beyond 64 bits was to be
made a 32-bit integer. -/
theorem convertTo_error {target : BaseType} (h : v.convertTo target = .error e)
    (hin : ¬ (target = .integer ∧ v.IsBeyondInt64)) : e.Tells v target := by
  cases target with
  | text => cases h
  | bigint =>
    have hlong := error_of_map h
    by_cases hbeyond : v.IsBeyondInt64
    · rw [toInt64_of_beyond hbeyond] at hlong
      obtain rfl := Except.error.inj hlong
      exact .outOfRange
    · obtain rfl := toInt64_error hlong hbeyond
      exact .incompatible
  | integer => exact toInt32_error (error_of_map h) fun hbeyond => hin ⟨rfl, hbeyond⟩
  | double =>
    obtain rfl := toFloat_error (error_of_map h)
    exact .incompatible
  | bool =>
    obtain rfl := toBool_error (error_of_map h)
    exact .incompatible
  | timestamp | date | time =>
    simp only [convertTo] at h
    split at h
    · cases h
    · obtain rfl := Except.error.inj h
      exact .incompatible
  | value => cases h
  | cell => cases h

theorem convertTo_of_convert_error {t : FieldType} (h : v.convert t = .error e) :
    v.convertTo t.base = .error e := by
  unfold convert at h
  split at h
  · cases h
  · exact h

theorem convert_of_beyond {t : FieldType} (ht : t.base = .integer) (h : v.IsBeyondInt64) :
    v.convert t = .error (.outOfRange v.display .bigint) := by
  have hsome : v.isNull = false := by
    obtain ⟨x, n, rfl, -⟩ := h
    rfl
  have hshort : v.convertTo .integer = .error (.outOfRange v.display .bigint) :=
    congrArg (·.map int) (toInt32_of_beyond h)
  unfold convert
  rw [hsome, Bool.and_false, ht]
  exact hshort

end Value

/-- A value that a type refuses is refused with its text and its kind, and with the name of that
type, exactly if it is not a double beyond 64 bits that was to be a 32-bit integer. Such a double
is refused as out of range of the 64-bit integers. -/
theorem a_refused_value_is_told_with_its_type_unless_it_is_beyond_64_bits (v : Value)
    (t : FieldType) :
    (∀ e, v.convert t = .error e →
      (e.Tells v t.base ↔ ¬ (t.base = .integer ∧ v.IsBeyondInt64))) ∧
      (t.base = .integer → v.IsBeyondInt64 →
        v.convert t = .error (.outOfRange v.display .bigint)) := by
  refine ⟨fun e h => ⟨?_, ?_⟩, fun ht => Value.convert_of_beyond ht⟩
  · rintro htells ⟨ht, hbeyond⟩
    rw [Value.convert_of_beyond ht hbeyond] at h
    obtain rfl := Except.error.inj h
    have htarget := htells.target_eq .outOfRange
    rw [ht] at htarget
    cases htarget
  · exact Value.convertTo_error (Value.convertTo_of_convert_error h)

/-- A word is no integer, and a one with nineteen zeros is beyond 64 bits. -/
theorem a_word_and_a_large_double_are_no_32_bit_integers :
    ConversionError.Tells (.text "many") .integer (.incompatible "many" .text .integer) ∧
      (Value.float 1e19).convert { base := .integer, optional := true } =
        .error (.outOfRange "10000000000000000000" .bigint) := by
  have hword : (Value.text "many").convert { base := .integer } =
      .error (.incompatible "many" .text .integer) := rfl
  have hbeyond : (Value.float 1e19).IsBeyondInt64 :=
    ⟨_, 10000000000000000000, rfl, by decide +kernel, by decide⟩
  have htext : (Value.float 1e19).display = "10000000000000000000" := by decide +kernel
  obtain ⟨htells, -⟩ := a_refused_value_is_told_with_its_type_unless_it_is_beyond_64_bits
    (.text "many") { base := .integer }
  obtain ⟨-, hrefused⟩ := a_refused_value_is_told_with_its_type_unless_it_is_beyond_64_bits
    (.float 1e19) { base := .integer, optional := true }
  refine ⟨(htells _ hword).mpr ?_, ?_⟩
  · rintro ⟨-, x, n, hfloat, -⟩
    cases hfloat
  · rw [hrefused rfl hbeyond, htext]

/-- A double beyond 64 bits was to be a 32-bit integer, and is refused as if one of 64 bits had been
asked for. -/
theorem a_large_double_is_refused_as_another_type :
    ∃ e, (Value.float 1e19).convert { base := .integer } = .error e ∧
      e.message = "Value '10000000000000000000' is out of range for bigint" ∧
      ¬ e.Tells (.float 1e19) .integer := by
  have hbeyond : (Value.float 1e19).IsBeyondInt64 :=
    ⟨_, 10000000000000000000, rfl, by decide +kernel, by decide⟩
  have htext : (Value.float 1e19).display = "10000000000000000000" := by decide +kernel
  refine ⟨_, Value.convert_of_beyond rfl hbeyond, ?_, ?_⟩
  · rw [htext]
    rfl
  · intro htells
    cases htells.target_eq .outOfRange

end GridQuery
