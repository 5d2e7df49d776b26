-- Fields of delimited text, typed. A value is read back from its own text, as
-- that is written, whatever white space stands around it: the readers that come
-- before the one of its kind refuse the text. Dates, timestamps and times begin
-- with a number that a dash or a colon breaks off, so no reader of numbers or
-- words takes them. What no reader takes stays as it was written.
import GridQuery.Proofs.IntegerTexts
import GridQuery.Proofs.StoredTexts
import GridQuery.Source.Delimited

namespace GridQuery

open GridQuery.Text

/-! ## Numerals that break off -/

/-- A numeral with a dash or a colon right behind its digits. -/
structure BrokenNumeral where
  sign : SignMark := .bare
  digits : List Char
  mark : Char
  rest : List Char
  digits_ne_nil : digits ≠ []
  digits_digits : ∀ c ∈ digits, isAsciiDigit c = true
  mark_eq : mark = '-' ∨ mark = ':'

namespace BrokenNumeral

def chars (b : BrokenNumeral) : List Char := b.sign.chars ++ (b.digits ++ b.mark :: b.rest)

variable (b : BrokenNumeral)

/-- The mark is not part of a number, nor does it go on with one. -/
theorem not_numeric_mark : isAsciiDigit b.mark = false ∧ b.mark ≠ '.' ∧ b.mark ≠ 'e' ∧
    b.mark ≠ 'E' := by
  rcases b.mark_eq with h | h <;> rw [h] <;> decide

theorem exists_chars_eq :
    ∃ c cs, b.digits = c :: cs ∧ isAsciiDigit c = true ∧
      b.chars = b.sign.chars ++ c :: (cs ++ b.mark :: b.rest) := by
  obtain ⟨c, cs, hdigits⟩ := List.exists_cons_of_ne_nil b.digits_ne_nil
  refine ⟨c, cs, hdigits, b.digits_digits c (by simp [hdigits]), ?_⟩
  rw [chars, hdigits, List.cons_append]

/-! ### Readers that refuse them -/

/-- A character that is no digit ends an integer. -/
theorem appendDigits_error {cs : List Char} {c : Char} (hmem : c ∈ cs)
    (hc : isAsciiDigit c = false) (negative : Bool) (n : Int) :
    ∃ e, Number.appendDigits negative n cs = .error e := by
  induction cs generalizing n with
  | nil => cases hmem
  | cons d cs ih =>
    unfold Number.appendDigits
    by_cases hd : isAsciiDigit d = true
    · have hrest : c ∈ cs := by
        rcases List.mem_cons.mp hmem with rfl | hrest
        · rw [hc] at hd
          cases hd
        · exact hrest
      rw [if_pos hd]
      dsimp only
      split
      · exact ih hrest _
      · exact ⟨_, rfl⟩
    · rw [if_neg hd]
      exact ⟨_, rfl⟩

theorem readInt64_chars : Number.readInt64 b.chars = none := by
  obtain ⟨c, cs, -, hc, hchars⟩ := b.exists_chars_eq
  have hmark : b.mark ∈ c :: (cs ++ b.mark :: b.rest) := by simp
  obtain ⟨e, he⟩ := appendDigits_error hmark b.not_numeric_mark.1 b.sign.isMinus 0
  rw [Number.readInt64, hchars, b.sign.readInt_append hc, he]

/-- The digits are a number, but what follows them is no exponent. -/
theorem readMagnitude_chars : Number.readMagnitude (b.digits ++ b.mark :: b.rest) = none := by
  obtain ⟨hdigit, hpoint, he, hE⟩ := b.not_numeric_mark
  have hspan : spanDigits (b.digits ++ b.mark :: b.rest) = (b.digits, b.mark :: b.rest) := by
    rw [spanDigits, List.takeWhile_append_of_pos b.digits_digits,
      List.dropWhile_append_of_pos b.digits_digits]
    simp [hdigit]
  unfold Number.readMagnitude
  rw [hspan]
  simp [hpoint, b.digits_ne_nil, Number.readExponent, he, hE]

theorem readFloat_chars : Number.readFloat b.chars = none := by
  obtain ⟨c, cs, hdigits, hc, hchars⟩ := b.exists_chars_eq
  have hmagnitude := b.readMagnitude_chars
  rw [hdigits, List.cons_append] at hmagnitude
  rw [Number.readFloat, hchars, b.sign.takeSign_append hc]
  simp only [readWord_of_isAsciiDigit hc, hmagnitude]
  rfl

/-- No truth value begins with a sign or a digit. -/
theorem readFlag_chars : Delimited.readFlag b.chars = none := by
  have hletters : ∀ c cs, c.toLower ≠ 't' ∧ c.toLower ≠ 'f' →
      Delimited.readFlag (c :: cs) = none := by
    intro c cs h
    simp [Delimited.readFlag, h]
  obtain ⟨c, cs, -, hc, hchars⟩ := b.exists_chars_eq
  rw [hchars]
  cases b.sign with
  | bare =>
    have hlt := toNat_lt_of_isAsciiDigit hc
    refine hletters c _ ?_
    revert hc
    refine forall_ascii hlt ?_
    decide
  | plus => exact hletters '+' _ (by decide)
  | minus => exact hletters '-' _ (by decide)

/-- What begins with such a numeral is a date, a timestamp, a time or a mere text. -/
theorem readTyped_chars :
    Delimited.readTyped b.chars =
      ((Pattern.dateBy Pattern.isoDay b.chars).map Value.date).or
        (((Delimited.readStamp b.chars).map Value.timestamp).or
          ((Pattern.timeBy Pattern.clock b.chars).map Value.time)) := by
  simp [Delimited.readTyped, Delimited.readNumber, b.readInt64_chars, b.readFloat_chars,
    b.readFlag_chars]

end BrokenNumeral

/-! ### Texts of dates, timestamps and times -/

/-- A year is its digits, with or without a sign. -/
theorem yearChars_cases (year : Int) :
    ∃ (sign : SignMark) (digits : List Char), digits ≠ [] ∧
      (∀ c ∈ digits, isAsciiDigit c = true) ∧ Date.yearChars year = sign.chars ++ digits := by
  unfold Date.yearChars
  split
  · exact ⟨.bare, _, decimalPadded_ne_nil _ _, (decimalPadded_spec _ _).1, rfl⟩
  · split
    · exact ⟨.minus, _, decimalPadded_ne_nil _ _, (decimalPadded_spec _ _).1, rfl⟩
    · exact ⟨.plus, _, decimal_ne_nil _, (decimal_spec _).1, rfl⟩

/-- A date breaks off behind its year, whatever follows the date. -/
theorem Date.exists_broken (d : Date) (rest : List Char) :
    ∃ b : BrokenNumeral, b.chars = d.chars ++ rest := by
  obtain ⟨sign, digits, hne, hdigits, hyear⟩ := yearChars_cases d.year
  refine ⟨⟨sign, digits, '-', decimalPadded 2 d.month ++ '-' :: decimalPadded 2 d.day ++ rest,
    hne, hdigits, .inl rfl⟩, ?_⟩
  simp [BrokenNumeral.chars, Date.chars, hyear]

/-- A time breaks off behind its hour. -/
theorem Time.exists_broken (t : Time) : ∃ b : BrokenNumeral, b.chars = t.chars := by
  refine ⟨⟨.bare, decimalPadded 2 t.hour, ':', decimalPadded 2 t.minute ++
    ':' :: decimalPadded 2 t.clockSecond ++ fractionChars t.clockNano, decimalPadded_ne_nil _ _,
    (decimalPadded_spec _ _).1, .inr rfl⟩, ?_⟩
  simp [BrokenNumeral.chars, SignMark.chars, Time.chars]

namespace Pattern

/-- A short run of digits is read in full. -/
theorem readNumber_run {width : Nat} {digits : List Char}
    (hdigits : ∀ c ∈ digits, isAsciiDigit c = true) (hne : digits ≠ [])
    (hshort : digits.length ≤ width) {c : Char} (hc : isAsciiDigit c = false) (rest : List Char) :
    readNumber width (digits ++ c :: rest) = some (digitsValue digits, c :: rest) := by
  have htaken : (digits ++ c :: rest).takeWhile isAsciiDigit = digits := by
    rw [List.takeWhile_append_of_pos hdigits, List.takeWhile_cons_of_neg (by simp [hc]),
      List.append_nil]
  simp only [readNumber, trimStart_digits hdigits hne, htaken, List.take_of_length_le hshort,
    List.isEmpty_iff, hne, if_false, List.drop_left]

/-- The hour of a time could be a year, but no dash follows it. -/
theorem read_isoDay_append_time (t : Time) (items : List Item) :
    read (isoDay ++ items) t.chars = none := by
  obtain ⟨hhour, -⟩ := t.isTime
  obtain ⟨hdigits, hvalue⟩ := decimalPadded_spec 2 t.hour
  have hne := decimalPadded_ne_nil 2 t.hour
  have hlength : (decimalPadded 2 t.hour).length ≤ 4 := by
    rw [length_decimalPadded (by decide) (Nat.lt_trans hhour (by decide))]
    decide
  simp only [isoDay, Time.chars, List.cons_append, List.nil_append, List.append_assoc]
  generalize decimalPadded 2 t.minute ++ _ = rest
  have hyear : readYear (decimalPadded 2 t.hour ++ ':' :: rest) =
      some ((t.hour : Int), ':' :: rest) := by
    rw [readYear_digits hdigits hne, readNumber_run hdigits hne hlength (by decide), hvalue]
    rfl
  rw [read, readItems_cons (by rw [readItem, hyear]; rfl)]
  simp [readItems, readItem]

end Pattern

/-! ## Texts of values, read back -/

namespace Delimited

theorem readTyped_int (n : Int64) : readTyped (Value.int n).display.toList = some (.int n) := by
  simp [Value.display, readTyped, readInt64_int64Text]

theorem readTyped_bool (flag : Bool) :
    readTyped (Value.bool flag).display.toList = some (.bool flag) := by
  cases flag <;> rfl

theorem readTyped_date (d : Date) : readTyped d.chars = some (.date d) := by
  obtain ⟨b, hb⟩ := d.exists_broken []
  rw [List.append_nil] at hb
  rw [← hb, b.readTyped_chars, hb, Pattern.dateBy_isoDay]
  rfl

theorem readTyped_timestamp (t : Timestamp) :
    readTyped t.chars = some (.timestamp t.asWritten) := by
  obtain ⟨b, hb⟩ := t.date.exists_broken (' ' :: t.time.chars)
  have hdate : Pattern.dateBy Pattern.isoDay t.chars = none := by
    rw [Pattern.dateBy, Timestamp.chars, Pattern.read_isoDay_cons]
    rfl
  change b.chars = t.chars at hb
  rw [← hb, b.readTyped_chars, hb, hdate, readStamp, Pattern.stampBy_spacedStamp]
  rfl

theorem readTyped_time (t : Time) : readTyped t.chars = some (.time t.asWritten) := by
  obtain ⟨b, hb⟩ := t.exists_broken
  have hday : ∀ items, Pattern.read (Pattern.isoDay ++ items) t.chars = none :=
    Pattern.read_isoDay_append_time t
  have hdate : Pattern.dateBy Pattern.isoDay t.chars = none := by
    have hread := hday []
    rw [List.append_nil] at hread
    rw [Pattern.dateBy, hread]
    rfl
  have hstamp : readStamp t.chars = none := by
    simp [readStamp, Pattern.stampBy, Pattern.spacedStamp, Pattern.isoStamp, hday]
  rw [← hb, b.readTyped_chars, hb, hdate, hstamp, Pattern.timeBy_clock]
  rfl

/-- The text of a value has no white space at its ends and is typed as what it stands for. -/
theorem readTyped_display {v : Value} (hv : v.ownType?.isSome = true) :
    trim v.display.toList = v.display.toList ∧
      readTyped v.display.toList = some v.asWritten := by
  cases v with
  | int n =>
    refine ⟨?_, readTyped_int n⟩
    rw [Value.display, Number.int64Text, intText, String.toList_ofList]
    exact trim_eq_self fun _ => not_isBlank_of_mem_integer
  | bool flag =>
    refine ⟨?_, readTyped_bool flag⟩
    cases flag <;> rfl
  | date d =>
    rw [Value.display, Date.text, String.toList_ofList]
    exact ⟨trim_eq_self fun _ => not_isBlank_of_mem_date, readTyped_date d⟩
  | timestamp t =>
    rw [Value.display, Timestamp.text, String.toList_ofList]
    exact ⟨Pattern.trim_timestamp t, readTyped_timestamp t⟩
  | time t =>
    rw [Value.display, Time.text, String.toList_ofList]
    exact ⟨trim_eq_self fun _ => not_isBlank_of_mem_time, readTyped_time t⟩
  | null | float _ | text _ => cases hv

/-- No reader takes a text for null or for a text. -/
theorem not_text_of_readTyped {cs : List Char} {v : Value} (h : readTyped cs = some v) :
    v ≠ .null ∧ ∀ t, v ≠ .text t := by
  simp only [readTyped, Option.or_eq_some_iff, Option.map_eq_some_iff] at h
  rcases h with ⟨_, -, rfl⟩ | ⟨-, ⟨_, -, rfl⟩ | ⟨-, ⟨_, -, rfl⟩ | ⟨-, ⟨_, -, rfl⟩ |
    ⟨-, ⟨_, -, rfl⟩ | ⟨-, ⟨_, -, rfl⟩⟩⟩⟩⟩⟩ <;> exact ⟨nofun, nofun⟩

theorem fieldValue_cases (s : String) :
    fieldValue s = .text s ∨ readTyped (trim s.toList) = some (fieldValue s) := by
  unfold fieldValue
  dsimp only
  split
  · exact .inl rfl
  · rcases h : readTyped (trim s.toList) with _ | v
    · exact .inl rfl
    · exact .inr rfl

/-- A whole number, a truth value, a date, a timestamp or a time is read back as it is written from
its text with any white space around it; only a leap second that no minute ends with is written as
another time. A field that is taken for a text is the text as it is written, and no field that is
typed is null. -/
theorem typing_undoes_writing_and_leaves_other_texts_alone :
    (∀ (v : Value) (before after : List Char), v.ownType?.isSome = true →
      (∀ c ∈ before, isBlank c = true) → (∀ c ∈ after, isBlank c = true) →
      fieldValue (String.ofList (before ++ v.display.toList ++ after)) = v.asWritten ∧
        (v.asWritten = v ↔ v.LeapsAtMinuteEnd)) ∧
    (∀ s t, fieldValue s = .text t → t = s) ∧ ∀ s, fieldValue s ≠ .null := by
  refine ⟨?_, ?_, ?_⟩
  · -- what is read is the trimmed text, which is the text of the value
    intro v before after hv hbefore hafter
    obtain ⟨htrim, htyped⟩ := readTyped_display hv
    have hne : v.display.toList ≠ [] := by
      intro hempty
      rw [hempty, show readTyped [] = none from rfl] at htyped
      cases htyped
    have hcore : trim (String.ofList (before ++ v.display.toList ++ after)).toList =
        v.display.toList := by
      rw [String.toList_ofList, trim_blank_around hbefore hafter, htrim]
    refine ⟨?_, v.asWritten_eq_iff⟩
    simp only [fieldValue, hcore, List.isEmpty_iff, hne, if_false, htyped, Option.getD_some]
  · intro s t h
    rcases fieldValue_cases s with htext | htyped
    · rw [htext] at h
      exact (Value.text.inj h).symm
    · exact absurd h ((not_text_of_readTyped htyped).2 t)
  · intro s hnull
    rcases fieldValue_cases s with htext | htyped
    · rw [htext] at hnull
      cases hnull
    · exact (not_text_of_readTyped htyped).1 hnull

/-- A leap second between wide spaces is typed, and a day that no month has is not. -/
theorem a_leap_second_is_typed_and_no_day_is_left_alone :
    (Value.timestamp Value.lateLeapSecond).ownType?.isSome = true ∧
      (∀ c ∈ ['\u3000', ' '], isBlank c = true) ∧ (∀ c ∈ ['\u00a0'], isBlank c = true) ∧
      fieldValue "\u3000 +12345-12-31 23:59:60.500\u00a0" = .timestamp Value.lateLeapSecond ∧
      fieldValue " 2021-02-30" = .text " 2021-02-30" := by
  obtain ⟨hread, hkept, -⟩ := typing_undoes_writing_and_leaves_other_texts_alone
  have hbefore : ∀ c ∈ ['\u3000', ' '], isBlank c = true :=
    List.all_eq_true.mp rfl
  have hafter : ∀ c ∈ ['\u00a0'], isBlank c = true := List.all_eq_true.mp rfl
  have htext : String.ofList (['\u3000', ' '] ++
      (Value.timestamp Value.lateLeapSecond).display.toList ++ ['\u00a0']) =
      "\u3000 +12345-12-31 23:59:60.500\u00a0" := by
    decide +kernel
  refine ⟨rfl, hbefore, hafter, ?_, ?_⟩
  · obtain ⟨hvalue, hwritten⟩ := hread (.timestamp Value.lateLeapSecond) _ _ rfl hbefore hafter
    rw [htext, hwritten.mpr (.inr rfl)] at hvalue
    exact hvalue
  · have hkind : ∃ t, fieldValue " 2021-02-30" = .text t := ⟨_, rfl⟩
    obtain ⟨t, ht⟩ := hkind
    rw [ht, hkept _ _ ht]

/-- A leap second that no minute ends with is typed as the second that follows. -/
theorem a_stray_leap_second_is_typed_as_another_time :
    (Value.time Value.strayLeapSecond).ownType?.isSome = true ∧
      (Value.time Value.strayLeapSecond).display = "12:00:06.500" ∧
      fieldValue "12:00:06.500" = .time ⟨12, 0, 6, 500000000, by decide⟩ ∧
      fieldValue "12:00:06.500" ≠ .time Value.strayLeapSecond := by
  have htyped : fieldValue "12:00:06.500" = .time ⟨12, 0, 6, 500000000, by decide⟩ := rfl
  refine ⟨rfl, by decide +kernel, htyped, ?_⟩
  rw [htyped]
  intro h
  exact absurd (congrArg Time.second (Value.time.inj h)) (by decide)

end Delimited

end GridQuery
