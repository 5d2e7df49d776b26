-- Dates, times and timestamps, written and read. The text of each is taken
-- in full by the form it was written in, and no form that is tried before that
-- one takes the text of another.
import GridQuery.Calendar.Pattern
import GridQuery.Proofs.Numerals

namespace GridQuery

open GridQuery.Text

/-! ## Trimming -/

theorem trimStart_of_head? {cs : List Char} (h : ∀ c ∈ cs.head?, isBlank c = false) :
    trimStart cs = cs := by
  rcases cs with _ | ⟨c, cs⟩
  · rfl
  · simp [trimStart, h c rfl]

/-- A text that neither starts nor ends in white space stays as it is. -/
theorem trim_of_ends {cs : List Char} (hfirst : ∀ c ∈ cs.head?, isBlank c = false)
    (hlast : ∀ c ∈ cs.getLast?, isBlank c = false) : trim cs = cs := by
  have hback : trimStart cs.reverse = cs.reverse :=
    trimStart_of_head? (by rwa [List.head?_reverse])
  rw [trimStart] at hback
  rw [trim, trimStart_of_head? hfirst, trimEnd, hback, List.reverse_reverse]

theorem trim_eq_self {cs : List Char} (h : ∀ c ∈ cs, isBlank c = false) : trim cs = cs :=
  trim_of_ends (fun c hc => h c (List.mem_of_mem_head? hc))
    fun c hc => h c (List.mem_of_getLast? hc)

theorem trimStart_append {core : List Char} (hcore : ∀ c ∈ core, isBlank c = false)
    (hne : core ≠ []) (rest : List Char) : trimStart (core ++ rest) = core ++ rest := by
  obtain ⟨c, cs, rfl⟩ := List.exists_cons_of_ne_nil hne
  refine trimStart_of_head? fun d hd => ?_
  rw [← Option.some.inj hd]
  exact hcore c List.mem_cons_self

/-- White space around a text is taken off. -/
theorem trim_blank_around {before after : List Char} (hbefore : ∀ c ∈ before, isBlank c = true)
    (hafter : ∀ c ∈ after, isBlank c = true) (core : List Char) :
    trim (before ++ core ++ after) = trim core := by
  have hfront : trimStart (before ++ core ++ after) =
      if (trimStart core).isEmpty then [] else trimStart core ++ after := by
    simp only [trimStart]
    rw [List.append_assoc, List.dropWhile_append_of_pos hbefore, List.dropWhile_append,
      List.dropWhile_eq_nil_iff.mpr hafter]
    rfl
  unfold trim
  rw [hfront]
  split
  · rename_i hempty
    rw [List.isEmpty_iff.mp hempty]
  · rw [trimEnd, List.reverse_append,
      List.dropWhile_append_of_pos fun c hc => hafter c (List.mem_reverse.mp hc)]
    rfl

/-! ## What the texts are made of -/

theorem not_isBlank_of_mem_decimalPadded {width n : Nat} {c : Char}
    (h : c ∈ decimalPadded width n) : isBlank c = false :=
  not_isBlank_of_isAsciiDigit ((decimalPadded_spec width n).1 c h)

theorem not_isBlank_of_mem_yearChars {year : Int} {c : Char} (h : c ∈ Date.yearChars year) :
    isBlank c = false := by
  unfold Date.yearChars at h
  split at h
  · exact not_isBlank_of_mem_decimalPadded h
  · split at h
    · rcases List.mem_cons.mp h with rfl | h
      · decide
      · exact not_isBlank_of_mem_decimalPadded h
    · rcases List.mem_cons.mp h with rfl | h
      · decide
      · exact not_isBlank_of_isAsciiDigit ((decimal_spec _).1 c h)

theorem not_isBlank_of_mem_date {d : Date} {c : Char} (h : c ∈ d.chars) : isBlank c = false := by
  simp only [Date.chars, List.append_assoc, List.cons_append, List.mem_append, List.mem_cons] at h
  rcases h with h | rfl | h | rfl | h
  · exact not_isBlank_of_mem_yearChars h
  · decide
  · exact not_isBlank_of_mem_decimalPadded h
  · decide
  · exact not_isBlank_of_mem_decimalPadded h

/-- A fraction is a point and three, six or nine digits that stand for all of it. -/
theorem fractionChars_cases (t : Time) :
    (t.clockNano = 0 ∧ Time.fractionChars t.clockNano = []) ∨
      ∃ width n, 0 < width ∧ width ≤ 9 ∧ n < 10 ^ width ∧ n * 10 ^ (9 - width) = t.clockNano ∧
        t.clockNano ≠ 0 ∧ Time.fractionChars t.clockNano = '.' :: decimalPadded width n := by
  have hnano := t.clockNano_lt
  unfold Time.fractionChars
  by_cases hzero : t.clockNano = 0
  · exact .inl ⟨hzero, if_pos hzero⟩
  · right
    rw [if_neg hzero]
    split
    · exact ⟨3, t.clockNano / 1000000, by omega, by omega, by omega, by omega, hzero, rfl⟩
    · split
      · exact ⟨6, t.clockNano / 1000, by omega, by omega, by omega, by omega, hzero, rfl⟩
      · exact ⟨9, t.clockNano, by omega, by omega, by omega, by omega, hzero, rfl⟩

theorem not_isBlank_of_mem_time {t : Time} {c : Char} (h : c ∈ t.chars) : isBlank c = false := by
  simp only [Time.chars, List.append_assoc, List.cons_append, List.mem_append, List.mem_cons] at h
  rcases h with h | rfl | h | rfl | h | h
  · exact not_isBlank_of_mem_decimalPadded h
  · decide
  · exact not_isBlank_of_mem_decimalPadded h
  · decide
  · exact not_isBlank_of_mem_decimalPadded h
  · rcases fractionChars_cases t with ⟨-, hnone⟩ | ⟨width, n, -, -, -, -, -, hsome⟩
    · rw [hnone] at h
      cases h
    · rw [hsome] at h
      rcases List.mem_cons.mp h with rfl | h
      · decide
      · exact not_isBlank_of_mem_decimalPadded h

namespace Pattern

/-! ## Numbers -/

theorem trimStart_digits {digits : List Char} (hdigits : ∀ c ∈ digits, isAsciiDigit c = true)
    (hne : digits ≠ []) (rest : List Char) : trimStart (digits ++ rest) = digits ++ rest :=
  trimStart_append (fun c hc => not_isBlank_of_isAsciiDigit (hdigits c hc)) hne rest

/-- Of a long run of digits the first ones are read. -/
theorem readNumber_digits {width : Nat} {digits : List Char}
    (hdigits : ∀ c ∈ digits, isAsciiDigit c = true) (hwidth : 0 < width)
    (hlong : width ≤ digits.length) (rest : List Char) :
    readNumber width (digits ++ rest) =
      some (digitsValue (digits.take width), digits.drop width ++ rest) := by
  have hne : digits ≠ [] := List.ne_nil_of_length_pos (Nat.lt_of_lt_of_le hwidth hlong)
  have htaken : ((digits ++ rest).takeWhile isAsciiDigit).take width = digits.take width := by
    rw [List.takeWhile_append_of_pos hdigits, List.take_append_of_le_length hlong]
  have hlength : (digits.take width).length = width := List.length_take_of_le hlong
  have hsome : digits.take width ≠ [] := List.ne_nil_of_length_pos (by omega)
  simp only [readNumber, trimStart_digits hdigits hne, htaken, List.isEmpty_iff, hsome, if_false,
    hlength, List.drop_append_of_le_length hlong]

theorem readNumber_decimalPadded {width n : Nat} (hwidth : 0 < width) (h : n < 10 ^ width)
    (rest : List Char) : readNumber width (decimalPadded width n ++ rest) = some (n, rest) := by
  obtain ⟨hdigits, hvalue⟩ := decimalPadded_spec width n
  have hlength := length_decimalPadded hwidth h
  rw [readNumber_digits hdigits hwidth (Nat.le_of_eq hlength.symm),
    List.take_of_length_le (Nat.le_of_eq hlength), List.drop_of_length_le (Nat.le_of_eq hlength),
    hvalue, List.nil_append]

theorem readBetween_decimalPadded {least greatest n : Nat} (h : least ≤ n ∧ n ≤ greatest)
    (hgreatest : greatest < 10 ^ 2) (rest : List Char) :
    readBetween least greatest 2 (decimalPadded 2 n ++ rest) = some (n, rest) := by
  have hn : n < 10 ^ 2 := Nat.lt_of_le_of_lt h.2 hgreatest
  simp [readBetween, readNumber_decimalPadded (by decide) hn, h]

theorem readSigned_digits {digits : List Char} (hdigits : ∀ c ∈ digits, isAsciiDigit c = true)
    (hne : digits ≠ []) (rest : List Char) :
    readSigned (digits ++ '-' :: rest) = some (digitsValue digits, '-' :: rest) := by
  have hspan : spanDigits (digits ++ '-' :: rest) = (digits, '-' :: rest) := by
    rw [spanDigits, List.takeWhile_append_of_pos hdigits, List.dropWhile_append_of_pos hdigits]
    simp [isAsciiDigit]
  simp only [readSigned, hspan, List.isEmpty_iff, hne, if_false]

/-- A year without a sign has at most four digits. -/
theorem readYear_digits {digits : List Char} (hdigits : ∀ c ∈ digits, isAsciiDigit c = true)
    (hne : digits ≠ []) (rest : List Char) :
    readYear (digits ++ rest) =
      (readNumber 4 (digits ++ rest)).map fun (n, rest) => ((n : Int), rest) := by
  unfold readYear
  rw [trimStart_digits hdigits hne]
  obtain ⟨c, cs, rfl⟩ := List.exists_cons_of_ne_nil hne
  have hc := hdigits c List.mem_cons_self
  split
  · rename_i heq
    rw [(List.cons.inj heq).1] at hc
    exact absurd hc (by decide)
  · rename_i heq
    rw [(List.cons.inj heq).1] at hc
    exact absurd hc (by decide)
  · rfl

/-- A year is read back, in each of its forms. -/
theorem readYear_yearChars (year : Int) (rest : List Char) :
    readYear (Date.yearChars year ++ '-' :: rest) = some (year, '-' :: rest) := by
  unfold Date.yearChars
  split
  · rename_i hplain
    obtain ⟨hdigits, -⟩ := decimalPadded_spec 4 year.toNat
    have hyear : (year.toNat : Int) = year := Int.toNat_of_nonneg hplain.1
    rw [readYear_digits hdigits (decimalPadded_ne_nil 4 _),
      readNumber_decimalPadded (by decide) (by omega), Option.map_some]
    simp only [hyear]
  · split
    · rename_i hnegative
      obtain ⟨hdigits, hvalue⟩ := decimalPadded_spec 4 year.natAbs
      have hsigned := readSigned_digits hdigits (decimalPadded_ne_nil 4 _) rest
      have hyear : -(year.natAbs : Int) = year := by omega
      generalize year.natAbs = n at hsigned hvalue hyear ⊢
      simp [readYear, trimStart, isBlank, hsigned, hvalue, hyear]
    · rename_i hpositive
      obtain ⟨hdigits, hvalue⟩ := decimal_spec year.natAbs
      have hsigned := readSigned_digits hdigits (decimal_ne_nil _) rest
      have hyear : (year.natAbs : Int) = year := by omega
      generalize year.natAbs = n at hsigned hvalue hyear ⊢
      simp [readYear, trimStart, isBlank, hsigned, hvalue, hyear]

theorem readFraction_decimalPadded {width n : Nat} (hwidth : 0 < width) (hnine : width ≤ 9)
    (h : n < 10 ^ width) :
    readFraction (decimalPadded width n) = some (n * 10 ^ (9 - width), []) := by
  obtain ⟨hdigits, hvalue⟩ := decimalPadded_spec width n
  have hne := decimalPadded_ne_nil width n
  have hlength := length_decimalPadded hwidth h
  have hspan : spanDigits (decimalPadded width n) = (decimalPadded width n, []) := by
    rw [spanDigits, List.takeWhile_eq_self_iff.mpr hdigits, List.dropWhile_eq_nil_iff.mpr hdigits]
  have htaken : (decimalPadded width n).take 9 = decimalPadded width n :=
    List.take_of_length_le (by omega)
  simp only [readFraction, hspan, htaken, List.isEmpty_iff, hne, if_false, hvalue, hlength]
  rfl

/-! ## Dates -/

theorem readItems_cons {item : Item} {items : List Item} {parts parts' : Parts}
    {cs rest : List Char} (h : readItem parts cs item = some (parts', rest)) :
    readItems (item :: items) parts cs = readItems items parts' rest := by
  simp [readItems, h]

theorem readItem_mark (parts : Parts) (c : Char) (rest : List Char) :
    readItem parts (c :: rest) (.mark c) = some (parts, rest) := by
  simp [readItem]

/-- The text of a date is read as the date, whatever follows it. -/
theorem readItems_isoDay (d : Date) (items : List Item) (rest : List Char) :
    readItems (isoDay ++ items) {} (d.chars ++ rest) =
      readItems items { year := some d.year, month := some d.month, day := some d.day } rest := by
  obtain ⟨-, -, hmonth, hmonth', hday, hday'⟩ := d.isDay
  have hlength : daysInMonth d.year d.month ≤ 31 := by
    unfold daysInMonth
    split <;> split <;> decide
  have hread := readBetween_decimalPadded ⟨hmonth, hmonth'⟩ (by decide)
  have hread' := readBetween_decimalPadded ⟨hday, Nat.le_trans hday' hlength⟩ (by decide)
  simp only [isoDay, Date.chars, List.cons_append, List.nil_append, List.append_assoc]
  rw [readItems_cons (by rw [readItem, readYear_yearChars]; rfl), readItems_cons (readItem_mark _ _ _),
    readItems_cons (by rw [readItem, hread]; rfl), readItems_cons (readItem_mark _ _ _),
    readItems_cons (by rw [readItem, hread']; rfl)]

/-! ## Times -/

theorem readItem_fraction (t : Time) (parts : Parts) :
    readItem parts (Time.fractionChars t.clockNano) .fraction =
      some ({ parts with
        nano := if t.clockNano = 0 then parts.nano else some t.clockNano }, []) := by
  rcases fractionChars_cases t with
    ⟨hzero, hnone⟩ | ⟨width, n, hwidth, hnine, hn, hvalue, hsome, hchars⟩
  · rw [hnone, if_pos hzero]
    rfl
  · rw [hchars, if_neg hsome]
    simp only [readItem, readFraction_decimalPadded hwidth hnine hn, hvalue, Option.map_some]

/-- The text of a time is read to the end. A fraction that is not written is not read. -/
theorem readItems_clock (t : Time) (parts : Parts) :
    readItems clock parts t.chars =
      some ({ parts with
        hour := some t.hour
        minute := some t.minute
        second := some t.clockSecond
        nano := if t.clockNano = 0 then parts.nano else some t.clockNano }, []) := by
  obtain ⟨hhour, hminute, -⟩ := t.isTime
  have hread := readBetween_decimalPadded ⟨Nat.zero_le _, Nat.le_of_lt_succ hhour⟩ (by decide)
  have hread' := readBetween_decimalPadded ⟨Nat.zero_le _, Nat.le_of_lt_succ hminute⟩ (by decide)
  have hread'' := readBetween_decimalPadded ⟨Nat.zero_le _, t.clockSecond_le⟩ (by decide)
  simp only [clock, Time.chars, List.cons_append, List.append_assoc]
  rw [readItems_cons (by rw [readItem, hread]; rfl), readItems_cons (readItem_mark _ _ _),
    readItems_cons (by rw [readItem, hread']; rfl), readItems_cons (readItem_mark _ _ _),
    readItems_cons (by rw [readItem, hread'']; rfl), readItems_cons (readItem_fraction t _)]
  rfl

theorem date?_of_date (d : Date) {p : Parts} (hyear : p.year = some d.year)
    (hmonth : p.month = some d.month) (hday : p.day = some d.day) : p.date? = some d := by
  have hof : Date.of? d.year d.month d.day = some d := dif_pos d.isDay
  simp [Parts.date?, hyear, hmonth, hday, hof]

theorem time?_of_time (t : Time) {p : Parts} (hhour : p.hour = some t.hour)
    (hminute : p.minute = some t.minute) (hsecond : p.second = some t.clockSecond)
    (hnano : p.nano = if t.clockNano = 0 then none else some t.clockNano) :
    p.time? = some t.asWritten := by
  have hnano' : p.nano.getD 0 = t.clockNano := by
    rw [hnano]
    split
    · simp [*]
    · rfl
  simp [Parts.time?, Parts.hour?, hhour, hminute, hsecond, hnano', t.ofClock?_clock]

/-! ## Forms that take the text -/

theorem dateBy_isoDay (d : Date) : dateBy isoDay d.chars = some d := by
  have hread := readItems_isoDay d [] []
  rw [List.append_nil, List.append_nil] at hread
  rw [dateBy, read, hread]
  exact date?_of_date d rfl rfl rfl

theorem timeBy_clock (t : Time) : timeBy clock t.chars = some t.asWritten := by
  rw [timeBy, read, readItems_clock]
  exact time?_of_time t rfl rfl rfl rfl

theorem stampBy_spacedStamp (t : Timestamp) :
    stampBy spacedStamp t.chars = some t.asWritten := by
  have hgap : trimStart (' ' :: t.time.chars) = t.time.chars := by
    have hblank : isBlank ' ' = true := by decide
    rw [trimStart, List.dropWhile_cons_of_pos hblank]
    exact trimStart_of_head? fun c hc => not_isBlank_of_mem_time (List.mem_of_mem_head? hc)
  rw [stampBy, read, spacedStamp, Timestamp.chars, readItems_isoDay,
    readItems_cons (by rw [readItem, hgap]), readItems_clock]
  simp [Parts.timestamp?, date?_of_date t.date, time?_of_time t.time, Timestamp.asWritten]

/-! ## Forms that do not -/

/-- Two digits are not all of a year, and what follows them is a digit again. -/
theorem readBetween_yearChars {least greatest n : Nat} {year : Int} {rest after : List Char}
    (h : readBetween least greatest 2 (Date.yearChars year ++ rest) = some (n, after)) :
    ∃ c cs, after = c :: cs ∧ isAsciiDigit c = true := by
  simp only [readBetween, Option.bind_eq_bind, Option.bind_eq_some_iff] at h
  obtain ⟨⟨m, after'⟩, hnumber, h⟩ := h
  obtain rfl : after' = after := by
    split at h
    · simpa using (Prod.mk.inj (Option.some.inj h)).2
    · cases h
  unfold Date.yearChars at hnumber
  split at hnumber
  · rename_i hplain
    obtain ⟨hdigits, -⟩ := decimalPadded_spec 4 year.toNat
    have hlength : (decimalPadded 4 year.toNat).length = 4 :=
      length_decimalPadded (by decide) (by omega)
    rw [readNumber_digits hdigits (by decide) (by omega)] at hnumber
    have hne : (decimalPadded 4 year.toNat).drop 2 ≠ [] :=
      List.ne_nil_of_length_pos (by rw [List.length_drop]; omega)
    obtain ⟨c, cs, hcs⟩ := List.exists_cons_of_ne_nil hne
    refine ⟨c, cs ++ rest, ?_, hdigits c (List.mem_of_mem_drop (by rw [hcs]; simp))⟩
    rw [← (Prod.mk.inj (Option.some.inj hnumber)).2, hcs, List.cons_append]
  · -- a number has no sign
    split at hnumber <;> simp [readNumber, trimStart, isBlank, isAsciiDigit] at hnumber

/-- Months and hours are numbers of two digits. -/
theorem readItem_short {item : Item} (h : item = .month ∨ item = .hour ∨ item = .hour12) :
    ∃ least greatest, ∃ part : Nat → Parts, ∀ cs, readItem {} cs item =
      (readBetween least greatest 2 cs).map fun (n, after) => (part n, after) := by
  rcases h with rfl | rfl | rfl
  · exact ⟨1, 12, fun n => { month := some n }, fun _ => rfl⟩
  · exact ⟨0, 23, fun n => { hour := some n }, fun _ => rfl⟩
  · exact ⟨1, 12, fun n => { hour12 := some n }, fun _ => rfl⟩

/-- No form that starts with a month or an hour takes a text that starts with a date. -/
theorem read_short {item : Item} (hitem : item = .month ∨ item = .hour ∨ item = .hour12)
    {m : Char} (hm : isAsciiDigit m = false) (items : List Item) (d : Date) (rest : List Char) :
    read (item :: .mark m :: items) (d.chars ++ rest) = none := by
  obtain ⟨least, greatest, part, hread⟩ := readItem_short hitem
  simp only [Date.chars, List.append_assoc]
  generalize '-' :: decimalPadded 2 d.month ++ ('-' :: decimalPadded 2 d.day ++ rest) = rest
  have hnone : readItems (item :: .mark m :: items) {} (Date.yearChars d.year ++ rest) = none := by
    rw [readItems, hread]
    rcases hnumber : readBetween least greatest 2 (Date.yearChars d.year ++ rest) with
      _ | ⟨n, after⟩
    · rfl
    · obtain ⟨c, cs, rfl, hc⟩ := readBetween_yearChars hnumber
      have hne : c ≠ m := by
        rintro rfl
        rw [hm] at hc
        cases hc
      simp [readItems, readItem, hne]
  rw [read, hnone]

/-- A year is read in full, but no slash follows. -/
theorem read_yearFirst (d : Date) (rest : List Char) :
    read yearFirst (d.chars ++ rest) = none := by
  simp only [yearFirst, Date.chars, List.append_assoc, List.cons_append]
  rw [read, readItems_cons (by rw [readItem, readYear_yearChars]; rfl)]
  simp [readItems, readItem]

/-- A date that something follows is no date. -/
theorem read_isoDay_cons (d : Date) (c : Char) (rest : List Char) :
    read isoDay (d.chars ++ c :: rest) = none := by
  rw [read, ← List.append_nil isoDay, readItems_isoDay]
  rfl

/-- A date alone is no date with a time. -/
theorem read_isoDay_append (d : Date) {items : List Item}
    (h : ∀ parts, readItems items parts [] = none) : read (isoDay ++ items) d.chars = none := by
  rw [read, ← List.append_nil d.chars, readItems_isoDay, h]

/-! ## Any form -/

theorem anyDate_date (d : Date) : anyDate d.chars = some d := by
  rw [anyDate, trim_eq_self fun _ => not_isBlank_of_mem_date]
  simp [dateBy_isoDay]

theorem anyTime_time (t : Time) : anyTime t.chars = some t.asWritten := by
  rw [anyTime, trim_eq_self fun _ => not_isBlank_of_mem_time]
  simp [timeBy_clock]

theorem trim_timestamp (t : Timestamp) : trim t.chars = t.chars := by
  have hdate : t.date.chars ≠ [] := by simp [Date.chars]
  have htime : t.time.chars ≠ [] := by simp [Time.chars]
  refine trim_of_ends (fun c hc => ?_) fun c hc => ?_
  · obtain ⟨d, ds, hds⟩ := List.exists_cons_of_ne_nil hdate
    rw [Timestamp.chars, hds] at hc
    refine not_isBlank_of_mem_date (d := t.date) ?_
    rw [hds, ← Option.some.inj hc]
    exact List.mem_cons_self
  · rw [Timestamp.chars, List.getLast?_append, List.getLast?_cons,
      List.getLast?_eq_some_getLast htime] at hc
    refine not_isBlank_of_mem_time (t := t.time) ?_
    rw [← Option.some.inj hc]
    exact List.getLast_mem htime

theorem anyStamp_timestamp (t : Timestamp) : anyStamp t.chars = some t.asWritten := by
  simp [anyStamp, trim_timestamp, stampBy_spacedStamp]

theorem anyDate_timestamp (t : Timestamp) : anyDate t.chars = none := by
  have hdash := read_isoDay_cons t.date ' ' t.time.chars
  have hmonth : read monthFirst (t.date.chars ++ ' ' :: t.time.chars) = none :=
    read_short (.inl rfl) (by decide) _ _ _
  have hyear := read_yearFirst t.date (' ' :: t.time.chars)
  rw [anyDate, trim_timestamp, Timestamp.chars]
  simp [dateBy, hdash, hmonth, hyear]

theorem anyTime_timestamp (t : Timestamp) : anyTime t.chars = none := by
  have hclock : read clock (t.date.chars ++ ' ' :: t.time.chars) = none :=
    read_short (.inr (.inl rfl)) (by decide) _ _ _
  have hshort : read shortClock (t.date.chars ++ ' ' :: t.time.chars) = none :=
    read_short (.inr (.inl rfl)) (by decide) _ _ _
  have hhalf : read halfDayClock (t.date.chars ++ ' ' :: t.time.chars) = none :=
    read_short (.inr (.inr rfl)) (by decide) _ _ _
  rw [anyTime, trim_timestamp, Timestamp.chars]
  simp [timeBy, hclock, hshort, hhalf]

/-- A date is read as its midnight by way of the forms of dates. -/
theorem anyStamp_date (d : Date) : anyStamp d.chars = some (Timestamp.midnight d) := by
  have hspaced : read spacedStamp d.chars = none := read_isoDay_append d fun _ => rfl
  have hiso : read isoStamp d.chars = none := read_isoDay_append d fun _ => rfl
  have hshort : read shortStamp d.chars = none := read_isoDay_append d fun _ => rfl
  have hslashed : read slashedStamp (d.chars ++ []) = none :=
    read_short (.inl rfl) (by decide) _ _ _
  rw [List.append_nil] at hslashed
  rw [anyStamp, trim_eq_self fun _ => not_isBlank_of_mem_date, anyDate_date]
  simp [stampBy, hspaced, hiso, hshort, hslashed]

end Pattern

end GridQuery
