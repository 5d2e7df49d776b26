-- A LIKE pattern finds what the text test asks for: the part stands at the
-- start, at the end or anywhere in the text, wildcards in it taken as they are.
-- What a pattern matches is said by its characters, without reading it first.
import GridQuery.Expr.Evaluate
import GridQuery.Sql.Term
import Mathlib.Data.List.Infix

namespace GridQuery.Sql

open GridQuery.Text

/-! ## Reading patterns -/

/-- Escaped characters are read as themselves. -/
theorem readPattern_escapeWildcards (part pattern : List Char) :
    readPattern (escapeWildcards part ++ pattern) = part.map .exactly ++ readPattern pattern := by
  induction part with
  | nil => rfl
  | cons c cs ih =>
    unfold escapeWildcards
    split
    · simp [readPattern, ih]
    · rename_i hplain
      simp only [not_or] at hplain
      simp [readPattern, hplain, ih]

/-! ## Matching -/

theorem suffixes_eq_tails (cs : List Char) : suffixes cs = cs.tails := by
  induction cs with
  | nil => rfl
  | cons c cs ih => simp [suffixes, ih]

/-- Exact characters match a prefix; the other parts match what is left. -/
theorem matchesParts_exactly (part : List Char) (parts : List LikePart) (text : List Char) :
    matchesParts (part.map .exactly ++ parts) text =
      (part.isPrefixOf text && matchesParts parts (text.drop part.length)) := by
  induction part generalizing text with
  | nil => simp
  | cons c cs ih =>
    rcases text with _ | ⟨d, ds⟩
    · rfl
    · simp [matchesParts, ih, List.isPrefixOf, Bool.and_assoc]

/-- A run of any characters matches every text. -/
theorem matchesParts_run (text : List Char) : matchesParts [.run] text = true := by
  simp only [matchesParts, suffixes_eq_tails, List.any_eq_true, List.mem_tails]
  exact ⟨[], List.nil_suffix, rfl⟩

/-- Behind a run of any characters, a part that ends the text is a suffix of it. -/
theorem matchesParts_run_exactly (part text : List Char) :
    matchesParts (.run :: part.map .exactly) text = part.isSuffixOf text := by
  rw [Bool.eq_iff_iff, List.isSuffixOf_iff_suffix]
  have hend : ∀ rest : List Char, matchesParts (part.map .exactly) rest = true ↔ rest = part := by
    intro rest
    have hexact := matchesParts_exactly part [] rest
    rw [List.append_nil] at hexact
    rw [hexact]
    simp only [matchesParts, Bool.and_eq_true, List.isPrefixOf_iff_prefix, List.isEmpty_iff,
      List.drop_eq_nil_iff]
    constructor
    · rintro ⟨hstart, hlength⟩
      exact (hstart.eq_of_length_le hlength).symm
    · rintro rfl
      exact ⟨List.prefix_rfl, Nat.le_refl _⟩
  simp [matchesParts, suffixes_eq_tails, hend]

/-- Between two runs of any characters, a part occurs somewhere in the text. -/
theorem matchesParts_run_exactly_run (part text : List Char) :
    matchesParts (.run :: (part.map .exactly ++ [.run])) text = occursIn part text := by
  have hstart : ∀ rest, matchesParts (part.map .exactly ++ [.run]) rest = part.isPrefixOf rest := by
    intro rest
    rw [matchesParts_exactly, matchesParts_run, Bool.and_true]
  simp only [matchesParts, funext hstart]
  induction text with
  | nil => cases part <;> rfl
  | cons c cs ih => simp only [suffixes, List.any_cons, ih, occursIn]

/-- The pattern of a text test matches exactly the texts that pass the test. -/
theorem likeMatches_likePattern (test : TextTest) (part text : List Char) :
    likeMatches (likePattern test part) text = test.holds part text := by
  unfold likeMatches
  cases test with
  | startsWith =>
    simp only [likePattern, readPattern_escapeWildcards, readPattern, matchesParts_exactly,
      matchesParts_run, Bool.and_true, TextTest.holds]
  | endsWith =>
    have hread := readPattern_escapeWildcards part []
    rw [List.append_nil] at hread
    simp only [likePattern, readPattern, hread, List.append_nil, matchesParts_run_exactly,
      TextTest.holds]
  | contains =>
    simp only [likePattern, List.cons_append, readPattern, readPattern_escapeWildcards,
      matchesParts_run_exactly_run, TextTest.holds]

/-! ## What a pattern matches -/

/-- The pattern matches the whole of a text: `%` any run of characters, `_` any one, a backslash the
character after it, and each other character itself. A backslash at the end has nothing to escape. -/
inductive Matches : List Char → List Char → Prop
  | nil : Matches [] []
  | run (skipped : List Char) {pattern rest : List Char} :
      Matches pattern rest → Matches ('%' :: pattern) (skipped ++ rest)
  | one (c : Char) {pattern rest : List Char} :
      Matches pattern rest → Matches ('_' :: pattern) (c :: rest)
  | escaped (c : Char) {pattern rest : List Char} :
      Matches pattern rest → Matches ('\\' :: c :: pattern) (c :: rest)
  | itself {c : Char} {pattern rest : List Char} : c ≠ '%' → c ≠ '_' → c ≠ '\\' →
      Matches pattern rest → Matches (c :: pattern) (c :: rest)
  | backslash : Matches ['\\'] ['\\']

theorem matchesParts_exactly_cons {c : Char} {parts : List LikePart} {text : List Char} :
    matchesParts (.exactly c :: parts) text = true ↔
      ∃ rest, text = c :: rest ∧ matchesParts parts rest = true := by
  cases text with
  | nil => simp [matchesParts]
  | cons d ds =>
    simp only [matchesParts, Bool.and_eq_true, beq_iff_eq, List.cons.injEq]
    constructor
    · rintro ⟨rfl, hrest⟩
      exact ⟨ds, ⟨rfl, rfl⟩, hrest⟩
    · rintro ⟨rest, ⟨rfl, rfl⟩, hrest⟩
      exact ⟨rfl, hrest⟩

/-- A pattern that is read and then matched part by part matches what its characters say. -/
theorem likeMatches_iff (pattern text : List Char) :
    likeMatches pattern text = true ↔ Matches pattern text := by
  unfold likeMatches
  fun_induction readPattern pattern generalizing text with
  | case1 =>
    constructor
    · intro h
      obtain rfl := List.isEmpty_iff.mp h
      exact .nil
    · intro h
      cases h
      rfl
  | case2 c cs ih =>
    rw [matchesParts_exactly_cons]
    constructor
    · rintro ⟨rest, rfl, hrest⟩
      exact .escaped c ((ih rest).mp hrest)
    · intro h
      cases h with
      | escaped _ hrest => exact ⟨_, rfl, (ih _).mpr hrest⟩
      | itself _ _ hne _ => exact absurd rfl hne
  | case3 cs ih =>
    simp only [matchesParts, suffixes_eq_tails, List.any_eq_true, List.mem_tails]
    constructor
    · rintro ⟨rest, ⟨skipped, rfl⟩, hrest⟩
      exact .run skipped ((ih rest).mp hrest)
    · intro h
      cases h with
      | run skipped hrest => exact ⟨_, List.suffix_append skipped _, (ih _).mpr hrest⟩
      | itself hne _ _ _ => exact absurd rfl hne
  | case4 cs ih =>
    constructor
    · intro h
      cases text with
      | nil => cases h
      | cons c rest => exact .one c ((ih rest).mp h)
    · intro h
      cases h with
      | one c hrest => exact (ih _).mpr hrest
      | itself _ hne _ _ => exact absurd rfl hne
  | case5 c cs hescape hrun hone ih =>
    rw [matchesParts_exactly_cons]
    constructor
    · rintro ⟨rest, rfl, hrest⟩
      have hmatches := (ih rest).mp hrest
      by_cases hbackslash : c = '\\'
      · subst hbackslash
        cases cs with
        | nil =>
          cases hmatches
          exact .backslash
        | cons d ds => exact absurd rfl (hescape d ds rfl)
      · exact .itself hrun hone hbackslash hmatches
    · intro h
      cases h with
      | run => exact absurd rfl hrun
      | one => exact absurd rfl hone
      | escaped => exact absurd rfl (hescape _ _ rfl)
      | itself _ _ _ hrest => exact ⟨_, rfl, (ih _).mpr hrest⟩
      | backslash => exact ⟨[], rfl, rfl⟩

end GridQuery.Sql

namespace GridQuery

open GridQuery.Sql GridQuery.Text

/-! ## Text tests -/

/-- The part stands in the text where the test asks for it. -/
def TextTest.Passes (part text : List Char) : TextTest → Prop
  | startsWith => part <+: text
  | endsWith => part <:+ text
  | contains => part <:+: text

theorem Text.occursIn_iff_infix {part text : List Char} :
    occursIn part text = true ↔ part <:+: text := by
  induction text with
  | nil => simp [occursIn]
  | cons c cs ih =>
    rw [occursIn, Bool.or_eq_true, ih, List.isPrefixOf_iff_prefix, List.infix_cons_iff]

theorem TextTest.holds_iff_passes {test : TextTest} {part text : List Char} :
    test.holds part text = true ↔ test.Passes part text := by
  cases test with
  | startsWith => exact List.isPrefixOf_iff_prefix
  | endsWith => exact List.isSuffixOf_iff_suffix
  | contains => exact occursIn_iff_infix

/-- The statement tests a text against a pattern, with the backslash for escaping, that matches
exactly the texts in which the part stands where the test asks for it, whatever characters the part
and the text are made of. On such texts the expression evaluates to true, on all others to false. -/
theorem a_like_pattern_matches_the_texts_that_pass_its_test (operand : Expr) (test : TextTest)
    (part text : String) (mappings : ColumnMappings) (row : String → Value)
    (h : operand.evaluate mappings row = .text text) :
    (∃ pattern : String,
      ((operand.like test part).toTerm mappings).tokens =
        plain "(" ++ (operand.toTerm mappings).tokens ++ plain " LIKE " ++
          [.parameter (.text pattern)] ++ plain " ESCAPE " ++ [.literal "\\"] ++ plain ")" ∧
      (Matches pattern.toList text.toList ↔ test.Passes part.toList text.toList)) ∧
    ((operand.like test part).evaluate mappings row = .bool true ↔
      test.Passes part.toList text.toList) ∧
    ((operand.like test part).evaluate mappings row = .bool false ↔
      ¬ test.Passes part.toList text.toList) := by
  have hvalue : (operand.like test part).evaluate mappings row =
      .bool (test.holds part.toList text.toList) := by
    simp only [Expr.evaluate, h, Value.testText, Value.display, Truth.toValue]
  refine ⟨⟨String.ofList (likePattern test part.toList), ?_, ?_⟩, ?_, ?_⟩
  · simp only [Expr.toTerm, Term.tokens]
  · rw [String.toList_ofList, ← likeMatches_iff, likeMatches_likePattern]
    exact TextTest.holds_iff_passes
  · rw [hvalue, Value.bool.injEq]
    exact TextTest.holds_iff_passes
  · rw [hvalue, Value.bool.injEq, ← TextTest.holds_iff_passes, Bool.not_eq_true]

/-- A part made of wildcards and backslashes in the middle of a text. -/
theorem wildcards_are_found_as_they_are :
    let row : String → Value := fun _ => .text "off 50%_\\ now"
    (Expr.column "Note").evaluate {} row = .text "off 50%_\\ now" ∧
      TextTest.contains.Passes "0%_\\".toList "off 50%_\\ now".toList ∧
      ((Expr.column "Note").like .contains "0%_\\").evaluate {} row = .bool true := by
  intro row
  have hpasses : TextTest.contains.Passes "0%_\\".toList "off 50%_\\ now".toList :=
    ⟨"off 5".toList, " now".toList, by decide⟩
  have htext : (Expr.column "Note").evaluate {} row = .text "off 50%_\\ now" := rfl
  refine ⟨htext, hpasses, ?_⟩
  exact (a_like_pattern_matches_the_texts_that_pass_its_test (.column "Note") .contains "0%_\\"
    "off 50%_\\ now" {} row htext).2.1.mpr hpasses

end GridQuery
