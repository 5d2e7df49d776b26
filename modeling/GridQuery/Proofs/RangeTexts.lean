-- Texts of ranges. A range is written as one corner or as two with a colon
-- between them, and a corner as letters and digits, either of which may be
-- missing. No text is written from different corners, so a range is read from
-- the corners that its text was written from, and from nothing else.
import GridQuery.Proofs.Numerals
import GridQuery.Reference.Range

namespace GridQuery

open GridQuery.Text

/-! ## Corners -/

theorem filter_bne_of_not_mem {mark : Char} {cs : List Char} (h : mark ∉ cs) :
    cs.filter (· != mark) = cs := by
  rw [List.filter_eq_self]
  intro c hc
  rw [bne_iff_ne]
  rintro rfl
  exact h hc

theorem toNat_lt_of_isAsciiCapital {c : Char} (h : isAsciiCapital c = true) : c.toNat < 128 := by
  simp only [isAsciiCapital, Bool.and_eq_true, decide_eq_true_eq] at h
  exact Nat.lt_of_le_of_lt (UInt32.le_iff_toNat_le.mp h.2) (by decide)

theorem letter_of_isAsciiCapital {c : Char} (h : isAsciiCapital c = true) :
    isAsciiLetter c = true ∧ isDecimalDigit c = false := by
  have hlt := toNat_lt_of_isAsciiCapital h
  revert h
  refine forall_ascii hlt ?_
  decide

theorem not_isAsciiCapital_of_isDecimalDigit {c : Char} (h : isDecimalDigit c = true) :
    isAsciiCapital c = false := by
  rcases hcapital : isAsciiCapital c with _ | _
  · rfl
  · rw [(letter_of_isAsciiCapital hcapital).2] at h
    cases h

namespace Corner

/-- A corner as it stands in a text. -/
def text (c : Corner) : List Char := c.letters ++ c.digits

/-- Capitals, and decimal digits of any script. -/
structure IsWritten (c : Corner) : Prop where
  of_letters : ∀ l ∈ c.letters, isAsciiCapital l = true
  of_digits : ∀ d ∈ c.digits, isDecimalDigit d = true

instance (c : Corner) : Decidable c.IsWritten :=
  decidable_of_iff (c.letters.all isAsciiCapital = true ∧ c.digits.all isDecimalDigit = true)
    ⟨fun h => ⟨List.all_eq_true.mp h.1, List.all_eq_true.mp h.2⟩,
      fun h => ⟨List.all_eq_true.mpr h.of_letters, List.all_eq_true.mpr h.of_digits⟩⟩

theorem IsWritten.colon_not_mem {c : Corner} (h : c.IsWritten) : ':' ∉ c.text := by
  intro hmem
  rcases List.mem_append.mp hmem with hmem | hmem
  · exact absurd (h.of_letters _ hmem) (by decide)
  · exact absurd (h.of_digits _ hmem) (by decide)

end Corner

/-- What is read of a corner is a corner, and nothing is lost. -/
theorem readCorner_spec (cs : List Char) :
    (readCorner cs).1.IsWritten ∧ cs = (readCorner cs).1.text ++ (readCorner cs).2 := by
  refine ⟨⟨?_, ?_⟩, ?_⟩
  · exact List.all_eq_true.mp List.all_takeWhile
  · exact List.all_eq_true.mp List.all_takeWhile
  · simp only [readCorner, Corner.text, List.append_assoc, List.takeWhile_append_dropWhile]

/-- A corner is read as it is, up to the end of the text or a colon. -/
theorem readCorner_append {c : Corner} (h : c.IsWritten) {rest : List Char}
    (hrest : ∀ x ∈ rest.head?, x = ':') : readCorner (c.text ++ rest) = (c, rest) := by
  have hafter : ∀ x ∈ (c.digits ++ rest).head?, isAsciiCapital x = false := by
    intro x hx
    rcases hdigits : c.digits with _ | ⟨d, ds⟩
    · rw [hdigits] at hx
      rw [hrest x hx]
      rfl
    · rw [hdigits] at hx
      obtain rfl : d = x := Option.some.inj hx
      exact not_isAsciiCapital_of_isDecimalDigit (h.of_digits d (hdigits ▸ List.mem_cons_self))
  have hend : ∀ x ∈ rest.head?, isDecimalDigit x = false := by
    intro x hx
    rw [hrest x hx]
    decide
  obtain ⟨hletters, hbehind⟩ := span_append_of_head? h.of_letters hafter
  obtain ⟨hdigits, hleft⟩ := span_append_of_head? h.of_digits hend
  rw [Corner.text, List.append_assoc, readCorner, hletters, hbehind, hdigits, hleft]

theorem readCorner_text {c : Corner} (h : c.IsWritten) : readCorner c.text = (c, []) := by
  have hread : readCorner (c.text ++ []) = (c, []) := readCorner_append h nofun
  rwa [List.append_nil] at hread

theorem readCorner_colon {c : Corner} (h : c.IsWritten) (rest : List Char) :
    readCorner (c.text ++ ':' :: rest) = (c, ':' :: rest) := by
  apply readCorner_append h
  intro x hx
  exact (Option.some.inj hx).symm

/-! ## Ranges -/

/-- The text is written from a first and a last corner: from one corner, which is both, or from
two with a colon between them. -/
inductive Spells (form : List Char) : Corner → Corner → Prop
  | one {c : Corner} : c.IsWritten → form = c.text → Spells form c c
  | two {first last : Corner} : first.IsWritten → last.IsWritten →
      form = first.text ++ ':' :: last.text → Spells form first last

namespace Spells

variable {form : List Char} {first last first' last' : Corner}

theorem written (h : Spells form first last) : first.IsWritten ∧ last.IsWritten := by
  cases h with
  | one hc _ => exact ⟨hc, hc⟩
  | two hfirst hlast _ => exact ⟨hfirst, hlast⟩

theorem readCorner_eq (h : Spells form first last) :
    readCorner form = (first, []) ∧ last = first ∨
      readCorner form = (first, ':' :: last.text) := by
  cases h with
  | one hc hform =>
    rw [hform]
    exact .inl ⟨readCorner_text hc, rfl⟩
  | two hfirst _ hform =>
    rw [hform]
    exact .inr (readCorner_colon hfirst _)

/-- A text is written from one pair of corners. -/
theorem unique (h : Spells form first last) (h' : Spells form first' last') :
    first = first' ∧ last = last' := by
  rcases h.readCorner_eq with ⟨hread, hlast⟩ | hread <;>
    rcases h'.readCorner_eq with ⟨hread', hlast'⟩ | hread' <;>
    rw [hread] at hread' <;>
    obtain ⟨hfirst, hrest⟩ := Prod.mk.inj hread'
  · exact ⟨hfirst, by rw [hlast, hlast', hfirst]⟩
  · cases hrest
  · cases hrest
  · have htext := congrArg readCorner (List.cons.inj hrest).2
    rw [readCorner_text h.written.2, readCorner_text h'.written.2] at htext
    exact ⟨hfirst, (Prod.mk.inj htext).1⟩

end Spells

namespace CellRange

variable {s : String}

theorem read_of_spells {first last : Corner} (h : Spells (rangeForm s) first last) :
    read s = .ok (corners first last) := by
  unfold read
  cases h with
  | one hc hform =>
    rw [hform, readCorner_text hc]
    rfl
  | two hfirst hlast hform =>
    rw [hform, readCorner_colon hfirst]
    simp only [if_true, readCorner_text hlast]

/-- A text that is not written from corners is refused, in the form in which it was read. -/
theorem read_cases (s : String) :
    (∃ first last, Spells (rangeForm s) first last) ∨
      read s = .error (.format (String.ofList (rangeForm s))) := by
  unfold read
  have hspec := readCorner_spec (rangeForm s)
  rcases hread : readCorner (rangeForm s) with ⟨first, _ | ⟨c, rest⟩⟩
  · rw [hread] at hspec
    exact .inl ⟨first, first, .one hspec.1 (hspec.2.trans (List.append_nil _))⟩
  · rw [hread] at hspec
    by_cases hcolon : c = ':'
    · subst hcolon
      have hspec' := readCorner_spec rest
      rcases hread' : readCorner rest with ⟨last, _ | ⟨d, more⟩⟩
      · rw [hread'] at hspec'
        have hrest : rest = last.text := hspec'.2.trans (List.append_nil _)
        exact .inl ⟨first, last, .two hspec.1 hspec'.1 (hrest ▸ hspec.2)⟩
      · simp [hread']
    · simp [hcolon]

/-- A text is read as a range exactly if it is written from corners, and then as theirs. -/
theorem read_eq_ok_iff {r : CellRange} :
    read s = .ok r ↔ ∃ first last, Spells (rangeForm s) first last ∧ r = corners first last := by
  constructor
  · intro h
    rcases read_cases s with ⟨first, last, hspells⟩ | herror
    · rw [read_of_spells hspells] at h
      exact ⟨first, last, hspells, (Except.ok.inj h).symm⟩
    · rw [herror] at h
      cases h
  · rintro ⟨first, last, hspells, rfl⟩
    exact read_of_spells hspells

theorem read_eq_error_iff {e : RangeError} :
    read s = .error e ↔
      e = .format (String.ofList (rangeForm s)) ∧
        ∀ first last, ¬ Spells (rangeForm s) first last := by
  rcases read_cases s with ⟨first, last, hspells⟩ | herror
  · rw [read_of_spells hspells]
    apply iff_of_false nofun
    rintro ⟨-, hnone⟩
    exact hnone first last hspells
  · rw [herror]
    constructor
    · intro h
      refine ⟨(Except.error.inj h).symm, ?_⟩
      intro first last hspells
      rw [read_of_spells hspells] at herror
      cases herror
    · rintro ⟨rfl, -⟩
      rfl

end CellRange

end GridQuery
