-- Arguments that are accepted, and copies of them. Calls set arguments up in
-- any order and are checked at the end, all at once. A copy for another source
-- is not checked again: it keeps all that was accepted but for the source.
import GridQuery.Query.Arguments
import Mathlib.Data.List.Induction

namespace GridQuery

open GridQuery.Text

/-! ## What is accepted -/

namespace QueryArguments

/-- What is checked of arguments before they are accepted. -/
structure Checked (a : QueryArguments) : Prop where
  source : isBlankText a.source = false
  start : a.startRange.all isCellReference = true
  stop : a.endRange.all isCellReference = true
  /-- Delimited text without a header is read as a whole. -/
  header : a.isCsv = true → a.noHeader = true → a.startRange = none ∧ a.endRange = none

theorem badSide_eq_none_iff {side : Option String} :
    badSide side = none ↔ side.all isCellReference = true := by
  rcases side with _ | s
  · simp [badSide]
  · simp [badSide, Option.filter_some]

theorem build_of_checked {a : QueryArguments} (h : a.Checked) : a.build = .ok a := by
  have hrange : (a.isCsv && a.noHeader && (a.startRange.isSome || a.endRange.isSome)) = false := by
    rcases hcsv : a.isCsv with _ | _
    · rfl
    · rcases hheader : a.noHeader with _ | _
      · rfl
      · obtain ⟨hstart, hstop⟩ := h.header hcsv hheader
        rw [hstart, hstop]
        rfl
  unfold build
  simp only [h.source, badSide_eq_none_iff.mpr h.start, badSide_eq_none_iff.mpr h.stop, hrange,
    Bool.false_eq_true, if_false]

theorem checked_of_build {a accepted : QueryArguments} (h : a.build = .ok accepted) :
    accepted = a ∧ a.Checked := by
  unfold build at h
  split at h
  · cases h
  · rename_i hsource
    split at h
    · cases h
    · cases h
    · rename_i hstart hstop
      split at h
      · cases h
      · rename_i hrange
        refine ⟨(Except.ok.inj h).symm, Bool.eq_false_iff.mpr hsource,
          badSide_eq_none_iff.mp hstart, badSide_eq_none_iff.mp hstop, ?_⟩
        intro hcsv hheader
        simpa [hcsv, hheader] using hrange

/-- What is accepted is what was set up, if it passes the checks. -/
theorem build_eq_ok_iff {a accepted : QueryArguments} :
    a.build = .ok accepted ↔ accepted = a ∧ a.Checked := by
  constructor
  · exact checked_of_build
  · rintro ⟨rfl, h⟩
    exact build_of_checked h

end QueryArguments

/-! ## Setting up -/

/-- A call that sets up arguments, or what is kept beside them. -/
inductive Setting
  | worksheet (name : String)
  | position (index : Nat)
  | namedRange (name : String)
  | range (start stop : String)
  | noHeader (flag : Bool)
  /-- One of the options of a query. -/
  | option (change : Options → Options)
  | mappings (mappings : ColumnMappings)
  | transformations (transformations : Transformations)

namespace Setting

def apply (a : QueryArguments) : Setting → QueryArguments
  | worksheet name => a.onWorksheet name
  | position index => a.onPosition index
  | namedRange name => a.onNamedRange name
  | range start stop => a.within start stop
  | noHeader flag => a.withoutHeader flag
  | option change => { a with options := change a.options }
  -- these are not part of the arguments, so that all copies share them
  | mappings _ => a
  | transformations _ => a

/-- What a call selects to be read. -/
def target? : Setting → Option Target
  | worksheet name => some (.worksheet name)
  | position index => some (.position index)
  | namedRange name => some (.namedRange name)
  | _ => none

theorem source_apply (a : QueryArguments) (s : Setting) :
    (s.apply a).source = a.source ∧ (s.apply a).resolved = a.resolved := by
  cases s <;> exact ⟨rfl, rfl⟩

end Setting

namespace QueryArguments

/-- Of a worksheet's name, a worksheet's place and a named range, the arguments have what a target
has. -/
structure Selects (a : QueryArguments) (t : Target) : Prop where
  worksheetName : a.worksheetName = t.worksheet?
  worksheetIndex : a.worksheetIndex = t.position?
  namedRange : a.namedRange = t.namedRange?

/-- How many of a worksheet's name, a worksheet's place and a named range the arguments have. -/
def selections (a : QueryArguments) : Nat :=
  [a.worksheetName.isSome, a.worksheetIndex.isSome, a.namedRange.isSome].count true

variable {a : QueryArguments} {t : Target}

theorem Selects.target_eq (h : a.Selects t) : a.target = t := by
  unfold target
  rw [h.worksheetName, h.worksheetIndex, h.namedRange]
  cases t <;> rfl

theorem Selects.selections_le_one (h : a.Selects t) : a.selections ≤ 1 := by
  unfold selections
  rw [h.worksheetName, h.worksheetIndex, h.namedRange]
  cases t <;> simp [Target.worksheet?, Target.position?, Target.namedRange?]

/-- A call that selects something takes back what was selected; the others leave it. -/
theorem Selects.apply (h : a.Selects t) (s : Setting) :
    (s.apply a).Selects (s.target?.getD t) := by
  cases s with
  | worksheet name => exact ⟨rfl, rfl, rfl⟩
  | position index => exact ⟨rfl, rfl, rfl⟩
  | namedRange name => exact ⟨rfl, rfl, rfl⟩
  | range start stop => exact ⟨h.worksheetName, h.worksheetIndex, h.namedRange⟩
  | noHeader flag => exact ⟨h.worksheetName, h.worksheetIndex, h.namedRange⟩
  | option change => exact ⟨h.worksheetName, h.worksheetIndex, h.namedRange⟩
  | mappings m => exact h
  | transformations t => exact h

end QueryArguments

/-- The arguments for a source after some calls. -/
def setUp (source : String) (settings : List Setting) : QueryArguments :=
  settings.foldl Setting.apply { source }

/-- What the last call that selects something selects. -/
def lastTarget (settings : List Setting) : Target :=
  (settings.filterMap Setting.target?).getLast?.getD .standard

theorem setUp_concat (source : String) (settings : List Setting) (s : Setting) :
    setUp source (settings ++ [s]) = s.apply (setUp source settings) := by
  simp [setUp]

theorem lastTarget_concat (settings : List Setting) (s : Setting) :
    lastTarget (settings ++ [s]) = s.target?.getD (lastTarget settings) := by
  unfold lastTarget
  rcases hs : s.target? with _ | t <;> simp [hs]

/-- Whatever is called, and how often, only what was selected last is set. -/
theorem selects_setUp (source : String) (settings : List Setting) :
    (setUp source settings).Selects (lastTarget settings) := by
  induction settings using List.reverseRecOn with
  | nil => exact ⟨rfl, rfl, rfl⟩
  | append_singleton settings s ih =>
    rw [setUp_concat, lastTarget_concat]
    exact ih.apply s

theorem source_setUp (source : String) (settings : List Setting) :
    (setUp source settings).source = source ∧ (setUp source settings).resolved = none := by
  induction settings using List.reverseRecOn with
  | nil => exact ⟨rfl, rfl⟩
  | append_singleton settings s ih =>
    obtain ⟨hsource, hresolved⟩ := Setting.source_apply (setUp source settings) s
    rw [setUp_concat, hsource, hresolved]
    exact ih

/-! ## Copies -/

/-- Copies one of the arguments at hand for another source; where there are none, nothing. -/
def copyFrom (held : List QueryArguments) : Nat × String → List QueryArguments
  | (place, source) =>
    match held[place]? with
    | some a => held ++ [a.withSource source]
    | none => held

/-- Arguments and all copies that were made of them and of their copies. -/
def copies (a : QueryArguments) (steps : List (Nat × String)) : List QueryArguments :=
  steps.foldl copyFrom [a]

/-- The arguments are others, but for the source. -/
structure IsCopy (a : QueryArguments) (sources : List String) (b : QueryArguments) : Prop where
  source : b.source ∈ sources
  eq : b = { a with source := b.source }

theorem IsCopy.mono {a b : QueryArguments} {sources more : List String}
    (h : IsCopy a sources b) : IsCopy a (sources ++ more) b :=
  ⟨List.mem_append_left _ h.source, h.eq⟩

section

variable {a : QueryArguments} (hresolved : a.resolved = none)

include hresolved

theorem isCopy_of_mem_copyFrom {held : List QueryArguments} {sources : List String}
    (h : ∀ b ∈ held, IsCopy a sources b) (place : Nat) (source : String) :
    ∀ b ∈ copyFrom held (place, source), IsCopy a (sources ++ [source]) b := by
  intro b hb
  rcases hc : held[place]? with _ | c
  · simp only [copyFrom, hc] at hb
    exact (h b hb).mono
  · simp only [copyFrom, hc] at hb
    rcases List.mem_append.mp hb with hb | hb
    · exact (h b hb).mono
    · obtain rfl := List.mem_singleton.mp hb
      refine ⟨List.mem_append_right _ List.mem_cons_self, ?_⟩
      -- a copy has to find its worksheet again, as the accepted arguments have
      rw [(h c (List.mem_of_getElem? hc)).eq]
      simp [QueryArguments.withSource, hresolved]

theorem isCopy_of_mem_copies (steps : List (Nat × String)) :
    ∀ b ∈ copies a steps, IsCopy a (a.source :: steps.map Prod.snd) b := by
  induction steps using List.reverseRecOn with
  | nil =>
    intro b hb
    obtain rfl := List.mem_singleton.mp hb
    exact ⟨List.mem_cons_self, rfl⟩
  | append_singleton steps step ih =>
    have hlast := isCopy_of_mem_copyFrom hresolved ih step.1 step.2
    intro b hb
    have hmem : b ∈ copyFrom (copies a steps) step := by
      simpa [copies] using hb
    simpa using hlast b hmem

end

theorem IsCopy.checked_iff {a b : QueryArguments} {sources : List String}
    (h : IsCopy a sources b) (ha : a.Checked) :
    b.Checked ↔
      isBlankText b.source = false ∧
        (isCsvSource b.source = true → a.noHeader = true →
          a.startRange = none ∧ a.endRange = none) := by
  have hstart : b.startRange = a.startRange := by rw [h.eq]
  have hstop : b.endRange = a.endRange := by rw [h.eq]
  have hheader : b.noHeader = a.noHeader := by rw [h.eq]
  constructor
  · intro hb
    refine ⟨hb.source, ?_⟩
    rw [← hstart, ← hstop, ← hheader]
    exact hb.header
  · rintro ⟨hsource, hrange⟩
    refine ⟨hsource, hstart ▸ ha.start, hstop ▸ ha.stop, ?_⟩
    rw [hstart, hstop, hheader]
    exact hrange

/-- Arguments that are accepted pass the checks. Their copies, and copies of these, are as they
are but for the source: of a worksheet's name, a worksheet's place and a named range they have at
most one, what the last call selected, and read that, and their ranges are between cell references.
A copy passes the checks too exactly if its source is not blank and is no delimited text of which a
range without a header is read. -/
theorem copies_pass_the_checks_unless_their_sources_fail (source : String)
    (settings : List Setting) (steps : List (Nat × String)) {accepted : QueryArguments}
    (h : (setUp source settings).build = .ok accepted) :
    accepted.Checked ∧
      ∀ b ∈ copies accepted steps,
        b.source ∈ source :: steps.map Prod.snd ∧ b = { accepted with source := b.source } ∧
          b.Selects (lastTarget settings) ∧ b.target = lastTarget settings ∧ b.selections ≤ 1 ∧
          b.startRange.all isCellReference = true ∧ b.endRange.all isCellReference = true ∧
          (b.Checked ↔
            isBlankText b.source = false ∧
              (isCsvSource b.source = true → accepted.noHeader = true →
                accepted.startRange = none ∧ accepted.endRange = none)) := by
  obtain ⟨rfl, hchecked⟩ := QueryArguments.build_eq_ok_iff.mp h
  obtain ⟨hsource, hresolved⟩ := source_setUp source settings
  refine ⟨hchecked, ?_⟩
  intro b hb
  have hcopy := isCopy_of_mem_copies hresolved steps b hb
  rw [hsource] at hcopy
  -- a copy has the same name, place and named range as what was set up
  have hselects : b.Selects (lastTarget settings) := by
    rw [hcopy.eq]
    exact ⟨(selects_setUp source settings).worksheetName,
      (selects_setUp source settings).worksheetIndex,
      (selects_setUp source settings).namedRange⟩
  refine ⟨hcopy.source, hcopy.eq, hselects, hselects.target_eq, hselects.selections_le_one, ?_, ?_,
    hcopy.checked_iff hchecked⟩
  · rw [hcopy.eq]
    exact hchecked.start
  · rw [hcopy.eq]
    exact hchecked.stop

/-- A query of a range without a header, and a copy of it for another workbook. -/
theorem a_copy_for_another_workbook_passes_the_checks :
    ∃ accepted, (setUp "a.xlsx" [.position 2, .worksheet "Data", .range "A1" "B2",
        .noHeader true]).build = .ok accepted ∧
      ∀ b ∈ copies accepted [(0, "b.xlsx")],
        b.worksheetName = some "Data" ∧ b.worksheetIndex = none ∧ b.Checked := by
  refine ⟨_, rfl, ?_⟩
  obtain ⟨-, hcopies⟩ := copies_pass_the_checks_unless_their_sources_fail "a.xlsx"
    [.position 2, .worksheet "Data", .range "A1" "B2", .noHeader true] [(0, "b.xlsx")] rfl
  intro b hb
  obtain ⟨hsource, -, hselects, -, -, -, -, hchecked⟩ := hcopies b hb
  refine ⟨hselects.worksheetName, hselects.worksheetIndex, hchecked.mpr ?_⟩
  have hgood : ∀ source ∈ ["a.xlsx", "b.xlsx"],
      isBlankText source = false ∧ isCsvSource source = false := by decide
  obtain ⟨hblank, hcsv⟩ := hgood b.source hsource
  refine ⟨hblank, ?_⟩
  rw [hcsv]
  intro h
  cases h

/-- A copy for a blank source and one for delimited text, whose range has no header, are not what
is accepted. -/
theorem copies_for_other_sources_fail_the_checks :
    ∃ accepted, (setUp "a.xlsx" [.range "A1" "B2", .noHeader true]).build = .ok accepted ∧
      (copies accepted [(0, " "), (0, "a.csv")]).map QueryArguments.build =
        [.ok accepted, .error .missingSource, .error .headerlessCsvRange] ∧
      ¬ ∀ b ∈ copies accepted [(0, " "), (0, "a.csv")], b.Checked := by
  refine ⟨_, rfl, rfl, ?_⟩
  intro h
  have hblank := (h _ (List.mem_cons_of_mem _ List.mem_cons_self)).source
  cases hblank

end GridQuery
