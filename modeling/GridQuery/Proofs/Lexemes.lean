-- Reading statement text back. A reader goes over the text one character at a
-- time and knows only the two quotes and the placeholder. What it finds in the
-- text of a list of tokens is the tokens, whatever the names in them are.
import GridQuery.Sql.Term
import Mathlib.Data.List.Chain

namespace GridQuery.Sql

/-! ## What a reader finds -/

/-- The quotes around a name and around a literal. -/
inductive Quote
  | name
  | text
  deriving DecidableEq, Repr

namespace Quote

def mark : Quote → Char
  | name => '"'
  | text => '\''

/-- The quote that a character opens. -/
def openedBy (c : Char) : Option Quote :=
  if c = '"' then some name else if c = '\'' then some text else none

@[simp] theorem openedBy_mark (q : Quote) : openedBy q.mark = some q := by cases q <;> rfl

end Quote

/-- One thing in statement text. -/
inductive Lexeme
  /-- A character outside quotes. -/
  | mark (c : Char)
  | placeholder
  /-- A text between quotes, its doubled marks taken once. -/
  | quoted (q : Quote) (text : String)
  /-- A value written in place, which no reader finds. -/
  | value (v : Value)

namespace Lexeme

/-- A character outside quotes. -/
def ofChar (c : Char) : Lexeme := if c = '?' then placeholder else mark c

/-- The character is neither a quote nor a placeholder. -/
def isMark (c : Char) : Bool := (Quote.openedBy c).isNone && c != '?'

def isPlaceholder : Lexeme → Bool
  | placeholder => true
  | _ => false

def value? : Lexeme → Option Value
  | value v => some v
  | _ => none

/-- The text between the quotes of a name. -/
def name? : Lexeme → Option String
  | quoted .name text => some text
  | _ => none

@[simp] theorem value?_quoted (q : Quote) (text : String) : (quoted q text).value? = none := rfl

@[simp] theorem name?_quoted_name (name : String) : (quoted .name name).name? = some name := rfl

/-- A placeholder in the place of a value. -/
def emptied : Lexeme → Lexeme
  | value _ => placeholder
  | l => l

end Lexeme

/-- Values for placeholders, one after another. -/
def fill : List Lexeme → List Value → List Lexeme
  | [], _ => []
  | .placeholder :: ls, v :: vs => .value v :: fill ls vs
  | l :: ls, vs => l :: fill ls vs

/-! ## The reader -/

/-- Where a reader stands. -/
inductive Place
  | outside
  /-- Between quotes, after the text so far. -/
  | inside (q : Quote) (text : List Char)
  /-- Behind a mark. It ends the text, unless the same mark follows. -/
  | behind (q : Quote) (text : List Char)

structure Reader where
  found : List Lexeme := []
  place : Place := .outside

namespace Reader

/-- A character outside quotes, after what was found. -/
def meet (found : List Lexeme) (c : Char) : Reader :=
  match Quote.openedBy c with
  | some q => ⟨found, .inside q []⟩
  | none => ⟨found ++ [Lexeme.ofChar c], .outside⟩

/-- One more character. -/
def step (r : Reader) (c : Char) : Reader :=
  match r.place with
  | .outside => meet r.found c
  | .inside q text => ⟨r.found, if c = q.mark then .behind q text else .inside q (text ++ [c])⟩
  | .behind q text =>
    if c = q.mark then ⟨r.found, .inside q (text ++ [c])⟩
    else meet (r.found ++ [.quoted q (String.ofList text)]) c

def run (r : Reader) (cs : List Char) : Reader := cs.foldl step r

/-- What was found, unless the text ends inside quotes. -/
def finish (r : Reader) : Option (List Lexeme) :=
  match r.place with
  | .outside => some r.found
  | .inside _ _ => none
  | .behind q text => some (r.found ++ [.quoted q (String.ofList text)])

@[simp] theorem run_nil (r : Reader) : r.run [] = r := rfl

@[simp] theorem run_cons (r : Reader) (c : Char) (cs : List Char) :
    r.run (c :: cs) = (r.step c).run cs := rfl

theorem run_append (r : Reader) (cs ds : List Char) : r.run (cs ++ ds) = (r.run cs).run ds :=
  List.foldl_append ..

end Reader

/-- Reads a whole text; `none` if it ends inside quotes. -/
def read (text : String) : Option (List Lexeme) := (Reader.run {} text.toList).finish

/-! ## Tokens that can be told apart -/

namespace Token

/-- The token with its value in place. -/
def written : Token → List Lexeme
  | plain text => text.toList.map .mark
  | identifier name => [.quoted .name name]
  | literal text => [.quoted .text text]
  | parameter v => [.value v]

def isQuoted : Token → Bool
  | identifier _ => true
  | literal _ => true
  | _ => false

/-- Text outside quotes has something in it, but no quote and no placeholder. -/
def Clean : Token → Prop
  | plain text => text.toList ≠ [] ∧ text.toList.all Lexeme.isMark = true
  | _ => True

instance : DecidablePred Clean
  | plain _ => inferInstanceAs (Decidable (_ ∧ _))
  | identifier _ => .isTrue trivial
  | literal _ => .isTrue trivial
  | parameter _ => .isTrue trivial

end Token

/-- Tokens that are read back. Side by side, two quoted tokens could run together. -/
structure Readable (ts : List Token) : Prop where
  clean : ∀ t ∈ ts, t.Clean
  parted : ts.IsChain fun t u => t.isQuoted = false ∨ u.isQuoted = false

namespace Readable

theorem nil : Readable [] := ⟨by simp, .nil⟩

theorem singleton {t : Token} (h : t.Clean) : Readable [t] := ⟨by simpa using h, .singleton t⟩

theorem append {ts us : List Token} (ht : Readable ts) (hu : Readable us)
    (hbetween : ∀ u ∈ us.head?, u.isQuoted = false) : Readable (ts ++ us) := by
  refine ⟨?_, ?_⟩
  · intro t hin
    rcases List.mem_append.mp hin with h | h
    · exact ht.clean t h
    · exact hu.clean t h
  · refine ht.parted.append hu.parted ?_
    intro t _ u hin
    exact Or.inr (hbetween u hin)

/-- Behind text outside quotes anything can stand. -/
theorem plain_append {text : String} {ts : List Token} (h : (Token.plain text).Clean)
    (ht : Readable ts) : Readable (plain text ++ ts) := by
  refine ⟨?_, ?_⟩
  · intro t hin
    rcases List.mem_cons.mp hin with rfl | hrest
    · exact h
    · exact ht.clean t hrest
  · refine List.isChain_cons.mpr ⟨?_, ht.parted⟩
    intro u _
    exact Or.inl rfl

theorem append_plain {ts : List Token} {text : String} (ht : Readable ts)
    (h : (Token.plain text).Clean) : Readable (ts ++ plain text) := by
  refine ht.append (singleton h) ?_
  intro u hin
  cases hin
  rfl

/-- Text outside quotes parts what stands before it from what stands behind it. -/
theorem around {ts us : List Token} {text : String} (ht : Readable ts)
    (h : (Token.plain text).Clean) (hu : Readable us) : Readable (ts ++ plain text ++ us) := by
  rw [List.append_assoc]
  refine ht.append (plain_append h hu) ?_
  intro u hin
  cases hin
  rfl

theorem separated {separator : String} (h : (Token.plain separator).Clean)
    {parts : List (List Token)} (hparts : ∀ ts ∈ parts, Readable ts) :
    Readable (separated separator parts) := by
  induction parts with
  | nil => exact nil
  | cons ts parts ih =>
    have hfirst := hparts ts List.mem_cons_self
    rcases parts with _ | ⟨us, rest⟩
    · exact hfirst
    · have hrest := ih fun vs hvs => hparts vs (List.mem_cons_of_mem _ hvs)
      simpa [plain, Sql.separated] using around hfirst h hrest

end Readable

/-! ## Reading tokens -/

namespace Reader

/-- A clean character is found as it is, and ends the quoted text before it. -/
theorem step_clean {r : Reader} {ls : List Lexeme} {c : Char} (hr : r.finish = some ls)
    (hc : Lexeme.isMark c = true) : r.step c = ⟨ls ++ [.mark c], .outside⟩ := by
  obtain ⟨found, place⟩ := r
  obtain ⟨hquote, hplace⟩ : Quote.openedBy c = none ∧ c ≠ '?' := by
    simpa [Lexeme.isMark] using hc
  have hmeet : ∀ found, meet found c = ⟨found ++ [.mark c], .outside⟩ := by
    intro found
    simp [meet, hquote, Lexeme.ofChar, hplace]
  cases place with
  | outside =>
    cases hr
    exact hmeet found
  | inside q text => cases hr
  | behind q text =>
    cases hr
    have hmark : c ≠ q.mark := by
      rintro rfl
      simp at hquote
    simp only [step, hmark, if_false]
    exact hmeet _

theorem run_clean {cs : List Char} (hcs : ∀ c ∈ cs, Lexeme.isMark c = true)
    (hne : cs ≠ []) {r : Reader} {ls : List Lexeme} (hr : r.finish = some ls) :
    r.run cs = ⟨ls ++ cs.map .mark, .outside⟩ := by
  induction cs generalizing r ls with
  | nil => exact absurd rfl hne
  | cons c cs ih =>
    rw [run_cons, step_clean hr (hcs c List.mem_cons_self)]
    rcases cs with _ | ⟨d, ds⟩
    · rfl
    · rw [ih (fun x hx => hcs x (List.mem_cons_of_mem _ hx)) (by simp) rfl]
      simp

theorem step_placeholder {r : Reader} {ls : List Lexeme} (hr : r.finish = some ls) :
    r.step '?' = ⟨ls ++ [.placeholder], .outside⟩ := by
  obtain ⟨found, place⟩ := r
  cases place with
  | outside =>
    cases hr
    rfl
  | inside q text => cases hr
  | behind q text =>
    cases hr
    cases q <;> rfl

/-- Between quotes every character is taken, and a doubled mark once. -/
theorem run_doubled (found : List Lexeme) (q : Quote) (text cs : List Char) :
    run ⟨found, .inside q text⟩ (doubled q.mark cs) = ⟨found, .inside q (text ++ cs)⟩ := by
  induction cs generalizing text with
  | nil => simp [doubled]
  | cons c cs ih =>
    by_cases hc : c = q.mark
    · subst hc
      simp only [doubled, if_true, run_cons, step]
      rw [ih]
      simp
    · simp only [doubled, hc, if_false, run_cons, step]
      rw [ih]
      simp

theorem run_quoted (found : List Lexeme) (q : Quote) (text : String) :
    run ⟨found, .outside⟩ (quoted q.mark text.toList) = ⟨found, .behind q text.toList⟩ := by
  have hopen : step ⟨found, .outside⟩ q.mark = ⟨found, .inside q []⟩ := by simp [step, meet]
  simp only [quoted, List.cons_append, run_cons, hopen, run_append, run_doubled]
  simp [step]

/-- Reading one token. A quoted one needs a reader that does not stand behind a mark. -/
theorem run_token {t : Token} (ht : t.Clean) {r : Reader} {ls : List Lexeme}
    (hr : r.finish = some ls) (hplace : t.isQuoted = true → r.place = .outside) :
    (r.run t.chars).finish = some (ls ++ t.written.map Lexeme.emptied) ∧
      (t.isQuoted = false → (r.run t.chars).place = .outside) := by
  have hquoted : ∀ (q : Quote) (text : String), r.place = .outside →
      (r.run (quoted q.mark text.toList)).finish = some (ls ++ [.quoted q text]) := by
    intro q text houtside
    obtain ⟨found, place⟩ := r
    cases houtside
    cases hr
    rw [run_quoted]
    simp [finish]
  cases t with
  | plain text =>
    obtain ⟨hne, hclean⟩ := ht
    simp only [Token.chars, run_clean (List.all_eq_true.mp hclean) hne hr, Token.written,
      List.map_map]
    exact ⟨rfl, fun _ => trivial⟩
  | identifier name => exact ⟨hquoted .name name (hplace rfl), fun h => by cases h⟩
  | literal text => exact ⟨hquoted .text text (hplace rfl), fun h => by cases h⟩
  | parameter v =>
    simp only [Token.chars, run_cons, run_nil, step_placeholder hr]
    exact ⟨rfl, fun _ => trivial⟩

theorem run_tokens {ts : List Token} (ht : Readable ts) {r : Reader} {ls : List Lexeme}
    (hr : r.finish = some ls)
    (hplace : ∀ t ∈ ts.head?, t.isQuoted = true → r.place = .outside) :
    (r.run (textOf ts)).finish = some (ls ++ (ts.flatMap Token.written).map Lexeme.emptied) := by
  induction ts generalizing r ls with
  | nil => simpa [textOf] using hr
  | cons t ts ih =>
    obtain ⟨hnext, hparted⟩ := List.isChain_cons.mp ht.parted
    obtain ⟨hfinish, houtside⟩ := run_token (ht.clean t List.mem_cons_self) hr
      (hplace t (by simp))
    have hrest : Readable ts := ⟨fun u hu => ht.clean u (List.mem_cons_of_mem _ hu), hparted⟩
    have hstart : ∀ u ∈ ts.head?, u.isQuoted = true → (r.run t.chars).place = .outside := by
      intro u hu hquoted
      rcases hnext u hu with h | h
      · exact houtside h
      · rw [hquoted] at h
        cases h
    have hrun := ih hrest hfinish hstart
    simp only [textOf, List.flatMap_cons, run_append, List.map_append] at hrun ⊢
    rw [hrun, List.append_assoc]

end Reader

/-- The text of tokens that can be told apart is read back as the tokens. -/
theorem read_textOf {ts : List Token} (h : Readable ts) :
    read (String.ofList (textOf ts)) = some ((ts.flatMap Token.written).map Lexeme.emptied) := by
  have hrun := Reader.run_tokens h (r := {}) rfl fun _ _ _ => rfl
  simpa [read] using hrun

/-! ## Placeholders and their values -/

theorem fill_emptied {ls : List Lexeme} (h : ∀ l ∈ ls, l.isPlaceholder = false) :
    fill (ls.map Lexeme.emptied) (ls.filterMap Lexeme.value?) = ls := by
  induction ls with
  | nil => rfl
  | cons l ls ih =>
    have hrest := ih fun k hk => h k (List.mem_cons_of_mem _ hk)
    cases l with
    | placeholder => cases h _ List.mem_cons_self
    | mark c => exact congrArg (Lexeme.mark c :: ·) hrest
    | quoted q text => exact congrArg (Lexeme.quoted q text :: ·) hrest
    | value v => exact congrArg (Lexeme.value v :: ·) hrest

theorem length_placeholders_emptied {ls : List Lexeme} (h : ∀ l ∈ ls, l.isPlaceholder = false) :
    ((ls.map Lexeme.emptied).filter Lexeme.isPlaceholder).length =
      (ls.filterMap Lexeme.value?).length := by
  induction ls with
  | nil => rfl
  | cons l ls ih =>
    have hrest := ih fun k hk => h k (List.mem_cons_of_mem _ hk)
    cases l with
    | placeholder => cases h _ List.mem_cons_self
    | mark c => exact hrest
    | quoted q text => exact hrest
    | value v => exact congrArg (· + 1) hrest

theorem names_emptied (ls : List Lexeme) :
    (ls.map Lexeme.emptied).filterMap Lexeme.name? = ls.filterMap Lexeme.name? := by
  rw [List.filterMap_map]
  apply List.filterMap_congr
  intro l _
  cases l <;> rfl

/-- Nothing that is written in place is a placeholder. -/
theorem not_placeholder_of_mem_written {ts : List Token} {l : Lexeme}
    (h : l ∈ ts.flatMap Token.written) : l.isPlaceholder = false := by
  obtain ⟨t, -, hl⟩ := List.mem_flatMap.mp h
  cases t with
  | plain text =>
    obtain ⟨c, -, rfl⟩ := List.mem_map.mp hl
    rfl
  | identifier name =>
    obtain rfl := List.mem_singleton.mp hl
    rfl
  | literal text =>
    obtain rfl := List.mem_singleton.mp hl
    rfl
  | parameter v =>
    obtain rfl := List.mem_singleton.mp hl
    rfl

theorem values_written (ts : List Token) :
    (ts.flatMap Token.written).filterMap Lexeme.value? = parametersOf ts := by
  induction ts with
  | nil => rfl
  | cons t ts ih =>
    have hmarks : ∀ cs : List Char, (cs.map Lexeme.mark).filterMap Lexeme.value? = [] := by
      intro cs
      simp [List.filterMap_map, Function.comp_def, Lexeme.value?]
    rw [List.flatMap_cons, List.filterMap_append, ih]
    cases t with
    | plain text =>
      simp only [Token.written, hmarks, List.nil_append]
      rfl
    | identifier name => rfl
    | literal text => rfl
    | parameter v => rfl

/-- The text of tokens with their values for the placeholders is the tokens in place. -/
theorem fill_tokens (ts : List Token) :
    fill ((ts.flatMap Token.written).map Lexeme.emptied) (parametersOf ts) =
      ts.flatMap Token.written := by
  rw [← values_written]
  exact fill_emptied fun _ h => not_placeholder_of_mem_written h

end GridQuery.Sql
