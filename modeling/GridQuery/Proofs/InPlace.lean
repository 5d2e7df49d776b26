-- Expressions with their values written in place, and the values and columns
-- that a walk over an expression meets from left to right. The tokens that are
-- compiled for an expression say the same.
import GridQuery.Proofs.Lexemes

namespace GridQuery

open GridQuery.Sql

/-! ## Writing values in place -/

/-- Text outside quotes. -/
def marks (text : String) : List Lexeme := text.toList.map .mark

namespace Sql

@[simp] theorem written_plain (text : String) :
    (plain text).flatMap Token.written = marks text := by
  simp [plain, Token.written, marks]

theorem written_separated (separator : String) (parts : List (List Token)) :
    (separated separator parts).flatMap Token.written =
      (marks separator).intercalate (parts.map (·.flatMap Token.written)) := by
  induction parts with
  | nil => rfl
  | cons ts parts ih =>
    rcases parts with _ | ⟨us, rest⟩
    · simp [separated]
    · simp only [List.map_cons] at ih ⊢
      rw [List.intercalate_cons_cons, ← ih]
      simp [separated, Token.written, marks]

end Sql

/-- A value in place. Null has a keyword of its own. -/
def Value.written : Value → List Lexeme
  | .null => marks "NULL"
  | v => [.value v]

/-- How a comparison with the literal null ends when it is a test for null. -/
def CompareOp.nullTest? : CompareOp → Option String
  | eq => some " IS NULL)"
  | ne => some " IS NOT NULL)"
  | _ => none

namespace Expr

mutual

/-- An expression with its values in place. -/
def written (m : ColumnMappings) : Expr → List Lexeme
  | field name => [.quoted .name (m.resolve name)]
  | column name => [.quoted .name name]
  | literal v => v.written
  | compare left op right =>
    match op.nullTest?, left.isNullLiteral, right.isNullLiteral with
    | some test, _, true => marks "(" ++ written m left ++ marks test
    | some test, true, false => marks "(" ++ written m right ++ marks test
    | _, _, _ =>
      marks "(" ++ written m left ++ marks (" " ++ op.symbol ++ " ") ++ written m right ++ marks ")"
  | and left right => marks "(" ++ written m left ++ marks " AND " ++ written m right ++ marks ")"
  | or left right => marks "(" ++ written m left ++ marks " OR " ++ written m right ++ marks ")"
  | not operand => marks "(NOT " ++ written m operand ++ marks ")"
  | isNull operand => marks "(" ++ written m operand ++ marks " IS NULL)"
  | isNullOrEmpty operand =>
    marks "(" ++ written m operand ++ marks " IS NULL OR " ++ written m operand ++ marks " = " ++
      [.value (.text "")] ++ marks ")"
  | like operand test part =>
    marks "(" ++ written m operand ++ marks " LIKE " ++
      [.value (.text (String.ofList (likePattern test part.toList)))] ++ marks " ESCAPE " ++
      [.quoted .text "\\"] ++ marks ")"
  | isIn operand values =>
    if values.isEmpty then marks "FALSE"
    else
      marks "(" ++ written m operand ++ marks " IN (" ++
        (marks ", ").intercalate (values.map fun v => [.value v]) ++ marks "))"
  | upper operand => marks "UPPER(" ++ written m operand ++ marks ")"
  | lower operand => marks "LOWER(" ++ written m operand ++ marks ")"
  | concat parts => marks "CONCAT(" ++ (marks ", ").intercalate (writtenEach m parts) ++ marks ")"

def writtenEach (m : ColumnMappings) : List Expr → List (List Lexeme)
  | [] => []
  | part :: parts => written m part :: writtenEach m parts

end

/-! ## Walking from left to right -/

mutual

/-- A walk over an expression: what `onColumn` gives for its columns and `onValue` for its
values. These are literals other than null, patterns, the elements of lists, and the empty
text in a test for it. The operand of such a test is met twice, that of an empty list never. -/
def walk {α : Type} (m : ColumnMappings) (onColumn : String → List α) (onValue : Value → List α) :
    Expr → List α
  | field name => onColumn (m.resolve name)
  | column name => onColumn name
  | literal .null => []
  | literal v => onValue v
  | compare left _ right => walk m onColumn onValue left ++ walk m onColumn onValue right
  | and left right => walk m onColumn onValue left ++ walk m onColumn onValue right
  | or left right => walk m onColumn onValue left ++ walk m onColumn onValue right
  | not operand => walk m onColumn onValue operand
  | isNull operand => walk m onColumn onValue operand
  | isNullOrEmpty operand =>
    walk m onColumn onValue operand ++ walk m onColumn onValue operand ++ onValue (.text "")
  | like operand test part =>
    walk m onColumn onValue operand ++
      onValue (.text (String.ofList (likePattern test part.toList)))
  | isIn operand values =>
    if values.isEmpty then [] else walk m onColumn onValue operand ++ values.flatMap onValue
  | upper operand => walk m onColumn onValue operand
  | lower operand => walk m onColumn onValue operand
  | concat parts => walkEach m onColumn onValue parts

def walkEach {α : Type} (m : ColumnMappings) (onColumn : String → List α)
    (onValue : Value → List α) : List Expr → List α
  | [] => []
  | part :: parts => walk m onColumn onValue part ++ walkEach m onColumn onValue parts

end

/-- The values on a walk. -/
def valuesMet (m : ColumnMappings) (e : Expr) : List Value := e.walk m (fun _ => []) ([·])

/-- The columns on a walk. -/
def columnsMet (m : ColumnMappings) (e : Expr) : List String := e.walk m ([·]) fun _ => []

theorem eq_of_isNullLiteral {e : Expr} (h : e.isNullLiteral = true) : e = literal .null := by
  unfold isNullLiteral at h
  split at h
  · rfl
  · cases h

end Expr

/-! ## Looking through lexemes -/

/-- What `f` gives over joined lists, when it gives nothing between them. -/
theorem flatMap_intercalate {α β : Type} {f : α → List β} {separator : List α}
    (h : separator.flatMap f = []) (parts : List (List α)) :
    (separator.intercalate parts).flatMap f = parts.flatMap (·.flatMap f) := by
  induction parts with
  | nil => rfl
  | cons part parts ih =>
    rcases parts with _ | ⟨next, rest⟩
    · simp
    · rw [List.intercalate_cons_cons, List.flatMap_append, List.flatMap_append, h, ih]
      simp

/-- Gives nothing for characters outside quotes and for quoted literals. -/
structure Lexeme.Blind {α : Type} (f : Lexeme → List α) : Prop where
  mark : ∀ c, f (.mark c) = []
  literal : ∀ text, f (.quoted .text text) = []

theorem Lexeme.Blind.marks {α : Type} {f : Lexeme → List α} (h : Blind f) (text : String) :
    (marks text).flatMap f = [] := by
  simp [GridQuery.marks, h.mark]

namespace Expr

mutual

/-- An expression in place holds what a walk meets, in the same order. -/
theorem flatMap_written {α : Type} {f : Lexeme → List α} (h : Lexeme.Blind f)
    (m : ColumnMappings) (e : Expr) :
    (e.written m).flatMap f = e.walk m (fun name => f (.quoted .name name)) (f <| .value ·) := by
  match e with
  | field _ => simp [written, walk]
  | column _ => simp [written, walk]
  | literal v =>
    cases v with
    | null => exact h.marks _
    | _ => simp [written, walk, Value.written]
  | compare left op right =>
    have hleft := flatMap_written h m left
    have hright := flatMap_written h m right
    unfold written walk
    split
    · rename_i hnull
      rw [eq_of_isNullLiteral hnull]
      simp [h.marks, hleft, walk]
    · rename_i hnull _
      rw [eq_of_isNullLiteral hnull]
      simp [h.marks, hright, walk]
    · simp [h.marks, hleft, hright]
  | and left right =>
    simp [written, walk, h.marks, flatMap_written h m left, flatMap_written h m right]
  | or left right =>
    simp [written, walk, h.marks, flatMap_written h m left, flatMap_written h m right]
  | not operand => simp [written, walk, h.marks, flatMap_written h m operand]
  | isNull operand => simp [written, walk, h.marks, flatMap_written h m operand]
  | isNullOrEmpty operand => simp [written, walk, h.marks, flatMap_written h m operand]
  | like operand test part =>
    simp [written, walk, h.marks, h.literal, flatMap_written h m operand]
  | isIn operand values =>
    unfold written walk
    split
    · exact h.marks _
    · simp [h.marks, flatMap_written h m operand, flatMap_intercalate, List.flatMap_map]
  | upper operand => simp [written, walk, h.marks, flatMap_written h m operand]
  | lower operand => simp [written, walk, h.marks, flatMap_written h m operand]
  | concat parts =>
    simp [written, walk, h.marks, flatMap_intercalate, flatMap_writtenEach h m parts]

theorem flatMap_writtenEach {α : Type} {f : Lexeme → List α} (h : Lexeme.Blind f)
    (m : ColumnMappings) (es : List Expr) :
    (writtenEach m es).flatMap (·.flatMap f) =
      walkEach m (fun name => f (.quoted .name name)) (f <| .value ·) es := by
  match es with
  | [] => rfl
  | e :: es => simp [writtenEach, walkEach, flatMap_written h m e, flatMap_writtenEach h m es]

end

end Expr

end GridQuery
