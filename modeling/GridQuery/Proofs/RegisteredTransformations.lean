-- Transformations that are registered for fields. They are kept under the name
-- of the type and the name of the field with a dot between them. Names with a
-- dot of their own can run together, and then one field is given what was
-- registered for another.
import GridQuery.Proofs.FilledRecords
import Mathlib.Data.Finset.Card
import Mathlib.Data.List.Induction
import Mathlib.Data.String.Basic

namespace GridQuery

/-! ## The names of a map -/

theorem lt_of_compareText {a b : String} (h : compareText a b = .lt) : a < b := by
  unfold compareText at h
  split at h
  · assumption
  · split at h <;> cases h

theorem lt_of_compareText_gt {a b : String} (h : compareText a b = .gt) : b < a := by
  unfold compareText at h
  split at h
  · cases h
  · rename_i hless
    split at h
    · cases h
    · rename_i hne
      exact lt_of_le_of_ne (not_lt.mp hless) (Ne.symm hne)

namespace NameMap

variable {α : Type}

theorem mem_names_insert {m : NameMap α} {name key : String} {value : α} :
    key ∈ (m.insert name value).names ↔ key = name ∨ key ∈ m.names := by
  rw [mem_names_iff, get?_insert, mem_names_iff]
  by_cases hkey : key = name <;> simp [hkey]

/-- The names stand in their order. -/
def Ordered (m : NameMap α) : Prop := m.names.Pairwise (· < ·)

theorem Ordered.insert {m : NameMap α} (h : m.Ordered) (name : String) (value : α) :
    (m.insert name value).Ordered := by
  obtain ⟨entries⟩ := m
  induction entries with
  | nil => exact List.pairwise_singleton _ _
  | cons entry rest ih =>
    obtain ⟨n, v⟩ := entry
    obtain ⟨hfirst, hrest⟩ := List.pairwise_cons.mp h
    simp only [NameMap.insert, insertSorted]
    split
    · rename_i hcompare
      have hless := lt_of_compareText hcompare
      refine List.pairwise_cons.mpr ⟨?_, h⟩
      rintro other hother
      rcases List.mem_cons.mp hother with rfl | hother
      · exact hless
      · exact hless.trans (hfirst other hother)
    · rename_i hcompare
      obtain rfl := eq_of_compareText hcompare
      exact h
    · rename_i hcompare
      have hless := lt_of_compareText_gt hcompare
      refine List.pairwise_cons.mpr ⟨?_, ih hrest⟩
      intro other hother
      rcases (mem_names_insert (m := ⟨rest⟩)).mp hother with rfl | hother
      · exact hless
      · exact hfirst other hother

/-- The names of an ordered map are counted once each. -/
theorem Ordered.size_eq {m : NameMap α} (h : m.Ordered) : m.size = m.names.toFinset.card := by
  have hnodup : m.names.Nodup := List.Pairwise.imp (fun hless => hless.ne) h
  rw [List.toFinset_card_of_nodup hnodup, names, List.length_map]
  rfl

end NameMap

/-! ## Fields of one name -/

/-- The name of the second type goes on with a dot and the beginning of the name of the first
field, and the name of the first field with a dot and the name of the second. -/
def RunTogether (a b : String × String) : Prop :=
  ∃ part, b.1 = a.1 ++ "." ++ part ∧ a.2 = part ++ "." ++ b.2

/-- Two fields, each of a type, have one name. -/
def NamedAlike (a b : String × String) : Prop :=
  a = b ∨ RunTogether a b ∨ RunTogether b a

theorem toList_dot : ".".toList = ['.'] := rfl

theorem toList_key (type field : String) :
    (Transformations.key type field).toList = type.toList ++ '.' :: field.toList := by
  simp [Transformations.key, toList_dot]

/-- What is between the two dots belongs to the second type and to the first field. -/
theorem eq_or_runTogether {a b : String × String} {between : List Char}
    (htype : b.1.toList = a.1.toList ++ between)
    (hfield : '.' :: a.2.toList = between ++ '.' :: b.2.toList) : a = b ∨ RunTogether a b := by
  rcases between with _ | ⟨c, part⟩
  · rw [List.append_nil] at htype
    have hsame := (List.cons.inj hfield).2
    exact .inl (Prod.ext (String.toList_inj.mp htype.symm) (String.toList_inj.mp hsame))
  · obtain ⟨rfl, hrest⟩ := List.cons.inj hfield
    refine .inr ⟨String.ofList part, String.toList_inj.mp ?_, String.toList_inj.mp ?_⟩
    · simp [htype, toList_dot]
    · simp [hrest, toList_dot]

theorem RunTogether.key_eq {a b : String × String} (h : RunTogether a b) :
    Transformations.key a.1 a.2 = Transformations.key b.1 b.2 := by
  obtain ⟨part, htype, hfield⟩ := h
  rw [Transformations.key, Transformations.key, htype, hfield]
  simp only [String.append_assoc]

theorem key_eq_iff {a b : String × String} :
    Transformations.key a.1 a.2 = Transformations.key b.1 b.2 ↔ NamedAlike a b := by
  constructor
  · intro h
    have hlists := congrArg String.toList h
    rw [toList_key, toList_key] at hlists
    rcases List.append_eq_append_iff.mp hlists with
      ⟨between, htype, hfield⟩ | ⟨between, htype, hfield⟩
    · exact (eq_or_runTogether htype hfield).imp_right .inl
    · exact (eq_or_runTogether htype hfield).imp Eq.symm .inr
  · rintro (rfl | h | h)
    · rfl
    · exact h.key_eq
    · exact h.key_eq.symm

instance (a b : String × String) : Decidable (NamedAlike a b) :=
  decidable_of_iff _ key_eq_iff

/-- Types without a dot in their names keep their fields apart. -/
theorem NamedAlike.eq_of_plain_types {a b : String × String} (h : NamedAlike a b)
    (ha : '.' ∉ a.1.toList) (hb : '.' ∉ b.1.toList) : a = b := by
  have hdotted : ∀ {c d : String × String}, RunTogether c d → '.' ∈ d.1.toList := by
    rintro c d ⟨part, htype, -⟩
    simp [htype, toList_dot]
  rcases h with rfl | h | h
  · rfl
  · exact absurd (hdotted h) hb
  · exact absurd (hdotted h) ha

/-! ## Registering -/

/-- A transformation that is registered for a field of a type. -/
structure Registration where
  type : String
  field : String
  transformation : Transformation

/-- The field, with its type. -/
def Registration.target (r : Registration) : String × String := (r.type, r.field)

/-- What is registered, one after another. -/
def registered (rs : List Registration) : Transformations :=
  rs.foldl (fun m r => Transformations.register m r.type r.field r.transformation) {}

/-- The last transformation that was registered for one of some fields. -/
def lastFor (among : String × String → Prop) [DecidablePred among] (rs : List Registration) :
    Option Transformation :=
  (rs.filter fun r => among r.target).getLast?.map (·.transformation)

section

variable (among : String × String → Prop) [DecidablePred among] (rs : List Registration)
  (r : Registration)

theorem registered_concat : registered (rs ++ [r]) =
    Transformations.register (registered rs) r.type r.field r.transformation := by
  simp [registered]

theorem lastFor_concat : lastFor among (rs ++ [r]) =
    if among r.target then some r.transformation else lastFor among rs := by
  unfold lastFor
  by_cases hr : among r.target <;> simp [List.filter_append, hr]

theorem lastFor_congr {among among' : String × String → Prop} [DecidablePred among]
    [DecidablePred among'] (h : ∀ r ∈ rs, among r.target ↔ among' r.target) :
    lastFor among rs = lastFor among' rs := by
  unfold lastFor
  rw [List.filter_congr fun r hr => decide_eq_decide.mpr (h r hr)]

theorem find?_registered (type field : String) :
    Transformations.find? (registered rs) type field =
      lastFor (NamedAlike · (type, field)) rs := by
  induction rs using List.reverseRecOn with
  | nil => rfl
  | append_singleton rs r ih =>
    have hname : Transformations.key type field = Transformations.key r.type r.field ↔
        NamedAlike r.target (type, field) :=
      eq_comm.trans (key_eq_iff (a := r.target) (b := (type, field)))
    rw [registered_concat, lastFor_concat, ← ih]
    simp only [Transformations.find?, Transformations.register, NameMap.get?_insert, hname]

theorem ordered_registered : (registered rs).Ordered := by
  induction rs using List.reverseRecOn with
  | nil => exact List.Pairwise.nil
  | append_singleton rs r ih =>
    rw [registered_concat]
    exact ih.insert _ _

theorem mem_names_registered {key : String} :
    key ∈ (registered rs).names ↔ ∃ r ∈ rs, Transformations.key r.type r.field = key := by
  induction rs using List.reverseRecOn with
  | nil => simp [registered, NameMap.names]
  | append_singleton rs r ih =>
    rw [registered_concat, Transformations.register, NameMap.mem_names_insert, ih]
    simp [or_comm, eq_comm]

/-- As many names are registered as there are fields, if the fields have names of their own. -/
theorem size_registered_eq_iff :
    (registered rs).size = (rs.map Registration.target).toFinset.card ↔
      ∀ r ∈ rs, ∀ s ∈ rs, NamedAlike r.target s.target → r.target = s.target := by
  let name (target : String × String) : String := Transformations.key target.1 target.2
  have hnames : (registered rs).names.toFinset =
      (rs.map Registration.target).toFinset.image name := by
    ext key
    simp [mem_names_registered, name, Registration.target]
  rw [(ordered_registered rs).size_eq, hnames, Finset.card_image_iff]
  simp [Set.InjOn, name, key_eq_iff]

end

/-- What is found for a field is what was registered last for a field of its name. If no other field
that was registered has its name, that is what was registered last for the field itself, or nothing;
and a record's field is read through it. There are as many names as fields exactly if no two of the
fields have one name. -/
theorem a_transformation_is_found_by_its_field_unless_names_run_together
    (rs : List Registration) :
    (∀ target : String × String,
      Transformations.find? (registered rs) target.1 target.2 = lastFor (NamedAlike · target) rs ∧
        ((∀ r ∈ rs, NamedAlike r.target target → r.target = target) →
          Transformations.find? (registered rs) target.1 target.2 = lastFor (· = target) rs ∧
            ∀ (c : MappingContext) (r : RecordType) (place : Nat) (f : FieldDef) (b : Binding),
              c.transformations = registered rs → (r.name, f.name) = target →
                c.bind? r place f = some b → b.transformation = lastFor (· = target) rs)) ∧
      ((registered rs).size = (rs.map Registration.target).toFinset.card ↔
        ∀ r ∈ rs, ∀ s ∈ rs, NamedAlike r.target s.target → r.target = s.target) := by
  refine ⟨fun target => ⟨find?_registered rs target.1 target.2, fun hown => ?_⟩,
    size_registered_eq_iff rs⟩
  have hfound : Transformations.find? (registered rs) target.1 target.2 =
      lastFor (· = target) rs := by
    rw [find?_registered]
    refine lastFor_congr rs fun r hr => ⟨hown r hr, ?_⟩
    rintro rfl
    exact .inl rfl
  refine ⟨hfound, ?_⟩
  rintro c r place f b hregistered rfl hbind
  rw [(MappingContext.of_bind? hbind).2.2, hregistered, hfound]

/-- The text in angle brackets. -/
def Transformation.wrap : Transformation := fun s => .ok (.text ("<" ++ s ++ ">"))

/-- The number of characters. -/
def Transformation.length : Transformation := fun s => .ok (.int (Int64.ofNat s.toList.length))

/-- Labels that are registered for two types, once in another's place. -/
def labels : List Registration :=
  [⟨"Order", "label.en", .upper⟩, ⟨"Stock", "label.en", .length⟩, ⟨"Order", "label.en", .wrap⟩]

def labelType : RecordType where
  name := "Order"
  fields := [{ name := "label.en", type := { base := .text } }]

def labelColumns : MappingContext where
  columns := ["label.en"]
  schema := ["label.en"]
  mappings := {}
  transformations := registered labels
  strict := .off
  projection := .identity

/-- The label of an order is read through what was registered for it last, and not through what
was registered for that of a stock. -/
theorem a_label_is_read_through_its_last_transformation :
    Transformations.find? (registered labels) "Order" "label.en" = some .wrap ∧
      ∃ b, labelColumns.bind? labelType 0 { name := "label.en", type := { base := .text } } =
        some b ∧ b.transformation = some .wrap := by
  have hplain : ∀ r ∈ labels, '.' ∉ r.target.1.toList := by decide
  obtain ⟨-, hown⟩ :=
    (a_transformation_is_found_by_its_field_unless_names_run_together labels).1
      ("Order", "label.en")
  obtain ⟨hfound, hread⟩ :=
    hown fun r hr halike => halike.eq_of_plain_types (hplain r hr) (by decide)
  refine ⟨hfound, _, rfl, ?_⟩
  exact hread labelColumns labelType 0 { name := "label.en", type := { base := .text } } _ rfl rfl
    rfl

/-- What is registered for the note of a line is found for another field of another type, which
then takes its place. -/
theorem a_transformation_is_found_for_a_field_of_another_type :
    let notes : List Registration := [⟨"Order.Line", "note", .upper⟩]
    let both : List Registration := notes ++ [⟨"Order", "Line.note", .wrap⟩]
    Transformations.find? (registered notes) "Order" "Line.note" = some .upper ∧
      lastFor (· = ("Order", "Line.note")) notes = none ∧
      Transformations.find? (registered both) "Order.Line" "note" = some .wrap ∧
      lastFor (· = ("Order.Line", "note")) both = some .upper ∧
      (registered both).size = 1 ∧ (both.map Registration.target).toFinset.card = 2 := by
  refine ⟨rfl, rfl, rfl, rfl, rfl, by decide⟩

end GridQuery
