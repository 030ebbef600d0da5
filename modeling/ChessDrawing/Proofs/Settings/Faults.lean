import ChessDrawing.Proofs.Settings.Normal
import ChessDrawing.Proofs.Settings.Store

/-!
# Faults of settings

Each field of an object has one effective value, and reading depends on these values and their keys
only.  A default passes the check of its field, so that a field is refused only where the object has
it.  An object with refused fields has one fault for each of them, in the order of the fields, and
the store refuses to load exactly the objects that have faults.
-/

namespace ChessDrawing
namespace Style

variable {value : Value} {problem : Problem} {field : Field} {object : List (String × Value)}

/-! ## Refused values -/

/-- A value is no color, and why. -/
inductive RefusesColor : Value → Problem → Prop
  /-- The value is no text. -/
  | notText {value : Value} (no_text : ∀ text, value ≠ .text text) : RefusesColor value .notText
  /-- The text has blanks only. -/
  | blank {text : String} (blank : ∀ character ∈ text.toList, Text.isBlank character = true) :
      RefusesColor (.text text) .blankColor

/-- A value is no width, and why. -/
inductive RefusesWidth : Value → Problem → Prop
  /-- The value is not read as an integer. -/
  | unreadable {value : Value} {problem : Problem} (unread : value.readInteger = .error problem) :
      RefusesWidth value problem
  /-- The integer is not positive. -/
  | notPositive {value : Value} {width : Int} (read : value.readInteger = .ok width)
      (small : width ≤ 0) : RefusesWidth value (.notPositive width)

/-- A value is invalid for a field, and why. -/
def Field.Refuses : Field → Value → Problem → Prop
  | .light | .dark => RefusesColor
  | .width => RefusesWidth

theorem readColor_eq_error_iff : readColor value = .error problem ↔ RefusesColor value problem := by
  constructor
  · intro refused
    cases value with
    | text text =>
        simp only [readColor, Value.readText, ok_bind] at refused
        split at refused
        · rename_i empty
          obtain rfl := Except.error.inj refused
          refine .blank (Text.trim_eq_nil_iff.mp ?_)
          rw [← Text.toList_trimmed, empty]
          rfl
        · cases refused
    | _ =>
        obtain rfl := Except.error.inj refused
        exact .notText (by simp)
  · rintro (no_text | blank)
    · cases value with
      | text text => exact absurd rfl (no_text text)
      | _ => rfl
    · rename_i text
      have empty : Text.trimmed text = "" := by
        rw [Text.trimmed, Text.trim_eq_nil_iff.mpr blank]
      simp only [readColor, Value.readText, ok_bind, empty, if_true]

theorem readWidth_eq_error_iff : readWidth value = .error problem ↔ RefusesWidth value problem := by
  simp only [readWidth, bind_eq_error_iff]
  constructor
  · rintro (unread | ⟨width, read, refused⟩)
    · exact .unreadable unread
    · split at refused
      · cases refused
      · rename_i small
        obtain rfl := Except.error.inj refused
        exact .notPositive read (Int.not_lt.mp small)
  · rintro (unread | ⟨read, small⟩)
    · exact Or.inl unread
    · exact Or.inr ⟨_, read, if_neg (Int.not_lt.mpr small)⟩

/-! ## Effective values -/

/-- The value of a field in an object with its key: the one under the stored key, else the one under
the plain key, else the default, which has no key. -/
def Field.effective (field : Field) (object : List (String × Value)) : Option String × Value :=
  match object.lookup field.storedKey, object.lookup field.plainKey with
  | some value, _ => (some field.storedKey, value)
  | none, some value => (some field.plainKey, value)
  | none, none => (none, default.value field)

theorem Field.find?_eq (field : Field) (object : List (String × Value)) :
    field.find? object =
      (field.effective object).1.map fun key => (key, (field.effective object).2) := by
  rw [find?, effective]
  cases object.lookup field.storedKey with
  | some value => rfl
  | none => cases object.lookup field.plainKey <;> rfl

theorem Field.effective_of_key_eq_none (no_key : (field.effective object).1 = none) :
    (field.effective object).2 = default.value field := by
  rw [effective] at no_key ⊢
  cases stored : object.lookup field.storedKey with
  | some value => simp [stored] at no_key
  | none =>
      cases plain : object.lookup field.plainKey with
      | some value => simp [stored, plain] at no_key
      | none => rfl

/-- Reading a field is reading its effective value, with the key put on a problem. -/
theorem Field.read_eq {α : Type} {reader : Value → Except Problem α} {absent : α}
    (accepted : reader (default.value field) = .ok absent) (object : List (String × Value)) :
    field.read reader absent object =
      (reader (field.effective object).2).mapError fun problem =>
        { key := (field.effective object).1, problem } := by
  rw [Field.read, Field.find?_eq]
  cases key_eq : (field.effective object).1 with
  | none =>
      rw [Field.effective_of_key_eq_none key_eq, accepted]
      rfl
  | some key =>
      simp only [Option.map_some]
      cases reader (field.effective object).2 <;> rfl

/-! ## One fault for each refused field -/

/-- The check of a field, with the value that it accepts. -/
def Field.check : Field → Value → Except Problem Value
  | .light, value | .dark, value => (readColor value).map .text
  | .width, value => (readWidth value).map .integer

theorem Field.check_eq_error_iff :
    field.check value = .error problem ↔ field.Refuses value problem := by
  cases field with
  | width => exact map_eq_error_iff.trans readWidth_eq_error_iff
  | _ => exact map_eq_error_iff.trans readColor_eq_error_iff

theorem readColor_default_light : readColor (default.value .light) = .ok default.light :=
  readColor_of_validColor valid_default.light

theorem readColor_default_dark : readColor (default.value .dark) = .ok default.dark :=
  readColor_of_validColor valid_default.dark

theorem readWidth_default : readWidth (default.value .width) = .ok default.width := rfl

/-- A default passes the check of its field. -/
theorem Field.not_refuses_default (field : Field) (problem : Problem) :
    ¬ field.Refuses (default.value field) problem := by
  rw [← check_eq_error_iff]
  cases field <;>
    simp [check, readColor_default_light, readColor_default_dark, readWidth_default]

/-- The fault of a field of an object, or none. -/
def Field.faults (field : Field) (object : List (String × Value)) : List FieldFault :=
  faultsOf <| (field.check (field.effective object).2).mapError fun problem =>
    { key := (field.effective object).1, problem }

theorem Field.faults_eq_nil_iff :
    field.faults object = [] ↔ ∀ problem, ¬ field.Refuses (field.effective object).2 problem := by
  simp only [faults, ← check_eq_error_iff]
  cases field.check (field.effective object).2 <;> simp [faultsOf]

theorem Field.faults_eq_singleton_iff {fault : FieldFault} :
    field.faults object = [fault] ↔
      (field.effective object).1 = fault.key ∧
        field.Refuses (field.effective object).2 fault.problem := by
  obtain ⟨key, problem⟩ := fault
  simp only [faults, ← check_eq_error_iff]
  cases field.check (field.effective object).2 <;> simp [faultsOf]

theorem Field.faults_cases (field : Field) (object : List (String × Value)) :
    field.faults object = [] ∨ ∃ fault, field.faults object = [fault] := by
  rw [faults]
  cases (field.check (field.effective object).2).mapError fun problem =>
    FieldFault.mk (field.effective object).1 problem with
  | ok value => exact Or.inl rfl
  | error fault => exact Or.inr ⟨fault, rfl⟩

theorem Field.faultsOf_read {α : Type} {reader : Value → Except Problem α} {absent : α}
    {shown : α → Value} (accepted : reader (default.value field) = .ok absent)
    (check_eq : ∀ value, field.check value = (reader value).map shown)
    (object : List (String × Value)) :
    faultsOf (field.read reader absent object) = field.faults object := by
  rw [read_eq accepted, faults, check_eq]
  cases reader (field.effective object).2 <;> rfl

/-- The fields of a style in their order. -/
def Field.all : List Field := [.light, .dark, .width]

theorem Field.mem_all (field : Field) : field ∈ all := by
  cases field <;> decide

/-- The faults of an object are those of its fields, one after the other. -/
theorem ofObject_eq_error_iff {faults : List FieldFault} :
    ofObject object = .error faults ↔
      (Field.all.flatMap fun field => field.faults object) = faults ∧ faults ≠ [] := by
  have light_faults := Field.faultsOf_read readColor_default_light (fun _ => rfl) object
  have dark_faults := Field.faultsOf_read readColor_default_dark (fun _ => rfl) object
  have width_faults := Field.faultsOf_read readWidth_default (fun _ => rfl) object
  have faults_eq : (Field.all.flatMap fun field => field.faults object) =
      faultsOf (Field.light.read readColor default.light object) ++
        faultsOf (Field.dark.read readColor default.dark object) ++
          faultsOf (Field.width.read readWidth default.width object) := by
    simp [Field.all, light_faults, dark_faults, width_faults]
  rw [faults_eq, ofObject]
  cases Field.light.read readColor default.light object <;>
    cases Field.dark.read readColor default.dark object <;>
      cases Field.width.read readWidth default.width object <;>
        simp [faultsOf] <;> rintro rfl <;> simp

/-- Among some fields, each refused one has one fault, and the faults are in the order of the
fields. -/
theorem forall₂_faults (object : List (String × Value)) (fields : List Field) :
    List.Forall₂ (fun field fault => field.faults object = [fault])
      (fields.filter fun field => !(field.faults object).isEmpty)
      (fields.flatMap fun field => field.faults object) := by
  induction fields with
  | nil => exact .nil
  | cons field fields ih =>
      obtain none | ⟨fault, one⟩ := field.faults_cases object
      · simpa [none] using ih
      · simpa [one] using ih

/-- The effective value of some field is invalid. -/
def Field.Invalid (field : Field) (object : List (String × Value)) : Prop :=
  ∃ problem, field.Refuses (field.effective object).2 problem

theorem Field.faults_ne_nil_iff : field.faults object ≠ [] ↔ field.Invalid object := by
  simp only [ne_eq, faults_eq_nil_iff, not_forall, not_not, Invalid]

/-- A fault is at the key that was used, since a default is not refused. -/
theorem Field.key_of_refuses {problem : Problem}
    (refuses : field.Refuses (field.effective object).2 problem) :
    ∃ key, (field.effective object).1 = some key := by
  rw [← Option.ne_none_iff_exists']
  intro no_key
  rw [effective_of_key_eq_none no_key] at refuses
  exact field.not_refuses_default problem refuses

/-- Objects with the same effective values under the same keys are read alike. -/
theorem ofObject_congr_of_effective {left right : List (String × Value)}
    (same : ∀ field : Field, field.effective left = field.effective right) :
    ofObject left = ofObject right := by
  apply ofObject_congr
  intro field
  rw [Field.find?_eq, Field.find?_eq, same]

/-- Reading an object checks each field on its own.  It fails exactly if some effective value is
invalid, and then there is one fault for each such field, in the order of the fields, at the key that
was used, with the problem of its value.  The result depends on the effective values and their keys
only.  A store that has the object refuses to load it exactly if reading fails, and loads the same
style otherwise. -/
theorem reading_collects_faults :
    (∀ object, (∃ faults, ofValue (.object object) = .error faults) ↔
      ∃ field : Field, field.Invalid object) ∧
    (∀ object faults, ofValue (.object object) = .error faults →
      ∃ refused : List Field, refused.Sublist [.light, .dark, .width] ∧
        (∀ field, field ∈ refused ↔ field.Invalid object) ∧
        List.Forall₂ (fun field fault =>
            (∃ key, (field.effective object).1 = some key ∧ fault.key = some key) ∧
              field.Refuses (field.effective object).2 fault.problem)
          refused faults) ∧
    (∀ left right, (∀ field : Field, field.effective left = field.effective right) →
      ofValue (.object left) = ofValue (.object right)) ∧
    ∀ (store : Store) owner object, store.value? owner = some (.object object) →
      (∀ faults, ofValue (.object object) = .error faults →
        store.load owner = .error (.invalid owner (.object object))) ∧
      ∀ style, ofValue (.object object) = .ok style → store.load owner = .ok (some style) := by
  simp only [ofValue_object]
  refine ⟨?_, ?_, fun _ _ => ofObject_congr_of_effective, ?_⟩
  · intro object
    constructor
    · rintro ⟨faults, failed⟩
      obtain ⟨rfl, some_fault⟩ := ofObject_eq_error_iff.mp failed
      simp only [ne_eq, List.flatMap_eq_nil_iff, not_forall] at some_fault
      obtain ⟨field, -, refused⟩ := some_fault
      exact ⟨field, Field.faults_ne_nil_iff.mp refused⟩
    · rintro ⟨field, invalid⟩
      refine ⟨_, ofObject_eq_error_iff.mpr ⟨rfl, fun none => ?_⟩⟩
      exact Field.faults_ne_nil_iff.mpr invalid (List.flatMap_eq_nil_iff.mp none field field.mem_all)
  · intro object faults failed
    obtain ⟨rfl, -⟩ := ofObject_eq_error_iff.mp failed
    refine ⟨Field.all.filter fun field => !(field.faults object).isEmpty, List.filter_sublist, ?_,
      (forall₂_faults object Field.all).imp ?_⟩
    · intro field
      simp [field.mem_all, ← Field.faults_ne_nil_iff]
    · intro field fault one
      obtain ⟨key_eq, refuses⟩ := Field.faults_eq_singleton_iff.mp one
      obtain ⟨key, used⟩ := Field.key_of_refuses refuses
      exact ⟨⟨key, used, key_eq.symm.trans used⟩, refuses⟩
  · intro store owner object row_at
    refine ⟨?_, fun style read => Store.load_of_value? row_at ?_⟩
    · intro faults failed
      simp only [Store.load, row_at, ofValue_object, failed]
    · rwa [ofValue_object]

/-- Three faults at three keys: a blank under the plain key, a number that hides a color, and a double
between two integers.  Other keys and another order change nothing. -/
theorem reading_of_three_faults :
    let object : List (String × Value) :=
      [ ("white_square_color", .text " \t"), ("blackSquareColor", .integer 3),
        ("black_square_color", .text "red"), ("boardWidthPx", .real (Binary64.ofDecimal 5 1)) ]
    let changed : List (String × Value) :=
      ("note", .null) :: object.reverse ++ [("whiteSquareColour", .text "red")]
    let faults : List FieldFault :=
      [ { key := some "white_square_color", problem := .blankColor },
        { key := some "blackSquareColor", problem := .notText },
        { key := some "boardWidthPx", problem := .fractional } ]
    ofValue (.object object) = .error faults ∧ ofValue (.object changed) = .error faults ∧
      (∀ field : Field, field.Invalid object) ∧
      Store.load { rows := [("chessboard", .object changed)], refusing := false } "chessboard" =
        .error (.invalid "chessboard" (.object changed)) := by
  intro object changed faults
  obtain ⟨-, collects, congruent, loads⟩ := reading_collects_faults
  have failed : ofValue (.object object) = .error faults := by decide +kernel
  have same_values : ∀ field : Field, field.effective changed = field.effective object := by
    intro field
    cases field <;> rfl
  have failed' : ofValue (.object changed) = .error faults := by
    rw [congruent changed object same_values, failed]
  refine ⟨failed, failed', ?_, (loads _ "chessboard" changed rfl).1 faults failed'⟩
  obtain ⟨refused, sublist, invalid_iff, one_each⟩ := collects object faults failed
  have all_refused : refused = [.light, .dark, .width] :=
    sublist.eq_of_length one_each.length_eq
  intro field
  rw [← invalid_iff, all_refused]
  exact field.mem_all

end Style
end ChessDrawing
