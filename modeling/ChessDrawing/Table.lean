/-!
# Tables

A table holds one value under each of its keys, in the order in which the keys came.  Putting a
value replaces the one under its key and leaves every other key as it was.
-/

namespace ChessDrawing

/-- Values under text keys. -/
abbrev Table (Item : Type) :=
  List (String × Item)

namespace Table

variable {Item : Type}

/-- The table in which a key has a value; a new key goes to the end. -/
def put (key : String) (item : Item) : Table Item → Table Item
  | [] => [(key, item)]
  | entry :: table =>
      if entry.1 = key then (key, item) :: table else entry :: put key item table

@[simp]
theorem lookup_put_self (key : String) (item : Item) (table : Table Item) :
    (put key item table).lookup key = some item := by
  induction table with
  | nil => simp [put]
  | cons entry table ih =>
      obtain ⟨first, stored⟩ := entry
      by_cases same : first = key
      · simp [put, same]
      · have differs : (key == first) = false := beq_false_of_ne (Ne.symm same)
        simp [put, same, List.lookup_cons, differs, ih]

theorem lookup_put_of_ne {key other : String} (different : other ≠ key) (item : Item)
    (table : Table Item) : (put key item table).lookup other = table.lookup other := by
  have differs : (other == key) = false := beq_false_of_ne different
  induction table with
  | nil => simp [put, List.lookup_cons, differs]
  | cons entry table ih =>
      obtain ⟨first, stored⟩ := entry
      by_cases same : first = key
      · simp [put, same, List.lookup_cons, differs]
      · simp [put, same, List.lookup_cons, ih]

/-- A key of the table stays where it is, and a new key comes last. -/
theorem keys_put (key : String) (item : Item) (table : Table Item) :
    (put key item table).map Prod.fst =
      if key ∈ table.map Prod.fst then
        table.map Prod.fst
      else
        table.map Prod.fst ++ [key] := by
  induction table with
  | nil => simp [put]
  | cons entry table ih =>
      by_cases same : entry.1 = key
      · simp [put, same]
      · simp only [put, same, if_false, List.map_cons, ih, List.mem_cons, Ne.symm same, false_or]
        split <;> simp

end Table
end ChessDrawing
