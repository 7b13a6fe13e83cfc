import ValidatorReader.Value.Basic

/-!
# Entries under names

Values under names, in the order in which the names were first given. A later value under a name
takes the place of the earlier one.
-/

namespace ValidatorReader

abbrev Entries := List (String × Value)

namespace Entries

/-- Puts a value under a name. -/
def put (entries : Entries) (name : String) (value : Value) : Entries :=
  match entries with
  | [] => [(name, value)]
  | (key, old) :: rest =>
    if key = name then (key, value) :: rest else (key, old) :: put rest name value

/-- Puts all entries of a second list into a first. -/
def merge (entries added : Entries) : Entries :=
  added.foldl (fun acc e => put acc e.1 e.2) entries

def get? (entries : Entries) (name : String) : Option Value :=
  (entries.find? (·.1 = name)).map (·.2)

def names (entries : Entries) : List String :=
  entries.map (·.1)

@[simp] theorem get?_put_self (entries : Entries) (name : String) (value : Value) :
    (entries.put name value).get? name = some value := by
  induction entries with
  | nil => simp [put, get?]
  | cons e rest ih =>
    by_cases h : e.1 = name
    · simp [put, get?, h]
    · simp only [put, get?, h, if_false, List.find?_cons, decide_false] at ih ⊢
      exact ih

theorem get?_put_of_ne (entries : Entries) {name other : String} (value : Value)
    (h : other ≠ name) : (entries.put name value).get? other = entries.get? other := by
  induction entries with
  | nil => simp [put, get?, Ne.symm h]
  | cons e rest ih =>
    by_cases he : e.1 = name
    · have hne : ¬ name = other := fun hx => h hx.symm
      simp [put, get?, he, hne]
    · by_cases ho : e.1 = other
      · subst ho; simp [put, get?, he]
      · simp only [put, get?, he, if_false, List.find?_cons, ho, decide_false] at ih ⊢
        exact ih

end Entries

end ValidatorReader
