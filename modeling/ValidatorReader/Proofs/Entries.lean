import Mathlib.Data.List.Nodup
import Mathlib.Tactic.Tauto
import ValidatorReader.Value.Entries

/-!
# Entries after a change

What is under a name after a value has been put there or a list of entries has been merged into another,
which names there are then, and what all the values are.
-/

namespace ValidatorReader.Entries

variable {entries added : Entries} {name key : String} {value : Value}

theorem get?_nil (key : String) : get? [] key = none := rfl

theorem get?_cons (name : String) (value : Value) (entries : Entries) (key : String) :
    get? ((name, value) :: entries) key = if name = key then some value else entries.get? key := by
  by_cases h : name = key <;> simp [get?, h]

theorem get?_eq_none_of_notMem (h : key ∉ entries.names) : entries.get? key = none := by
  induction entries with
  | nil => rfl
  | cons entry entries ih =>
    simp only [names, List.map_cons, List.mem_cons, not_or] at h
    rw [get?_cons, if_neg fun hname ↦ h.1 hname.symm]
    exact ih h.2

theorem merge_cons (entries : Entries) (entry : String × Value) (added : Entries) :
    entries.merge (entry :: added) = (entries.put entry.1 entry.2).merge added := rfl

/-- A merged list has the added value under a name if there is one, and else the value before. -/
theorem get?_merge {added : Entries} (hadded : added.names.Nodup) (key : String) :
    (entries.merge added).get? key = (added.get? key).or (entries.get? key) := by
  induction added generalizing entries with
  | nil => simp [merge, get?_nil]
  | cons entry added ih =>
    simp only [names, List.map_cons, List.nodup_cons] at hadded
    rw [merge_cons, ih hadded.2, get?_cons]
    by_cases h : entry.1 = key
    · subst h
      rw [get?_eq_none_of_notMem hadded.1, get?_put_self, if_pos rfl]
      rfl
    · rw [get?_put_of_ne entries entry.2 (Ne.symm h), if_neg h]

theorem get?_merge_of_notMem {added : Entries} (h : key ∉ added.names) :
    (entries.merge added).get? key = entries.get? key := by
  induction added generalizing entries with
  | nil => rfl
  | cons entry added ih =>
    simp only [names, List.map_cons, List.mem_cons, not_or] at h
    rw [merge_cons, ih h.2, get?_put_of_ne _ _ h.1]

theorem get?_put (entries : Entries) (name : String) (value : Value) (key : String) :
    (entries.put name value).get? key = if key = name then some value else entries.get? key := by
  split
  case isTrue h => rw [h, get?_put_self]
  case isFalse h => exact get?_put_of_ne entries value h

/-- Putting a name adds it, or finds it there already. -/
theorem mem_names_put : key ∈ (entries.put name value).names ↔ key = name ∨ key ∈ entries.names := by
  induction entries with
  | nil => simp [put, names]
  | cons entry entries ih =>
    simp only [names, put] at ih ⊢
    split
    case isTrue h =>
      subst h
      simp
    case isFalse h =>
      simp only [List.map_cons, List.mem_cons, ih]
      tauto

/-- Names are never repeated by putting one. -/
theorem nodup_names_put (h : entries.names.Nodup) (name : String) (value : Value) :
    (entries.put name value).names.Nodup := by
  induction entries with
  | nil => exact List.nodup_singleton name
  | cons entry entries ih =>
    rw [names, List.map_cons, List.nodup_cons] at h
    rw [put]
    split
    case isTrue heq => exact List.nodup_cons.2 h
    case isFalse hne =>
      refine List.nodup_cons.2 ⟨?_, ih h.2⟩
      rintro hmem
      rcases mem_names_put.1 hmem with heq | hmem
      · exact hne heq
      · exact h.1 hmem

theorem forall_mem_put {P : Value → Prop} (h : ∀ entry ∈ entries, P entry.2) (hvalue : P value)
    (name : String) : ∀ entry ∈ entries.put name value, P entry.2 := by
  induction entries with
  | nil => simpa [put] using hvalue
  | cons entry entries ih =>
    obtain ⟨hfirst, hrest⟩ := List.forall_mem_cons.1 h
    rw [put]
    split
    case isTrue => exact List.forall_mem_cons.2 ⟨hvalue, hrest⟩
    case isFalse => exact List.forall_mem_cons.2 ⟨hfirst, ih hrest⟩

/-- Putting the value that is there already changes nothing. -/
theorem put_of_get? (h : entries.get? name = some value) : entries.put name value = entries := by
  induction entries with
  | nil => cases h
  | cons entry entries ih =>
    rw [get?_cons] at h
    rw [put]
    split
    case isTrue heq =>
      rw [if_pos heq] at h
      obtain rfl := Option.some.inj h
      rfl
    case isFalse hne =>
      rw [if_neg hne] at h
      rw [ih h]

/-- Merging loses no names and brings no others. -/
theorem mem_names_merge :
    key ∈ (entries.merge added).names ↔ key ∈ entries.names ∨ key ∈ added.names := by
  induction added generalizing entries with
  | nil => simp [merge, names]
  | cons entry added ih =>
    rw [merge_cons, ih, mem_names_put]
    simp only [names, List.map_cons, List.mem_cons]
    tauto

theorem nodup_names_merge (h : entries.names.Nodup) (added : Entries) :
    (entries.merge added).names.Nodup := by
  induction added generalizing entries with
  | nil => exact h
  | cons entry added ih => exact ih (nodup_names_put h entry.1 entry.2)

theorem forall_mem_merge {P : Value → Prop} (h : ∀ entry ∈ entries, P entry.2)
    (hadded : ∀ entry ∈ added, P entry.2) : ∀ entry ∈ entries.merge added, P entry.2 := by
  induction added generalizing entries with
  | nil => exact h
  | cons entry added ih =>
    obtain ⟨hfirst, hrest⟩ := List.forall_mem_cons.1 hadded
    exact ih (forall_mem_put h hfirst entry.1) hrest

theorem forall_get? {P : Value → Prop} (h : ∀ entry ∈ entries, P entry.2) (key : String) :
    ∀ v ∈ entries.get? key, P v := by
  intro v hv
  obtain ⟨entry, hfound, rfl⟩ := Option.map_eq_some_iff.1 hv
  exact h entry (List.mem_of_find?_eq_some hfound)

theorem get?_filter_of_forall {p : String × Value → Bool}
    (h : ∀ entry ∈ entries, entry.1 = key → p entry = true) :
    get? (entries.filter p) key = entries.get? key := by
  induction entries with
  | nil => rfl
  | cons entry entries ih =>
    obtain ⟨hfirst, hrest⟩ := List.forall_mem_cons.1 h
    rw [List.filter_cons, get?_cons]
    split
    case isTrue => rw [get?_cons, ih hrest]
    case isFalse hp =>
      rw [ih hrest, if_neg]
      intro heq
      exact hp (hfirst heq)

end ValidatorReader.Entries
