import ValidatorReader.Log.Handler
import ValidatorReader.Proofs.Log.Line

/-!
# The length of a line

The clock shows up in a line as one text, if at all. So the lines that are made of a record at different
times are equally long, but for the fraction of a second, which a whole second does not have.
-/

namespace ValidatorReader

variable {entries before after : Entries} {name other : String}

/-! ## One value among entries -/

/-- A value that is put under a name stands at one place among entries that do not depend on it. -/
theorem Entries.exists_put_eq (entries : Entries) (name : String) :
    ∃ before after, ∀ v, entries.put name v = before ++ (name, v) :: after := by
  induction entries with
  | nil => exact ⟨[], [], fun _ ↦ rfl⟩
  | cons entry entries ih =>
    by_cases h : entry.1 = name
    · refine ⟨[], entries, fun v ↦ ?_⟩
      rw [put, if_pos h, h]
      rfl
    · obtain ⟨before, after, hput⟩ := ih
      refine ⟨entry :: before, after, fun v ↦ ?_⟩
      rw [put, if_neg h, hput]
      rfl

/-- What is put under another name leaves a value at its place. -/
theorem Entries.exists_put_append_eq (before after : Entries) (hne : name ≠ other) (w : Value) :
    ∃ before' after', ∀ v, put (before ++ (name, v) :: after) other w =
      before' ++ (name, v) :: after' := by
  induction before with
  | nil =>
    refine ⟨[], after.put other w, fun v ↦ ?_⟩
    rw [List.nil_append, put, if_neg hne]
    rfl
  | cons entry before ih =>
    by_cases h : entry.1 = other
    · refine ⟨(entry.1, w) :: before, after, fun v ↦ ?_⟩
      rw [List.cons_append, put, if_pos h]
      rfl
    · obtain ⟨before', after', hput⟩ := ih
      refine ⟨entry :: before', after', fun v ↦ ?_⟩
      rw [List.cons_append, put, if_neg h, hput]
      rfl

namespace Value

/-- One of several texts with commas between them stands between two others. -/
theorem exists_commaSeparated_eq (before after : List String) :
    ∃ front back, ∀ part, commaSeparated (before ++ part :: after) = front ++ part ++ back := by
  unfold commaSeparated
  induction before with
  | nil =>
    by_cases h : after = []
    · refine ⟨"", "", fun part ↦ ?_⟩
      rw [h, String.empty_append, String.append_empty]
      rfl
    · refine ⟨"", ", " ++ ", ".intercalate after, fun part ↦ ?_⟩
      rw [List.nil_append, String.intercalate_cons_of_ne_nil h, String.empty_append,
        String.append_assoc]
  | cons first before ih =>
    obtain ⟨front, back, hjoined⟩ := ih
    refine ⟨first ++ ", " ++ front, back, fun part ↦ ?_⟩
    rw [List.cons_append, String.intercalate_cons_of_ne_nil (by simp), hjoined]
    simp only [String.append_assoc]

theorem jsonMembers_append (before after : Entries) :
    jsonMembers (before ++ after) = jsonMembers before ++ jsonMembers after := by
  induction before with
  | nil => rfl
  | cons entry before ih =>
    rw [List.cons_append, jsonMembers, jsonMembers, ih]
    rfl

/-- The JSON of one value among entries stands between two texts. -/
theorem exists_toJson_dict_eq (before after : Entries) (name : String) :
    ∃ front back, ∀ v, (dict (before ++ (name, v) :: after)).toJson = front ++ v.toJson ++ back := by
  obtain ⟨front, back, hjoined⟩ := exists_commaSeparated_eq (jsonMembers before) (jsonMembers after)
  refine ⟨"\x7b" ++ front ++ (jsonString name ++ ": "), back ++ "\x7d", fun v ↦ ?_⟩
  rw [toJson, jsonMembers_append, jsonMembers, jsonObject, hjoined, jsonMember]
  simp only [String.append_assoc]

end Value

/-! ## The clock in a line -/

namespace Log

variable {r : Record} {service : String} {t : Instant} {c : Char}

/-- No character of an instant is escaped. -/
theorem Instant.jsonChar_of_mem_render (h : c ∈ t.render.toList) : Value.jsonChar c = [c] := by
  rcases isDigit_or_mark_of_mem_render h with h | h
  · have hall : ∀ n < 0x80, (Char.ofNat n).isDigit = true → Value.jsonChar (Char.ofNat n) = [Char.ofNat n] := by
      decide +kernel
    have hlt : c.toNat < 0x80 := by
      simp only [Char.isDigit, Bool.and_eq_true, decide_eq_true_eq] at h
      exact (UInt32.le_iff_toNat_le.1 h.2).trans_lt (by decide)
    have hc := hall c.toNat hlt
    rw [Char.ofNat_toNat] at hc
    exact hc h
  · simp only [List.mem_cons, List.not_mem_nil, or_false] at h
    rcases h with rfl | rfl | rfl | rfl | rfl <;> rfl

theorem Instant.length_jsonString_render (t : Instant) :
    (Value.jsonString t.render).length = t.render.length + 2 := by
  have hchars : t.render.toList.flatMap Value.jsonChar = t.render.toList := by
    calc t.render.toList.flatMap Value.jsonChar
        = t.render.toList.flatMap fun c ↦ [c] :=
          List.flatMap_congr fun _ ↦ jsonChar_of_mem_render
      _ = t.render.toList := List.flatMap_singleton' _
  rw [Value.jsonString, hchars, String.length_ofList]
  simp [String.length_toList]

namespace Record

/-- The clock shows up in a line as one text, if at all. -/
theorem exists_render_eq (service : String) {parts : String × Entries}
    (hparts : r.messageParts = .ok parts) :
    (∃ line, ∀ now, r.render service now = .ok line) ∨
    ∃ front back, ∀ now : Instant,
      r.render service now = .ok (front ++ Value.jsonString now.render ++ back) := by
  obtain ⟨message, added⟩ := parts
  obtain ⟨given, hmembers⟩ : ∃ given, ∀ now, r.members service now = .ok (completed service now r given) :=
    ⟨_, fun _ ↦ members_of_messageParts hparts⟩
  generalize hlevel : heldOr (given.get? "level") (.text (Text.lower (levelName r.level))) = level
  -- What is put in later goes beside the time, so the time stays at the place where it was put.
  obtain ⟨before, after, htimed⟩ := Entries.exists_put_eq given "timestamp"
  obtain ⟨before, after, hlevelled⟩ :=
    Entries.exists_put_append_eq before after (by decide : "timestamp" ≠ "level") level
  obtain ⟨before, after, hserved⟩ :=
    Entries.exists_put_append_eq before after (by decide : "timestamp" ≠ "service") (.text service)
  obtain ⟨before, after, hplaced⟩ :=
    Entries.exists_put_append_eq before after (by decide : "timestamp" ≠ "source") r.source
  obtain ⟨front, back, hjson⟩ := Value.exists_toJson_dict_eq before after "timestamp"
  have hrender (now : Instant) : r.render service now =
      .ok (front ++ (heldOr (given.get? "timestamp") (.text now.render)).toJson ++ back) := by
    rw [render, hmembers, completed, hlevel, htimed, hlevelled, hserved, hplaced]
    exact congrArg Except.ok (hjson _)
  cases hheld : (given.get? "timestamp").filter Value.holds with
  | some v =>
    refine .inl ⟨front ++ v.toJson ++ back, fun now ↦ ?_⟩
    rw [hrender, heldOr, hheld]
    rfl
  | none =>
    refine .inr ⟨front, back, fun now ↦ ?_⟩
    rw [hrender, heldOr, hheld]
    rfl

theorem exists_messageParts {line : String} (h : r.render service t = .ok line) :
    ∃ parts, r.messageParts = .ok parts := by
  cases hparts : r.messageParts with
  | error e =>
    rw [render, members, hparts] at h
    cases h
  | ok parts => exact ⟨parts, rfl⟩

end Record

/-- How many characters more than a line that is tested the line that is written can have: those of the
fraction of a second. -/
def Times.gain (times : Times) : ℕ :=
  if times.tested.isWhole && !times.written.isWhole then 7 else 0

theorem Times.length_render_written_le (times : Times) :
    times.written.render.length ≤ times.tested.render.length + times.gain := by
  rw [Instant.length_render, Instant.length_render, gain]
  cases times.tested.isWhole <;> cases times.written.isWhole <;> decide

/-- The line that is written is longer than the one that was tested by what the clock gained in
between, at most. -/
theorem Record.length_written_le {times : Times} {tested written : String}
    (htested : r.render service times.tested = .ok tested)
    (hwritten : r.render service times.written = .ok written) :
    written.length ≤ tested.length + times.gain := by
  obtain ⟨parts, hparts⟩ := exists_messageParts htested
  rcases exists_render_eq service hparts with ⟨line, hline⟩ | ⟨front, back, hline⟩
  · rw [hline] at htested hwritten
    rw [← Except.ok.inj htested, ← Except.ok.inj hwritten]
    exact Nat.le_add_right _ _
  · rw [hline] at htested hwritten
    have hclock := times.length_render_written_le
    rw [← Except.ok.inj htested, ← Except.ok.inj hwritten]
    simp only [String.length_append, Instant.length_jsonString_render]
    omega

end Log

end ValidatorReader
