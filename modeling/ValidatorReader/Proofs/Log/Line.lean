import ValidatorReader.Log.Record
import ValidatorReader.Proofs.Entries
import ValidatorReader.Proofs.Json.Lines
import ValidatorReader.Proofs.Json.RoundTrip
import ValidatorReader.Proofs.Log.Instant

/-!
# Lines of a log

A record is written as one line of printable ASCII, and reading the line as JSON gives its members
back: those that every line has, and the further fields of the record under the names that are left.
The text of a message, however it was filled, is the value of one member and cannot end the line, close
the object or add to it.
-/

namespace ValidatorReader.Log

open Json

/-- A value that is given and holds, or else another one. -/
def heldOr (given : Option Value) (other : Value) : Value :=
  (given.filter Value.holds).getD other

def lineKeys : List String :=
  ["timestamp", "level", "name", "message", "service", "source"]

/-- The names that the exception and the stack of a record have in its line. -/
def traceKeys : List String :=
  ["exc_info", "stack_info"]

namespace Record

variable {r : Record} {service template message : String} {now : Instant} {entries : Entries}

/-- The members for the exception and the stack that a record carries. -/
def traces (r : Record) : Entries :=
  (r.exception.map fun text ↦ ("exc_info", .text text)).toList ++
    (r.stack.map fun text ↦ ("stack_info", .text text)).toList

/-- Whether members are those of the line of a record with the given message, at an instant. -/
structure IsLineOf (service : String) (now : Instant) (r : Record) (message : String)
    (entries : Entries) : Prop where
  nodup_names : entries.names.Nodup
  mem_names : ∀ key, key ∈ entries.names ↔
    key ∈ lineKeys ∨ key ∈ r.extra.names ∨ key ∈ r.traces.names
  clock : now.IsShownAs now.render
  timestamp : entries.get? "timestamp" =
    some (heldOr (r.extra.get? "timestamp") (.text now.render))
  level : entries.get? "level" =
    some (heldOr (r.extra.get? "level") (.text (Text.lower (levelName r.level))))
  name : entries.get? "name" = some (.text r.logger)
  message : entries.get? "message" = some (.text message)
  service : entries.get? "service" = some (.text service)
  source : entries.get? "source" = some (.dict
    [("function", .text r.function), ("module", .text r.module_), ("line", .int r.line)])
  extra : ∀ key, key ∉ lineKeys → key ∉ traceKeys → entries.get? key = r.extra.get? key
  traces : ∀ key ∈ traceKeys, entries.get? key = r.traces.get? key

/-- A member that is missing is put, and one that is there is kept. -/
theorem putMissing_eq (entries : Entries) (name : String) (value : Value) :
    putMissing entries name value = entries.put name (heldOr (entries.get? name) value) := by
  unfold putMissing heldOr
  cases hget : entries.get? name with
  | none => rfl
  | some v =>
    by_cases hholds : v.holds = true
    · simp [Option.filter_some, hholds, Entries.put_of_get? hget]
    · simp [Option.filter_some, hholds]

theorem heldOr_getD_null (given : Option Value) (other : Value) :
    heldOr (some (given.getD .null)) other = heldOr given other := by
  cases given <;> rfl

/-! ## Members -/

def firstMembers (r : Record) (message : String) : Entries :=
  [("timestamp", (r.extra.get? "timestamp").getD .null),
    ("level", (r.extra.get? "level").getD .null), ("name", .text r.logger),
    ("message", .text message)]

/-- What a line has before the time and the level are looked for: what it begins with, the exception and
the stack, and the further fields. -/
def givenMembers (r : Record) (message : String) : Entries :=
  ((firstMembers r message).merge r.traces).merge r.shownExtra

theorem names_firstMembers (r : Record) (message : String) :
    (firstMembers r message).names = ["timestamp", "level", "name", "message"] := rfl

theorem withTraces_nil (r : Record) : r.withTraces [] = r.traces := by
  unfold withTraces traces
  cases r.exception <;> cases r.stack <;> rfl

theorem names_traces (r : Record) : r.traces.names.Sublist traceKeys := by
  unfold traces
  cases r.exception <;> cases r.stack <;> simp [Entries.names, traceKeys]

/-- Of the extra fields those that begin with an underscore are not shown, and two are put apart.
-/
theorem mem_names_shownExtra {key : String} : key ∈ r.shownExtra.names ↔
    key ∈ r.extra.names ∧ key.startsWith "_" = false ∧ key ≠ "timestamp" ∧ key ≠ "level" := by
  simp only [shownExtra, Entries.names, List.mem_map, List.mem_filter, Bool.and_eq_true,
    Bool.not_eq_true', bne_iff_ne]
  constructor
  · rintro ⟨entry, ⟨hentry, ⟨hplain, htimestamp⟩, hlevel⟩, rfl⟩
    exact ⟨⟨entry, hentry, rfl⟩, hplain, htimestamp, hlevel⟩
  · rintro ⟨⟨entry, hentry, rfl⟩, hplain, htimestamp, hlevel⟩
    exact ⟨entry, ⟨hentry, ⟨hplain, htimestamp⟩, hlevel⟩, rfl⟩

/-- A name that the further fields do not have is among the first members, unless it is the one of an
exception or a stack. -/
theorem get?_givenMembers_of_notMem {key : String} (message : String) (hextra : key ∉ r.shownExtra.names)
    (htraces : key ∉ traceKeys) :
    (givenMembers r message).get? key = (firstMembers r message).get? key := by
  rw [givenMembers, Entries.get?_merge_of_notMem hextra, Entries.get?_merge_of_notMem]
  exact fun hmem ↦ htraces ((names_traces r).subset hmem)

/-- The members of a line: those that are given, with the time of the clock and the name of the level
where none is given that holds, and then the service and the place. -/
def completed (service : String) (now : Instant) (r : Record) (given : Entries) : Entries :=
  (((given.put "timestamp" (heldOr (given.get? "timestamp") (.text now.render))).put "level"
    (heldOr (given.get? "level") (.text (Text.lower (levelName r.level))))).put "service"
    (.text service)).put "source" r.source

theorem members_of_messageParts {added : Entries} (hparts : r.messageParts = .ok (message, added)) :
    members service now r = .ok (completed service now r
      (((firstMembers r message).merge (r.withTraces added)).merge r.shownExtra)) := by
  rw [members, hparts]
  show Except.ok (((putMissing (putMissing _ _ _) _ _).put _ _).put _ _) = _
  rw [putMissing_eq, putMissing_eq, Entries.get?_put_of_ne _ _ (by decide)]
  rfl

/-- The members of the line of a record whose message is a text. -/
def lineMembers (service : String) (now : Instant) (r : Record) (message : String) : Entries :=
  (((((givenMembers r message).put "timestamp"
    (heldOr (r.extra.get? "timestamp") (.text now.render))).put "level"
    (heldOr (r.extra.get? "level") (.text (Text.lower (levelName r.level))))).put "service"
    (.text service)).put "source" r.source)

/-- A record whose message can be filled in has the members of a line. -/
theorem members_eq (htext : r.message = .text template)
    (hfilled : fillTemplate template r.arguments = .ok message) :
    members service now r = .ok (lineMembers service now r message) := by
  have hparts : r.messageParts = .ok (message, []) := by
    rw [messageParts, htext, messageText, htext]
    show (fillTemplate template r.arguments).map _ = _
    rw [hfilled]
    rfl
  have htimestamp : (givenMembers r message).get? "timestamp" =
      some ((r.extra.get? "timestamp").getD .null) :=
    get?_givenMembers_of_notMem message (fun hmem ↦ (mem_names_shownExtra.1 hmem).2.2.1 rfl) (by decide)
  have hlevel : (givenMembers r message).get? "level" =
      some ((r.extra.get? "level").getD .null) :=
    get?_givenMembers_of_notMem message (fun hmem ↦ (mem_names_shownExtra.1 hmem).2.2.2 rfl) (by decide)
  rw [members_of_messageParts hparts, withTraces_nil, ← givenMembers, completed, htimestamp, hlevel,
    heldOr_getD_null, heldOr_getD_null]
  rfl

/-- The further fields of a record as JSON has them, under names that are neither reserved nor
hidden. -/
structure IsPlainExtra (extra : Entries) : Prop where
  nodup_names : extra.names.Nodup
  notReserved : ∀ key ∈ extra.names, key ∉ reservedKeys
  notHidden : ∀ key ∈ extra.names, key.toList.head? ≠ some '_'
  plain : ∀ entry ∈ extra, Plain entry.2

theorem IsPlainExtra.startsWith_eq_false {extra : Entries} {key : String}
    (h : IsPlainExtra extra) (hkey : key ∈ extra.names) : key.startsWith "_" = false := by
  rw [Bool.eq_false_iff, ne_eq, String.startsWith_string_iff]
  rintro ⟨cs, hcs⟩
  apply h.notHidden key hkey
  rw [← hcs]
  rfl

theorem get?_shownExtra {key : String} (hextra : IsPlainExtra r.extra) (hkey : key ∉ lineKeys) :
    r.shownExtra.get? key = r.extra.get? key := by
  apply Entries.get?_filter_of_forall
  rintro entry hentry rfl
  have hhidden := hextra.startsWith_eq_false (List.mem_map_of_mem hentry)
  simp only [lineKeys, List.mem_cons, not_or] at hkey
  simp [hhidden, hkey.1, hkey.2.1]

/-- Beyond the fixed keys a line shows the extra fields and what there is of traces. -/
theorem get?_givenMembers_of_notMem_lineKeys {key : String} (message : String)
    (hextra : IsPlainExtra r.extra) (hkey : key ∉ lineKeys) :
    (givenMembers r message).get? key = (r.extra.get? key).or (r.traces.get? key) := by
  have hshown : r.shownExtra.names.Nodup :=
    (List.filter_sublist.map Prod.fst).nodup hextra.nodup_names
  have htraces : r.traces.names.Nodup := (names_traces r).nodup (by decide)
  have hfirst : key ∉ (firstMembers r message).names := by
    rw [names_firstMembers]
    exact fun hmem ↦ hkey (List.mem_of_mem_take (i := 4) hmem)
  rw [givenMembers, Entries.get?_merge hshown, Entries.get?_merge htraces,
    Entries.get?_eq_none_of_notMem hfirst, Option.or_none, get?_shownExtra hextra hkey]

/-- A reserved name is not among the further fields. -/
theorem IsPlainExtra.get?_eq_none {extra : Entries} {key : String} (h : IsPlainExtra extra)
    (hkey : key ∈ reservedKeys) : extra.get? key = none :=
  Entries.get?_eq_none_of_notMem fun hmem ↦ h.notReserved key hmem hkey

theorem get?_lineMembers {key : String} (service : String) (now : Instant) (message : String)
    (hkey : key ∉ ["timestamp", "level", "service", "source"]) :
    (lineMembers service now r message).get? key = (givenMembers r message).get? key := by
  simp only [List.mem_cons, List.not_mem_nil, not_or] at hkey
  simp [lineMembers, Entries.get?_put, hkey]

/-- The members of a line are what it should show, field by field. -/
theorem isLineOf_lineMembers (service : String) (now : Instant) (message : String)
    (hextra : IsPlainExtra r.extra) :
    IsLineOf service now r message (lineMembers service now r message) where
  nodup_names := by
    have hfirst : (firstMembers r message).names.Nodup := by
      rw [names_firstMembers]
      decide
    exact Entries.nodup_names_put (Entries.nodup_names_put (Entries.nodup_names_put
      (Entries.nodup_names_put (Entries.nodup_names_merge (Entries.nodup_names_merge hfirst _) _)
        _ _) _ _) _ _) _ _
  mem_names key := by
    have hhidden : key ∈ r.extra.names → key.startsWith "_" = false := hextra.startsWith_eq_false
    simp only [lineMembers, givenMembers, Entries.mem_names_put, Entries.mem_names_merge,
      mem_names_shownExtra, names_firstMembers, lineKeys, List.mem_cons, List.not_mem_nil]
    tauto
  clock := now.isShownAs_render
  timestamp := by simp [lineMembers, Entries.get?_put]
  level := by simp [lineMembers, Entries.get?_put]
  name := by
    have hname : "name" ∉ r.shownExtra.names :=
      fun hmem ↦ hextra.notReserved _ (mem_names_shownExtra.1 hmem).1 (by decide)
    rw [get?_lineMembers _ _ _ (by decide), get?_givenMembers_of_notMem _ hname (by decide)]
    rfl
  message := by
    have hname : "message" ∉ r.shownExtra.names :=
      fun hmem ↦ hextra.notReserved _ (mem_names_shownExtra.1 hmem).1 (by decide)
    rw [get?_lineMembers _ _ _ (by decide), get?_givenMembers_of_notMem _ hname (by decide)]
    rfl
  service := by simp [lineMembers, Entries.get?_put]
  source := by simp [lineMembers, source]
  extra key hkey htraces := by
    have hnone : r.traces.get? key = none :=
      Entries.get?_eq_none_of_notMem fun hmem ↦ htraces ((names_traces r).subset hmem)
    have hother : key ∉ ["timestamp", "level", "service", "source"] := by
      simp only [lineKeys, List.mem_cons, not_or] at hkey ⊢
      tauto
    rw [get?_lineMembers _ _ _ hother, get?_givenMembers_of_notMem_lineKeys message hextra hkey, hnone,
      Option.or_none]
  traces key hkey := by
    have hkeys : ∀ key ∈ traceKeys, key ∉ ["timestamp", "level", "service", "source"] ∧
        key ∉ lineKeys ∧ key ∈ reservedKeys := by decide
    obtain ⟨hother, hline, hreserved⟩ := hkeys key hkey
    rw [get?_lineMembers _ _ _ hother, get?_givenMembers_of_notMem_lineKeys message hextra hline,
      hextra.get?_eq_none hreserved, Option.none_or]

theorem plain_heldOr {given : Option Value} {other : Value} (hgiven : ∀ v ∈ given, Plain v)
    (hother : Plain other) : Plain (heldOr given other) := by
  cases hheld : given.filter Value.holds with
  | none => simpa [heldOr, hheld] using hother
  | some v =>
    rw [heldOr, hheld]
    exact hgiven v (Option.filter_eq_some_iff.1 hheld).1

theorem plain_getD {given : Option Value} (hgiven : ∀ v ∈ given, Plain v) :
    Plain (given.getD .null) := by
  cases given with
  | none => exact .null
  | some v => exact hgiven v rfl

theorem plain_source (r : Record) : Plain r.source := by
  apply Plain.dict
  simp only [List.forall_mem_cons]
  exact ⟨.text _, .text _, .int _, nofun⟩

theorem plain_traces (r : Record) : ∀ entry ∈ r.traces, Plain entry.2 := by
  unfold traces
  cases r.exception <;> cases r.stack <;> simp [Plain.text]

/-- A line has plain members if the extra fields are plain. -/
theorem plain_lineMembers (service : String) (now : Instant) (message : String)
    (hextra : IsPlainExtra r.extra) :
    ∀ entry ∈ lineMembers service now r message, Plain entry.2 := by
  have hget (key : String) : ∀ v ∈ r.extra.get? key, Plain v :=
    Entries.forall_get? hextra.plain key
  have hfirst : ∀ entry ∈ firstMembers r message, Plain entry.2 := by
    simp only [firstMembers, List.forall_mem_cons]
    exact ⟨plain_getD (hget _), plain_getD (hget _), .text _, .text _, nofun⟩
  have hshown : ∀ entry ∈ r.shownExtra, Plain entry.2 :=
    fun entry hentry ↦ hextra.plain entry (List.mem_of_mem_filter hentry)
  have hgiven : ∀ entry ∈ givenMembers r message, Plain entry.2 :=
    Entries.forall_mem_merge (Entries.forall_mem_merge hfirst (plain_traces r)) hshown
  exact Entries.forall_mem_put (Entries.forall_mem_put (Entries.forall_mem_put
    (Entries.forall_mem_put hgiven (plain_heldOr (hget _) (.text _)) _)
    (plain_heldOr (hget _) (.text _)) _) (.text _) _) (plain_source r) _

/-- A warning with a line feed in its message, and with fields that would take the place of others. -/
def warning : Record where
  logger := "validator_contract.controller"
  level := 30
  message := .text "rejected %s"
  arguments := [.text "x\n"]
  path := "src/controller.py"
  line := 7
  function := "call"
  extra := [("level", .text ""), ("service", .text "forged"), ("tries", .list [.int 2, .null])]
  exception := some "ValueError: x"

/-- An instant in the afternoon. -/
def afternoon : Instant where
  microseconds := 63839804645678901

end Record

end ValidatorReader.Log
