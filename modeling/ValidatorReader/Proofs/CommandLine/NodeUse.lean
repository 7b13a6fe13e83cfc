import ValidatorReader.Proofs.CommandLine.Session
import ValidatorReader.Proofs.Settings.Block

/-!
# What a run asks the node

A run asks the node for the number of its newest block at most once, and then calls it at most once.
The number is asked for only if the block argument is the word for it, and the call is made at that
block. A run that ends as a wrong usage has not spoken to the node, and one that ends well after
speaking to it had output that decodes.
-/

namespace ValidatorReader.CommandLine

open Node (plainTransaction)

variable {env : Environment} {node : Node} {args rest : List String} {options : Parsed}
  {c : Command} {a : Address} {s : Session}

/-! ## The uses of a run -/

/-- The uses of the node that a run made, in order. -/
def Report.nodeUses (r : Report) : List Event :=
  r.events.filter Event.usesNode

/-- The uses of the node that a block argument allows. -/
inductive AllowedUses (node : Node) (text : String) : List Event → Prop
  | none : AllowedUses node text []
  | newest (latest : text = "latest") : AllowedUses node text [.blockNumberRead]
  | newestCalled {number : Value} {n : Int} {transaction : List (String × Value)}
    (latest : text = "latest") (answered : node.blockNumber = .ok number)
    (integer : number.toInteger = .ok n) :
    AllowedUses node text [.blockNumberRead, .nodeCalled transaction (.int n)]
  | called {n : ℕ} {transaction : List (String × Value)} (other : text ≠ "latest")
    (number : BlockChoice.ofText text = .ok (.number n)) :
    AllowedUses node text [.nodeCalled transaction (.int n)]

theorem ne_latest_of_ofText {text : String} {n : ℕ}
    (h : BlockChoice.ofText text = .ok (.number n)) : text ≠ "latest" := by
  rintro rfl
  cases h

/-- The newest block is one that the node answered with. -/
theorem exists_number_of_newestBlock {n : Int} (h : newestBlock node = .ok n) :
    ∃ number, node.blockNumber = .ok number ∧ number.toInteger = .ok n := by
  unfold newestBlock at h
  cases hnumber : node.blockNumber with
  | error e =>
    rw [hnumber] at h
    cases h
  | ok number =>
    rw [hnumber] at h
    exact ⟨number, rfl, h⟩

/-- Every reading, whether it succeeds or not, uses the node as its block argument allows. -/
theorem allowedUses_readContract (node : Node) (c : Command) {text : String}
    (h : BlockChoice.ofText text = .ok s.block) :
    AllowedUses node text ((readContract node s c).events.filter Event.usesNode) := by
  rcases readContract_cases node s c with ⟨hlatest, e, hread⟩ | ⟨asked, n, settles, hread⟩
  · rw [hlatest] at h
    rw [hread]
    exact .newest (BlockChoice.ofText_eq_latest_iff.1 h)
  · rw [hread, List.filter_append, nodeUses_readAt]
    generalize s.block = block at h settles
    cases settles with
    | number n => exact .called (ne_latest_of_ofText h) h
    | latest newest =>
      obtain ⟨number, hnumber, hinteger⟩ := exists_number_of_newestBlock newest
      exact .newestCalled (BlockChoice.ofText_eq_latest_iff.1 h) hnumber hinteger

/-- A reading that gives a value used the node last for a call whose output decodes. -/
theorem exists_output_of_readContract {n : Int} {reading : Reading}
    (h : (readContract node s c).result = .ok (n, reading)) :
    ∃ transaction output first others,
      ((readContract node s c).events.filter Event.usesNode).getLast? =
        some (.nodeCalled transaction (.int n)) ∧
      node.call transaction (.int n) = .ok output ∧
      Abi.decode c.function.returnTypes output = .ok (first :: others) := by
  rcases readContract_cases node s c with ⟨_, e, hread⟩ | ⟨asked, m, _, hread⟩
  · rw [hread] at h
    cases h
  · rw [hread] at h ⊢
    cases hresult : (readAt node s.contract c m).result with
    | error e =>
      rw [hresult] at h
      cases h
    | ok reading' =>
      rw [hresult] at h
      cases h
      obtain ⟨output, first, others, hcall, hdecoded, _⟩ :=
        Node.exists_output_of_read rfl c.argumentTypes_function hresult
      refine ⟨_, output, first, others, ?_, hcall, hdecoded⟩
      rw [List.filter_append, nodeUses_readAt, List.getLast?_concat]

/-! ## All runs -/

theorem exitCode_stopped (events : List Event) (e : Failure) : (stopped events e).exitCode = 1 := by
  unfold stopped failed
  split
  · split <;> rfl
  · rfl

theorem nodeUses_stopped (events : List Event) (e : Failure) :
    (stopped events e).nodeUses = events.filter Event.usesNode := by
  have hrecord : (events ++ [Event.logged (failureRecord e)]).filter Event.usesNode =
      events.filter Event.usesNode := by simp
  unfold stopped failed
  split
  · split
    · exact hrecord
    · exact hrecord
  · rfl

/-- What a run may ask the node, given the options before its command: what the block argument
allows, nothing if it was used wrongly, and in the end output that decodes if it ended well. -/
structure AsksConsistently (node : Node) (options : Parsed) (c : Command) (r : Report) : Prop where
  allowed : AllowedUses node (blockText options) r.nodeUses
  usage : r.exitCode = 2 → r.nodeUses = []
  success : r.exitCode = 0 → r.nodeUses ≠ [] → ∃ transaction block output first others,
    r.nodeUses.getLast? = some (.nodeCalled transaction block) ∧
    node.call transaction block = .ok output ∧ output ≠ [] ∧
    Abi.decode c.function.returnTypes output = .ok (first :: others)

theorem asksConsistently_of_quiet {r : Report} (h : Quiet r.events) :
    AsksConsistently node options c r := by
  have hnone : r.nodeUses = [] := h.filter_usesNode
  refine ⟨?_, ?_, ?_⟩
  · rw [hnone]
    exact .none
  · intro _
    exact hnone
  · intro _ huses
    exact absurd hnone huses

/-- One case for each course of a run; all of them but a reading leave the node alone. -/
theorem Course.asksConsistently {r : Report} (h : Course env node options c rest r) :
    AsksConsistently node options c r := by
  cases h with
  | refused opened => exact asksConsistently_of_quiet (quiet_of_openSession opened)
  | misused e opened => exact asksConsistently_of_quiet (quiet_of_openSession opened)
  | helped opened => exact asksConsistently_of_quiet (quiet_of_openSession opened)
  | unsettled opened =>
    rename_i events e
    have huses : (stopped events e).nodeUses = [] := by
      rw [nodeUses_stopped]
      exact (quiet_of_openSession opened).filter_usesNode
    refine ⟨?_, fun _ ↦ huses, fun _ hne ↦ absurd huses hne⟩
    rw [huses]
    exact .none
  | failed opened reading =>
    rename_i events s e
    have hcode := exitCode_stopped (events ++ (readContract node s c).events) e
    refine ⟨?_, ?_, ?_⟩
    · rw [nodeUses_stopped, List.filter_append, (quiet_of_openSession opened).filter_usesNode,
        List.nil_append]
      exact allowedUses_readContract node c (ofText_blockText_of_openSession opened)
    · intro htwo
      rw [hcode] at htwo
      cases htwo
    · intro hzero
      rw [hcode] at hzero
      cases hzero
  | answered opened parsed reading shown =>
    rename_i events s flags n result stdout
    have huses : (events ++ (readContract node s c).events).filter Event.usesNode =
        (readContract node s c).events.filter Event.usesNode := by
      rw [List.filter_append, (quiet_of_openSession opened).filter_usesNode, List.nil_append]
    refine ⟨?_, nofun, ?_⟩
    · unfold Report.nodeUses
      rw [huses]
      exact allowedUses_readContract node c (ofText_blockText_of_openSession opened)
    · intro _ _
      obtain ⟨transaction, output, first, others, hlast, hcall, hdecoded⟩ :=
        exists_output_of_readContract reading
      refine ⟨transaction, _, output, first, others, ?_, hcall, ?_, hdecoded⟩
      · unfold Report.nodeUses
        rw [huses]
        exact hlast
      · rintro rfl
        cases hdecoded

/-- Every run asks the node only what its arguments allow, and nothing at all unless they name a
command. -/
theorem run_asksConsistently (args : List String) (env : Environment) (node : Node) :
    (run args env node).nodeUses = [] ∨
      ∃ options c rest, parse programOptions false args = .ok options ∧
        options.rest = c.name :: rest ∧ AsksConsistently node options c (run args env node) := by
  rcases idle_or_course args env node with hidle | ⟨options, c, rest, hparse, hrest, hcourse⟩
  · left
    rw [Report.nodeUses, hidle.events]
    rfl
  · exact .inr ⟨options, c, rest, hparse, hrest, hcourse.asksConsistently⟩

end ValidatorReader.CommandLine
