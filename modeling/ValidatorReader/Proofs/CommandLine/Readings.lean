import ValidatorReader.CommandLine.Run
import ValidatorReader.Proofs.Node.Questions

/-!
# The reading of a command

A command reads its function at the block of its session: at the number that the block argument names,
or at the newest block, for whose number the node is asked first. What is read is the content of a
decoded value.
-/

namespace ValidatorReader.CommandLine

open Node (plainTransaction)

variable {node : Node} {c : Command} {s : Session}

def Command.function : Command → Signature
  | .validators => getValidators
  | .epochCounter => getEpochCounter

@[simp]
theorem Command.argumentTypes_function (c : Command) : c.function.argumentTypes = [] := by
  cases c <;> rfl

def readAt (node : Node) (a : Address) (c : Command) (n : Int) : Traced Reading :=
  node.controller.read (.int n) c.function (.address a)

def newestBlock (node : Node) : Except Failure Int :=
  node.blockNumber.mapError .node >>= Value.toInteger

theorem latestBlock_eq (node : Node) :
    node.latestBlock = ⟨[.blockNumberRead], newestBlock node⟩ := by
  unfold Node.latestBlock newestBlock
  cases node.blockNumber with
  | error e => rfl
  | ok v => rfl

/-- A reading settles its block first and reads there. -/
theorem readContract_eq_bind (node : Node) (s : Session) (c : Command) :
    readContract node s c = do
      let n ← s.resolveBlock node
      let reading ← readAt node s.contract c n
      return (n, reading) := by
  cases c <;> rfl

theorem bind_return_pair (x : Traced Reading) (n : Int) :
    (do let reading ← x; return (n, reading) : Traced (Int × Reading)) =
      ⟨x.events, x.result.map fun reading ↦ (n, reading)⟩ := by
  cases hx : x.result with
  | error e =>
    rw [Traced.bind_error _ hx]
    rfl
  | ok reading =>
    rw [Traced.bind_ok _ hx]
    simp [Except.map]

theorem readContract_number (node : Node) (a : Address) (n : ℕ) (c : Command) :
    readContract node ⟨a, .number n⟩ c =
      ⟨(readAt node a c n).events, (readAt node a c n).result.map fun reading ↦ (↑n, reading)⟩ := by
  rw [readContract_eq_bind, ← bind_return_pair]
  exact Traced.bind_ok _ rfl

theorem readContract_latest_of_error {e : Failure} (h : newestBlock node = .error e) (a : Address)
    (c : Command) :
    readContract node ⟨a, .latest⟩ c = ⟨[.blockNumberRead], .error e⟩ := by
  rw [readContract_eq_bind]
  simp only [Session.resolveBlock, latestBlock_eq, h]
  rfl

/-- Reading the newest block is reading the block whose number the node answered with. -/
theorem readContract_latest {n : Int} (h : newestBlock node = .ok n) (a : Address) (c : Command) :
    readContract node ⟨a, .latest⟩ c =
      ⟨.blockNumberRead :: (readAt node a c n).events,
        (readAt node a c n).result.map fun reading ↦ (n, reading)⟩ := by
  rw [readContract_eq_bind]
  simp only [Session.resolveBlock, latestBlock_eq, h, bind_return_pair]
  rfl

/-- How the choice of a block is settled: the events of that, and the number of the block. -/
inductive Settles (node : Node) : BlockChoice → List Event → Int → Prop
  | number (n : ℕ) : Settles node (.number n) [] n
  | latest {n : Int} (newest : newestBlock node = .ok n) :
    Settles node .latest [.blockNumberRead] n

/-- A reading ends with the newest block or goes on at the block that is settled. -/
theorem readContract_cases (node : Node) (s : Session) (c : Command) :
    (s.block = .latest ∧ ∃ e, readContract node s c = ⟨[.blockNumberRead], .error e⟩) ∨
      ∃ asked n, Settles node s.block asked n ∧
        readContract node s c = ⟨asked ++ (readAt node s.contract c n).events,
          (readAt node s.contract c n).result.map fun reading ↦ (n, reading)⟩ := by
  obtain ⟨a, block⟩ := s
  cases block with
  | number n => exact .inr ⟨[], n, .number n, readContract_number node a n c⟩
  | latest =>
    cases hnewest : newestBlock node with
    | error e => exact .inl ⟨rfl, e, readContract_latest_of_error hnewest a c⟩
    | ok n => exact .inr ⟨_, n, .latest hnewest, readContract_latest hnewest a c⟩

theorem nodeUses_readAt (node : Node) (a : Address) (c : Command) (n : Int) :
    (readAt node a c n).events.filter Event.usesNode =
      [.nodeCalled (plainTransaction c.function a) (.int n)] :=
  Node.nodeUses_read node (.int n) rfl c.argumentTypes_function

/-- What is read is the content of a decoded value: addresses, a number or a truth value. -/
theorem exists_content_of_readContract {n : Int} {reading : Reading}
    (h : (readContract node s c).result = .ok (n, reading)) :
    ∃ value, reading = Reading.content value := by
  rcases readContract_cases node s c with ⟨_, e, hread⟩ | ⟨asked, m, _, hread⟩
  · rw [hread] at h
    cases h
  · rw [hread] at h
    cases hresult : (readAt node s.contract c m).result with
    | error e =>
      rw [hresult] at h
      cases h
    | ok reading' =>
      rw [hresult] at h
      cases h
      obtain ⟨_, first, _, _, _, hcontent⟩ :=
        Node.exists_output_of_read rfl c.argumentTypes_function hresult
      exact ⟨first, hcontent⟩

end ValidatorReader.CommandLine
