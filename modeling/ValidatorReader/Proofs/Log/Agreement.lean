import ValidatorReader.Proofs.Log.Setups

/-!
# Loggers that agree

Two states of the loggers agree if they have the same disk and the same logger under each name; one of
them may know of more loggers, without a level or handlers of their own. For names without two dots side
by side, whose first part does not begin that of the root, such loggers do not count: whatever is set up
and logged from then on is answered in the same way, and the states agree again.
-/

namespace ValidatorReader.Log

namespace Logging

variable {l l' : Logging} {name n : String} {r : Record}

/-- Whether two states have the same disk and the same logger under each name. -/
structure Agrees (l l' : Logging) : Prop where
  disk : l.disk = l'.disk
  get : ∀ n, l.get n = l'.get n

namespace Agrees

theorem refl (l : Logging) : Agrees l l :=
  ⟨rfl, fun _ ↦ rfl⟩

theorem symm (h : Agrees l l') : Agrees l' l :=
  ⟨h.disk.symm, fun n ↦ (h.get n).symm⟩

theorem trans {l'' : Logging} (h : Agrees l l') (h' : Agrees l' l'') : Agrees l l'' :=
  ⟨h.disk.trans h'.disk, fun n ↦ (h.get n).trans (h'.get n)⟩

theorem put (h : Agrees l l') (name : String) (logger : Logger) :
    Agrees (l.put name logger) (l'.put name logger) where
  disk := h.disk
  get n := by
    by_cases hn : n = name
    · rw [hn, get_put_self, get_put_self]
    · rw [get_put_of_ne l logger hn, get_put_of_ne l' logger hn, h.get n]

theorem withDisk (h : Agrees l l') (d : Disk) :
    Agrees { l with disk := d } { l' with disk := d } :=
  ⟨rfl, h.get⟩

theorem touch (h : Agrees l l') (name : String) : Agrees (l.touch name) (l'.touch name) := by
  rw [Logging.touch, Logging.touch, h.get name]
  exact h.put name (l'.get name)

end Agrees

theorem agrees_touch (l : Logging) (name : String) : Agrees (l.touch name) l :=
  ⟨rfl, get_touch l name⟩

/-! ## The loggers that count on a way -/

/-- Whether one name comes before another on a way to the root. -/
def Precedes (a b : String) : Prop :=
  a ≠ rootName ∧ (b = rootName ∨ b.length < a.length)

theorem Precedes.asymm {a b : String} (h : Precedes a b) (h' : Precedes b a) : False := by
  have hlt := h.2.resolve_left h'.1
  have hlt' := h'.2.resolve_left h.1
  omega

/-- A way leads to ever shorter names and at last to the root. -/
theorem pairwise_wayToRoot (l : Logging) (name : String) : (l.wayToRoot name).Pairwise Precedes := by
  unfold wayToRoot
  split
  case isTrue => exact List.pairwise_singleton _ _
  case isFalse hname =>
    have habove := descends_above l name false name.toList.reverse
    rw [List.length_reverse, String.length_toList] at habove
    have hway := habove.cons hname (Nat.lt_succ_self _)
    rw [List.pairwise_append]
    refine ⟨?_, List.pairwise_singleton _ _, ?_⟩
    · exact hway.pairwise.imp_of_mem fun ha _ hlt ↦ ⟨hway.ne_root _ ha, .inr hlt⟩
    · intro a ha b hb
      exact ⟨hway.ne_root a ha, .inl (List.mem_singleton.1 hb)⟩

/-- Whether the logger of a name has a level or handlers of its own. -/
def counts (l : Logging) (name : String) : Bool :=
  (l.get name).level ≠ 0 || !(l.get name).handlers.isEmpty

theorem Agrees.counts_eq (h : Agrees l l') : l.counts = l'.counts := by
  funext n
  rw [counts, counts, h.get n]

/-- The names on a way whose loggers count. -/
def countingWay (l : Logging) (name : String) : List String :=
  (l.wayToRoot name).filter l.counts

theorem mem_names_of_counts (h : l.counts n = true) (hn : n ≠ rootName) : n ∈ l.names := by
  by_contra hnone
  have hlookup : l.loggers.lookup n = none := by
    rw [List.lookup_eq_none_iff]
    intro e he
    rw [bne_iff_ne]
    intro heq
    exact hnone (heq ▸ List.mem_map_of_mem he)
  rw [counts, get, hlookup, Option.getD_none, if_neg hn] at h
  cases h

/-- Which loggers count for a name depends on the loggers only, not on their order. -/
theorem mem_countingWay_iff (h : IsRegular name) :
    n ∈ l.countingWay name ↔ l.counts n = true ∧
      (n = name ∨ n = rootName ∨ n ≠ "" ∧ n.toList ++ ['.'] <+: name.toList) := by
  rw [countingWay, List.mem_filter, mem_wayToRoot_iff h, and_comm]
  apply and_congr_right
  intro hcounts
  by_cases hn : n = rootName
  · simp [hn]
  · simp [hn, mem_names_of_counts hcounts hn]

theorem nodup_countingWay (l : Logging) (name : String) : (l.countingWay name).Nodup :=
  (nodup_wayToRoot l name).filter _

theorem pairwise_countingWay (l : Logging) (name : String) :
    (l.countingWay name).Pairwise Precedes :=
  (pairwise_wayToRoot l name).filter _

/-- The way is in order of length, so that it goes through the loggers that count in the same order if
these are the same. -/
theorem Agrees.countingWay_eq (h : Agrees l l') (hname : IsRegular name) :
    l.countingWay name = l'.countingWay name := by
  have hperm : (l.countingWay name).Perm (l'.countingWay name) := by
    rw [List.perm_ext_iff_of_nodup (nodup_countingWay l name) (nodup_countingWay l' name)]
    intro n
    rw [mem_countingWay_iff hname, mem_countingWay_iff hname, h.counts_eq]
  apply hperm.eq_of_pairwise _ (pairwise_countingWay l name) (pairwise_countingWay l' name)
  intro a b _ _ hab hba
  exact (hab.asymm hba).elim

/-! ## Logging on states that agree -/

theorem effectiveLevel_eq (l : Logging) (name : String) : l.effectiveLevel name =
    (((l.countingWay name).map fun n ↦ (l.get n).level).find? (· ≠ 0)).getD 0 := by
  rw [effectiveLevel, countingWay, List.find?_map, List.find?_map, List.find?_filter]
  congr 3
  funext n
  simp [counts, Function.comp]
  tauto

theorem all_isEmpty_eq (l : Logging) (name : String) :
    ((l.wayToRoot name).all fun n ↦ (l.get n).handlers.isEmpty) =
      (l.countingWay name).all fun n ↦ (l.get n).handlers.isEmpty := by
  rw [countingWay, List.all_filter]
  congr 1
  funext n
  cases hempty : (l.get n).handlers.isEmpty <;> simp [counts, hempty]

/-- Along the same way agreeing states show the same and still agree. -/
theorem Agrees.handleAlong (h : Agrees l l') (clock : Clock) (r : Record) (way : List String) :
    (handleAlong clock r way l).2 = (handleAlong clock r way l').2 ∧
      Agrees (handleAlong clock r way l).1 (handleAlong clock r way l').1 := by
  induction way generalizing l l' with
  | nil => exact ⟨rfl, h⟩
  | cons name way ih =>
    simp only [Logging.handleAlong, h.get name, h.disk]
    have hrest := ih
      ((h.withDisk (handleAll (clock.times name) r (l'.get name).handlers l'.disk).2.1).put name
        { l'.get name with
          handlers := (handleAll (clock.times name) r (l'.get name).handlers l'.disk).1 })
    exact ⟨by rw [hrest.1], hrest.2⟩

theorem handlers_of_not_counts (h : ¬ l.counts name = true) : (l.get name).handlers = [] := by
  simp only [counts, Bool.or_eq_true, not_or, Bool.not_eq_true', Bool.not_eq_false] at h
  exact List.isEmpty_iff.1 h.2

/-- Loggers that do not count take no part in handling a record. -/
theorem handleAlong_filter {way : List String} (hway : way.Nodup) (clock : Clock) (r : Record)
    (l : Logging) :
    (handleAlong clock r way l).2 =
        (handleAlong clock r (way.filter l.counts) l).2 ∧
      Agrees (handleAlong clock r way l).1
        (handleAlong clock r (way.filter l.counts) l).1 := by
  induction way generalizing l with
  | nil => exact ⟨rfl, .refl l⟩
  | cons name way ih =>
    rw [List.nodup_cons] at hway
    by_cases hcounts : l.counts name = true
    · rw [List.filter_cons_of_pos hcounts]
      simp only [Logging.handleAlong]
      -- The step changes no logger further on, as the way does not come back to a name.
      have hfilter (d : Disk) (logger : Logger) :
          way.filter ({ l with disk := d }.put name logger).counts = way.filter l.counts := by
        apply List.filter_congr
        intro n hn
        have hne : n ≠ name := fun heq ↦ hway.1 (heq ▸ hn)
        rw [counts, get_put_of_ne _ logger hne]
        rfl
      have hrest := ih hway.2
        ({ l with disk := (handleAll (clock.times name) r (l.get name).handlers l.disk).2.1 }.put name
          { l.get name with
            handlers := (handleAll (clock.times name) r (l.get name).handlers l.disk).1 })
      rw [hfilter] at hrest
      exact ⟨by rw [hrest.1], hrest.2⟩
    · rw [List.filter_cons_of_neg hcounts]
      have hhandlers := handlers_of_not_counts hcounts
      have hlogger : { l.get name with handlers := [] } = l.get name := by rw [← hhandlers]
      have hstep : Logging.handleAlong clock r (name :: way) l =
          Logging.handleAlong clock r way (l.touch name) := by
        simp only [Logging.handleAlong, hhandlers, handleAll, hlogger, String.empty_append]
        rfl
      have hagrees := agrees_touch l name
      have hrest := ih hway.2 (l.touch name)
      rw [hagrees.counts_eq] at hrest
      have hsame := hagrees.handleAlong clock r (way.filter l.counts)
      rw [hstep]
      exact ⟨hrest.1.trans hsame.1, hrest.2.trans hsame.2⟩

/-- Agreeing states handle a record alike, though their loggers became known in different orders.
-/
theorem Agrees.handle (h : Agrees l l') (clock : Clock) (r : Record) (hname : IsRegular name) :
    (l.handle clock name r).2 = (l'.handle clock name r).2 ∧
      Agrees (l.handle clock name r).1 (l'.handle clock name r).1 := by
  have hempty : ((l.wayToRoot name).all fun n ↦ (l.get n).handlers.isEmpty) =
      (l'.wayToRoot name).all fun n ↦ (l'.get n).handlers.isEmpty := by
    rw [all_isEmpty_eq, all_isEmpty_eq, h.countingWay_eq hname]
    simp only [h.get]
  simp only [Logging.handle, hempty]
  split
  case isTrue => exact ⟨rfl, h⟩
  case isFalse =>
    have hleft := handleAlong_filter (nodup_wayToRoot l name) clock r l
    have hright := handleAlong_filter (nodup_wayToRoot l' name) clock r l'
    have hsame := h.handleAlong clock r (l.countingWay name)
    have hway := h.countingWay_eq hname
    rw [← countingWay] at hleft hright
    rw [← hway] at hright
    exact ⟨hleft.1.trans (hsame.1.trans hright.1.symm),
      hleft.2.trans (hsame.2.trans hright.2.symm)⟩

theorem Agrees.isEnabled_eq (h : Agrees l l') (hname : IsRegular name) (level : ℤ) :
    l.isEnabled name level = l'.isEnabled name level := by
  rw [isEnabled, isEnabled, effectiveLevel_eq, effectiveLevel_eq, h.countingWay_eq hname]
  simp only [h.get]

/-- A record of a regular name is answered in the same way. -/
theorem Agrees.log (h : Agrees l l') (clock : Clock)
    (hname : IsRegular (loggerName r.logger)) :
    (l.log clock r).result = (l'.log clock r).result ∧ (l.log clock r).shown = (l'.log clock r).shown ∧
      Agrees (l.log clock r).logging (l'.log clock r).logging := by
  have htouch := h.touch (loggerName r.logger)
  simp only [Logging.log, htouch.isEnabled_eq hname]
  split
  case isTrue =>
    cases r.check with
    | error e => exact ⟨rfl, rfl, htouch⟩
    | ok r =>
      have hhandle := htouch.handle clock r hname
      exact ⟨rfl, hhandle⟩
  case isFalse => exact ⟨rfl, rfl, htouch⟩

/-- A setup is answered in the same way. -/
theorem Agrees.setup (h : Agrees l l') (s : Setup) :
    (l.setup s).result = (l'.setup s).result ∧
      Agrees (l.setup s).logging (l'.setup s).logging := by
  have htouch := h.touch (loggerName s.name)
  simp only [Logging.setup]
  cases levelOfSetting s.level with
  | error e => exact ⟨rfl, htouch⟩
  | ok level =>
    cases s.logFile with
    | none => exact ⟨rfl, htouch.put _ _⟩
    | some file =>
      dsimp only
      rw [htouch.disk]
      split
      case isTrue => exact ⟨rfl, htouch.put _ _⟩
      case isFalse =>
        split
        · exact ⟨rfl, (htouch.withDisk _).put _ _⟩
        · exact ⟨rfl, (htouch.withDisk _).put _ _⟩

/-! ## Runs -/

inductive Operation
  | setup (s : Setup)
  | log (clock : Clock) (r : Record)

inductive Answer
  | setup (result : Except Error Logger)
  | log (shown : String) (result : Except Error Bool)

def perform (l : Logging) : Operation → Logging × Answer
  | .setup s => ((l.setup s).logging, .setup (l.setup s).result)
  | .log clock r => ((l.log clock r).logging, .log (l.log clock r).shown (l.log clock r).result)

def performAll (l : Logging) : List Operation → Logging × List Answer
  | [] => (l, [])
  | op :: ops =>
    let (l, answer) := l.perform op
    let (l, answers) := performAll l ops
    (l, answer :: answers)

/-- Whether a record that is logged has a regular name. -/
def Operation.IsRegular : Operation → Prop
  | .setup _ => True
  | .log _ r => Logging.IsRegular (loggerName r.logger)

/-- One step of a run: agreeing states give equal results and agree again. -/
theorem Agrees.perform (h : Agrees l l') {op : Operation} (hop : op.IsRegular) :
    (l.perform op).2 = (l'.perform op).2 ∧ Agrees (l.perform op).1 (l'.perform op).1 := by
  cases op with
  | setup s =>
    have hsetup := h.setup s
    exact ⟨congrArg Answer.setup hsetup.1, hsetup.2⟩
  | log clock r =>
    have hlog := h.log clock hop
    exact ⟨congrArg₂ Answer.log hlog.2.1 hlog.1, hlog.2.2⟩

/-- Whatever is done with states that agree, it comes to the same. -/
theorem Agrees.performAll (h : Agrees l l') {ops : List Operation} (hops : ∀ op ∈ ops, op.IsRegular) :
    (l.performAll ops).2 = (l'.performAll ops).2 ∧
      Agrees (l.performAll ops).1 (l'.performAll ops).1 := by
  induction ops generalizing l l' with
  | nil => exact ⟨rfl, h⟩
  | cons op ops ih =>
    rw [List.forall_mem_cons] at hops
    have hfirst := h.perform hops.1
    have hrest := ih hfirst.2 hops.2
    exact ⟨congrArg₂ List.cons hfirst.1 hrest.1, hrest.2⟩

end Logging

end ValidatorReader.Log
