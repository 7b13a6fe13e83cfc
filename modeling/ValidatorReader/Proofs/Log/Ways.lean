import Mathlib
import ValidatorReader.Log.Setup

/-!
# Ways to the root

The way from a logger to the root goes through known loggers with ever shorter names, each of them
once. For a name without two dots side by side they are the known loggers whose names, with a dot
behind, begin it. Making the logger itself known does not change any logger.
-/

namespace ValidatorReader.Log.Logging

variable {l : Logging} {name below other : String} {skip : Bool} {cs : List Char}

/-! ## Known loggers -/

theorem isKnown_iff : l.isKnown name = true ↔ name ≠ rootName ∧ name ∈ l.names := by
  simp only [isKnown, Bool.and_eq_true, decide_eq_true_eq, names, List.lookup_isSome_iff,
    List.mem_map, Prod.exists, beq_iff_eq, eq_comm (a := name)]

theorem mem_names_insert {logger : Logger} {ls : List (String × Logger)} :
    other ∈ (insert name logger ls).map (·.1) ↔ other = name ∨ other ∈ ls.map (·.1) := by
  induction ls with
  | nil => simp [insert]
  | cons e ls ih =>
    rw [insert]
    split
    case isTrue h =>
      subst h
      simp
    case isFalse h =>
      simp only [List.map_cons, List.mem_cons, ih]
      tauto

theorem mem_names_put {logger : Logger} :
    other ∈ (l.put name logger).names ↔ other = name ∨ other ∈ l.names :=
  mem_names_insert

theorem mem_names_touch : other ∈ (l.touch name).names ↔ other = name ∨ other ∈ l.names :=
  mem_names_put

@[simp]
theorem get_touch (l : Logging) (name other : String) : (l.touch name).get other = l.get other := by
  by_cases h : other = name
  · rw [h, touch, get_put_self]
  · rw [touch, get_put_of_ne l (l.get name) h]

/-! ## Each logger once -/

theorem isKnown_of_comesAbove (h : l.comesAbove name below = true) : l.isKnown name = true := by
  rw [comesAbove, Bool.and_eq_true] at h
  exact h.1

theorem comesAbove_ne_root (h : l.comesAbove name below = true) : name ≠ rootName :=
  (isKnown_iff.1 (isKnown_of_comesAbove h)).1

/-- Whether names, none of them that of the root, are shorter than a bound, and each is shorter than
those before it. -/
structure Descends (bound : ℕ) (names : List String) : Prop where
  shorter : ∀ n ∈ names, n.length < bound
  ne_root : ∀ n ∈ names, n ≠ rootName
  pairwise : names.Pairwise fun a b ↦ b.length < a.length

theorem Descends.mono {bound bound' : ℕ} {names : List String} (h : Descends bound names)
    (hle : bound ≤ bound') : Descends bound' names :=
  ⟨fun n hn ↦ (h.shorter n hn).trans_le hle, h.ne_root, h.pairwise⟩

theorem Descends.cons {bound : ℕ} {names : List String} (h : Descends name.length names)
    (hname : name ≠ rootName) (hlt : name.length < bound) : Descends bound (name :: names) where
  shorter := List.forall_mem_cons.2 ⟨hlt, fun n hn ↦ (h.shorter n hn).trans hlt⟩
  ne_root := List.forall_mem_cons.2 ⟨hname, h.ne_root⟩
  pairwise := List.pairwise_cons.2 ⟨h.shorter, h.pairwise⟩

theorem Descends.nodup {bound : ℕ} {names : List String} (h : Descends bound names) :
    names.Nodup :=
  h.pairwise.imp fun hlt heq ↦ hlt.ne' (congrArg String.length heq)

/-- Walking upwards from a name meets ever shorter names. -/
theorem descends_above (l : Logging) (below : String) (skip : Bool) (cs : List Char) :
    Descends cs.length (l.above below skip cs) := by
  fun_induction above l below skip cs with
  | case1 => exact ⟨nofun, nofun, .nil⟩
  | case2 _ _ _ ih => exact ih.mono (Nat.le_succ _)
  | case3 below c rest _ name habove ih =>
    have hlength : name.length = rest.length := by
      simp only [name, String.length_ofList, List.length_reverse]
    rw [← hlength] at ih
    exact ih.cons (comesAbove_ne_root habove) (by simp [hlength])
  | case4 _ _ _ _ _ _ ih => exact ih.mono (Nat.le_succ _)
  | case5 _ _ _ _ ih => exact ih.mono (Nat.le_succ _)

/-- No logger is met twice on the way to the root. -/
theorem nodup_wayToRoot (l : Logging) (name : String) : (l.wayToRoot name).Nodup := by
  unfold wayToRoot
  split
  case isTrue => exact List.nodup_singleton rootName
  case isFalse hname =>
    have habove : Descends name.length (l.above name false name.toList.reverse) := by
      have h := descends_above l name false name.toList.reverse
      rwa [List.length_reverse, String.length_toList] at h
    have hroot : rootName ∉ name :: l.above name false name.toList.reverse := by
      rintro hmem
      rcases List.mem_cons.1 hmem with heq | hmem
      · exact hname heq.symm
      · exact habove.ne_root rootName hmem rfl
    have hself : name ∉ l.above name false name.toList.reverse :=
      fun hmem ↦ (habove.shorter name hmem).false
    exact List.nodup_append_comm.1 (List.nodup_cons.2
      ⟨hroot, List.nodup_cons.2 ⟨hself, habove.nodup⟩⟩)

/-! ## Which loggers are on the way -/

theorem head?_wayToRoot (l : Logging) (name : String) : (l.wayToRoot name).head? = some name := by
  unfold wayToRoot
  split
  case isTrue h => rw [h, List.head?_cons]
  case isFalse => rfl

theorem getLast?_wayToRoot (l : Logging) (name : String) :
    (l.wayToRoot name).getLast? = some rootName := by
  unfold wayToRoot
  split
  case isTrue => rfl
  case isFalse => exact List.getLast?_concat

theorem isKnown_of_mem_above (h : name ∈ l.above below skip cs) :
    l.isKnown name = true := by
  fun_induction above l below skip cs with
  | case1 => cases h
  | case2 _ _ _ ih => exact ih h
  | case3 _ _ _ _ _ habove ih =>
    rcases List.mem_cons.1 h with rfl | hmem
    · exact isKnown_of_comesAbove habove
    · exact ih hmem
  | case4 _ _ _ _ _ _ ih => exact ih h
  | case5 _ _ _ _ ih => exact ih h

/-- If no other logger is known the way goes straight to the root. -/
theorem wayToRoot_of_names (h : ∀ n ∈ l.names, n = name ∨ n = rootName) :
    l.wayToRoot name = if name = rootName then [rootName] else [name, rootName] := by
  have hnone : l.above name false name.toList.reverse = [] := by
    rw [List.eq_nil_iff_forall_not_mem]
    intro n hn
    have hshorter := (descends_above l name false name.toList.reverse).shorter n hn
    have hknown := isKnown_iff.1 (isKnown_of_mem_above hn)
    rw [List.length_reverse, String.length_toList, (h n hknown.2).resolve_right hknown.1] at hshorter
    exact hshorter.false
  rw [wayToRoot, hnone]
  rfl

/-- Whether no two dots stand side by side in a name, and the part in front of the first one does not
begin the name of the root. -/
structure IsRegular (name : String) : Prop where
  dots : ¬ ['.', '.'] <:+: name.toList
  first : firstSegment name ∉ ["r", "ro", "roo"]

theorem eq_ofList_reverse_iff : name = String.ofList cs.reverse ↔ name.toList.reverse = cs := by
  rw [← String.toList_inj, String.toList_ofList, List.reverse_eq_iff]

theorem comesAbove_iff (hfirst : ¬ name.toList <+: rootName.toList) :
    l.comesAbove name below = true ↔ l.isKnown name = true := by
  have hother : name.toList.isPrefixOf rootName.toList = false :=
    Bool.eq_false_iff.2 fun h ↦ hfirst (List.isPrefixOf_iff_prefix.1 h)
  rw [comesAbove, hother, Bool.false_and, Bool.not_false, Bool.and_true]

/-- Whether no known logger whose name stands, from its end on, behind a dot of a text has a name that
begins that of the root. -/
def AvoidsRoot (l : Logging) (cs : List Char) : Prop :=
  ∀ n, l.isKnown n = true → n ≠ "" → '.' :: n.toList.reverse <:+ cs →
    ¬ n.toList <+: rootName.toList

theorem AvoidsRoot.tail {c : Char} (h : l.AvoidsRoot (c :: cs)) : l.AvoidsRoot cs :=
  fun n hknown hne hsuffix ↦ h n hknown hne (hsuffix.trans (List.suffix_cons c cs))

/-- The loggers above a name are the known ones whose names end in front of one of its dots. -/
theorem mem_above_iff (hdots : ¬ ['.', '.'] <:+: cs) (hskip : skip = true → cs.head? ≠ some '.')
    (hroot : l.AvoidsRoot cs) :
    name ∈ l.above below skip cs ↔
      l.isKnown name = true ∧ name ≠ "" ∧ '.' :: name.toList.reverse <:+ cs := by
  fun_induction above l below skip cs with
  | case1 => simp
  | case2 below c rest ih =>
    have hc : c ≠ '.' := by simpa using hskip
    rw [ih (hdots ∘ List.infix_cons) nofun hroot.tail,
      List.suffix_cons_iff]
    simp [hc.symm]
  | case3 below c rest hdot above habove ih =>
    obtain ⟨rfl, hrest⟩ := hdot
    have hhere : name = above ↔
        l.isKnown name = true ∧ name ≠ "" ∧ '.' :: name.toList.reverse = '.' :: rest := by
      rw [List.cons.injEq, eq_self, true_and, ← eq_ofList_reverse_iff]
      constructor
      · rintro rfl
        rw [comesAbove, Bool.and_eq_true] at habove
        exact ⟨habove.1, by simpa [above] using hrest, rfl⟩
      · exact fun h ↦ h.2.2
    rw [List.mem_cons, List.suffix_cons_iff, hhere,
      ih (hdots ∘ List.infix_cons) nofun hroot.tail]
    tauto
  | case4 below c rest hdot above habove ih =>
    obtain ⟨rfl, hrest⟩ := hdot
    have hhead : rest.head? ≠ some '.' := by
      cases rest with
      | nil => exact absurd rfl hrest
      | cons d rest =>
        rintro hd
        obtain rfl := Option.some.inj hd
        exact hdots ⟨[], rest, rfl⟩
    have hhere : ¬ (l.isKnown name = true ∧ name ≠ "" ∧
        '.' :: name.toList.reverse = '.' :: rest) := by
      rintro ⟨hknown, hne, heq⟩
      have hname : name = above := eq_ofList_reverse_iff.2 (List.cons.inj heq).2
      have havoids := hroot name hknown hne (heq ▸ List.suffix_rfl)
      exact habove (hname ▸ (comesAbove_iff havoids).2 hknown)
    rw [List.suffix_cons_iff,
      ih (hdots ∘ List.infix_cons) (fun _ ↦ hhead) hroot.tail]
    tauto
  | case5 below c rest hdot ih =>
    have hhere : name ≠ "" → '.' :: name.toList.reverse ≠ c :: rest := by
      rintro hne heq
      obtain ⟨hc, hrest⟩ := List.cons.inj heq
      refine hdot ⟨hc.symm, ?_⟩
      rintro rfl
      exact hne (by simpa using hrest)
    rw [List.suffix_cons_iff,
      ih (hdots ∘ List.infix_cons) nofun hroot.tail]
    tauto

theorem dot_suffix_reverse_iff :
    '.' :: other.toList.reverse <:+ name.toList.reverse ↔ other.toList ++ ['.'] <+: name.toList := by
  rw [← List.reverse_suffix, List.reverse_append, List.reverse_singleton, List.singleton_append]

/-- The exception for names that begin that of the root does not concern regular names. -/
theorem IsRegular.avoidsRoot (h : IsRegular name) (l : Logging) :
    l.AvoidsRoot name.toList.reverse := by
  rintro n hknown hne hsuffix hbegins
  have hfirst : n ∈ ["", "r", "ro", "roo", rootName] := by
    have hstarts : rootName.toList.inits.map String.ofList = ["", "r", "ro", "roo", rootName] := by
      decide
    rw [← hstarts, ← String.ofList_toList (s := n)]
    exact List.mem_map_of_mem ((List.mem_inits _ _).2 hbegins)
  have hdotless : ∀ c ∈ n.toList, (c != '.') = true := by
    have hroot : rootName.toList.all (· != '.') = true := by decide
    exact fun c hc ↦ List.all_eq_true.1 hroot c (hbegins.subset hc)
  have hsegment : firstSegment name = n := by
    obtain ⟨rest, hrest⟩ := dot_suffix_reverse_iff.1 hsuffix
    rw [firstSegment, ← hrest, List.append_assoc, List.takeWhile_append_of_pos hdotless]
    simp
  have hnot := h.first
  rw [hsegment] at hnot
  have hne' := (isKnown_iff.1 hknown).1
  simp only [List.mem_cons, List.not_mem_nil, or_false, not_or] at hfirst hnot
  tauto

/-- The way from a logger to the root goes through the known loggers whose names begin its name in
front of a dot. -/
theorem mem_wayToRoot_iff (h : IsRegular name) :
    other ∈ l.wayToRoot name ↔ other = name ∨ other = rootName ∨
      other ∈ l.names ∧ other ≠ "" ∧ other.toList ++ ['.'] <+: name.toList := by
  unfold wayToRoot
  split
  case isTrue hname =>
    have hnone : ¬ other.toList ++ ['.'] <+: name.toList := by
      rintro hbegins
      have hdot : '.' ∈ rootName.toList := hname ▸ hbegins.subset (by simp)
      revert hdot
      decide
    rw [List.mem_singleton]
    subst hname
    tauto
  case isFalse hname =>
    have hdots : ¬ ['.', '.'] <:+: name.toList.reverse := by
      rw [← List.reverse_infix, List.reverse_reverse]
      exact h.dots
    have hskip : false = true → name.toList.reverse.head? ≠ some '.' := nofun
    rw [List.mem_append, List.mem_cons, List.mem_singleton,
      mem_above_iff hdots hskip (h.avoidsRoot l), dot_suffix_reverse_iff, isKnown_iff]
    tauto

end ValidatorReader.Log.Logging
