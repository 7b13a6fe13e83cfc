import ValidatorReader.Proofs.Contract.Dispatch

/-!
# Making a registry

A registry is made of its signatures one by one: each is put behind the others unless its name is
taken, and then nothing is made. So it has the given signatures in the given order, and its names, its
lookups and its membership test agree on every text.
-/

namespace ValidatorReader.Registry

open Attempt

variable {r r' : Registry} {f : Signature} {fs : List Signature} {seen : List String}
  {e : SignatureError} {name : String}

@[ext]
theorem ext (h : r.signatures = r'.signatures) : r = r' := by
  obtain ⟨signatures, _⟩ := r
  obtain ⟨signatures', _⟩ := r'
  obtain rfl : signatures = signatures' := h
  rfl

/-! ## One signature after the other -/

def empty : Registry where
  signatures := []
  nodup_names := List.nodup_nil

/-- Puts a signature behind the others, unless its name is taken. -/
def add (r : Registry) (f : Signature) : Except SignatureError Registry :=
  if h : f.name ∈ r.names then .error (.duplicate f.name)
  else .ok {
    signatures := r.signatures ++ [f]
    nodup_names := by
      rw [List.map_append, List.map_singleton]
      exact List.nodup_append_comm.1 (List.nodup_cons.2 ⟨h, r.nodup_names⟩) }

/-- A function is added exactly if its name is free, and comes last. -/
theorem add_eq_ok_iff :
    r.add f = .ok r' ↔ f.name ∉ r.names ∧ r'.signatures = r.signatures ++ [f] := by
  unfold add
  split
  case isTrue h => simp [h]
  case isFalse h =>
    simp only [Except.ok.injEq, h, not_false_eq_true, true_and]
    constructor
    · rintro rfl
      rfl
    · intro heq
      exact ext heq.symm

theorem add_of_mem (h : f.name ∈ r.names) : r.add f = .error (.duplicate f.name) :=
  dif_pos h

/-- A run over signatures makes the registry that has them behind those it began with. -/
theorem foldlM_add_eq_ok_iff : fs.foldlM add r = .ok r' ↔ r'.signatures = r.signatures ++ fs := by
  induction fs generalizing r with
  | nil =>
    rw [List.foldlM_nil, pure_eq_ok_iff, List.append_nil, Registry.ext_iff, eq_comm]
  | cons f fs ih =>
    simp only [List.foldlM_cons, bind_eq_ok_iff, ih, add_eq_ok_iff]
    constructor
    · rintro ⟨next, ⟨_, hnext⟩, hrest⟩
      rw [hrest, hnext, List.append_assoc, List.singleton_append]
    · intro heq
      have hnodup := r'.nodup_names
      rw [heq, List.map_append, List.map_cons] at hnodup
      have hfresh : f.name ∉ r.names := by
        intro hmem
        exact (List.nodup_append.1 hnodup).2.2 _ hmem _ List.mem_cons_self rfl
      obtain ⟨next, hnext⟩ : ∃ next, r.add f = .ok next := ⟨_, dif_neg hfresh⟩
      have hsignatures := (add_eq_ok_iff.1 hnext).2
      exact ⟨next, ⟨hfresh, hsignatures⟩, by rw [heq, hsignatures, List.append_assoc]; rfl⟩

/-- A run fails at the first signature whose name one of those before it has. -/
theorem foldlM_add_eq_error_iff :
    fs.foldlM add empty = .error e ↔ ∃ before f after, fs = before ++ f :: after ∧
      (before.map Signature.name).Nodup ∧ f.name ∈ before.map Signature.name ∧
      e = .duplicate f.name := by
  rw [foldlM_eq_error_iff]
  constructor
  · rintro ⟨before, f, after, reached, rfl, hreached, hstep⟩
    have hsignatures : reached.signatures = before := foldlM_add_eq_ok_iff.1 hreached
    have hmem : f.name ∈ reached.names := by
      by_contra hfresh
      rw [add, dif_neg hfresh] at hstep
      cases hstep
    rw [add_of_mem hmem] at hstep
    rw [names, hsignatures] at hmem
    exact ⟨before, f, after, rfl, hsignatures ▸ reached.nodup_names, hmem,
      (Except.error.inj hstep).symm⟩
  · rintro ⟨before, f, after, rfl, hnodup, hmem, rfl⟩
    exact ⟨before, f, after, ⟨before, hnodup⟩, rfl, foldlM_add_eq_ok_iff.2 rfl, add_of_mem hmem⟩

/-- The run over signatures is told by the names alone that it has come by. -/
theorem foldlM_add_eq (fs : List Signature) (hseen : ∀ name, name ∈ seen ↔ name ∈ r.names) :
    (∀ f, firstDuplicate? seen fs = some f → fs.foldlM add r = .error (.duplicate f.name)) ∧
    (firstDuplicate? seen fs = none → ∃ reached, fs.foldlM add r = .ok reached) := by
  induction fs generalizing r seen with
  | nil => exact ⟨fun f hf ↦ (by cases hf), fun _ ↦ ⟨r, rfl⟩⟩
  | cons f fs ih =>
    rw [firstDuplicate?, List.foldlM_cons]
    split
    case isTrue hmem =>
      rw [add_of_mem ((hseen _).1 hmem)]
      exact ⟨fun g hg ↦ by rw [Option.some.inj hg]; rfl, fun hg ↦ (by cases hg)⟩
    case isFalse hfresh =>
      obtain ⟨next, hnext⟩ : ∃ next, r.add f = .ok next :=
        ⟨_, dif_neg fun hmem ↦ hfresh ((hseen _).2 hmem)⟩
      rw [hnext]
      apply ih
      intro name
      rw [names, (add_eq_ok_iff.1 hnext).2, List.mem_cons, hseen, names]
      simp [or_comm]

/-- Building a registry at once is adding its functions one by one. -/
theorem ofList_eq_foldlM (fs : List Signature) : ofList fs = fs.foldlM add empty := by
  have hseen : ∀ name, name ∈ ([] : List String) ↔ name ∈ empty.names := fun _ ↦ Iff.rfl
  obtain ⟨hduplicate, hnone⟩ := foldlM_add_eq fs hseen
  unfold ofList
  split
  case h_1 f hfound => exact (hduplicate f hfound).symm
  case h_2 hfound =>
    obtain ⟨reached, hreached⟩ := hnone hfound
    rw [hreached, Except.ok.injEq]
    exact ext (foldlM_add_eq_ok_iff.1 hreached).symm

theorem ofList_eq_ok_iff : ofList fs = .ok r ↔ r.signatures = fs := by
  rw [ofList_eq_foldlM, foldlM_add_eq_ok_iff]
  rfl

/-! ## What a registry answers -/

/-- Whether a registry answers for a text as the list of its signatures does. -/
structure AnswersFor (r : Registry) (fs : List Signature) (name : String) : Prop where
  contains : r.contains (.text name) = .ok true ↔ name ∈ r.names
  isFound : (∃ f, r.get (.text name) = .ok f) ↔ name ∈ r.names
  found : ∀ f, r.get (.text name) = .ok f ↔ f ∈ fs ∧ f.name = name
  unknown : name ∉ r.names → r.contains (.text name) = .ok false ∧
    r.get (.text name) = .error (.call {
      kind := .unknownFunction
      message := "Unknown smart contract function: " ++ name
      details := .dict [("function", .text name)] })

theorem get_eq_ok_iff : r.get (.text name) = .ok f ↔ f ∈ r.signatures ∧ f.name = name := by
  constructor
  · intro h
    obtain ⟨hmem, hname⟩ := mem_of_get h
    exact ⟨hmem, (Value.text.inj hname).symm⟩
  · rintro ⟨hmem, rfl⟩
    exact get_name hmem

theorem contains_text (r : Registry) (name : String) :
    r.contains (.text name) = .ok (r.find? name).isSome := rfl

theorem answersFor (r : Registry) (name : String) : r.AnswersFor r.signatures name where
  contains := by
    rw [contains_text, Except.ok.injEq, Option.isSome_iff_ne_none, ne_eq, find?_eq_none_iff,
      not_not]
  isFound := by
    simp only [get_eq_ok_iff, names, List.mem_map]
  found _ := get_eq_ok_iff
  unknown h := ⟨by rw [contains_text, find?_eq_none_iff.2 h]; rfl, get_of_notMem h⟩

/-! ## Registries and lists -/

/-- Names repeat exactly if two places have one. -/
theorem nodup_names_iff : (fs.map Signature.name).Nodup ↔
    ¬ ∃ (i j : ℕ) (f g : Signature), i < j ∧ fs[i]? = some f ∧ fs[j]? = some g ∧
      f.name = g.name := by
  rw [List.Nodup, List.pairwise_map, List.pairwise_iff_getElem]
  constructor
  · rintro h ⟨i, j, f, g, hij, hf, hg, hname⟩
    obtain ⟨hi, rfl⟩ := List.getElem?_eq_some_iff.1 hf
    obtain ⟨hj, rfl⟩ := List.getElem?_eq_some_iff.1 hg
    exact h i j hi hj hij hname
  · intro h i j hi hj hij hname
    exact h ⟨i, j, fs[i], fs[j], hij, List.getElem?_eq_getElem hi, List.getElem?_eq_getElem hj,
      hname⟩

/-- Signatures make a registry unless two of them have the same name, and then the first whose name
occurred before is the one named. The registry has the names in order, and finds under a text the one
signature that has it as its name. -/
theorem ofList_faithful (fs : List Signature) :
    ((∃ e, ofList fs = .error e) ↔ ∃ (i j : ℕ) (f g : Signature), i < j ∧ fs[i]? = some f ∧
      fs[j]? = some g ∧ f.name = g.name) ∧
    (∀ e, ofList fs = .error e ↔ ∃ before f after, fs = before ++ f :: after ∧
      (before.map Signature.name).Nodup ∧ f.name ∈ before.map Signature.name ∧
      e = .duplicate f.name) ∧
    ∀ r, ofList fs = .ok r → r.names = fs.map Signature.name ∧ r.size = fs.length ∧
      ∀ name, r.AnswersFor fs name := by
  refine ⟨?_, ?_, ?_⟩
  · rw [← not_iff_not, ← nodup_names_iff]
    constructor
    · intro hsuccess
      cases hmade : ofList fs with
      | error e => exact absurd ⟨e, hmade⟩ hsuccess
      | ok r => exact ofList_eq_ok_iff.1 hmade ▸ r.nodup_names
    · rintro hnodup ⟨e, he⟩
      have hmade : ofList fs = .ok ⟨fs, hnodup⟩ := ofList_eq_ok_iff.2 rfl
      rw [hmade] at he
      cases he
  · intro e
    rw [ofList_eq_foldlM, foldlM_add_eq_error_iff]
  · intro r hmade
    obtain rfl := ofList_eq_ok_iff.1 hmade
    exact ⟨rfl, rfl, r.answersFor⟩

/-- A function with the name of the epoch counter and an argument. -/
def epochCounterOf : Signature :=
  { getEpochCounter with argumentTypes := [.addressArray] }

/-- Names decide, not signatures: a function is a duplicate although it takes other arguments. -/
theorem ofList_faithful_overloaded :
    ofList [getValidators, getEpochCounter, epochCounterOf, getValidators] =
      .error (.duplicate "getEpochCounter") ∧
    ∃ r, ofList [getValidators, getEpochCounter] = .ok r ∧
      r.get (.text "getEpochCounter") = .ok getEpochCounter := by
  obtain ⟨_, hfails, _⟩ :=
    ofList_faithful [getValidators, getEpochCounter, epochCounterOf, getValidators]
  obtain ⟨_, _, hmakes⟩ := ofList_faithful [getValidators, getEpochCounter]
  obtain ⟨r, hr⟩ : ∃ r, ofList [getValidators, getEpochCounter] = .ok r := ⟨_, rfl⟩
  have hanswers := (hmakes r hr).2.2 "getEpochCounter"
  refine ⟨(hfails _).2 ⟨[getValidators, getEpochCounter], epochCounterOf, [getValidators], rfl,
    by decide, by decide, rfl⟩, r, hr, (hanswers.found _).2 ⟨by decide, rfl⟩⟩

end ValidatorReader.Registry
