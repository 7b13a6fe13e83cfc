/-!
# Suggestions for mistyped names

Two names are close if at least three fifths of their characters match. Matches are counted from the
longest common run outwards: to the left and to the right of it in both names.
-/

namespace ValidatorReader.CommandLine

/-- The length of the common beginning of two texts. -/
def commonRun : List Char → List Char → Nat
  | a :: as, b :: bs => if a = b then commonRun as bs + 1 else 0
  | _, _ => 0

/-- The place of a common run in two texts, and its length. -/
structure Run where
  left : Nat
  right : Nat
  size : Nat
deriving DecidableEq, Repr

/-- The longest common run of two texts, the earliest in the first and then in the second. -/
def longestRun (as bs : List Char) : Run :=
  let runs := (List.range as.length).flatMap fun i =>
    (List.range bs.length).map fun j => Run.mk i j (commonRun (as.drop i) (bs.drop j))
  runs.foldl (fun best r => if best.size < r.size then r else best) ⟨0, 0, 0⟩

/-- The number of matching characters, as far as `fuel` steps outwards go. -/
def matchesWithin : Nat → List Char → List Char → Nat
  | 0, _, _ => 0
  | fuel + 1, as, bs =>
    let r := longestRun as bs
    if r.size = 0 then 0
    else matchesWithin fuel (as.take r.left) (bs.take r.right) + r.size +
      matchesWithin fuel (as.drop (r.left + r.size)) (bs.drop (r.right + r.size))

/-- The number of matching characters of two texts. -/
def matchCount (as bs : List Char) : Nat :=
  matchesWithin as.length as bs

/-- Whether a number of matches makes texts of the given lengths close. -/
def isEnough (count left right : Nat) : Bool :=
  3 * (left + right) ≤ 10 * count

/-- Whether a known name is close to a given one. No more characters match than the shorter name has, so
names of very different lengths need no count. -/
def isClose (known given : String) : Bool :=
  let as := known.toList
  let bs := given.toList
  isEnough (min as.length bs.length) as.length bs.length &&
    isEnough (matchCount as bs) as.length bs.length

/-- The known names that are close to a given one, in alphabetical order. -/
def closeNames (known : List String) (given : String) : List String :=
  (known.filter fun name => isClose name given).mergeSort fun a b => decide (a ≤ b)

end ValidatorReader.CommandLine
