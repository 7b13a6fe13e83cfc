import ValidatorReader.Text.Blank

/-!
# Splitting a text

The parts of a text between separators, and its words between blanks.
-/

namespace ValidatorReader.Text

/-- The parts of a text between the characters of a class, one more than there are such characters. -/
def splitBy (isSeparator : Char → Bool) : List Char → List (List Char)
  | [] => [[]]
  | c :: rest =>
    match splitBy isSeparator rest with
    | [] => [[c]]
    | part :: parts => if isSeparator c then [] :: part :: parts else (c :: part) :: parts

theorem splitBy_ne_nil (isSeparator : Char → Bool) (cs : List Char) :
    splitBy isSeparator cs ≠ [] := by
  cases cs with
  | nil => simp [splitBy]
  | cons c rest =>
    simp only [splitBy]
    split
    · simp
    · split <;> simp

/-- The parts of a text between a separator. -/
def splitOn (separator : Char) (cs : List Char) : List (List Char) :=
  splitBy (· == separator) cs

def words (cs : List Char) : List (List Char) :=
  (splitBy isBlank cs).filter (!·.isEmpty)

end ValidatorReader.Text
