import ValidatorReader.Value.Basic

/-!
# Reading JSON

A reader of JSON texts whose numbers are integers. It follows the grammar of the format: blanks may
stand between any two tokens, a string may hold every escape, and what follows the value must be
blank. A string is read as code units of UTF-16, so that a character beyond them may be escaped as a
pair. The members of an object are kept as they come.
-/

namespace ValidatorReader.Json

def isBlank (c : Char) : Bool :=
  c == ' ' || c == '\t' || c == '\n' || c == '\r'

def skipBlanks (cs : List Char) : List Char :=
  cs.dropWhile isBlank

/-- What follows a mark, which may have blanks in front. -/
def expect? (mark : Char) (cs : List Char) : Option (List Char) :=
  match skipBlanks cs with
  | [] => none
  | c :: rest => if c = mark then some rest else none

/-! ## Strings -/

def codeUnits (c : Char) : List Nat :=
  let n := c.toNat
  if n < 0x10000 then [n]
  else [0xd800 + (n - 0x10000) / 0x400, 0xdc00 + (n - 0x10000) % 0x400]

def hexNumber? (digits : List Char) : Option Nat :=
  digits.foldlM (fun n c => (Bytes.hexValue? c).map (16 * n + ·)) 0

/-- The code unit that a backslash and a letter stand for. -/
def shortEscape? (c : Char) : Option Nat :=
  if c = '"' ∨ c = '\\' ∨ c = '/' then some c.toNat
  else if c = 'b' then some 0x08
  else if c = 'f' then some 0x0c
  else if c = 'n' then some 0x0a
  else if c = 'r' then some 0x0d
  else if c = 't' then some 0x09
  else none

/-- Puts code units in front of those that were read. -/
def withUnits (units : List Nat) (read : Option (List Nat × List Char)) :
    Option (List Nat × List Char) :=
  read.map fun (more, after) => (units ++ more, after)

/-- The code units of a string up to its closing quote, and what follows that. -/
def readUnits? : List Char → Option (List Nat × List Char)
  | [] => none
  | c :: rest =>
    if c = '"' then some ([], rest)
    else if c = '\\' then
      match rest with
      | [] => none
      | e :: rest =>
        if e = 'u' then
          match rest with
          | d₁ :: d₂ :: d₃ :: d₄ :: rest => do
            let unit ← hexNumber? [d₁, d₂, d₃, d₄]
            withUnits [unit] (readUnits? rest)
          | _ => none
        else do
          let unit ← shortEscape? e
          withUnits [unit] (readUnits? rest)
    else if c.toNat < 0x20 then none
    else withUnits (codeUnits c) (readUnits? rest)

/-- The characters that code units stand for; half of a pair stands for none. -/
def decodeUnits? : List Nat → Option (List Char)
  | [] => some []
  | [unit] => if 0xd800 ≤ unit ∧ unit < 0xe000 then none else some [Char.ofNat unit]
  | unit :: next :: rest =>
    if 0xd800 ≤ unit ∧ unit < 0xdc00 ∧ 0xdc00 ≤ next ∧ next < 0xe000 then
      (decodeUnits? rest).map
        (Char.ofNat (0x10000 + (unit - 0xd800) * 0x400 + (next - 0xdc00)) :: ·)
    else if 0xd800 ≤ unit ∧ unit < 0xe000 then none
    else (decodeUnits? (next :: rest)).map (Char.ofNat unit :: ·)

/-- A string after its opening quote, and what follows it. -/
def readString? (cs : List Char) : Option (String × List Char) := do
  let (units, after) ← readUnits? cs
  let text ← decodeUnits? units
  return (String.ofList text, after)

/-! ## Numbers and words -/

/-- A natural number without needless zeros in front, and what follows it. -/
def readNatural? (cs : List Char) : Option (Nat × List Char) :=
  let digits := cs.takeWhile Char.isDigit
  if digits.isEmpty || (digits.head? = some '0' && 1 < digits.length) then none
  else some (Nat.ofDigitChars 10 digits 0, cs.drop digits.length)

def readInteger? : List Char → Option (Int × List Char)
  | '-' :: cs => (readNatural? cs).map fun (n, after) => (-(n : Int), after)
  | cs => (readNatural? cs).map fun (n, after) => ((n : Int), after)

/-- The words that stand for values. -/
def wordValues : List (String × Value) :=
  [("null", .null), ("true", .bool true), ("false", .bool false)]

/-- The value of a word, and what follows it. -/
def readWord? (cs : List Char) : Option (Value × List Char) :=
  (wordValues.find? fun w => w.1.toList.isPrefixOf cs).map fun w => (w.2, cs.drop w.1.length)

/-! ## Values -/

mutual
/-- A value, and what follows it. Each value and each item takes one unit of fuel; there is at least
one character for each of them. -/
def readValue? : Nat → List Char → Option (Value × List Char)
  | 0, _ => none
  | fuel + 1, cs =>
    match skipBlanks cs with
    | [] => none
    | c :: rest =>
      if c = '"' then (readString? rest).map fun (s, after) => (.text s, after)
      else if c = '[' then
        match expect? ']' rest with
        | some after => some (.list [], after)
        | none => (readItems? fuel rest).map fun (items, after) => (.list items, after)
      else if c = '\x7b' then
        match expect? '\x7d' rest with
        | some after => some (.dict [], after)
        | none => (readMembers? fuel rest).map fun (members, after) => (.dict members, after)
      else if c = '-' || c.isDigit then
        (readInteger? (c :: rest)).map fun (n, after) => (.int n, after)
      else readWord? (c :: rest)

/-- The items of a list up to its closing bracket, and what follows that. -/
def readItems? : Nat → List Char → Option (List Value × List Char)
  | 0, _ => none
  | fuel + 1, cs => do
    let (item, after) ← readValue? fuel cs
    match expect? ',' after with
    | some next =>
      let (items, after) ← readItems? fuel next
      return (item :: items, after)
    | none =>
      let after ← expect? ']' after
      return ([item], after)

/-- The members of an object up to its closing brace, and what follows that. -/
def readMembers? : Nat → List Char → Option (List (String × Value) × List Char)
  | 0, _ => none
  | fuel + 1, cs => do
    let (name, after) ← readString? (← expect? '"' cs)
    let (value, after) ← readValue? fuel (← expect? ':' after)
    match expect? ',' after with
    | some next =>
      let (members, after) ← readMembers? fuel next
      return ((name, value) :: members, after)
    | none =>
      let after ← expect? '\x7d' after
      return ([(name, value)], after)
end

def read? (s : String) : Option Value := do
  let (value, after) ← readValue? s.length s.toList
  if (skipBlanks after).isEmpty then some value else none

end ValidatorReader.Json
