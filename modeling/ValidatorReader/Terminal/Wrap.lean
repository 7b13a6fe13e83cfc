import ValidatorReader.Terminal.Width
import ValidatorReader.Text.Split

/-!
# Wrapping

A text is laid out in lines of a given number of cells. Words with the blanks behind them are placed
one after the other; a word that does not fit begins a line, and one that is longer than a line begins
a line and is cut to size. Blanks that go beyond the width are dropped.
-/

namespace ValidatorReader.Terminal

def tabSize : Nat := 8

/-- A line with its tabs replaced by blanks up to the next stop; `position` counts the cells before. -/
def expandTabs (position : Nat) : List Char → List Char
  | [] => []
  | c :: rest =>
    if c = '\t' then
      let size := tabSize - position % tabSize
      List.replicate size ' ' ++ expandTabs (position + size) rest
    else c :: expandTabs (position + charCells c) rest

/-- A word: the blanks before it, which only the first has, its characters, and the blanks behind. -/
structure Word where
  text : List Char
  blanks : List Char
deriving DecidableEq, Repr

def Word.chars (w : Word) : List Char := w.text ++ w.blanks

/-- Adds a character in front of words. -/
def pushWord (c : Char) : List Word → List Word
  | [] => if Text.isBlank c then [⟨[], [c]⟩] else [⟨[c], []⟩]
  | w :: rest =>
    if Text.isBlank c then
      if w.text.isEmpty then ⟨[], c :: w.blanks⟩ :: rest else ⟨[], [c]⟩ :: w :: rest
    else ⟨c :: w.text, w.blanks⟩ :: rest

/-- The words of a line, none if it is blank. -/
def lineWords (cs : List Char) : List Word :=
  match cs.foldr pushWord [] with
  | ⟨[], blanks⟩ :: w :: rest => ⟨blanks ++ w.text, w.blanks⟩ :: rest
  | [⟨[], _⟩] => []
  | ws => ws

/-- A text cut into pieces of at most `width` cells; `room` is left in the first piece. -/
def chop (width : Nat) : Nat → List Char → List (List Char)
  | _, [] => [[]]
  | room, c :: rest =>
    if charCells c ≤ room then
      match chop width (room - charCells c) rest with
      | [] => [[c]]
      | piece :: pieces => (c :: piece) :: pieces
    else match chop width (width - charCells c) rest with
      | [] => [[], [c]]
      | piece :: pieces => [] :: (c :: piece) :: pieces

/-- Lines under construction: the finished ones, the last first, and the one being filled. -/
structure Layout where
  finished : List (List Char) := []
  current : List Char := []
  filled : Nat := 0

/-- Finishes the current line and begins one with a text. -/
def Layout.newLine (l : Layout) (text : List Char) : Layout :=
  { finished := l.current :: l.finished, current := text, filled := cells text }

def Layout.isEmpty (l : Layout) : Bool :=
  l.finished.isEmpty && l.current.isEmpty

def Layout.place (width : Nat) (l : Layout) (w : Word) : Layout :=
  if l.filled + cells w.text ≤ width then
    { l with current := l.current ++ w.chars, filled := l.filled + cells w.chars }
  else if width < cells w.text then
    match chop width width w.chars with
    | [] => l
    | first :: rest =>
      let begun := if l.isEmpty then { l with current := first, filled := cells first }
        else l.newLine first
      rest.foldl Layout.newLine begun
  else if l.filled ≠ 0 then l.newLine w.chars
  else { l with current := l.current ++ w.chars }

def Layout.lines (l : Layout) : List (List Char) :=
  (l.current :: l.finished).reverse

/-- A line without the blanks at its end that go beyond the width. -/
def dropExcess (width : Nat) (line : List Char) : List Char :=
  let blanks := (line.reverse.takeWhile Text.isBlank).length
  line.take (line.length - min blanks (line.length - width))

/-- A line cut to the width. -/
def fitLine (width : Nat) (line : List Char) : List Char :=
  let line := dropExcess width line
  if width < cells line then takeCells width line else line

/-- The words of a line, put into lines of a given width; a line without words stays whole. -/
def breakLine (width : Nat) (line : List Char) : List (List Char) :=
  match lineWords line with
  | [] => [line]
  | ws => (ws.foldl (Layout.place width) {}).lines

def wrapLine (width : Nat) (line : List Char) : List (List Char) :=
  (breakLine width line).map (fitLine width)

/-- The lines of a text in a given width. -/
def wrap (width : Nat) (text : List Char) : List (List Char) :=
  (Text.splitOn '\n' text).flatMap fun line => wrapLine width (expandTabs 0 line)

/-- A text laid out in lines, each with a line feed. -/
def layOut (width : Nat) (text : List Char) : String :=
  String.ofList <| (wrap width text).flatMap fun line => line ++ ['\n']

end ValidatorReader.Terminal
