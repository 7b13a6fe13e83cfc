import ValidatorReader.Terminal.Emoji
import ValidatorReader.Terminal.MarkupError
import ValidatorReader.Terminal.Style

/-!
# Markup

Words in square brackets are tags: a style that begins, or with a slash a style that ends. Without
colours only the text between the tags is left. A tag after an odd number of backslashes is text, and
of the backslashes before a bracket half are left.
-/

namespace ValidatorReader.Terminal

/-- A piece of markup: text, or a tag with what follows an equals sign in it. -/
inductive Piece
  | plain (text : List Char)
  | tag (position : Nat) (name : List Char) (parameters : Option (List Char))

/-- Whether a character can begin a tag. -/
def isTagStart (c : Char) : Bool :=
  ('a' ≤ c && c ≤ 'z') || c == '#' || c == '/' || c == '@'

/-- The content of the tag that an opening bracket begins, given what follows the bracket. -/
def tagContent? : List Char → Option (List Char)
  | [] => none
  | c :: rest =>
    let tail := rest.takeWhile fun d => d != '[' && d != ']'
    if isTagStart c && (rest.drop tail.length).head? = some ']' then some (c :: tail) else none

def tagOf (position : Nat) (content : List Char) : Piece :=
  let name := content.takeWhile (· != '=')
  match content.drop name.length with
  | [] => .tag position name none
  | _ :: parameters => .tag position name (some parameters)

/-- A piece of text, unless it is empty. -/
def plainPiece (text : List Char) : List Piece :=
  if text.isEmpty then [] else [.plain text]

/-- The pieces that a bracketed content after some backslashes stands for. -/
def bracketed (position slashes : Nat) (content : List Char) : List Piece :=
  plainPiece (List.replicate (slashes / 2) '\\') ++
    if slashes % 2 = 1 then [.plain ('[' :: content ++ [']'])]
    else [tagOf (position + slashes) content]

/-- The pieces of markup from a position on, given the text before it that belongs to no piece yet
and the backslashes behind that; `skip` characters belong to the last tag. -/
def scan : Nat → Nat → Nat → List Char → List Char → List Piece
  | _, _, slashes, pending, [] => plainPiece (pending ++ List.replicate slashes '\\')
  | skip + 1, position, slashes, pending, _ :: rest => scan skip (position + 1) slashes pending rest
  | 0, position, slashes, pending, c :: rest =>
    if c = '\\' then scan 0 (position + 1) (slashes + 1) pending rest
    else match if c = '[' then tagContent? rest else none with
      | some content =>
        plainPiece pending ++ bracketed (position - slashes) slashes content ++
          scan (content.length + 1) (position + 1) 0 [] rest
      | none => scan 0 (position + 1) 0 (pending ++ List.replicate slashes '\\' ++ [c]) rest

/-- The pieces of markup. -/
def pieces (markup : List Char) : List Piece :=
  scan 0 0 0 [] markup

/-- A text in which an opening bracket has lost the backslash before it. -/
def unescapeBrackets : List Char → List Char
  | '\\' :: '[' :: rest => '[' :: unescapeBrackets rest
  | c :: rest => c :: unescapeBrackets rest
  | [] => []

/-- Whether a character rings, moves back or moves down instead of being shown. -/
def isControl (c : Char) : Bool :=
  [7, 8, 11, 12, 13].contains c.toNat

/-- The text that a plain piece shows. -/
def shownText (text : List Char) : List Char :=
  (replaceCodes 0 (unescapeBrackets text)).filter (!isControl ·)

def tagText (name : List Char) (parameters : Option (List Char)) : String :=
  String.ofList <| '[' :: name ++
    (match parameters with
      | some ps => '=' :: ps
      | none => []) ++ [']']

/-- Closes the innermost open style of a name; `none` if there is none. -/
def closeStyle? (name : String) : List String → Option (List String)
  | [] => none
  | style :: open_ => if style = name then some open_ else (closeStyle? name open_).map (style :: ·)

/-- The styles that are open after a tag. -/
def applyTag (position : Nat) (name : List Char) (parameters : Option (List Char))
    (open_ : List String) : Except MarkupError (List String) :=
  match name with
  | '/' :: closing =>
    let style := Text.trimBy Text.isBlank closing
    if style.isEmpty then
      match open_ with
      | [] => .error (.nothingToClose "[/]" position)
      | _ :: rest => .ok rest
    else match closeStyle? (normalStyle (String.ofList style)) open_ with
      | some rest => .ok rest
      | none => .error (.noOpenTag (tagText name parameters) position)
  | _ => .ok (normalStyle (String.ofList name) :: open_)

/-- The text that pieces show, given the styles that are open. -/
def showPieces (open_ : List String) : List Piece → Except MarkupError (List Char)
  | [] => .ok []
  | .plain text :: rest => do
    let shown ← showPieces open_ rest
    return shownText text ++ shown
  | .tag position name parameters :: rest => do
    let next ← applyTag position name parameters open_
    showPieces next rest

/-- The text that markup shows. -/
def plainText (markup : String) : Except MarkupError (List Char) :=
  let cs := markup.toList
  if cs.contains '[' then showPieces [] (pieces cs)
  else .ok ((replaceCodes 0 cs).filter (!isControl ·))

end ValidatorReader.Terminal
