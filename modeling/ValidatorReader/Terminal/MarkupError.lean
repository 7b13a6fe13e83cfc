/-!
# Markup errors

A closing tag needs an opening tag before it.
-/

namespace ValidatorReader.Terminal

/-- Why a closing tag is refused; `position` counts the characters before it. -/
inductive MarkupError
  | nothingToClose (tag : String) (position : Nat)
  | noOpenTag (tag : String) (position : Nat)
deriving DecidableEq, Repr

def MarkupError.message : MarkupError → String
  | nothingToClose tag position =>
    s!"closing tag '{tag}' at position {position} has nothing to close"
  | noOpenTag tag position =>
    s!"closing tag '{tag}' at position {position} doesn't match any open tag"

end ValidatorReader.Terminal
