import ValidatorReader.Value.Basic

/-!
# Logging errors

Why a record cannot be made or formatted, and why logging cannot be set up.
-/

namespace ValidatorReader.Log

/-- The two sizes of a field of a template. -/
inductive SizeRole
  | width
  | precision
deriving DecidableEq, Repr

def SizeRole.limit : SizeRole → Int
  | width => 0x7fffffffffffffff
  | precision => 0x7fffffff

inductive TemplateError
  | tooFewArguments
  | tooManyArguments
  | notADictionary
  | missingKey (quotedKey : String)
  | unclosedKey
  | incomplete
  | sizeNotInteger
  | sizeTooLarge (role : SizeRole)
  | sizeArgumentTooLarge (role : SizeRole)
  | unknownConversion (conversion : Char) (position : Nat)
  | notReal (conversion : Char) (kind : Kind)
  | notInteger (conversion : Char) (kind : Kind)
  | notCharacter
  | characterTooLarge
  | notFloat (kind : Kind)
  | tooLargeForFloat
  | memoryExhausted
deriving DecidableEq, Repr

/-- A character of a template in a message; one outside ASCII becomes a question mark. -/
def plainAscii (c : Char) : Char :=
  if 31 ≤ c.toNat && c.toNat < 127 then c else '?'

/-- The digits of a number in hexadecimal, without leading zeros. -/
def hexDigits (n : Nat) : String :=
  String.ofList (Nat.toDigits 16 n)

def TemplateError.message : TemplateError → String
  | tooFewArguments => "not enough arguments for format string"
  | tooManyArguments => "not all arguments converted during string formatting"
  | notADictionary => "format requires a mapping"
  | missingKey quotedKey => quotedKey
  | unclosedKey => "incomplete format key"
  | incomplete => "incomplete format"
  | sizeNotInteger => "* wants int"
  | sizeTooLarge .width => "width too big"
  | sizeTooLarge .precision => "precision too big"
  | sizeArgumentTooLarge .width => "Python int too large to convert to C ssize_t"
  | sizeArgumentTooLarge .precision => "Python int too large to convert to C int"
  | unknownConversion c position =>
    s!"unsupported format character '{plainAscii c}' (0x{hexDigits c.toNat}) at index {position}"
  | notReal conversion kind => s!"%{conversion} format: a real number is required, not {kind.name}"
  | notInteger conversion kind => s!"%{conversion} format: an integer is required, not {kind.name}"
  | notCharacter => "%c requires int or char"
  | characterTooLarge => "%c arg not in range(0x110000)"
  | notFloat kind => s!"must be real number, not {kind.name}"
  | tooLargeForFloat => "int too large to convert to float"
  | memoryExhausted => ""

inductive DiskError
  | fileExists (path : String)
  | notADirectory (path : String)
  | isADirectory (path : String)
  | noSuchFile (path : String)
deriving DecidableEq, Repr

def DiskError.message : DiskError → String
  | fileExists path => s!"[Errno 17] File exists: {Text.quoted path}"
  | notADirectory path => s!"[Errno 20] Not a directory: {Text.quoted path}"
  | isADirectory path => s!"[Errno 21] Is a directory: {Text.quoted path}"
  | noSuchFile path => s!"[Errno 2] No such file or directory: {Text.quoted path}"

inductive Error
  | reservedKey (key : String)
  | template (e : TemplateError)
  | unknownLevelName (name : String)
  | levelNotNumber (quoted : String)
  | levelNotText (quoted : String)
  | disk (e : DiskError)
deriving DecidableEq, Repr

def Error.message : Error → String
  | reservedKey key => Text.quoted s!"Attempt to overwrite {Text.quoted key} in LogRecord"
  | template e => e.message
  | unknownLevelName name => s!"module 'logging' has no attribute '{name}'"
  | levelNotNumber quoted => s!"Unknown level: {quoted}"
  | levelNotText quoted => s!"Level not an integer or a valid string: {quoted}"
  | disk e => e.message

end ValidatorReader.Log
