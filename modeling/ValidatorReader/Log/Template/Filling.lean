import ValidatorReader.Log.Template.Layout
import ValidatorReader.Value.Entries

/-!
# Filling a template

The pieces of a template take their arguments from left to right: a field first the value of its key,
then its width and its precision, then the value that it shows. A template that ends within a field is
an error only after what stands of the field has taken its arguments.
-/

namespace ValidatorReader.Log

/-! ## Arguments -/

/-- The arguments that are left: a list of them, or a single value that can be taken once. -/
inductive Supply
  | many (values : List Value)
  | single (value : Value) (taken : Bool)

/-- The arguments of a template; a single dictionary can also be asked by key. -/
structure Arguments where
  entries : Option Entries
  supply : Supply

/-- The arguments that a list of values stands for. -/
def Arguments.ofValues : List Value → Arguments
  | [.dict (e :: es)] => ⟨some (e :: es), .single (.dict (e :: es)) false⟩
  | values => ⟨none, .many values⟩

def Arguments.next (args : Arguments) : Except TemplateError (Value × Arguments) :=
  match args.supply with
  | .many (v :: rest) => .ok (v, { args with supply := .many rest })
  | .single v false => .ok (v, { args with supply := .single v true })
  | _ => .error .tooFewArguments

/-- Makes the value under the key of a field the next argument. -/
def Arguments.select (args : Arguments) (key : FieldKey) : Except TemplateError Arguments :=
  match key, args.entries with
  | .absent, _ => .ok args
  | _, none => .error .notADictionary
  | .unclosed, some _ => .error .unclosedKey
  | .named key, some entries =>
    match entries.get? (String.ofList key) with
    | some v => .ok { args with supply := .single v false }
    | none => .error (.missingKey (Text.quoted (String.ofList key)))

/-- Whether an argument is left that has not been shown. -/
def Arguments.isLeft (args : Arguments) : Bool :=
  match args.supply with
  | .many values => !values.isEmpty
  | .single _ taken => !taken

/-! ## Filling a template -/

/-- The number of a size, taken from the arguments if need be. -/
def Size.resolve (size : Size) (role : SizeRole) (args : Arguments) :
    Except TemplateError (Option Int × Arguments) :=
  match size with
  | .absent => .ok (none, args)
  | .fixed n => if role.limit < n then .error (.sizeTooLarge role) else .ok (some n, args)
  | .argument => do
    let (v, args) ← args.next
    match v.integer? with
    | some n =>
      if n < -role.limit - 1 ∨ role.limit < n then .error (.sizeArgumentTooLarge role)
      else return (some n, args)
    | none => .error .sizeNotInteger

/-- The width from which no text is made. -/
def hopelessWidth : Nat := 1 <<< 40

/-- The text of a field and the arguments that are left. -/
def fillField (f : Field) (args : Arguments) : Except TemplateError (List Char × Arguments) := do
  let args ← args.select f.key
  let (width, args) ← f.width.resolve .width args
  let (precision, args) ← f.precision.resolve .precision args
  let has (c : Char) : Bool := f.flags.contains c
  let layout : Layout := {
    width := (width.getD 0).natAbs
    precision := precision.map Int.toNat
    left := has '-' || decide (width.getD 0 < 0)
    plus := has '+'
    blank := has ' '
    alternate := has '#'
    zeros := has '0' }
  match f.conversion with
  | none => .error .incomplete
  | some c =>
    let (v, args) ← args.next
    if layout.width < hopelessWidth then
      let shown ← showArgument f c layout v
      return (shown, args)
    else
      let _ ← showArgument f c { layout with width := 0 } v
      .error .memoryExhausted

/-- The text of pieces filled with arguments, of which none may be left in the end. -/
def fillPieces (args : Arguments) : List TemplatePiece → Except TemplateError (List Char)
  | [] => if args.entries.isNone && args.isLeft then .error .tooManyArguments else .ok []
  | .text c :: rest => do return c :: (← fillPieces args rest)
  | .field f :: rest => do
    let (shown, args) ← fillField f args
    return shown ++ (← fillPieces args rest)

/-- The text of a template filled with arguments; without arguments it is the template itself. -/
def fillTemplate (template : String) (args : List Value) : Except TemplateError String :=
  if args.isEmpty then .ok template
  else String.ofList <$> fillPieces (.ofValues args) (readPieces 0 0 template.toList)

end ValidatorReader.Log
