import ValidatorReader.Log.Error
import ValidatorReader.Text.Case

/-!
# Levels

The level of a record is a number, and some levels have names. A setting of a level is the name of a
level in letters of any case; a few other names can be looked up as well but stand for no level.
-/

namespace ValidatorReader.Log

def levelNames : List (Int × String) :=
  [(50, "CRITICAL"), (40, "ERROR"), (30, "WARNING"), (20, "INFO"), (10, "DEBUG"), (0, "NOTSET")]

/-- The name of a level, made from its number if it has none of its own. -/
def levelName (level : Int) : String :=
  match levelNames.find? (·.1 = level) with
  | some (_, name) => name
  | none => s!"Level {level}"

/-- What a name in a setting of a level stands for. -/
inductive LevelMeaning
  | level (n : Int)
  | layout (s : String)
  | layouts (quoted : String)
deriving DecidableEq, Repr

/-- The layout of a line outside this library. -/
def plainLayout : String := "%(levelname)s:%(name)s:%(message)s"

/-- The names that a setting of a level can hold; two levels have a second name. -/
def levelMeanings : List (String × LevelMeaning) :=
  (levelNames.map fun (n, name) => (name, .level n)) ++
    [("FATAL", .level 50), ("WARN", .level 30), ("BASIC_FORMAT", .layout plainLayout),
      ("_STYLES", .layouts layoutStyles)]
where
  layoutStyles : String :=
    "\x7b'%': (<class 'logging.PercentStyle'>, '%(levelname)s:%(name)s:%(message)s'), " ++
    "'\x7b': (<class 'logging.StrFormatStyle'>, '\x7blevelname\x7d:\x7bname\x7d:\x7bmessage\x7d'), " ++
    "'$': (<class 'logging.StringTemplateStyle'>, " ++
    "'$\x7blevelname\x7d:$\x7bname\x7d:$\x7bmessage\x7d')\x7d"

def levelOfSetting (setting : String) : Except Error Int :=
  let name := Text.upper setting
  match levelMeanings.lookup name with
  | some (.level n) => .ok n
  | some (.layout s) => .error (.levelNotNumber (Text.quoted s))
  | some (.layouts quoted) => .error (.levelNotText quoted)
  | none => .error (.unknownLevelName name)

end ValidatorReader.Log
