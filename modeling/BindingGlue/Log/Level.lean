import BindingGlue.Text.Case
import BindingGlue.Text.Decimal
import BindingGlue.Text.Quoted

/-!
# Levels

The level of a record is a number, the greater the graver. Six levels have a name of their own, and
two of those a second name. A level that is chosen by a name is found whatever the case of its
letters, and an unknown name stands for the level of warnings. Two more names are taken by things
that are no levels, and choosing a level by one of these is an error.
-/

namespace BindingGlue.Log

/-- A level. -/
abbrev Level := Int

namespace Level

/-- The names of levels. Where two names stand for one level, the first is the one that is shown. -/
def names : List (String × Level) :=
  [("CRITICAL", 50), ("FATAL", 50), ("ERROR", 40), ("WARNING", 30), ("WARN", 30), ("INFO", 20),
   ("DEBUG", 10), ("NOTSET", 0)]

/-- The level of warnings. -/
def warning : Level := 30

/-- What a name stands for that is taken and names no level. -/
inductive Fault where
  /-- The name is that of the plainest layout. -/
  | layout
  /-- The name is that of the table of layout styles. -/
  | styles
  deriving DecidableEq

/-- The plainest layout. -/
def plainLayout : String := "%(levelname)s:%(name)s:%(message)s"

/-- A row of the table of layout styles: the mark of a style, its name and its plainest layout. -/
def styleRow (mark name layout : String) : String :=
  Text.quoted mark ++ ": (<class 'logging." ++ name ++ "'>, " ++ Text.quoted layout ++ ")"

/-- The table of layout styles. -/
def styleTable : String :=
  "\x7b" ++ ", ".intercalate [
    styleRow "%" "PercentStyle" plainLayout,
    styleRow "\x7b" "StrFormatStyle" "\x7blevelname\x7d:\x7bname\x7d:\x7bmessage\x7d",
    styleRow "$" "StringTemplateStyle" "$\x7blevelname\x7d:$\x7bname\x7d:$\x7bmessage\x7d"] ++
  "\x7d"

/-- The message of a fault, which shows what the name stands for. -/
def Fault.message : Fault → String
  | layout => "Unknown level: " ++ Text.quoted plainLayout
  | styles => "Level not an integer or a valid string: " ++ styleTable

/-- The names that are taken and name no level. -/
def taken : List (String × Fault) :=
  [("BASIC_FORMAT", .layout), ("_STYLES", .styles)]

/-- The level with a name in any case, and that of warnings for an unknown name. -/
def ofName (name : String) : Except Fault Level :=
  let name := String.ofList (name.toList.flatMap Text.upperLetters)
  match taken.lookup name with
  | some fault => .error fault
  | none => .ok ((names.lookup name).getD warning)

/-- How a level is shown: by its name, or else by its number. -/
def shown (level : Level) : String :=
  match names.find? (·.2 == level) with
  | some (name, _) => name
  | none => "Level " ++ Text.decimal level

/-- How a level is chosen. -/
inductive Choice where
  /-- Nothing is said. -/
  | unset
  | number (level : Level)
  | named (name : String)

/-- The level that is chosen; it is that of warnings if nothing is said. -/
def Choice.level : Choice → Except Fault Level
  | unset => .ok warning
  | number level => .ok level
  | named name => ofName name

end Level

end BindingGlue.Log
