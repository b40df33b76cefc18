import BindingGlue.Log.Layout

/-!
# Logs

A setup says which records are shown and how. A record is shown if its level is at least that of the
setup and above zero, and if the loggers of the program pass their records on at all.
-/

namespace BindingGlue.Log

/-- How records are shown. -/
structure Setup where
  /-- The least level that is shown. -/
  level : Level
  /-- How a record is written. -/
  layout : Layout
  /-- Whether records are passed on. -/
  propagates : Bool := true

namespace Setup

/-- Why there is no setup. -/
inductive Fault where
  /-- The level is chosen by a name that is no level's. -/
  | level (fault : Level.Fault)
  /-- The text is no layout. -/
  | layout (text : String)
  deriving DecidableEq

/-- The message of a fault. -/
def Fault.message : Fault → String
  | level fault => fault.message
  | layout text => "Invalid format '" ++ text ++ "' for '%' style"

/-- The setup for a chosen level and the text of a layout. -/
def read (choice : Level.Choice) (layout : String) (propagates : Bool) : Except Fault Setup := do
  let level ← choice.level.mapError .level
  let layout ← (Layout.read layout).mapError .layout
  return { level, layout, propagates }

/-- Whether a record is shown. -/
def shows (setup : Setup) (record : Record) : Bool :=
  setup.propagates && 0 < record.level && setup.level ≤ record.level

/-- The text of records in their order. -/
def text (setup : Setup) (records : List Record) : String :=
  String.join ((records.filter setup.shows).filterMap setup.layout.line?)

end Setup

end BindingGlue.Log
