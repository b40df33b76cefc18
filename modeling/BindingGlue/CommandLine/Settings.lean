import BindingGlue.Log.Setup
import BindingGlue.Text.Quoted
import BindingGlue.Text.Word

/-!
# Settings

The command line sets a few options and takes no other arguments. An option is given by one of its
spellings or by a beginning of a long spelling that fits no other; a value follows it, after an
equals sign or as the next argument. Short options without a value can be bundled. Every argument is
first classified on its own, then the options take effect from left to right, and what is left over
is refused at the end.
-/

namespace BindingGlue.CommandLine

open Text

/-- An option of the command line. -/
inductive Switch where
  | help
  | templatesDir
  | verbose
  | quiet
  | logLevel
  | logFormat
  | logFile
  deriving DecidableEq

/-- The spellings of the options. -/
def spellings : List (String × Switch) :=
  [("-h", .help), ("--help", .help), ("--templates-dir", .templatesDir), ("-v", .verbose),
   ("--verbose", .verbose), ("-q", .quiet), ("--quiet", .quiet), ("--log-level", .logLevel),
   ("--log-format", .logFormat), ("--log-file", .logFile)]

namespace Switch

/-- Whether the option takes a value. -/
def takesValue : Switch → Bool
  | help | verbose | quiet => false
  | templatesDir | logLevel | logFormat | logFile => true

/-- All spellings of the option, as messages name it. -/
def shown (switch : Switch) : String :=
  "/".intercalate ((spellings.filter (·.2 == switch)).map (·.1))

end Switch

/-- The names that the level can be chosen by. -/
def levelChoices : List String :=
  ["CRITICAL", "ERROR", "WARNING", "INFO", "DEBUG", "NOTSET",
   "critical", "error", "warning", "info", "debug", "notset"]

/-- Why the command line sets nothing. -/
inductive Usage where
  /-- Help was asked for. -/
  | help
  /-- The beginning of several spellings. -/
  | ambiguous (text : String) (spellings : List String)
  /-- An option without its value. -/
  | missingValue (switch : Switch)
  /-- A value of an option that takes none. -/
  | unwantedValue (switch : Switch) (value : String)
  /-- A value that the option does not offer. -/
  | invalidChoice (switch : Switch) (value : String)
  /-- Arguments that are no options. -/
  | unrecognized (texts : List String)
  deriving DecidableEq

/-- The message about a command line that sets nothing. -/
def Usage.message : Usage → String
  | help => ""
  | ambiguous text spellings =>
    "ambiguous option: " ++ text ++ " could match " ++ ", ".intercalate spellings
  | missingValue switch => "argument " ++ switch.shown ++ ": expected one argument"
  | unwantedValue switch value =>
    "argument " ++ switch.shown ++ ": ignored explicit argument " ++ quoted value
  | invalidChoice switch value =>
    "argument " ++ switch.shown ++ ": invalid choice: " ++ quoted value ++ " (choose from " ++
      ", ".intercalate (levelChoices.map quoted) ++ ")"
  | unrecognized texts => "unrecognized arguments: " ++ " ".intercalate texts

/-- What an argument is by itself. -/
inductive Item where
  /-- A text that may be the value of an option. -/
  | plain (text : String)
  /-- The two hyphens after which no argument is an option. -/
  | separator
  /-- An option, with its value if that is part of the argument. -/
  | option (switch : Switch) (isShort : Bool) (value : Option String)
  /-- A text in the form of an option that is none. -/
  | unknown (text : String)
  deriving DecidableEq

/-- The text without one line feed at its end. -/
def withoutLineFeed (s : List Char) : List Char :=
  match s.reverse with
  | '\n' :: rest => rest.reverse
  | _ => s

/-- Whether the text writes a negative number, with a line feed after it or not. -/
def isNegativeNumber : List Char → Bool
  | '-' :: rest =>
    let rest := withoutLineFeed rest
    match rest.dropWhile isDecimal with
    | [] => !rest.isEmpty
    | '.' :: decimals => !decimals.isEmpty && decimals.all isDecimal
    | _ => false
  | _ => false

/-- The spelling and the value of an argument with an equals sign. -/
def splitValue (s : List Char) : String × Option String :=
  match s.dropWhile (· != '=') with
  | [] => (String.ofList s, none)
  | _ :: value => (String.ofList (s.takeWhile (· != '=')), some (String.ofList value))

/-- The option items that the beginning of an argument can stand for, with their spellings. -/
def candidates (s : List Char) : List (String × Item) :=
  match s with
  | '-' :: '-' :: _ =>
    let (start, value) := splitValue s
    (spellings.filter fun (spelling, _) ↦ start.toList.isPrefixOf spelling.toList).map
      fun (spelling, switch) ↦ (spelling, .option switch false value)
  | _ =>
    (spellings.filter fun (spelling, _) ↦ spelling.toList = s.take 2).map
      fun (spelling, switch) ↦ (spelling, .option switch true (some (String.ofList (s.drop 2))))

/-- Whether the spelling of an option is a short one. -/
def isShortSpelling (spelling : String) : Bool :=
  !"--".toList.isPrefixOf spelling.toList

/-- Classifies an argument that is no separator and follows none. -/
def classify (text : String) : Except Usage Item :=
  let s := text.toList
  if s.head? ≠ some '-' then .ok (.plain text)
  else match spellings.lookup text with
    | some switch => .ok (.option switch (isShortSpelling text) none)
    | none =>
      if s.length = 1 then .ok (.plain text)
      else
        let (spelling, value) := splitValue s
        match value, spellings.lookup spelling with
        | some value, some switch => .ok (.option switch (isShortSpelling spelling) (some value))
        | _, _ =>
          match candidates s with
          | [(_, item)] => .ok item
          | [] =>
            if isNegativeNumber s || s.contains ' ' then .ok (.plain text) else .ok (.unknown text)
          | several => .error (.ambiguous text (several.map (·.1)))

/-- Classifies the arguments in order. -/
def classifyAll : List String → Except Usage (List Item)
  | [] => .ok []
  | text :: texts =>
    if text = "--" then .ok (.separator :: texts.map .plain)
    else do
      let item ← classify text
      return item :: (← classifyAll texts)

/-- What the value of an option was set to. -/
inductive Setting where
  /-- The option was not given. -/
  | unset
  /-- The option was given two hyphens, which leave it without a value. -/
  | cleared
  /-- The option was given a value. -/
  | given (text : String)
  deriving DecidableEq

/-- The text that was set, if there is one and it is not empty. -/
def Setting.text? : Setting → Option String
  | given text => if text.isEmpty then none else some text
  | _ => none

/-- What the command line sets. -/
structure Settings where
  /-- The user's directory of templates. -/
  templatesDir : Setting := .unset
  /-- How often more detail was asked for. -/
  verbose : Nat := 0
  /-- How often less detail was asked for. -/
  quiet : Nat := 0
  /-- The chosen level of the log. -/
  logLevel : Setting := .unset
  /-- The layout of the log. -/
  logFormat : Setting := .given Log.Layout.standardText
  /-- The file that the log is also written to. -/
  logFile : Setting := .unset
  deriving DecidableEq

namespace Settings

/-- The settings after an option without a value. -/
def setFlag (settings : Settings) : Switch → Except Usage Settings
  | .help => .error .help
  | .verbose => .ok { settings with verbose := settings.verbose + 1 }
  | .quiet => .ok { settings with quiet := settings.quiet + 1 }
  | _ => .ok settings

/-- The settings after options without values. -/
def setFlags (settings : Settings) : List Switch → Except Usage Settings
  | [] => .ok settings
  | switch :: switches => do (← settings.setFlag switch).setFlags switches

/-- The settings after an option with a value; the last value of an option counts. -/
def setValue (settings : Settings) (switch : Switch) (text : String) : Except Usage Settings :=
  let value := if text = "--" then .cleared else .given text
  match switch with
  | .templatesDir => .ok { settings with templatesDir := value }
  | .logFormat => .ok { settings with logFormat := value }
  | .logFile => .ok { settings with logFile := value }
  | .logLevel =>
    if value = .cleared || levelChoices.contains text then .ok { settings with logLevel := value }
    else .error (.invalidChoice switch text)
  | _ => .ok settings

end Settings

/-- The options that a bundle of short options holds: the first one and one for each letter. -/
def bundled (switch : Switch) : List Char → Except Usage (List Switch)
  | [] => .ok [switch]
  | c :: cs =>
    match spellings.lookup (String.ofList ['-', c]) with
    | none => .error (.unwantedValue switch (String.ofList (c :: cs)))
    | some next => do return switch :: (← bundled next cs)

namespace Settings

/-- The settings after items, and the texts among them that are no part of an option. -/
def apply (settings : Settings) : List Item → Except Usage (Settings × List String)
  | [] => .ok (settings, [])
  | .plain text :: items => do
    let (settings, texts) ← settings.apply items
    return (settings, text :: texts)
  | .separator :: items => do
    let (settings, texts) ← settings.apply items
    return (settings, "--" :: texts)
  | .unknown text :: items => do
    let (settings, texts) ← settings.apply items
    return (settings, text :: texts)
  | .option switch isShort (some value) :: items => do
    if switch.takesValue then
      (← settings.setValue switch value).apply items
    else if isShort && !value.isEmpty then
      (← settings.setFlags (← bundled switch value.toList)).apply items
    else throw (.unwantedValue switch value)
  | .option switch _ none :: items => do
    if switch.takesValue then
      match items with
      | .plain value :: items => (← settings.setValue switch value).apply items
      | _ => throw (.missingValue switch)
    else (← settings.setFlag switch).apply items

/-- Reads the arguments of the command line. -/
def read (arguments : List String) : Except Usage Settings := do
  let items ← classifyAll arguments
  let (settings, texts) ← Settings.apply {} items
  if texts.isEmpty then return settings else throw (.unrecognized texts)

/-- How the level of the log is chosen: by its name, or else by the detail that was asked for. -/
def levelChoice (settings : Settings) : Log.Level.Choice :=
  match settings.logLevel.text? with
  | some name => .named name
  | none => .number <|
    if 2 ≤ settings.verbose then 10
    else if settings.verbose = 1 then 20
    else if 1 ≤ settings.quiet then 40
    else .warning

/-- The setup of the log. -/
def logSetup (settings : Settings) : Except Log.Setup.Fault Log.Setup :=
  Log.Setup.read settings.levelChoice (settings.logFormat.text?.getD "") true

end Settings

end BindingGlue.CommandLine
