import GuildWarden.Number.Integer
import GuildWarden.Text.Escape
import GuildWarden.Time.Timestamp

/-
  This file defines the levels and lines of the log: which
  number a level name stands for, how a record is written, and
  what becomes of a failure that nobody handled.

  Key definitions include:
    * `Log.levelValue?`
    * `Log.resolveLevel`
    * `Log.Record`
    * `Log.line`
    * `Log.coloredLine`
-/

namespace GuildWarden.Log

------------------------------------------------------------
-- Levels
------------------------------------------------------------

/- The names of the levels; the first name of a value is used in lines. -/
def levelNames : List (String × Int) :=
  [
    ("CRITICAL", 50),
    ("FATAL", 50),
    ("ERROR", 40),
    ("WARNING", 30),
    ("WARN", 30),
    ("INFO", 20),
    ("DEBUG", 10),
    ("NOTSET", 0)
  ]

/- Characters outside ASCII whose capitals are letters of ASCII. -/
def foreignCapitals : List (Char × List Char) :=
  [
    ('ı', ['I']),
    ('ſ', ['S']),
    ('ß', ['S', 'S']),
    ('ﬀ', ['F', 'F']),
    ('ﬁ', ['F', 'I']),
    ('ﬂ', ['F', 'L']),
    ('ﬃ', ['F', 'F', 'I']),
    ('ﬄ', ['F', 'F', 'L']),
    ('ﬅ', ['S', 'T']),
    ('ﬆ', ['S', 'T'])
  ]

/-
  The capital form of a character as far as it consists of
  letters of ASCII; other characters stay.
-/
def capital
    (c : Char) : List Char :=
  (foreignCapitals.lookup c).getD [c.toUpper]

/- The value of a level name in any case. -/
def levelValue?
    (name : String) : Option Int :=
  levelNames.lookup (String.ofList (name.toList.flatMap capital))

/- The value of a level name, or the text that refuses it. -/
def resolveLevel
    (name : String) : Except String Int :=
  match levelValue? name with
  | some n => .ok n
  | none => .error ("Unknown log level: " ++ Text.quoted name)

/- The name of a level. -/
def levelName
    (level : Int) : String :=
  match levelNames.find? fun l => l.2 == level with
  | some l => l.1
  | none => "Level " ++ Number.decimal level

------------------------------------------------------------
-- Lines
------------------------------------------------------------

/- A record of the log; the time is in seconds since 1970. -/
structure Record where
  time : Int
  level : Int
  logger : String
  function : String
  line : Int
  message : String

/- The time of a record. -/
def Record.writtenTime
    (r : Record) : String :=
  match Timestamp.ofWallMicros? (r.time * 1000000) none with
  | some t =>
    Timestamp.writtenDate t.date ++ " " ++
      Timestamp.padded 2 t.hour ++ "-" ++
      Timestamp.padded 2 t.minute ++ "-" ++ Timestamp.padded 2 t.second
  | none => ""

/- The line of a record. -/
def line
    (r : Record) : String :=
  "[" ++ r.writtenTime ++ "] [" ++ levelName r.level ++ "] [" ++
    r.logger ++ ":" ++ r.function ++ ":" ++ Number.decimal r.line ++
    "] " ++ r.message

/- The terminal code of a colour. -/
def colorCode
    (digits : String) : String :=
  "\x1b[" ++ digits ++ "m"

/- The colours of the levels. -/
def levelColors : List (Int × String) :=
  [
    (10, colorCode "36"),
    (20, colorCode "32"),
    (30, colorCode "33"),
    (40, colorCode "31"),
    (50, colorCode "38;5;88")
  ]

/- The line of a record in the colour of its level. -/
def coloredLine
    (r : Record) : String :=
  match levelColors.lookup r.level with
  | some color => color ++ line r ++ colorCode "0"
  | none => line r

------------------------------------------------------------
-- Failures that nobody handled
------------------------------------------------------------

/- What is done about a failure that ends the program. -/
inductive LastWord where
  | leaveAlone
  | logged (logger message : String)
deriving DecidableEq, Repr

/- An interruption by the user is left alone; the rest is logged. -/
def lastWord
    (interrupted : Bool) : LastWord :=
  if interrupted then .leaveAlone
  else .logged "uncaught" "Uncaught exception"

end GuildWarden.Log
