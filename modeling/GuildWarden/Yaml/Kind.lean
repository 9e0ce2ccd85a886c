import GuildWarden.Text.Blank

/-
  This file defines the kinds of nodes of a document, how a
  tag names a kind, and which kind a scalar without a tag has
  by the way it is written.

  Key definitions include:
    * `Yaml.Kind`
    * `Yaml.Kind.ofTag`
    * `Yaml.Kind.ofScalar`
-/

namespace GuildWarden.Yaml

/- What a node stands for. -/
inductive Kind where
  | null
  | bool
  | int
  | float
  | octets
  | time
  | orderedMap
  | pairs
  | set
  | text
  | list
  | map
  | merge
  | default
  | unknown
deriving DecidableEq, Repr

namespace Kind

/- The common beginning of the tags of the known kinds. -/
def tagLead : String :=
  "tag:yaml.org,2002:"

/- The tags of the known kinds, without their beginning. -/
def tagNames : List (String × Kind) :=
  [
    ("null", .null), ("bool", .bool), ("int", .int),
    ("float", .float), ("binary", .octets), ("timestamp", .time),
    ("omap", .orderedMap), ("pairs", .pairs), ("set", .set),
    ("str", .text), ("seq", .list), ("map", .map),
    ("merge", .merge), ("value", .default)
  ]

/- The kind that a tag names. -/
def ofTag
    (tag : String) : Kind :=
  ((tagNames.map fun t => (tagLead ++ t.1, t.2)).lookup tag).getD .unknown

------------------------------------------------------------
-- Numbers
------------------------------------------------------------

/- A pattern: the ways to match a beginning of a text. -/
abbrev Pattern :=
  List Char → List (List Char)

/- One character that satisfies a test. -/
def one
    (p : Char → Bool) : Pattern
  | [] => []
  | c :: cs => if p c then [cs] else []

/- The longest run of characters that satisfy a test. -/
def many
    (p : Char → Bool) : Pattern :=
  fun cs => [cs.dropWhile p]

/- One pattern after the other. -/
def both
    (a b : Pattern) : Pattern :=
  fun cs => (a cs).flatMap b

/- A list of patterns, one after the other. -/
def row
    (ps : List Pattern) : Pattern :=
  ps.foldr both fun cs => [cs]

/- Any of some patterns. -/
def either
    (ps : List Pattern) : Pattern :=
  fun cs => ps.flatMap fun p => p cs

/- A pattern or nothing. -/
def maybe
    (p : Pattern) : Pattern :=
  fun cs => p cs ++ [cs]

/- A run of at least one character. -/
def some1
    (p : Char → Bool) : Pattern :=
  both (one p) (many p)

/- A given word. -/
def word
    (w : String) : Pattern :=
  fun cs => (Text.dropPrefix? w.toList cs).toList

/-
  At least one repetition of a pattern that takes characters;
  the length of the text bounds their number.
-/
def repeated
    (p : Pattern) :
    (fuel : Nat) → Pattern
  | 0 => fun _ => []
  | fuel + 1 => fun cs =>
    (p cs).flatMap fun rest => rest :: repeated p fuel rest

/- A pattern takes the whole text, but for a line end after it. -/
def takesAll
    (p : Pattern)
    (cs : List Char) : Bool :=
  (p cs).any fun rest => rest.isEmpty || rest == ['\n']

/- ASCII digits. -/
def digit : Char → Bool :=
  Char.isDigit

/- Digits and underscores. -/
def digitOrBar
    (c : Char) : Bool :=
  c.isDigit || c == '_'

/- A sign or nothing. -/
def sign : Pattern :=
  maybe (one fun c => c == '-' || c == '+')

/- A colon and a number below sixty. -/
def sixtieth : Pattern :=
  row [word ":", maybe (one fun c => '0' ≤ c && c ≤ '5'), one digit]

/- Numbers below sixty, each after a colon. -/
def sixtieths : Pattern :=
  fun cs => repeated sixtieth cs.length cs

/- The pattern of whole numbers. -/
def intPattern : Pattern :=
  both sign <| either
    [
      row [word "0b", some1 fun c => c == '0' || c == '1' || c == '_'],
      row [word "0", some1 fun c => ('0' ≤ c && c ≤ '7') || c == '_'],
      word "0",
      row [one fun c => '1' ≤ c && c ≤ '9', many digitOrBar],
      row
        [
          word "0x",
          some1 fun c => c.isDigit || ('a' ≤ c && c ≤ 'f') ||
            ('A' ≤ c && c ≤ 'F') || c == '_'
        ],
      row [one fun c => '1' ≤ c && c ≤ '9', many digitOrBar, sixtieths]
    ]

/- An exponent with a sign, or nothing. -/
def exponent : Pattern :=
  maybe <| row
    [
      one fun c => c == 'e' || c == 'E',
      one fun c => c == '-' || c == '+',
      some1 digit
    ]

/- The pattern of floating-point numbers. -/
def floatPattern : Pattern :=
  either
    [
      row [sign, one digit, many digitOrBar, word ".", many digitOrBar,
        exponent],
      row [word ".", one digit, many digitOrBar, exponent],
      row [sign, one digit, many digitOrBar, sixtieths, word ".",
        many digitOrBar],
      row [sign, either [word ".inf", word ".Inf", word ".INF"]],
      either [word ".nan", word ".NaN", word ".NAN"]
    ]

------------------------------------------------------------
-- Times
------------------------------------------------------------

/- One or two digits. -/
def oneOrTwo : Pattern :=
  both (one digit) (maybe (one digit))

/- A given number of digits. -/
def digits
    (n : Nat) : Pattern :=
  row (List.replicate n (one digit))

/- Spaces and tabs. -/
def gap
    (c : Char) : Bool :=
  c == ' ' || c == '\t'

/- The pattern of dates and times. -/
def timePattern : Pattern :=
  either
    [
      row [digits 4, word "-", digits 2, word "-", digits 2],
      row
        [
          digits 4, word "-", oneOrTwo, word "-", oneOrTwo,
          either [one fun c => c == 'T' || c == 't', some1 gap],
          oneOrTwo, word ":", digits 2, word ":", digits 2,
          maybe (row [word ".", many digit]),
          maybe <| row
            [
              many gap,
              either
                [
                  word "Z",
                  row
                    [
                      one fun c => c == '-' || c == '+', oneOrTwo,
                      maybe (row [word ":", digits 2])
                    ]
                ]
            ]
        ]
    ]

------------------------------------------------------------
-- Scalars
------------------------------------------------------------

/- Any of some words. -/
def words
    (ws : List String) : Pattern :=
  either (ws.map word)

/-
  The kinds that a scalar can have by the way it is written,
  each with its possible first characters; the first kind
  that fits counts.
-/
def written : List (Kind × String × Pattern) :=
  [
    (.bool, "yYnNtTfFoO",
      words
        [
          "yes", "Yes", "YES", "no", "No", "NO", "true", "True",
          "TRUE", "false", "False", "FALSE", "on", "On", "ON",
          "off", "Off", "OFF"
        ]),
    (.float, "-+0123456789.", floatPattern),
    (.int, "-+0123456789", intPattern),
    (.merge, "<", word "<<"),
    (.null, "~nN", words ["~", "null", "Null", "NULL"]),
    (.time, "0123456789", timePattern),
    (.default, "=", word "="),
    (.unknown, "!&*", one fun _ => true)
  ]

/- The kind of a scalar by the way it is written. -/
def ofScalar
    (text : String) : Kind :=
  match text.toList with
  | [] => .null
  | c :: cs =>
    let fits (w : Kind × String × Pattern) : Bool :=
      w.2.1.toList.contains c && takesAll w.2.2 (c :: cs)
    ((written.find? fits).map (·.1)).getD .text

end Kind

end GuildWarden.Yaml
