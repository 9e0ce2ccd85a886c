import GuildWarden.Number.Binary64
import GuildWarden.Time.Timestamp

/-
  This file defines the reply history: which message of the
  bot answers which command, in the order of recording.

  Key definitions include:
    * `ReplyHistory`
    * `ReplyHistory.replyTo?`
    * `ReplyHistory.record`
    * `ReplyHistory.erase`
    * `ReplyHistory.trim`
    * `ReplyHistory.isFresh`
-/

namespace GuildWarden

/- A reply to a command, with the time in seconds since 1970. -/
structure ReplyEntry where
  commandId : Int
  channelId : Int
  replyId : Int
  recordedAt : Rat
deriving DecidableEq, Repr

/- The replies, the newest one last; each command has at most one. -/
structure ReplyHistory where
  entries : List ReplyEntry
deriving DecidableEq, Repr

namespace ReplyHistory

/- No reply has been recorded yet. -/
def empty : ReplyHistory where
  entries := []

/- The entry of a command. -/
def find?
    (h : ReplyHistory)
    (commandId : Int) : Option ReplyEntry :=
  h.entries.find? fun e => e.commandId == commandId

/- The message that answers a command. -/
def replyTo?
    (h : ReplyHistory)
    (commandId : Int) : Option Int :=
  (h.find? commandId).map (·.replyId)

/- Forget the reply to a command. -/
def erase
    (h : ReplyHistory)
    (commandId : Int) : ReplyHistory where
  entries := h.entries.filter fun e => e.commandId != commandId

/- Record a reply; it becomes the newest one. -/
def record
    (h : ReplyHistory)
    (e : ReplyEntry) : ReplyHistory where
  entries := (h.erase e.commandId).entries ++ [e]

/- Forget all replies but the newest one. -/
def trim
    (h : ReplyHistory) : ReplyHistory where
  entries := h.entries.drop (h.entries.length - 1)

/- How many replies are forgotten by a trim. -/
def trimmed
    (h : ReplyHistory) : Nat :=
  h.entries.length - 1

------------------------------------------------------------
-- Age
------------------------------------------------------------

/- The clock shows the nearest floating-point number. -/
def clockReading
    (t : Rat) : Rat :=
  ((Number.Binary64.ofRatio (t < 0) t.num.natAbs t.den).toRat?).getD t

/- Whether an age is within a limit; no limit reaches NaN. -/
def withinAge
    (age : Rat) : Number.Binary64 → Bool
  | .nan => false
  | .infinite negative => !negative
  | x => age ≤ (x.toRat?).getD 0

/-
  Whether a command written at a time may be run again at a
  later time. A local time is taken as universal.
-/
def isFresh
    (maxAge : Number.Binary64)
    (now : Rat)
    (writtenAt : Option Timestamp) : Bool :=
  match writtenAt with
  | none => false
  | some t =>
    let written : Rat := (t.instant : Rat) / 1000000
    withinAge (clockReading (clockReading now - clockReading written)) maxAge

end ReplyHistory

end GuildWarden
