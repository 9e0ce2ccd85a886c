import GuildWarden.Cause
import GuildWarden.Payload.Reader
import GuildWarden.Store.Statement

/-
  This file defines the script of a rehearsal: rules that say
  how calls to the outside are answered, and faults that make
  statements of the store fail.

  Key definitions include:
    * `Rehearsal.Rule`
    * `Rehearsal.takeRule`
    * `Rehearsal.Fault`
    * `Rehearsal.takeFault`
-/

namespace GuildWarden.Rehearsal

------------------------------------------------------------
-- Rules
------------------------------------------------------------

/- What goes wrong with a call below the level of its protocol. -/
inductive Trouble where
  | system
  | web
  | timeout
  | value
  | connection
  | runtime
deriving DecidableEq, Repr

/- The failure of a call that meets trouble. -/
def Trouble.cause : Trouble → Cause
  | .system => .system "scripted"
  | .web => .web "scripted"
  | .timeout => .timedOut
  | .value => .badValue "scripted"
  | .connection => .connectionReset "scripted"
  | .runtime => .runtime "scripted"

/- What a rule answers. -/
inductive Response where
  | trouble (t : Trouble)
  | status (n : Int)
  | body (p : Payload)
  | rawBody (s : String)
  | address (url : String)
  | usual
deriving BEq, Repr

/-
  A rule for calls of a name, or of all names that start like
  it. It is used a number of times, and its response comes
  after a delay in seconds.
-/
structure Rule where
  name : String
  isOpen : Bool
  uses : Int
  delay : Rat
  response : Response
deriving BEq, Repr

namespace Rule

/- Whether a rule is for calls of a name. -/
def covers
    (r : Rule)
    (name : String) : Bool :=
  if r.isOpen then r.name.isPrefixOf name else r.name == name

/- Whether a rule is for calls of a name and has uses left. -/
def applies
    (r : Rule)
    (name : String) : Bool :=
  0 < r.uses && r.covers name

end Rule

/- The first rule that applies to a name, and the rules after its use. -/
def takeRule
    (name : String) :
    List Rule → Option Rule × List Rule
  | [] => (none, [])
  | r :: rs =>
    if r.applies name then (some r, { r with uses := r.uses - 1 } :: rs)
    else
      let (found, rest) := takeRule name rs
      (found, r :: rest)

/- The failure of a platform call that a response stands for. -/
def Response.refusal? : Response → Option Cause
  | .trouble t => some t.cause
  | .status n => if 400 ≤ n then some (.refused n) else none
  | _ => none

/- The answer of a platform call, given the usual one. -/
def Response.answer
    (r : Response)
    (usual : Payload) : Payload :=
  match r with
  | .body p => p
  | _ => usual

/- The answer of a service to a call. -/
def Response.serviceAnswer : Response → Except Cause Payload
  | .trouble t => .error t.cause
  | .status n =>
    if 400 ≤ n then .error (.web ("status " ++ Number.decimal n))
    else .ok .null
  | .body p => .ok p
  | .rawBody s =>
    match Payload.read? s.toList with
    | some p => .ok p
    | none => .error (.badValue "bad json")
  | .address _ => .ok .null
  | .usual => .ok .null

------------------------------------------------------------
-- Faults
------------------------------------------------------------

/- The next statements with a verb and a subject fail. -/
structure Fault where
  verb : String
  subject : String
  uses : Int
deriving DecidableEq, Repr

/- The name under which a table is stored. -/
def storedName : Store.TableName → String
  | .tags => "tags"
  | .bindings => "reaction_role_bindings"
  | .bans => "temporary_bans"
  | .versions => "schema_version"

/- What a statement is about. -/
def subjectOf
    (s : Store.Statement) : String :=
  match s with
  | .configure setting => setting
  | _ => (s.table?.map storedName).getD ""

/- Whether a fault hits a statement. -/
def Fault.hits
    (f : Fault)
    (s : Store.Statement) : Bool :=
  0 < f.uses && f.verb == s.verb && f.subject == subjectOf s

/- Whether some fault hits a statement, and the faults after it. -/
def takeFault
    (s : Store.Statement) :
    List Fault → Bool × List Fault
  | [] => (false, [])
  | f :: fs =>
    if f.hits s then (true, { f with uses := f.uses - 1 } :: fs)
    else
      let (hit, rest) := takeFault s fs
      (hit, f :: rest)

end GuildWarden.Rehearsal
