import GuildWarden.Command.Tags
import GuildWarden.Proofs.Tag.Shelf
import Mathlib.Logic.Function.Basic

/-
  This file lets commands that change tags run beside each
  other, each call of the tag library being one step. What
  they come to is what they would come to one after another,
  in the order of their last calls, unless an update writes a
  tag that was deleted since the update found it. Such an
  update brings the tag back.

  Key definitions include:
    * `Command.Tags.Script`
    * `Command.Tags.Order`
    * `Command.Tags.Course`
    * `Command.Tags.Turn.IsStale`
    * `Command.Tags.Serial`

  Main statements:
    * `Command.Tags.Order.program_eq`
    * `Command.Tags.serial_iff_of_course`
    * `Command.Tags.raced_brings_back`
-/

namespace GuildWarden.Command.Tags

open Program Tag

------------------------------------------------------------
-- Scripts
------------------------------------------------------------

/- Calls of the tag library, one after another, and the end. -/
inductive Script where
  | ends (result : Except Cause Unit)
  | calls
    (c : Tag.Call)
    (next : Except Cause c.Answer → Script)

def Script.program : Script → Program Unit
  | .ends result => settle result
  | .calls c next =>
    c.program.attempt.bind fun answer => (next answer).program

/- What is to become of the tags of a guild. -/
inductive Change where
  | create (guildId : Int) (key body : String) (authorId : Int)
  | update (guildId : Int) (key body : String) (authorId : Int)
  | delete (guildId : Int) (key : String)
deriving DecidableEq, Repr

/- How an update goes on when it has looked for its tag. -/
def Change.afterFind
    (g : Int)
    (key body : String)
    (authorId : Int) :
    Except Cause (Option String) → Script
  | .ok (some _) => .calls (.put g key body authorId) .ends
  | .ok none => .ends (.error (unknown key))
  | .error cause => .ends (.error cause)

/- How a deletion ends. -/
def Change.afterDrop
    (key : String) :
    Except Cause Bool → Except Cause Unit
  | .ok true => .ok ()
  | .ok false => .error (unknown key)
  | .error cause => .error cause

def Change.script : Change → Script
  | .create g key body authorId =>
    .calls (.put g key body authorId) .ends
  | .update g key body authorId =>
    .calls (.find g key) (afterFind g key body authorId)
  | .delete g key =>
    .calls (.drop g key) fun answer => .ends (afterDrop key answer)

/- The commands that change tags. -/
inductive Kind where
  | create
  | update
  | delete
deriving DecidableEq, Repr

/- A command that is run, in its context and with its tail. -/
structure Order where
  kind : Kind
  ctx : Context
  tail : String
deriving DecidableEq, Repr

namespace Order

def program
    (o : Order) : Program Unit :=
  match o.kind with
  | .create => create o.ctx o.tail
  | .update => update o.ctx o.tail
  | .delete => delete o.ctx o.tail

/- The change that a command asks for, if it is readable. -/
def change
    (o : Order) : Except Cause Change :=
  match o.kind with
  | .create => do
    let (key, body) ← splitKeyBody o.tail
    return .create (← guildOf o.ctx) key body o.ctx.author.id
  | .update => do
    let (key, body) ← splitKeyBody o.tail
    return .update (← guildOf o.ctx) key body o.ctx.author.id
  | .delete => return .delete (← guildOf o.ctx) (keyOf o.tail)

def script
    (o : Order) : Script :=
  match o.change with
  | .ok change => change.script
  | .error cause => .ends (.error cause)

/- How a command ends that is acknowledged after its calls. -/
def outcome
    (o : Order)
    (answer : Except Cause Payload)
    (result : Except Cause Unit) : Except Cause Unit := do
  result
  if o.ctx.messageId.isSome then
    let _ ← answer
  return ()

end Order

------------------------------------------------------------
-- Programs as Scripts
------------------------------------------------------------

theorem attempt_bind_of_fail
    {α β : Type}
    {p : Program α}
    {f : α → Program β}
    {next : Except Cause α → Program β}
    (hOk : ∀ a, next (.ok a) = f a)
    (hError : ∀ cause, next (.error cause) = .fail cause) :
    p.attempt.bind next = p.bind f := by
  induction p with
  | done a => exact hOk a
  | fail cause => exact hError cause
  | access change next' hInduction =>
      exact congrArg (Program.access change)
        (funext hInduction)
  | ask r next' hInduction =>
      exact congrArg (Program.ask r) (funext hInduction)

/- A script that fails when its first call does. -/
theorem Script.program_bind_eq
    {α : Type}
    (c : Tag.Call)
    (f : c.Answer → Program α)
    (acknowledge : Unit → Program α)
    (next : Except Cause c.Answer → Script)
    (hOk :
      ∀ a, ((next (.ok a)).program.bind acknowledge) = f a)
    (hError : ∀ cause, next (.error cause) = .ends (.error cause)) :
    (Script.calls c next).program.bind acknowledge =
      c.program.bind f := by
  rw [Script.program, bind_assoc]
  refine attempt_bind_of_fail hOk ?_
  intro cause
  rw [hError]
  rfl

/- A command makes the calls of its script, and acknowledges. -/
theorem Order.program_eq
    (o : Order) :
    o.program =
      o.script.program.bind fun _ => o.ctx.acknowledge := by
  rcases o with ⟨kind, ctx, tail⟩
  cases kind with
  | create =>
      change create ctx tail = _
      unfold create Order.script Order.change
      cases splitKeyBody tail with
      | error cause => rfl
      | ok parts =>
          cases guildOf ctx with
          | error cause => rfl
          | ok g =>
              exact (Script.program_bind_eq
                (.put g parts.1 parts.2 ctx.author.id) _ _ .ends
                  (fun _ => rfl) fun _ => rfl).symm
  | update =>
      change update ctx tail = _
      unfold update Order.script Order.change
      cases splitKeyBody tail with
      | error cause => rfl
      | ok parts =>
          cases guildOf ctx with
          | error cause => rfl
          | ok g =>
              refine (Script.program_bind_eq
                (.find g parts.1) _ _
                  (Change.afterFind g parts.1 parts.2
                    ctx.author.id) ?_ fun _ => rfl).symm
              intro found
              cases found with
              | none => rfl
              | some body =>
                  exact Script.program_bind_eq
                    (.put g parts.1 parts.2 ctx.author.id) _ _
                      .ends (fun _ => rfl) fun _ => rfl
  | delete =>
      change delete ctx tail = _
      unfold delete Order.script Order.change
      cases guildOf ctx with
      | error cause => rfl
      | ok g =>
          refine (Script.program_bind_eq
            (.drop g (keyOf tail)) _ _
              (fun answer =>
                .ends (Change.afterDrop (keyOf tail) answer))
              ?_ fun _ => rfl).symm
          intro dropped
          cases dropped with
          | true => rfl
          | false => rfl

------------------------------------------------------------
-- Courses
------------------------------------------------------------

/- What is shared, and what each command has left to do. -/
structure Desk where
  shared : Shared
  scripts : Nat → Option Script

/-
  How a command came to its end: its last call, if it made
  any, what was shared before and after it, and the result.
-/
structure Turn where
  who : Nat
  last : Option Tag.Call
  before : Shared
  after : Shared
  result : Except Cause Unit

/-
  What can come about when commands go on call by call, with
  the turns of those that have ended, the latest first.
-/
inductive Course
    (orders : Nat → Order)
    (initial : Shared) : List Turn → Desk → Prop where
  | start :
      Course orders initial []
        ⟨initial, fun i => some (orders i).script⟩
  | fail
      {turns : List Turn}
      {desk : Desk}
      {i : Nat}
      {result : Except Cause Unit}
      (hCourse : Course orders initial turns desk)
      (hScript : desk.scripts i = some (.ends result)) :
      Course orders initial
        (⟨i, none, desk.shared, desk.shared, result⟩ :: turns)
        { desk with
          scripts := Function.update desk.scripts i none }
  | goOn
      {turns : List Turn}
      {desk : Desk}
      {i : Nat}
      {c c' : Tag.Call}
      {next : Except Cause c.Answer → Script}
      {next' : Except Cause c'.Answer → Script}
      {answer : Except Cause c.Answer}
      {trace : List Exchange}
      {later : Shared}
      (hCourse : Course orders initial turns desk)
      (hScript : desk.scripts i = some (.calls c next))
      (hPerforms :
        Performs desk.shared c.program trace answer later)
      (hNext : next answer = .calls c' next') :
      Course orders initial turns
        {
          shared := later
          scripts :=
            Function.update desk.scripts i
              (some (.calls c' next'))
        }
  | finish
      {turns : List Turn}
      {desk : Desk}
      {i : Nat}
      {c : Tag.Call}
      {next : Except Cause c.Answer → Script}
      {answer : Except Cause c.Answer}
      {trace : List Exchange}
      {later : Shared}
      {result : Except Cause Unit}
      (hCourse : Course orders initial turns desk)
      (hScript : desk.scripts i = some (.calls c next))
      (hPerforms :
        Performs desk.shared c.program trace answer later)
      (hNext : next answer = .ends result) :
      Course orders initial
        (⟨i, some c, desk.shared, later, result⟩ :: turns)
        {
          shared := later
          scripts := Function.update desk.scripts i none
        }

/- An update came to write a tag that was no longer there. -/
def Turn.IsStale
    (orders : Nat → Order)
    (t : Turn) : Prop :=
  ∃ g key body authorId,
    (orders t.who).change =
        .ok (.update g key body authorId) ∧
      t.last = some (.put g key body authorId) ∧
        stored t.before g (normalizeKey key) = none

/-
  Commands that are run one after another, the latest first,
  each from where its turn starts to where that ends; the
  platform answers as given when they are acknowledged.
-/
inductive Serial
    (orders : Nat → Order)
    (answers : Nat → Except Cause Payload)
    (initial : Shared) : List Turn → Shared → Prop where
  | nil :
      Serial orders answers initial [] initial
  | cons
      (t : Turn)
      {turns : List Turn}
      {trace : List Exchange}
      (hSerial : Serial orders answers initial turns t.before)
      (hPerforms :
        Performs t.before (orders t.who).program trace
          ((orders t.who).outcome (answers t.who) t.result)
          t.after) :
      Serial orders answers initial (t :: turns) t.after

------------------------------------------------------------
-- Commands That Run Alone
------------------------------------------------------------

variable {w between later : Shared}
variable {trace : List Exchange}
variable {result : Except Cause Unit}

/- A script makes its first call, and then the others. -/
theorem performs_calls
    {c : Tag.Call}
    {next : Except Cause c.Answer → Script}
    {answer : Except Cause c.Answer}
    {after : List Exchange}
    (hFirst : Performs w c.program trace answer between)
    (hRest :
      Performs between (next answer).program after result
        later) :
    Performs w (Script.calls c next).program (trace ++ after)
      result later :=
  performs_bind_iff.mpr (Or.inr
    ⟨trace, answer, after, between, rfl,
      performs_attempt_iff.mpr ⟨answer, rfl, hFirst⟩, hRest⟩)

theorem performs_ends
    (w : Shared)
    (result : Except Cause Unit) :
    Performs w (Script.ends result).program [] result w :=
  performs_settle_iff.mpr ⟨rfl, rfl, rfl⟩

/- A command ends as its script and its acknowledgement do. -/
theorem exists_performs_of_script
    (o : Order)
    (answer : Except Cause Payload)
    (hPerforms :
      Performs w o.script.program trace result later) :
    ∃ trace',
      Performs w o.program trace' (o.outcome answer result)
        later := by
  rw [Order.program_eq]
  cases result with
  | error cause =>
      exact ⟨trace,
        performs_bind_iff.mpr (Or.inl ⟨cause, rfl, hPerforms⟩)⟩
  | ok _ =>
      have hAcknowledge :
          ∃ after,
            Performs later o.ctx.acknowledge after
              (o.outcome answer (.ok ())) later := by
        unfold Context.acknowledge Order.outcome
        cases o.ctx.messageId with
        | none => exact ⟨[], .done _ ()⟩
        | some messageId =>
            have hServes :
                later.Serves later
                  (.platform (.addReaction o.ctx.channelId
                    messageId checkMark)) answer :=
              ⟨later.clock, Rat.le_refl, rfl⟩
            cases answer with
            | ok _ => exact ⟨_, .ask hServes (.done _ ())⟩
            | error cause =>
                exact ⟨_, .ask hServes (.fail _ cause)⟩
      rcases hAcknowledge with ⟨after, hAfter⟩
      exact ⟨trace ++ after, performs_bind_iff.mpr (Or.inr
        ⟨trace, (), after, later, rfl, hPerforms, hAfter⟩)⟩

/- An update that runs alone does not bring back a tag. -/
theorem performs_update_of_absent
    {o : Order}
    {g : Int}
    {key body : String}
    {authorId : Int}
    {outcome : Except Cause Unit}
    (hRest : w.IsAtRest)
    (hKeyed : Store.IsKeyed w.store.current.tags)
    (hChange : o.change = .ok (.update g key body authorId))
    (hAbsent : stored w g (normalizeKey key) = none)
    (hPerforms : Performs w o.program trace outcome later) :
    later = w ∧
      (outcome = .error (unknown key) ∨
        outcome =
          .error (.externalService
            (Call.find g key).complaint)) := by
  rw [Order.program_eq, Order.script, hChange] at hPerforms
  simp only [Change.script, Script.program] at hPerforms
  rw [bind_assoc] at hPerforms
  rcases performs_bind_iff.mp hPerforms with
    ⟨_, _, hFail⟩ |
      ⟨before, found, after, between, rfl, hFind, hNext⟩
  · rcases performs_attempt_iff.mp hFail with ⟨_, hOk, _⟩
    cases hOk
  rcases performs_attempt_iff.mp hFind with
    ⟨_, hSame, hFind⟩
  cases hSame
  have hFits :=
    fits_of_performs (d := ⟨.find g key, before, found⟩)
      hRest hKeyed hFind
  have hBetween : between = w := hFits.quiet rfl
  rw [hBetween] at hNext
  cases found with
  | error cause =>
      rcases performs_fail_iff.mp hNext with ⟨_, rfl, hSame⟩
      have hCause := (hFits.wrong cause rfl).1
      exact ⟨hSame, Or.inr (congrArg Except.error hCause)⟩
  | ok found =>
      have hFound : found = none :=
        (hFits.right found rfl).trans hAbsent
      rw [hFound] at hNext
      rcases performs_fail_iff.mp hNext with ⟨_, rfl, hSame⟩
      exact ⟨hSame, Or.inl rfl⟩

------------------------------------------------------------
-- Commands That Take Turns
------------------------------------------------------------

variable {orders : Nat → Order}
variable {answers : Nat → Except Cause Payload}
variable {initial : Shared}
variable {turns : List Turn}
variable {desk : Desk}
variable {i : Nat}

/- A command is at its start, or is an update about to write. -/
def IsPoised
    (o : Order)
    (s : Script) : Prop :=
  s = o.script ∨
    ∃ g key body authorId,
      o.change = .ok (.update g key body authorId) ∧
        s = .calls (.put g key body authorId) .ends ∧
          (Call.find g key).numbers.all
            Store.Statement.fits = true

/- What holds of a desk between two calls. -/
structure Desk.IsKept
    (orders : Nat → Order)
    (desk : Desk) : Prop where
  rest : desk.shared.IsAtRest
  created : desk.shared.store.current.has .tags = true
  keyed : Store.IsKeyed desk.shared.store.current.tags
  poised :
    ∀ i s, desk.scripts i = some s → IsPoised (orders i) s

theorem Desk.IsKept.update
    {later : Shared}
    {d : Deed}
    {s? : Option Script}
    (hKept : desk.IsKept orders)
    (hFits : d.Fits desk.shared later)
    (hPoised : ∀ s, s? = some s → IsPoised (orders i) s) :
    Desk.IsKept orders
      ⟨later, Function.update desk.scripts i s?⟩ where
  rest := hFits.rest
  created := by
    rw [Store.Tables.has, hFits.created]
    exact hKept.created
  keyed := hFits.keyed
  poised := by
    intro j s hScript
    change Function.update desk.scripts i s? j = some s at hScript
    by_cases hOwn : j = i
    · rw [hOwn] at hScript ⊢
      rw [Function.update_self] at hScript
      exact hPoised s hScript
    · rw [Function.update_of_ne hOwn] at hScript
      exact hKept.poised j s hScript

/- Only an update goes on after a call, which found its tag. -/
theorem exists_update_of_goOn
    {o : Order}
    {c c' : Tag.Call}
    {next : Except Cause c.Answer → Script}
    {next' : Except Cause c'.Answer → Script}
    {answer : Except Cause c.Answer}
    (hPoised : IsPoised o (.calls c next))
    (hPerforms : Performs w c.program trace answer later)
    (hNext : next answer = .calls c' next') :
    c.place? = none ∧ IsPoised o (.calls c' next') := by
  rcases hPoised with hStart | ⟨g, key, body, authorId, _, hSame, _⟩
  · unfold Order.script at hStart
    split at hStart
    · rename_i change hChange
      cases change with
      | create g key body authorId =>
          cases hStart
          cases hNext
      | delete g key =>
          cases hStart
          cases hNext
      | update g key body authorId =>
          cases hStart
          rcases answer with cause | found
          · cases hNext
          · cases found with
            | none => cases hNext
            | some old =>
                cases hNext
                exact ⟨rfl, Or.inr ⟨g, key, body, authorId,
                  hChange, rfl, fits_of_found hPerforms⟩⟩
    · cases hStart
  · cases hSame
    cases hNext

/- A last call is that of the command alone, if it is timely. -/
theorem exists_performs_of_finish
    {c : Tag.Call}
    {next : Except Cause c.Answer → Script}
    {answer : Except Cause c.Answer}
    (hKept : desk.IsKept orders)
    (hScript : desk.scripts i = some (.calls c next))
    (hPerforms :
      Performs desk.shared c.program trace answer later)
    (hNext : next answer = .ends result)
    (hTimely :
      ¬ Turn.IsStale orders
        ⟨i, some c, desk.shared, later, result⟩) :
    ∃ trace',
      Performs desk.shared (orders i).script.program trace'
        result later := by
  have hLast :
      Performs desk.shared (Script.calls c next).program
        (trace ++ []) result later :=
    performs_calls hPerforms (hNext ▸ performs_ends later result)
  rcases hKept.poised i _ hScript with
    hStart | ⟨g, key, body, authorId, hChange, hSame, hFits⟩
  · rw [← hStart]
    exact ⟨_, hLast⟩
  -- The update finds its tag again when it runs alone.
  cases hSame
  have hThere :
      stored desk.shared g (normalizeKey key) ≠ none := by
    intro hAbsent
    exact hTimely ⟨g, key, body, authorId, hChange, rfl, hAbsent⟩
  rcases Option.ne_none_iff_exists'.mp hThere with ⟨old, hOld⟩
  rcases exists_performs_call (c := .find g key) hKept.rest
    hKept.created hFits with ⟨before, found, between, hFind⟩
  have hFound :=
    fits_of_performs (d := ⟨.find g key, before, .ok found⟩)
      hKept.rest hKept.keyed hFind
  have hBetween : between = desk.shared := hFound.quiet rfl
  have hSome : found = some old :=
    (hFound.right found rfl).trans hOld
  rw [hBetween, hSome] at hFind
  refine ⟨before ++ (trace ++ []), ?_⟩
  rw [Order.script, hChange]
  exact performs_calls hFind hLast

/- A refused write is not reported as a refused lookup. -/
theorem write_words_ne_lookup_words
    (key key' : String) :
    "tag write failed for " ++ key ≠
      "tag lookup failed for " ++ key' := by
  intro hSame
  have hHead :
      ("tag write failed for " ++ key).toList.take 5 =
        ("tag lookup failed for " ++ key').toList.take 5 :=
    congrArg (fun s : String => s.toList.take 5) hSame
  rw [String.toList_append, String.toList_append,
    List.take_append_of_le_length (by decide),
    List.take_append_of_le_length (by decide)] at hHead
  exact absurd hHead (by decide)

/- An update that came too late could not end so alone. -/
theorem not_performs_of_stale
    {c : Tag.Call}
    {next : Except Cause c.Answer → Script}
    {answer : Except Cause c.Answer}
    {trace' : List Exchange}
    (hKept : desk.IsKept orders)
    (hScript : desk.scripts i = some (.calls c next))
    (hPerforms :
      Performs desk.shared c.program trace answer later)
    (hNext : next answer = .ends result)
    (hStale :
      Turn.IsStale orders
        ⟨i, some c, desk.shared, later, result⟩)
    (hAlone :
      Performs desk.shared (orders i).program trace'
        ((orders i).outcome (answers i) result) later) :
    False := by
  rcases hStale with
    ⟨g, key, body, authorId, hChange, hLast, hAbsent⟩
  cases hLast
  have hResult : answer = result := by
    rcases hKept.poised i _ hScript with
      hStart | ⟨_, _, _, _, _, hSame, _⟩
    · rw [Order.script, hChange] at hStart
      cases hStart
    · cases hSame
      cases hNext
      rfl
  have hFits :=
    fits_of_performs
      (d := ⟨.put g key body authorId, trace, answer⟩)
      hKept.rest hKept.keyed hPerforms
  rcases performs_update_of_absent hKept.rest hKept.keyed
    hChange hAbsent hAlone with ⟨hLater, hOutcome⟩
  cases answer with
  | ok _ =>
      -- The write is stored, but alone nothing would be.
      have hStored :=
        hFits.left g (normalizeKey key)
      rw [hLater, hAbsent] at hStored
      simp [Deed.changes, Call.place?, Call.left?,
        Except.isOk, Except.toBool] at hStored
  | error cause =>
      have hCause := (hFits.wrong cause rfl).1
      rw [← hResult, hCause] at hOutcome
      rcases hOutcome with hUnknown | hLookup
      · cases hUnknown
      · exact write_words_ne_lookup_words _ _
          (Cause.externalService.inj
            (Except.error.inj hLookup))

/- Calls keep what holds of the desk. -/
theorem isKept_of_course
    (hRest : initial.IsAtRest)
    (hCreated : initial.store.current.has .tags = true)
    (hKeyed : Store.IsKeyed initial.store.current.tags)
    (hCourse : Course orders initial turns desk) :
    desk.IsKept orders := by
  induction hCourse with
  | start =>
      refine ⟨hRest, hCreated, hKeyed, ?_⟩
      rintro i _ ⟨⟩
      exact Or.inl rfl
  | @fail _ desk _ _ _ _ hKept =>
      refine ⟨hKept.rest, hKept.created, hKept.keyed, ?_⟩
      intro j s hScript
      refine hKept.poised j s ?_
      change Function.update desk.scripts _ none j = some s
        at hScript
      rw [Function.update_apply] at hScript
      split at hScript
      · cases hScript
      · exact hScript
  | goOn _ hScript hPerforms hNext hKept =>
      have hFits :=
        fits_of_performs (d := ⟨_, _, _⟩) hKept.rest
          hKept.keyed hPerforms
      refine hKept.update hFits ?_
      rintro _ ⟨⟩
      exact (exists_update_of_goOn (hKept.poised _ _ hScript)
        hPerforms hNext).2
  | finish _ _ hPerforms _ hKept =>
      have hFits :=
        fits_of_performs (d := ⟨_, _, _⟩) hKept.rest
          hKept.keyed hPerforms
      exact hKept.update hFits fun s hNone => by cases hNone

/-
  Commands that take turns come to what they would come to one
  after another, in the order of their last calls, just if no
  update wrote a tag that was gone since it was found.
-/
theorem serial_iff_of_course
    (hRest : initial.IsAtRest)
    (hCreated : initial.store.current.has .tags = true)
    (hKeyed : Store.IsKeyed initial.store.current.tags)
    (hCourse : Course orders initial turns desk) :
    Serial orders answers initial turns desk.shared ↔
      ∀ t ∈ turns, ¬ t.IsStale orders := by
  induction hCourse with
  | start =>
      constructor
      · intro _ t hMember
        cases hMember
      · intro _
        exact .nil
  | @fail turns desk i result hCourse hScript hInduction =>
      have hKept :=
        isKept_of_course hRest hCreated hKeyed hCourse
      rw [List.forall_mem_cons, ← hInduction]
      constructor
      · rintro (_ | ⟨_, hSerial, _⟩)
        refine ⟨?_, hSerial⟩
        rintro ⟨_, _, _, _, _, hLast, _⟩
        cases hLast
      · rintro ⟨_, hSerial⟩
        have hStart : (orders i).script = .ends result := by
          rcases hKept.poised i _ hScript with
            hStart | ⟨_, _, _, _, _, hSame, _⟩
          · exact hStart.symm
          · cases hSame
        have hEnds := performs_ends desk.shared result
        rw [← hStart] at hEnds
        rcases exists_performs_of_script (orders i) (answers i)
          hEnds with ⟨_, hAlone⟩
        exact .cons ⟨_, _, _, _, _⟩ hSerial hAlone
  | @goOn turns desk i _ _ _ _ _ _ later hCourse hScript
      hPerforms hNext hInduction =>
      -- What is only looked for changes nothing.
      have hKept :=
        isKept_of_course hRest hCreated hKeyed hCourse
      have hQuiet :=
        (exists_update_of_goOn (hKept.poised i _ hScript)
          hPerforms hNext).1
      have hFits :=
        fits_of_performs (d := ⟨_, _, _⟩) hKept.rest
          hKept.keyed hPerforms
      have hLater : later = desk.shared := hFits.quiet hQuiet
      rw [hLater]
      exact hInduction
  | finish hCourse hScript hPerforms hNext hInduction =>
      have hKept :=
        isKept_of_course hRest hCreated hKeyed hCourse
      rw [List.forall_mem_cons, ← hInduction]
      constructor
      · rintro (_ | ⟨_, hSerial, hAlone⟩)
        refine ⟨?_, hSerial⟩
        intro hStale
        exact not_performs_of_stale hKept hScript hPerforms
          hNext hStale hAlone
      · rintro ⟨hTimely, hSerial⟩
        rcases exists_performs_of_finish hKept hScript
          hPerforms hNext hTimely with ⟨_, hAlone⟩
        rcases exists_performs_of_script _ _ hAlone with
          ⟨_, hAlone⟩
        exact .cons ⟨_, _, _, _, _⟩ hSerial hAlone

------------------------------------------------------------
-- An Update That Comes Too Late
------------------------------------------------------------

/- A command runs its script; then at most time passes. -/
theorem exists_script_of_performs
    {o : Order}
    {outcome : Except Cause Unit}
    (hPerforms : Performs w o.program trace outcome later) :
    ∃ before result between,
      Performs w o.script.program before result between ∧
        later = { between with clock := later.clock } ∧
          (outcome = .ok () → result = .ok ()) := by
  rw [Order.program_eq] at hPerforms
  rcases performs_bind_iff.mp hPerforms with
    ⟨cause, rfl, hFail⟩ |
      ⟨before, _, after, between, _, hScript, hAfter⟩
  · exact ⟨trace, .error cause, later, hFail, rfl, id⟩
  · refine ⟨before, .ok (), between, hScript, ?_, fun _ => rfl⟩
    refine eq_of_calls ?_ hAfter
    unfold Context.acknowledge
    cases o.ctx.messageId with
    | none => trivial
    | some messageId => exact requests_perform _

/- A script leaves the store to the next. -/
theorem rest_of_script
    {s : Script}
    (hRest : w.IsAtRest)
    (hKeyed : Store.IsKeyed w.store.current.tags)
    (hPerforms : Performs w s.program trace result later) :
    later.IsAtRest ∧
      Store.IsKeyed later.store.current.tags := by
  induction s generalizing w trace with
  | ends result' =>
      rcases performs_settle_iff.mp hPerforms with
        ⟨_, _, rfl⟩
      exact ⟨hRest, hKeyed⟩
  | calls c next hInduction =>
      rcases performs_bind_iff.mp hPerforms with
        ⟨_, _, hFail⟩ |
          ⟨before, answer, after, between, _, hFirst, hNext⟩
      · rcases performs_attempt_iff.mp hFail with ⟨_, hOk, _⟩
        cases hOk
      · rcases performs_attempt_iff.mp hFirst with
          ⟨_, hSame, hFirst⟩
        cases hSame
        have hFits :=
          fits_of_performs (d := ⟨c, before, answer⟩) hRest
            hKeyed hFirst
        exact hInduction answer hFits.rest hFits.keyed hNext

theorem rest_of_performs
    {o : Order}
    {outcome : Except Cause Unit}
    (hRest : w.IsAtRest)
    (hKeyed : Store.IsKeyed w.store.current.tags)
    (hPerforms : Performs w o.program trace outcome later) :
    later.IsAtRest ∧
      Store.IsKeyed later.store.current.tags := by
  rcases exists_script_of_performs hPerforms with
    ⟨_, _, between, hScript, hLater, _⟩
  have hBetween := rest_of_script hRest hKeyed hScript
  rw [hLater]
  exact ⟨⟨hBetween.1.free, hBetween.1.settled⟩, hBetween.2⟩

/- No tag is left by a deletion that succeeds. -/
theorem absent_of_deletes
    {o : Order}
    {g : Int}
    {key : String}
    (hRest : w.IsAtRest)
    (hKeyed : Store.IsKeyed w.store.current.tags)
    (hChange : o.change = .ok (.delete g key))
    (hPerforms : Performs w o.program trace (.ok ()) later) :
    stored later g (normalizeKey key) = none := by
  rcases exists_script_of_performs hPerforms with
    ⟨_, result, between, hScript, hLater, hOk⟩
  rw [hOk rfl, Order.script, hChange] at hScript
  rcases performs_bind_iff.mp hScript with
    ⟨_, _, hFail⟩ |
      ⟨before, answer, after, _, _, hDrop, hNext⟩
  · rcases performs_attempt_iff.mp hFail with ⟨_, hOk, _⟩
    cases hOk
  rcases performs_attempt_iff.mp hDrop with
    ⟨_, hSame, hDrop⟩
  cases hSame
  rcases performs_settle_iff.mp hNext with ⟨_, hEnd, rfl⟩
  have hFits :=
    fits_of_performs (d := ⟨.drop g key, before, answer⟩)
      hRest hKeyed hDrop
  have hStored := hFits.left g (normalizeKey key)
  rw [hLater]
  cases answer with
  | error cause => cases hEnd
  | ok dropped =>
      refine hStored.trans ?_
      simp [Deed.changes, Call.place?, Call.left?,
        Except.isOk, Except.toBool]

/- The last of some commands starts where the others end. -/
theorem Serial.uncons
    {t : Turn}
    (hSerial : Serial orders answers initial (t :: turns) w) :
    w = t.after ∧
      Serial orders answers initial turns t.before ∧
        ∃ trace,
          Performs t.before (orders t.who).program trace
            ((orders t.who).outcome (answers t.who) t.result)
            t.after := by
  cases hSerial with
  | cons _ hSerial hPerforms =>
      exact ⟨rfl, hSerial, _, hPerforms⟩

/-
  No order of an update and a deletion of one tag that both
  succeed leaves the tag.
-/
theorem absent_of_serial
    {g : Int}
    {key body : String}
    {authorId : Int}
    {first last : Turn}
    (hRest : initial.IsAtRest)
    (hKeyed : Store.IsKeyed initial.store.current.tags)
    (hUpdate :
      (orders 0).change = .ok (.update g key body authorId))
    (hDelete : (orders 1).change = .ok (.delete g key))
    (hOnce :
      first.who = 0 ∧ last.who = 1 ∨
        first.who = 1 ∧ last.who = 0)
    (hOk :
      ∀ t ∈ [last, first],
        (orders t.who).outcome (answers t.who) t.result =
          .ok ())
    (hSerial :
      Serial orders answers initial [last, first] w) :
    stored w g (normalizeKey key) = none := by
  rcases hSerial.uncons with ⟨rfl, hFirst, _, hLast⟩
  rcases hFirst.uncons with ⟨hBetween, hNone, _, hFirst⟩
  have hStart : first.before = initial := by
    generalize hBefore : first.before = before at hNone
    cases hNone
    rfl
  rw [hOk last (by simp), hBetween] at hLast
  rw [hOk first (by simp), hStart] at hFirst
  rcases rest_of_performs hRest hKeyed hFirst with
    ⟨hAtRest, hStillKeyed⟩
  rcases hOnce with ⟨hUpdater, hDeleter⟩ | ⟨hDeleter, hUpdater⟩
  · rw [hDeleter] at hLast
    exact absent_of_deletes hAtRest hStillKeyed hDelete hLast
  · rw [hDeleter] at hFirst
    rw [hUpdater] at hLast
    have hAbsent :=
      absent_of_deletes hRest hKeyed hDelete hFirst
    rcases performs_update_of_absent hAtRest hStillKeyed
      hUpdate hAbsent hLast with ⟨_, hFail | hFail⟩
    · cases hFail
    · cases hFail

/- A guild with one tag. -/
def tagged : Shared where
  clock := 0
  memory := Memory.empty
  store :=
    .ofTables
      {
        Store.Tables.blank with
        tags := [⟨1, "k", "v1", 7⟩]
        created := [.tags]
      }
  isLocked := false

/- Where two messages of a moderator were written. -/
def raceContext
    (messageId : Int) : Context where
  guildId := some 1
  channelId := 20
  author := ⟨4, "moderator", false⟩
  messageId := some messageId
  memberRoles := none
  keepsHistory := true
  mark := "?"

/- An update of the tag, and its deletion. -/
def raced : Nat → Order
  | 0 => ⟨.update, raceContext 11, "k v2"⟩
  | _ => ⟨.delete, raceContext 12, "k"⟩

theorem change_raced :
    (raced 0).change = .ok (.update 1 "k" "v2" 4) ∧
      (raced 1).change = .ok (.delete 1 "k") :=
  ⟨by decide, by decide⟩

/- The tag is found, deleted, and then written. -/
def found :
    List Exchange × Except Cause (Option String) × Shared :=
  (carryOut tagged (List.replicate 2 (.ok .null))
    (Tag.find 1 "k")).getD ([], .ok none, tagged)

def deleted : List Exchange × Except Cause Bool × Shared :=
  (carryOut tagged (List.replicate 5 (.ok .null))
    (Tag.drop 1 "k")).getD ([], .ok false, tagged)

def rewritten : List Exchange × Except Cause Unit × Shared :=
  (carryOut deleted.2.2 (List.replicate 5 (.ok .null))
    (Tag.put 1 "k" "v2" 4)).getD ([], .ok (), tagged)

/- The deletion ends first, and the update after it. -/
def racedTurns : List Turn :=
  [
    ⟨0, some (.put 1 "k" "v2" 4), deleted.2.2, rewritten.2.2,
      .ok ()⟩,
    ⟨1, some (.drop 1 "k"), tagged, deleted.2.2, .ok ()⟩
  ]

theorem performs_found :
    Performs tagged (Call.find 1 "k").program found.1
      (.ok (some "v1")) tagged := by
  have hDone :
      carryOut tagged (List.replicate 2 (.ok .null))
          (Tag.find 1 "k") =
        some (found.1, .ok (some "v1"), tagged) :=
    rfl
  exact performs_of_carryOut hDone

theorem performs_deleted :
    Performs tagged (Call.drop 1 "k").program deleted.1
      (.ok true) deleted.2.2 := by
  have hDone :
      carryOut tagged (List.replicate 5 (.ok .null))
          (Tag.drop 1 "k") =
        some (deleted.1, .ok true, deleted.2.2) :=
    rfl
  exact performs_of_carryOut hDone

theorem performs_rewritten :
    Performs deleted.2.2 (Call.put 1 "k" "v2" 4).program
      rewritten.1 (.ok ()) rewritten.2.2 := by
  have hDone :
      carryOut deleted.2.2 (List.replicate 5 (.ok .null))
          (Tag.put 1 "k" "v2" 4) =
        some (rewritten.1, .ok (), rewritten.2.2) :=
    rfl
  exact performs_of_carryOut hDone

theorem course_raced :
    ∃ desk, Course raced tagged racedTurns desk ∧
      desk.shared = rewritten.2.2 := by
  have hUpdate :
      (raced 0).script =
        .calls (.find 1 "k") (Change.afterFind 1 "k" "v2" 4) := by
    rw [Order.script, change_raced.1]
    rfl
  have hDelete :
      (raced 1).script =
        .calls (.drop 1 "k") fun answer =>
          .ends (Change.afterDrop "k" answer) := by
    rw [Order.script, change_raced.2]
    rfl
  have hFound :=
    Course.start.goOn (i := 0) (congrArg some hUpdate)
      performs_found rfl
  have hDeleted :=
    hFound.finish (i := 1) (congrArg some hDelete)
      performs_deleted rfl
  exact ⟨_, hDeleted.finish (i := 0) rfl performs_rewritten rfl,
    rfl⟩

/-
  The update brings the tag back, which no order of the two
  commands does in which both succeed.
-/
theorem raced_brings_back :
    (∃ desk, Course raced tagged racedTurns desk ∧
      stored desk.shared 1 "k" = some "v2" ∧
        ¬ Serial raced (fun _ => .ok .null) tagged racedTurns
          desk.shared) ∧
    ∀ answers first last w,
      Serial raced answers tagged [last, first] w →
        (first.who = 0 ∧ last.who = 1 ∨
          first.who = 1 ∧ last.who = 0) →
        (∀ t ∈ [last, first],
          (raced t.who).outcome (answers t.who) t.result =
            .ok ()) →
        stored w 1 "k" = none := by
  have hRest : tagged.IsAtRest := ⟨rfl, rfl⟩
  have hKeyed : Store.IsKeyed tagged.store.current.tags :=
    List.nodup_singleton _
  constructor
  · rcases course_raced with ⟨desk, hCourse, hShared⟩
    refine ⟨desk, hCourse, ?_, ?_⟩
    · rw [hShared]
      decide
    · rw [serial_iff_of_course hRest rfl hKeyed hCourse]
      intro hTimely
      refine hTimely _ List.mem_cons_self
        ⟨1, "k", "v2", 4, change_raced.1, rfl, ?_⟩
      decide
  · intro answers first last w hSerial hOnce hOk
    have hKey : normalizeKey "k" = "k" := by decide
    rw [← hKey]
    exact absent_of_serial hRest hKeyed change_raced.1
      change_raced.2 hOnce hOk hSerial

end GuildWarden.Command.Tags
