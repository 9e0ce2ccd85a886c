import GuildWarden.Proofs.Command.Reporting
import GuildWarden.Proofs.Tag.Editing

/-
  This file compares what a command that changes tags reports
  with what it has done to the tables. A command that reports
  success has made its change. One that reports a failure has
  changed nothing, unless the failure came with its commit or
  after it, as when the platform refuses the reaction that
  acknowledges the change; then the change is made all the
  same.

  Key definitions include:
    * `Command.Tags.Change.IsMade`
    * `Command.Tags.Order.Makes`
    * `Command.Tags.IsLate`

  Main statements:
    * `Command.Tags.fate_of_script`
    * `Command.Tags.fate_of_program`
    * `Command.Tags.route_reports_change`
    * `Command.Tags.unthanked_is_made`
-/

namespace GuildWarden

open Program Tag

namespace Store

variable {g : Int}
variable {k : String}
variable {row : TagRow}
variable {rows : List TagRow}

/- A row that is put leaves those under other keys. -/
theorem without_putRow
    (hRow : row.isUnder g k = true) :
    without g k (putRow TagRow.sameTag row rows) =
      without g k rows := by
  unfold putRow
  split
  · have hUnder (r : TagRow) :
        TagRow.isUnder g k (if row.sameTag r then row else r) =
          r.isUnder g k := by
      split
      · rename_i hSame
        exact (TagRow.isUnder_of_sameTag hSame).symm
      · rfl
    unfold without
    rw [List.filter_map]
    simp only [Function.comp_def, hUnder]
    refine (List.map_congr_left ?_).trans (List.map_id _)
    intro r hMember
    have hOther : r.isUnder g k = false := by
      simpa using (List.mem_filter.mp hMember).2
    refine if_neg ?_
    intro hSame
    rw [TagRow.isUnder_of_sameTag hSame, hRow] at hOther
    cases hOther
  · simp [without, hRow]

theorem without_without :
    without g k (without g k rows) = without g k rows := by
  simp [without]

/- Where there is no body there is no row to be left out. -/
theorem without_of_absent
    (hAbsent : bodyOf rows g k = none) :
    without g k rows = rows := by
  refine List.filter_eq_self.mpr ?_
  intro r hMember
  have hOther :=
    List.find?_eq_none.mp (Option.map_eq_none_iff.mp hAbsent) r
      hMember
  simpa using hOther

end Store

namespace Command.Tags

open Store

variable {t after : Tables}
variable {trace : List Exchange}
variable {n : Nat}
variable {h later : Chronicle}

------------------------------------------------------------
-- Changes
------------------------------------------------------------

namespace Change

/- The guild and the normalized key that a change is about. -/
def place : Change → Int × String
  | .create g key _ _ => (g, normalizeKey key)
  | .update g key _ _ => (g, normalizeKey key)
  | .delete g key => (g, normalizeKey key)

/- The body that is to be there. -/
def body? : Change → Option String
  | .create _ _ body _ => some body
  | .update _ _ body _ => some body
  | .delete _ _ => none

/- The body is there, or there is none; all else is as it was. -/
structure IsMade
    (c : Change)
    (before after : Tables) : Prop where
  body : bodyOf after.tags c.place.1 c.place.2 = c.body?
  others :
    without c.place.1 c.place.2 after.tags =
      without c.place.1 c.place.2 before.tags
  rest : after = { before with tags := after.tags }

/- A row that is put makes a change. -/
theorem isMade_of_put
    {c : Change}
    (row : TagRow)
    {a : Statement.Answer (.putTag row)}
    (hPlace : row.place = c.place)
    (hBody : some row.body = c.body?)
    (hEffect :
      (Statement.putTag row).effect t = .ok (a, after)) :
    c.IsMade t after := by
  have hUnder : row.isUnder c.place.1 c.place.2 = true := by
    rw [← hPlace]
    simp [TagRow.isUnder, TagRow.place]
  cases hEffect
  refine ⟨?_, without_putRow hUnder, rfl⟩
  rw [bodyOf_putRow, if_pos hUnder, hBody]

theorem isMade_of_drop
    {g : Int}
    {key : String}
    {wasHeld : Bool}
    (hEffect :
      (Statement.dropTag g (normalizeKey key)).effect t =
        .ok (wasHeld, after)) :
    (Change.delete g key).IsMade t after := by
  cases hEffect
  refine ⟨?_, without_without, rfl⟩
  exact bodyOf_without.trans (if_pos ⟨rfl, rfl⟩)

/- To delete what is not there changes nothing. -/
theorem eq_of_drop
    {g : Int}
    {key : String}
    (hEffect :
      (Statement.dropTag g key).effect t = .ok (false, after)) :
    after = t := by
  have hParts := Prod.mk.inj (Except.ok.inj hEffect)
  have hAbsent : bodyOf t.tags g key = none := by
    have hHeld :
        ((without g key t.tags).length != t.tags.length) =
          false :=
      hParts.1
    rw [dropped_eq_isSome] at hHeld
    exact Option.isNone_iff_eq_none.mp
      (Option.isSome_eq_false_iff.mp hHeld)
  rw [← hParts.2]
  exact congrArg (fun tags => { t with tags })
    (without_of_absent hAbsent)

end Change

/- What a command asks for has been made. -/
def Order.Makes
    (o : Order)
    (before after : Tables) : Prop :=
  ∃ c, o.change = .ok c ∧ c.IsMade before after

------------------------------------------------------------
-- Calls
------------------------------------------------------------

/- A guarded program ends well just if the program does. -/
theorem runs_guarded
    {α : Type}
    {p : Program α}
    {complaint : String}
    {result : Except Cause α}
    (hRuns : Runs (guarded complaint p) trace result) :
    ∃ inner, Runs p trace inner ∧
      ∀ a, result = .ok a ↔ inner = .ok a := by
  rcases exists_runs_of_attempt_bind hRuns with
    ⟨before, inner, after, rfl, hFirst, hRest⟩
  cases inner with
  | ok a =>
      rcases runs_done_iff.mp hRest with ⟨rfl, rfl⟩
      rw [List.append_nil]
      exact ⟨_, hFirst, fun _ => Iff.rfl⟩
  | error cause =>
      have hFail :
          ∃ failure : Cause,
            (if cause != .cancelled && true then
              (throw (.externalService complaint) : Program α)
            else throw cause) = .fail failure := by
        split <;> exact ⟨_, rfl⟩
      rcases hFail with ⟨failure, hFail⟩
      simp only [hFail] at hRest
      rcases runs_fail_iff.mp hRest with ⟨rfl, rfl⟩
      rw [List.append_nil]
      exact ⟨_, hFirst, by simp⟩

theorem fate_of_put
    {c : Change}
    {g : Int}
    {key body : String}
    {authorId : Int}
    {result : Except Cause Unit}
    (hPlace : c.place = (g, normalizeKey key))
    (hBody : c.body? = some body)
    (hRuns : Runs (Tag.put g key body authorId) trace result)
    (hStart : h.connection = .ofTables t)
    (hNone : (n, true) ∉ h.turns)
    (hWrites : WritesAll n trace h later) :
    Fate (c.IsMade t) t n (result = .ok ()) trace later := by
  rcases runs_guarded hRuns with ⟨inner, hInner, hSame⟩
  have hFate :=
    (fate_of_execute (by simp) hInner hStart hNone hWrites).1
  have hWell : result = .ok () ↔ ∃ a, inner = .ok a :=
    (hSame ()).trans ⟨fun hOk => ⟨(), hOk⟩, fun ⟨_, hOk⟩ => hOk⟩
  rw [hWell]
  refine hFate.mono ?_
  rintro t' ⟨_, hEffect⟩
  exact Change.isMade_of_put
    ⟨g, normalizeKey key, body, authorId⟩ hPlace.symm hBody.symm
    hEffect

theorem fate_of_drop
    {g : Int}
    {key : String}
    {result : Except Cause Bool}
    (hRuns : Runs (Tag.drop g key) trace result)
    (hStart : h.connection = .ofTables t)
    (hNone : (n, true) ∉ h.turns)
    (hWrites : WritesAll n trace h later) :
    Fate ((Change.delete g key).IsMade t) t n
      (result = .ok true) trace later := by
  rcases runs_guarded hRuns with ⟨inner, hInner, hSame⟩
  rcases fate_of_execute (by simp) hInner hStart hNone hWrites
    with ⟨hFate, hAnswer⟩
  refine
    ⟨fun hOk => hFate.well ⟨true, (hSame true).mp hOk⟩, ?_,
      (hFate.mono fun t' ⟨_, hEffect⟩ =>
        Change.isMade_of_drop hEffect).kept,
      (hFate.mono fun t' ⟨_, hEffect⟩ =>
        Change.isMade_of_drop hEffect).left⟩
  intro hIll hTurn
  cases hEnd : inner with
  | error cause =>
      refine hFate.ill ?_ hTurn
      rintro ⟨_, hOk⟩
      cases hEnd.symm.trans hOk
  | ok wasHeld =>
      have hHeld : wasHeld = false := by
        refine eq_false_of_ne_true ?_
        rintro rfl
        exact hIll ((hSame true).mpr hEnd)
      rw [hHeld] at hEnd
      -- The deletion is committed, but there was nothing there.
      rcases hAnswer false hEnd with ⟨t', hEffect⟩
      rcases (hFate.kept hTurn).2.1 with ⟨a, hKept⟩
      have hSame := Except.ok.inj (hKept.symm.trans hEffect)
      rw [(Prod.mk.inj hSame).2]
      exact Or.inr (Change.eq_of_drop hEffect)

/- To look for a tag is to read. -/
theorem isReading_of_find
    {g : Int}
    {key : String}
    {result : Except Cause (Option String)}
    (hRuns : Runs (Tag.find g key) trace result) :
    ∀ e ∈ trace, isReading e = true := by
  have hOnly :
      (Tag.find g key).Only fun r =>
        ∀ answer, isReading (.asked r answer) = true := by
    refine Only.bind (Only.handling ?_ fun _ => trivial)
      fun _ => trivial
    exact (Only.request fun _ => rfl).bind fun _ =>
      Only.request fun _ => rfl
  intro e hMember
  cases e with
  | saw m => rfl
  | asked r answer =>
      exact hOnly.of_runs hRuns r answer hMember answer

------------------------------------------------------------
-- Commands
------------------------------------------------------------

variable {o : Order}

/- A script runs in two parts, its first call and the rest. -/
theorem runs_calls
    {c : Tag.Call}
    {next : Except Cause c.Answer → Script}
    {result : Except Cause Unit}
    (hRuns : Runs (Script.calls c next).program trace result) :
    ∃ calling answer rest, trace = calling ++ rest ∧
      Runs c.program calling answer ∧
        Runs (next answer).program rest result := by
  rw [Script.program] at hRuns
  exact exists_runs_of_attempt_bind hRuns

theorem runs_ends
    {end? result : Except Cause Unit}
    (hRuns : Runs (Script.ends end?).program trace result) :
    trace = [] ∧ result = end? := by
  rw [Script.program] at hRuns
  exact runs_settle_iff.mp hRuns

/- A script that puts a tag, and ends as that does. -/
theorem fate_of_putting
    {c : Change}
    {g : Int}
    {key body : String}
    {authorId : Int}
    {result : Except Cause Unit}
    (hPlace : c.place = (g, normalizeKey key))
    (hBody : c.body? = some body)
    (hRuns :
      Runs (Script.calls (.put g key body authorId) .ends).program
        trace result)
    (hStart : h.connection = .ofTables t)
    (hNone : (n, true) ∉ h.turns)
    (hWrites : WritesAll n trace h later) :
    Fate (c.IsMade t) t n (result = .ok ()) trace later := by
  rcases runs_calls hRuns with
    ⟨putting, put, rest, rfl, hPut, hRest⟩
  rcases runs_ends hRest with ⟨rfl, rfl⟩
  rw [List.append_nil] at hWrites ⊢
  exact fate_of_put hPlace hBody hPut hStart hNone hWrites

theorem fate_of_dropping
    {g : Int}
    {key : String}
    {result : Except Cause Unit}
    (hRuns :
      Runs (Change.delete g key).script.program trace result)
    (hStart : h.connection = .ofTables t)
    (hNone : (n, true) ∉ h.turns)
    (hWrites : WritesAll n trace h later) :
    Fate ((Change.delete g key).IsMade t) t n (result = .ok ())
      trace later := by
  rw [Change.script] at hRuns
  rcases runs_calls hRuns with
    ⟨dropping, dropped, rest, rfl, hDrop, hRest⟩
  rcases runs_ends hRest with ⟨rfl, rfl⟩
  rw [List.append_nil] at hWrites ⊢
  have hWell :
      Change.afterDrop key dropped = .ok () ↔
        dropped = .ok true := by
    constructor
    · intro hOk
      rcases dropped with cause | _ | _
      · cases hOk
      · cases hOk
      · rfl
    · rintro rfl
      rfl
  rw [hWell]
  exact fate_of_drop hDrop hStart hNone hWrites

/- An update looks for its tag before it puts it. -/
theorem fate_of_updating
    {g : Int}
    {key body : String}
    {authorId : Int}
    {result : Except Cause Unit}
    (hRuns :
      Runs (Change.update g key body authorId).script.program
        trace result)
    (hStart : h.connection = .ofTables t)
    (hNone : (n, true) ∉ h.turns)
    (hWrites : WritesAll n trace h later) :
    Fate ((Change.update g key body authorId).IsMade t) t n
      (result = .ok ()) trace later := by
  rw [Change.script] at hRuns
  rcases runs_calls hRuns with
    ⟨finding, found, rest, rfl, hFind, hRest⟩
  have hReading := isReading_of_find hFind
  have hSettled : h.connection.IsSettled := by
    rw [hStart]
    rfl
  rcases writesAll_append hWrites with
    ⟨between, hFound, hWritten⟩
  rcases hFound.eq_of_reading hReading hSettled with
    ⟨hSame, hTurns⟩
  rw [← hTurns] at hNone
  rw [← hSame] at hStart
  have hEnds
      {cause : Cause}
      (hRest :
        Runs (Script.ends (.error cause)).program rest result) :
      Fate ((Change.update g key body authorId).IsMade t) t n
        (result = .ok ()) rest later := by
    rcases runs_ends hRest with ⟨rfl, rfl⟩
    cases hWritten
    exact .of_untouched hNone (by simp) hStart
  refine Fate.before
    (fun e hMember => isCommit_of_reading (hReading e hMember)) ?_
  rcases found with cause | found
  · exact hEnds hRest
  · cases found with
    | none => exact hEnds hRest
    | some old =>
        exact fate_of_putting rfl rfl hRest hStart hNone hWritten

/- What becomes of a change when the calls for it are over. -/
theorem fate_of_script
    {result : Except Cause Unit}
    (hRuns : Runs o.script.program trace result)
    (hStart : h.connection = .ofTables t)
    (hNone : (n, true) ∉ h.turns)
    (hWrites : WritesAll n trace h later) :
    Fate (o.Makes t) t n (result = .ok ()) trace later := by
  unfold Order.script at hRuns
  cases hChange : o.change with
  | error cause =>
      rw [hChange] at hRuns
      rcases runs_ends hRuns with ⟨rfl, rfl⟩
      cases hWrites
      exact .of_untouched hNone (by simp) hStart
  | ok change =>
      rw [hChange] at hRuns
      have hFate :
          Fate (change.IsMade t) t n (result = .ok ()) trace
            later := by
        cases change with
        | create g key body authorId =>
            exact fate_of_putting rfl rfl hRuns hStart hNone
              hWrites
        | update g key body authorId =>
            exact fate_of_updating hRuns hStart hNone hWrites
        | delete g key =>
            exact fate_of_dropping hRuns hStart hNone hWrites
      exact hFate.mono fun t' hMade => ⟨change, hChange, hMade⟩

/- A change is acknowledged unless the platform refuses to. -/
theorem ok_iff_of_acknowledge
    {ctx : Context}
    {result : Except Cause Unit}
    (hRuns : Runs ctx.acknowledge trace result) :
    result = .ok () ↔ ¬ IsRefused trace := by
  unfold Context.acknowledge at hRuns
  split at hRuns
  · cases hRuns with
    | ask answer hRest =>
        cases answer with
        | error cause =>
            rcases runs_fail_iff.mp hRest with ⟨rfl, rfl⟩
            refine iff_of_false (by simp) ?_
            exact fun hServed =>
              hServed ⟨_, cause, List.mem_cons_self⟩
        | ok _ =>
            rcases runs_done_iff.mp hRest with ⟨rfl, rfl⟩
            refine iff_of_true rfl ?_
            intro hRefused
            exact not_isRefused_nil
              (isRefused_cons_ok_iff.mp hRefused)
  · rcases runs_done_iff.mp hRuns with ⟨rfl, rfl⟩
    exact iff_of_true rfl not_isRefused_nil

/- What becomes of it when it was acknowledged, too. -/
theorem fate_of_program
    {result : Except Cause Unit}
    (hRuns : Runs o.program trace result)
    (hStart : h.connection = .ofTables t)
    (hNone : (n, true) ∉ h.turns)
    (hWrites : WritesAll n trace h later) :
    Fate (o.Makes t) t n (result = .ok ()) trace later := by
  rw [Order.program_eq] at hRuns
  rcases runs_bind_iff.mp hRuns with
    ⟨cause, rfl, hScript⟩ |
      ⟨calling, _, after, rfl, hScript, hAcknowledge⟩
  · have hFate := fate_of_script hScript hStart hNone hWrites
    simpa using hFate
  · rcases writesAll_append hWrites with
      ⟨between, hCalled, hAfter⟩
    have hSame : later = between :=
      hAfter.eq_of_other
        (Context.only_acknowledge.isOfStore_of_runs
          hAcknowledge)
    rw [hSame]
    refine (fate_of_script hScript hStart hNone hCalled).after ?_
    rw [ok_iff_of_acknowledge hAcknowledge]
    simp

------------------------------------------------------------
-- Reports
------------------------------------------------------------

/- The name under which a command is found. -/
def Kind.name : Kind → String
  | .create => "create"
  | .update => "update"
  | .delete => "delete"

/-
  A commit was carried out, and the commit or something after
  it was refused.
-/
def IsLate
    (n : Nat)
    (trace : List Exchange)
    (later : Chronicle) : Prop :=
  (n, true) ∈ later.turns ∧ IsRefused (sinceCommit trace)

theorem handler_of_lookup
    {kind : Kind}
    {c : Command}
    (hCommand : subcommands.lookup kind.name = some c)
    (ctx : Context)
    (tail : String) :
    c.handler ctx tail = (Order.mk kind ctx tail).program := by
  cases kind <;> cases hCommand <;> rfl

variable {r : Router}
variable {m : Message}
variable {kind : Kind}
variable {c : Command}
variable {tail : String}
variable {outcome : Outcome}

theorem fate_of_route
    (hCommand : subcommands.lookup kind.name = some c)
    (hSelect : r.select m.text = some (c, tail))
    (hRuns : Runs (r.route m) trace (.ok outcome))
    (hStart : h.connection = .ofTables t)
    (hNone : (n, true) ∉ h.turns)
    (hWrites : WritesAll n trace h later) :
    Fate ((Order.mk kind (r.contextOf m) tail).Makes t) t n
      (outcome = .handled) trace later := by
  rcases Router.handler_of_route hSelect hRuns with
    ⟨hIll, hOther⟩ |
      ⟨entering, handling, leaving, result, rfl, hHandler,
        hEntering, hLeaving, hHandled⟩
  · rw [hWrites.eq_of_other hOther]
    exact .of_untouched hNone hIll hStart
  · rcases writesAll_append hWrites with
      ⟨handled, hBefore, hAfter⟩
    rcases writesAll_append hBefore with
      ⟨entered, hEnter, hHandle⟩
    rw [hAfter.eq_of_other hLeaving]
    rw [hEnter.eq_of_other hEntering] at hHandle
    rw [handler_of_lookup hCommand] at hHandler
    have hFate := fate_of_program hHandler hStart hNone hHandle
    exact (hFate.before fun e hMember =>
      isCommit_of_other (hEntering e hMember)).after hHandled

/-
  What a message that calls a command on tags reports. If it
  was handled, its change is made. Otherwise the tables are as
  they were, except just if the commit was carried out and the
  failure came with it or later; then the change is made too.
  What is seen differs from what is permanent only if the
  transaction was cut off.
-/
theorem route_reports_change
    (hCommand : subcommands.lookup kind.name = some c)
    (hSelect : r.select m.text = some (c, tail))
    (hRuns : Runs (r.route m) trace (.ok outcome))
    (hWrites :
      WritesAll 0 trace (.start (.ofTables t)) later) :
    (outcome = .handled →
      (Order.mk kind (r.contextOf m) tail).Makes t
          later.connection.permanent ∧
        later.connection.IsSettled) ∧
    (outcome ≠ .handled → ¬ IsLate 0 trace later →
      later.connection.permanent = t) ∧
    (IsLate 0 trace later →
      outcome ≠ .handled ∧
        (Order.mk kind (r.contextOf m) tail).Makes t
          later.connection.permanent) ∧
    (later.connection.current ≠ later.connection.permanent →
      outcome ≠ .handled ∧ IsCut trace ∧
        (Order.mk kind (r.contextOf m) tail).Makes t
          later.connection.current) := by
  have hFate :=
    fate_of_route hCommand hSelect hRuns rfl List.not_mem_nil
      hWrites
  refine ⟨?_, ?_, ?_, ?_⟩
  · intro hHandled
    exact (hFate.kept (hFate.well hHandled).1).2
  · intro hIll hTimely
    by_cases hTurn : (0, true) ∈ later.turns
    · refine (hFate.ill hIll hTurn).resolve_left ?_
      exact fun hRefused => hTimely ⟨hTurn, hRefused⟩
    · exact (hFate.left hTurn).1
  · rintro ⟨hTurn, hRefused⟩
    exact ⟨fun hHandled => (hFate.well hHandled).2 hRefused,
      (hFate.kept hTurn).2.1⟩
  · intro hSeen
    by_cases hTurn : (0, true) ∈ later.turns
    · have hSettled := (hFate.kept hTurn).2.2
      rw [hSettled] at hSeen
      exact (hSeen rfl).elim
    · rcases hFate.left hTurn with ⟨hPermanent, hLeft⟩
      have hMade := hLeft.resolve_left
        fun hSame => hSeen (hSame.trans hPermanent.symm)
      exact ⟨fun hHandled => hTurn (hFate.well hHandled).1,
        hMade.2, hMade.1⟩

/- A router of the commands on tags, for those with role 7. -/
def tagRouter : Router where
  roles := ⟨IdSet.ofList [7], [], IdSet.ofList [], [], none⟩
  mark := "?"
  timeout := .seconds 10
  keepsHistory := false
  entries := entries.map fun e => (e.key, e)

/- A message by a member with the role. -/
def wish : Message where
  text := "?tags create k v1"
  author := ⟨4, "member", false⟩
  guildId := some 1
  channelId := 20
  messageId := some 10
  memberRoles := some (IdSet.ofList [7])

def informed : Memory :=
  { Memory.empty with
    roles :=
      {
        names :=
          IdMap.ofList [(1, IdMap.ofList [(7, "WG & Teams")])]
        members := IdMap.empty
      } }

def untagged : Tables :=
  { Tables.blank with created := [.tags] }

def someTag : TagRow :=
  ⟨1, "k", "v1", 4⟩

/- The reaction that acknowledges the change is refused. -/
def unthanked : List Exchange :=
  [
    .saw informed,
    .asked (.startTimer (.seconds 10)) (.ok ()),
    .asked .reachStore (.ok ()),
    .asked .lockStore (.ok ()),
    .asked (.statement (.putTag someTag)) (.ok ()),
    .asked .commit (.ok ()),
    .asked .unlockStore (.ok ()),
    .asked (.platform (.addReaction 20 10 checkMark))
      (.error (.refused 403)),
    .asked .stopTimer (.ok false),
    .asked
      (.platform
        (.sendMessage 20 (some (.text Router.failureReply))
          none))
      (.ok .null)
  ]

/- The chronicle of the store. -/
def unthankedLater : Chronicle :=
  let after := ((Connection.ofTables untagged).run (.putTag someTag)).2
  ((Chronicle.start (.ofTables untagged)).execute 0
    (.putTag someTag) after).commit 0

/-
  The command reports a failure as its reaction is refused; the
  tag is there.
-/
theorem unthanked_is_made :
    Runs (tagRouter.route wish) unthanked (.ok .failed) ∧
      WritesAll 0 unthanked (.start (.ofTables untagged))
        unthankedLater ∧
      IsLate 0 unthanked unthankedLater ∧
      bodyOf untagged.tags 1 "k" = none ∧
        bodyOf unthankedLater.connection.permanent.tags 1 "k" =
          some "v1" := by
  have hRuns :
      Runs (tagRouter.route wish) unthanked (.ok .failed) :=
    .access _ (.ask _ (.ask _ (.ask _ (.ask _ (.ask _ (.ask _
      (.ask _ (.ask _ (.ask _ (.done _))))))))))
  have hWrites :
      WritesAll 0 unthanked (.start (.ofTables untagged))
        unthankedLater :=
    .cons (.passed rfl) (.cons (.passed rfl)
      (.cons (.passed rfl) (.cons (.passed rfl)
        (.cons (.executed (s := .putTag someTag) (a := ()) _ rfl
            (Or.inl rfl))
          (.cons (.committed _ (Or.inl rfl))
            (.cons (.passed rfl) (.cons (.passed rfl)
              (.cons (.passed rfl) (.cons (.passed rfl)
                (.nil _))))))))))
  have hLate : IsLate 0 unthanked unthankedLater := by
    refine ⟨by decide,
      .platform (.addReaction 20 10 checkMark), .refused 403, ?_⟩
    exact List.mem_cons_of_mem _
      (List.mem_cons_of_mem _ List.mem_cons_self)
  have hCalls :
      ∃ c, subcommands.lookup Kind.create.name = some c ∧
        tagRouter.select wish.text = some (c, "k v1") :=
    ⟨_, rfl, rfl⟩
  rcases hCalls with ⟨c, hCommand, hSelect⟩
  rcases route_reports_change hCommand hSelect hRuns hWrites with
    ⟨_, _, hReport, _⟩
  rcases (hReport hLate).2 with ⟨change, hChange, hMade⟩
  have hCreate :
      (Order.mk .create (tagRouter.contextOf wish)
        "k v1").change = .ok (.create 1 "k" "v1" 4) := by
    decide
  cases hChange.symm.trans hCreate
  exact ⟨hRuns, hWrites, hLate, rfl, hMade.body⟩

end Command.Tags

end GuildWarden
