import GuildWarden.Proofs.Effect.Relaying
import GuildWarden.Proofs.Store.Faultless
import GuildWarden.Proofs.Store.Tags
import GuildWarden.Tag.Library

/-
  This file follows the calls of the tag library one after
  another, although the store may refuse a statement or a
  commit. The library is a map from the keys of each guild to
  bodies; a call that fails does so in the words of the
  library and leaves the map as it was.

  Key definitions include:
    * `Tag.Call`
    * `Tag.Deed`
    * `Tag.Recorded`
    * `Tag.shelf`
    * `Tag.Call.IsRight`

  Main statements:
    * `Tag.fits_of_performs`
    * `Tag.isShelved_of_recorded`
    * `Tag.exists_performs_call`
    * `Tag.library_is_map`
-/

namespace GuildWarden.Tag

open Program Store

------------------------------------------------------------
-- Calls
------------------------------------------------------------

/- What the library can be asked for. -/
inductive Call where
  | find (guildId : Int) (key : String)
  | put (guildId : Int) (key body : String) (authorId : Int)
  | drop (guildId : Int) (key : String)
  | keys (guildId : Int)

namespace Call

def Answer : Call → Type
  | .find _ _ => Option String
  | .put _ _ _ _ => Unit
  | .drop _ _ => Bool
  | .keys _ => List String

def program : (c : Call) → Program c.Answer
  | .find g key => Tag.find g key
  | .put g key body authorId => Tag.put g key body authorId
  | .drop g key => Tag.drop g key
  | .keys g => Tag.keys g

/- The guild and the normalized key that a call changes. -/
def place? : Call → Option (Int × String)
  | .put g key _ _ => some (g, normalizeKey key)
  | .drop g key => some (g, normalizeKey key)
  | _ => none

/- The numbers that a call hands to the store. -/
def numbers : Call → List Int
  | .find g _ => [g]
  | .put g _ _ authorId => [g, authorId]
  | .drop g _ => [g]
  | .keys g => [g]

/- The words in which a call fails. -/
def complaint : Call → String
  | .find _ key => "tag lookup failed for " ++ Text.quoted key
  | .put _ key _ _ =>
    "tag write failed for " ++ Text.quoted (normalizeKey key)
  | .drop _ key =>
    "tag delete failed for " ++ Text.quoted (normalizeKey key)
  | .keys _ => "tag listing failed"

/- The body that a call leaves where it changes something. -/
def left? : Call → Option String
  | .put _ _ body _ => some body
  | _ => none

/- Some keys are all that a guild has, once each and ascending. -/
def IsListing
    (held : String → Option String)
    (listed : List String) : Prop :=
  listed.Pairwise (· < ·) ∧
    ∀ k, k ∈ listed ↔ (held k).isSome = true

/- Whether an answer is that of a map from keys to bodies. -/
def IsRight
    (held : Int → String → Option String) :
    (c : Call) → c.Answer → Prop
  | .find g key, body => body = held g (normalizeKey key)
  | .put _ _ _ _, _ => True
  | .drop g key, wasHeld =>
    wasHeld = (held g (normalizeKey key)).isSome
  | .keys g, listed => IsListing (held g) listed

end Call

/- A call that was made, with its exchanges and its end. -/
structure Deed where
  call : Call
  trace : List Exchange
  result : Except Cause call.Answer

/- Whether a call succeeded and changed what is under a key. -/
def Deed.changes
    (g : Int)
    (k : String)
    (d : Deed) : Bool :=
  d.result.isOk && d.call.place? == some (g, k)

/-
  The calls that were made from a state on, the latest first,
  and the state after them. Between two of them time may pass
  and the memory may change.
-/
inductive Recorded
    (initial : Shared) : List Deed → Shared → Prop where
  | nil :
      Recorded initial [] initial
  | pass
      {deeds : List Deed}
      {w : Shared}
      (now : Rat)
      (m : Memory)
      (hRecorded : Recorded initial deeds w) :
      Recorded initial deeds
        { w with clock := now, memory := m }
  | cons
      {deeds : List Deed}
      {w later : Shared}
      (d : Deed)
      (hRecorded : Recorded initial deeds w)
      (hPerforms :
        Performs w d.call.program d.trace d.result later) :
      Recorded initial (d :: deeds) later

/-
  What is under a key: the body of the last call that put it
  there and that no deletion followed, or else what was there
  at first.
-/
def shelf
    (initial : Int → String → Option String)
    (deeds : List Deed)
    (g : Int)
    (k : String) : Option String :=
  match deeds.find? (·.changes g k) with
  | some d => d.call.left?
  | none => initial g k

/- The stored bodies under the keys of the guilds. -/
def stored
    (w : Shared) : Int → String → Option String :=
  bodyOf w.store.current.tags

/- What it comes to that a call is made. -/
structure Deed.Fits
    (d : Deed)
    (w later : Shared) : Prop where
  rest : later.IsAtRest
  keyed : IsKeyed later.store.current.tags
  created :
    later.store.current.created = w.store.current.created
  quiet : d.call.place? = none → later = w
  right :
    ∀ a, d.result = .ok a → d.call.IsRight (stored w) a
  wrong :
    ∀ cause, d.result = .error cause →
      cause = .externalService d.call.complaint ∧
        IsRefused d.trace ∧ later = w
  left :
    ∀ g k,
      stored later g k =
        if d.changes g k then d.call.left? else stored w g k

------------------------------------------------------------
-- One Call
------------------------------------------------------------

variable {w later : Shared}
variable {trace : List Exchange}

/- A failure is reported in the words of the library. -/
theorem performs_guarded
    {α : Type}
    {p : Program α}
    {complaint : String}
    {result : Except Cause α}
    (hRelays : p.Relays fun _ => False)
    (hOwn : p.Requests fun r => ¬ IsCall r)
    (hPerforms :
      Performs w (guarded complaint p) trace result later) :
    (∃ a, result = .ok a ∧
      Performs w p trace (.ok a) later) ∨
    (∃ cause, result = .error (.externalService complaint) ∧
      IsRefused trace ∧
        Performs w p trace (.error cause) later) := by
  rcases performs_handling_iff.mp hPerforms with
    ⟨attempted, before, between, after, rfl, hFirst, hRest⟩
  cases attempted with
  | ok a =>
      rcases hRest with ⟨rfl, rfl, rfl⟩
      rw [List.append_nil]
      exact Or.inl ⟨a, rfl, hFirst⟩
  | error cause =>
      rcases ne_cancelled_of_relays hRelays hOwn hFirst with
        ⟨hCause, hRefused⟩
      simp only [ne_eq, hCause, not_false_eq_true, and_self,
        if_true] at hRest
      rcases performs_fail_iff.mp hRest with ⟨rfl, rfl, rfl⟩
      rw [List.append_nil]
      exact Or.inr ⟨cause, rfl, hRefused, hFirst⟩

/- A reading of one statement that only reads. -/
theorem performs_guarded_reading
    {s : Statement}
    {complaint : String}
    {result : Except Cause s.Answer}
    (hRead : s.isWrite = false)
    (hOld : ∀ name, s ≠ .createTable name)
    (hRest : w.IsAtRest)
    (hPerforms :
      Performs w (guarded complaint (reading (execute s)))
        trace result later) :
    later = w ∧
      ((∃ a, result = .ok a ∧
        s.effect w.store.current =
          .ok (a, w.store.current)) ∨
      (result = .error (.externalService complaint) ∧
        IsRefused trace)) := by
  have hOwn :
      (reading (execute s)).Requests
        fun r => ¬ IsCall r :=
    Requests.bind (Requests.request id) fun _ =>
      Requests.request id
  rcases performs_guarded
      (relays_reading (Relays.request (.statement s)))
      hOwn hPerforms with
    ⟨a, rfl, hDone⟩ | ⟨cause, rfl, hRefused, hDone⟩
  · rcases performs_reading hDone with ⟨inner, rfl, hBody⟩
    rcases performs_execute_read hRead hOld hRest.settled hBody
      with ⟨_, hSame, hAnswer⟩
    exact ⟨hSame, Or.inl ⟨a, rfl, hAnswer a rfl⟩⟩
  · rcases performs_reading hDone with ⟨inner, rfl, hBody⟩
    rcases performs_execute_read hRead hOld hRest.settled hBody
      with ⟨_, hSame, _⟩
    exact ⟨hSame, Or.inr ⟨rfl, hRefused⟩⟩

/- A transaction of one statement. -/
theorem performs_guarded_transaction
    {s : Statement}
    {complaint : String}
    {result : Except Cause s.Answer}
    (hOld : ∀ name, s ≠ .createTable name)
    (hRest : w.IsAtRest)
    (hPerforms :
      Performs w (guarded complaint (transaction (execute s)))
        trace result later) :
    (∃ a t, result = .ok a ∧
      s.effect w.store.current = .ok (a, t) ∧
        later = { w with store := .ofTables t }) ∨
    (result = .error (.externalService complaint) ∧
      IsRefused trace ∧ later = w) := by
  have hOwn :=
    requests_transaction
      (Requests.request (r := .statement s) hOld)
  rcases performs_guarded
      (relays_transaction (Relays.request (.statement s)))
      hOwn hPerforms with
    ⟨a, rfl, hDone⟩ | ⟨cause, rfl, hRefused, hDone⟩
  · rcases performs_transaction_execute hOld hRest hDone
      with ⟨_, after, hSame, _, hRun, rfl⟩ | ⟨_, hFail, _⟩
    · cases hSame
      exact Or.inl ⟨a, _, rfl,
        Connection.effect_of_run hRun, rfl⟩
    · cases hFail
  · rcases performs_transaction_execute hOld hRest hDone
      with ⟨_, _, hOk, _⟩ | ⟨_, _, _, rfl⟩
    · cases hOk
    · exact Or.inr ⟨rfl, hRefused, rfl⟩

/- The shelf after a call that changes nothing under a key. -/
theorem fits_of_same
    {d : Deed}
    (hRest : w.IsAtRest)
    (hKeyed : IsKeyed w.store.current.tags)
    (hSame : later = w)
    (hResult :
      (∃ a, d.result = .ok a ∧ d.call.place? = none ∧
        d.call.IsRight (stored w) a) ∨
      (d.result = .error (.externalService d.call.complaint) ∧
        IsRefused d.trace)) :
    d.Fits w later := by
  rw [hSame]
  rcases hResult with
    ⟨a, hOk, hPlace, hRight⟩ | ⟨hError, hRefused⟩
  · refine ⟨hRest, hKeyed, rfl, fun _ => rfl, ?_, ?_, ?_⟩
    · intro a' hOk'
      cases hOk.symm.trans hOk'
      exact hRight
    · intro cause hError
      cases hOk.symm.trans hError
    · intro g k
      simp [Deed.changes, hPlace]
  · refine ⟨hRest, hKeyed, rfl, fun _ => rfl, ?_, ?_, ?_⟩
    · intro a hOk
      cases hError.symm.trans hOk
    · intro cause hError'
      cases hError.symm.trans hError'
      exact ⟨rfl, hRefused, rfl⟩
    · intro g k
      simp [Deed.changes, hError, Except.isOk, Except.toBool]

theorem fits_of_find
    {g : Int}
    {key : String}
    {result : Except Cause (Option String)}
    (hRest : w.IsAtRest)
    (hKeyed : IsKeyed w.store.current.tags)
    (hPerforms :
      Performs w (Tag.find g key) trace result later) :
    Deed.Fits ⟨.find g key, trace, result⟩ w later := by
  rcases performs_bind_iff.mp hPerforms with
    ⟨cause, rfl, hFail⟩ |
      ⟨before, row, after, between, rfl, hRead, hDone⟩
  · rcases performs_guarded_reading rfl (by simp) hRest hFail
      with ⟨hSame, ⟨_, hOk, _⟩ | ⟨hError, hRefused⟩⟩
    · cases hOk
    · cases hError
      exact fits_of_same hRest hKeyed hSame
        (Or.inr ⟨rfl, hRefused⟩)
  · rcases performs_guarded_reading rfl (by simp) hRest hRead
      with ⟨hSame, ⟨_, hOk, hEffect⟩ | ⟨hError, _⟩⟩
    · cases hOk
      cases hEffect
      rcases performs_done_iff.mp hDone with ⟨_, rfl, rfl⟩
      exact fits_of_same hRest hKeyed hSame
        (Or.inl ⟨_, rfl, rfl, rfl⟩)
    · cases hError

theorem fits_of_put
    {g : Int}
    {key body : String}
    {authorId : Int}
    {result : Except Cause Unit}
    (hRest : w.IsAtRest)
    (hKeyed : IsKeyed w.store.current.tags)
    (hPerforms :
      Performs w (Tag.put g key body authorId) trace result
        later) :
    Deed.Fits ⟨.put g key body authorId, trace, result⟩ w
      later := by
  rcases performs_guarded_transaction (by simp) hRest hPerforms
    with ⟨_, t, rfl, hEffect, rfl⟩ | ⟨rfl, hRefused, hSame⟩
  · cases hEffect
    refine ⟨⟨hRest.free, rfl⟩, hKeyed.putRow, rfl, ?_, ?_, ?_,
      ?_⟩
    · intro hQuiet
      cases hQuiet
    · intro _ _
      trivial
    · intro cause hError
      cases hError
    · intro g' k'
      refine bodyOf_putRow.trans ?_
      simp [Deed.changes, Call.place?, Call.left?, Except.isOk,
        Except.toBool, TagRow.isUnder, stored]
  · exact fits_of_same hRest hKeyed hSame
      (Or.inr ⟨rfl, hRefused⟩)

theorem fits_of_drop
    {g : Int}
    {key : String}
    {result : Except Cause Bool}
    (hRest : w.IsAtRest)
    (hKeyed : IsKeyed w.store.current.tags)
    (hPerforms :
      Performs w (Tag.drop g key) trace result later) :
    Deed.Fits ⟨.drop g key, trace, result⟩ w later := by
  rcases performs_guarded_transaction (by simp) hRest hPerforms
    with ⟨_, t, rfl, hEffect, rfl⟩ | ⟨rfl, hRefused, hSame⟩
  · cases hEffect
    refine ⟨⟨hRest.free, rfl⟩, hKeyed.without, rfl, ?_, ?_, ?_,
      ?_⟩
    · intro hQuiet
      cases hQuiet
    · rintro _ ⟨⟩
      exact dropped_eq_isSome
    · intro cause hError
      cases hError
    · intro g' k'
      refine bodyOf_without.trans ?_
      simp [Deed.changes, Call.place?, Call.left?, Except.isOk,
        Except.toBool, stored]
  · exact fits_of_same hRest hKeyed hSame
      (Or.inr ⟨rfl, hRefused⟩)

theorem fits_of_keys
    {g : Int}
    {result : Except Cause (List String)}
    (hRest : w.IsAtRest)
    (hKeyed : IsKeyed w.store.current.tags)
    (hPerforms :
      Performs w (Tag.keys g) trace result later) :
    Deed.Fits ⟨.keys g, trace, result⟩ w later := by
  rcases performs_guarded_reading rfl (by simp) hRest hPerforms
    with ⟨hSame, ⟨_, rfl, hEffect⟩ | ⟨rfl, hRefused⟩⟩
  · cases hEffect
    exact fits_of_same hRest hKeyed hSame
      (Or.inl ⟨_, rfl, rfl, pairwise_sortedKeys hKeyed,
        fun k => mem_sortedKeys_iff⟩)
  · exact fits_of_same hRest hKeyed hSame
      (Or.inr ⟨rfl, hRefused⟩)

/- A call does what it does on a map. -/
theorem fits_of_performs
    {d : Deed}
    (hRest : w.IsAtRest)
    (hKeyed : IsKeyed w.store.current.tags)
    (hPerforms :
      Performs w d.call.program d.trace d.result later) :
    d.Fits w later := by
  rcases d with ⟨call, trace, result⟩
  cases call with
  | find g key => exact fits_of_find hRest hKeyed hPerforms
  | put g key body authorId =>
      exact fits_of_put hRest hKeyed hPerforms
  | drop g key => exact fits_of_drop hRest hKeyed hPerforms
  | keys g => exact fits_of_keys hRest hKeyed hPerforms

------------------------------------------------------------
-- Success
------------------------------------------------------------

/- A program that can succeed can do so when it is guarded. -/
theorem performs_guarded_of_ok
    {α : Type}
    {p : Program α}
    {complaint : String}
    {a : α}
    (hPerforms : Performs w p trace (.ok a) later) :
    Performs w (guarded complaint p) trace (.ok a) later :=
  performs_handling_iff.mpr
    ⟨.ok a, trace, later, [], (List.append_nil _).symm,
      hPerforms, rfl, rfl, rfl⟩

/- The guild of a tag that was looked up fits. -/
theorem fits_of_found
    {g : Int}
    {key : String}
    {found : Option String}
    (hPerforms :
      Performs w (Tag.find g key) trace (.ok found) later) :
    (Call.find g key).numbers.all Statement.fits = true := by
  rcases performs_bind_ok_iff.mp hPerforms with
    ⟨before, row, after, between, _, hRead, _⟩
  rcases performs_guarded
      (relays_reading (Relays.request _))
      (Requests.bind (Requests.request id) fun _ =>
        Requests.request id) hRead with
    ⟨_, _, hReading⟩ | ⟨_, hError, _⟩
  · rcases performs_reading hReading with ⟨_, _, hBody⟩
    have hServes := (performs_request_iff.mp hBody).2
    exact Connection.fits_of_run hServes.1
  · cases hError

/- A call whose numbers fit need not fail. -/
theorem exists_performs_call
    {c : Call}
    (hRest : w.IsAtRest)
    (hCreated : w.store.current.has .tags = true)
    (hFits : c.numbers.all Statement.fits = true) :
    ∃ trace a later, Performs w c.program trace (.ok a) later := by
  have hTable
      {s : Statement}
      (hTags : s.table? = some .tags) :
      s.lacksTable w.store.current = false := by
    unfold Statement.lacksTable
    split
    · rfl
    · rw [hTags]
      simp [hCreated]
  cases c with
  | find g key =>
      rcases exists_run_of_fits (c := w.store)
        (s := .findTag g (normalizeKey key)) (hTable rfl)
        hFits rfl with ⟨after, hRun⟩
      exact ⟨_, _, _, performs_bind_iff.mpr (Or.inr
        ⟨_, _, _, _, rfl, performs_guarded_of_ok
          (performs_reading_of_run hRun), .done _ _⟩)⟩
  | put g key body authorId =>
      rcases exists_run_of_fits (c := w.store)
        (s := .putTag ⟨g, normalizeKey key, body, authorId⟩)
        (hTable rfl) hFits rfl with ⟨after, hRun⟩
      exact ⟨_, _, _, performs_guarded_of_ok
        (performs_transaction_of_run hRest hRun)⟩
  | drop g key =>
      rcases exists_run_of_fits (c := w.store)
        (s := .dropTag g (normalizeKey key)) (hTable rfl)
        hFits rfl with ⟨after, hRun⟩
      exact ⟨_, _, _, performs_guarded_of_ok
        (performs_transaction_of_run hRest hRun)⟩
  | keys g =>
      rcases exists_run_of_fits (c := w.store)
        (s := .tagKeys g) (hTable rfl) hFits rfl with
        ⟨after, hRun⟩
      exact ⟨_, _, _, performs_guarded_of_ok
        (performs_reading_of_run hRun)⟩

------------------------------------------------------------
-- All Calls
------------------------------------------------------------

variable {initial : Shared}
variable {deeds : List Deed}

theorem shelf_cons
    {held : Int → String → Option String}
    {d : Deed}
    {g : Int}
    {k : String} :
    shelf held (d :: deeds) g k =
      if d.changes g k then d.call.left?
      else shelf held deeds g k := by
  rw [shelf, List.find?_cons]
  cases d.changes g k with
  | true => rfl
  | false => rfl

/- What is stored is what the calls so far have left. -/
structure IsShelved
    (initial w : Shared)
    (deeds : List Deed) : Prop where
  rest : w.IsAtRest
  keyed : IsKeyed w.store.current.tags
  created :
    w.store.current.created = initial.store.current.created
  stored : stored w = shelf (stored initial) deeds

theorem isShelved_of_recorded
    (hRest : initial.IsAtRest)
    (hKeyed : IsKeyed initial.store.current.tags)
    (hRecorded : Recorded initial deeds w) :
    IsShelved initial w deeds := by
  induction hRecorded with
  | nil => exact ⟨hRest, hKeyed, rfl, rfl⟩
  | pass now m _ hInduction =>
      exact ⟨⟨hInduction.rest.free, hInduction.rest.settled⟩,
        hInduction.keyed, hInduction.created,
        hInduction.stored⟩
  | cons d _ hPerforms hInduction =>
      have hFits :=
        fits_of_performs hInduction.rest hInduction.keyed
          hPerforms
      refine ⟨hFits.rest, hFits.keyed,
        hFits.created.trans hInduction.created, ?_⟩
      funext g k
      rw [hFits.left, shelf_cons, hInduction.stored]

/-
  The library is a map from the keys of each guild to bodies.
  After any calls, a call that succeeds answers as the map
  does, and changes it. One that fails was refused a request;
  it fails in the words of the library and leaves all as it
  was. No call whose numbers fit has to fail.
-/
theorem library_is_map
    (hRest : initial.IsAtRest)
    (hCreated : initial.store.current.has .tags = true)
    (hKeyed : IsKeyed initial.store.current.tags)
    (hRecorded : Recorded initial deeds w) :
    (∀ d later,
      Performs w d.call.program d.trace d.result later →
        (∀ a, d.result = .ok a →
          d.call.IsRight (shelf (stored initial) deeds) a) ∧
        (∀ cause, d.result = .error cause →
          cause = .externalService d.call.complaint ∧
            IsRefused d.trace ∧ later = w) ∧
        stored later =
          shelf (stored initial) (d :: deeds)) ∧
    ∀ c : Call, c.numbers.all Statement.fits = true →
      ∃ trace a later,
        Performs w c.program trace (.ok a) later := by
  have hShelved := isShelved_of_recorded hRest hKeyed hRecorded
  constructor
  · intro d later hPerforms
    have hFits :=
      fits_of_performs hShelved.rest hShelved.keyed hPerforms
    have hLater :=
      isShelved_of_recorded hRest hKeyed
        (hRecorded.cons d hPerforms)
    refine ⟨?_, hFits.wrong, hLater.stored⟩
    rw [← hShelved.stored]
    exact hFits.right
  · intro c hNumbers
    refine exists_performs_call hShelved.rest ?_ hNumbers
    rw [Tables.has, hShelved.created]
    exact hCreated

------------------------------------------------------------
-- A Key in Two Spellings
------------------------------------------------------------

/- A store without tags. -/
def unshelved : Shared where
  clock := 0
  memory := Memory.empty
  store :=
    .ofTables { Tables.blank with created := [.tags] }
  isLocked := false

/- A tag is put. -/
def shelving :
    List Exchange × Except Cause Unit × Shared :=
  (carryOut unshelved (List.replicate 5 (.ok .null))
    (Tag.put 1 "Rule" "be kind" 7)).getD
      ([], .ok (), unshelved)

theorem performs_shelving :
    Performs unshelved (Tag.put 1 "Rule" "be kind" 7)
      shelving.1 (.ok ()) shelving.2.2 := by
  have hDone :
      carryOut unshelved (List.replicate 5 (.ok .null))
          (Tag.put 1 "Rule" "be kind" 7) =
        some (shelving.1, .ok (), shelving.2.2) :=
    rfl
  exact performs_of_carryOut hDone

/- A transaction whose commit is refused is undone. -/
theorem performs_uncommitted
    {s : Statement}
    {a : s.Answer}
    {after : Connection}
    (hRest : w.IsAtRest)
    (hRun : w.store.run s = (.ok a, after))
    (hUndone : after.rollback = w.store) :
    ∃ trace,
      Performs w (transaction (execute s)) trace
        (.error (.storageFault "")) w := by
  have hReach : w.Serves w .reachStore (.ok ()) := ⟨rfl, rfl⟩
  have hLock : w.Serves w.locked .lockStore (.ok ()) :=
    ⟨hRest.free, rfl, rfl⟩
  have hStatement :
      w.locked.Serves { w.locked with store := after }
        (.statement s) (.ok a) :=
    ⟨hRun, rfl⟩
  have hCommit :
      Shared.Serves { w.locked with store := after }
        { w.locked with store := after }
        .commit (.error (.storageFault "")) :=
    ⟨by decide, rfl⟩
  have hRollback :
      Shared.Serves { w.locked with store := after }
        w.locked .rollback (.ok ()) := by
    refine ⟨rfl, ?_⟩
    rw [hUndone]
    rfl
  have hUnlock : w.locked.Serves w .unlockStore (.ok ()) := by
    refine ⟨rfl, ?_⟩
    rw [Shared.locked, ← hRest.free]
  exact ⟨_, .ask hReach (.ask hLock (.ask hStatement
    (.ask hCommit (.ask hRollback (.ask hUnlock
      (.fail _ _))))))⟩

/- The commit of another put under the same key is refused. -/
theorem performs_refused :
    ∃ trace,
      Performs shelving.2.2
        (Call.put 1 " RULE " "be mean" 8).program trace
        (.error (.externalService
          (Call.put 1 " RULE " "be mean" 8).complaint))
        shelving.2.2 := by
  rcases performs_uncommitted (w := shelving.2.2)
    (s := .putTag ⟨1, normalizeKey " RULE ", "be mean", 8⟩)
    ⟨rfl, rfl⟩ rfl rfl with ⟨trace, hPerforms⟩
  exact ⟨trace, performs_handling_iff.mpr
    ⟨_, _, _, [], (List.append_nil _).symm, hPerforms,
      .fail _ _⟩⟩

/- The first body is found under a third spelling. -/
theorem respelled_key_is_found :
    (∃ trace body later,
      Performs shelving.2.2 (Tag.find 1 "rULE ") trace
        (.ok body) later) ∧
    ∀ trace body later,
      Performs shelving.2.2 (Tag.find 1 "rULE ") trace
        (.ok body) later → body = some "be kind" := by
  rcases performs_refused with ⟨trace, hRefused⟩
  have hRecorded :
      Recorded unshelved
        [⟨.put 1 " RULE " "be mean" 8, trace,
            .error (.externalService _)⟩,
          ⟨.put 1 "Rule" "be kind" 7, shelving.1, .ok ()⟩]
        shelving.2.2 :=
    (Recorded.nil.cons _ performs_shelving).cons _ hRefused
  have hRest : unshelved.IsAtRest := ⟨rfl, rfl⟩
  rcases library_is_map hRest rfl List.nodup_nil hRecorded
    with ⟨hRight, hSucceeds⟩
  refine ⟨hSucceeds (.find 1 "rULE ") rfl, ?_⟩
  intro trace body later hPerforms
  exact (hRight ⟨.find 1 "rULE ", trace, .ok body⟩ later
    hPerforms).1 body rfl

end GuildWarden.Tag
