import GuildWarden.Moderation.Ban
import GuildWarden.Proofs.Effect.Runs
import GuildWarden.Proofs.Payload.Number

/-
  This file says when a ban is issued although its notice was
  not delivered. The notice takes two calls, and either of
  them may fail, or the channel that the first one answers has
  no usable id. A failure is overlooked if it is a refusal of
  the platform, and then the ban is issued as after a notice
  that was sent. Any other failure ends the work before the
  user is banned.

  Key definitions include:
    * `Ban.Delivers`
    * `Ban.isOverlooked`

  Main statements:
    * `Ban.isOverlooked_of_nameless`
    * `Ban.runs_sendNotice_iff`
    * `Ban.runs_impose_iff`
-/

namespace GuildWarden

open Program

variable {trace : List Exchange}

namespace Ban

variable {g : Int}
variable {order : BanOrder}

------------------------------------------------------------
-- The Notice
------------------------------------------------------------

/- The call that opens a channel to the user of an order. -/
def channelCall
    (order : BanOrder) : Request :=
  .platform (.openDirectChannel order.userId)

/- The call that sends the notice of an order to a channel. -/
def noticeCall
    (order : BanOrder)
    (channelId : Int) : Request :=
  .platform
    (.sendMessage channelId
      (some
        (.text
          (Message.truncate
            (BanOrder.notice order.reason order.hours)
            Message.maxLength)))
      none)

/- The ways in which the delivery of a notice goes and ends. -/
inductive Delivers
    (order : BanOrder) :
    List Exchange → Except Cause Unit → Prop where
  | unreachable
      (cause : Cause) :
      Delivers order
        [.asked (channelCall order) (.error cause)]
        (.error cause)
  | nameless
      {channel : Payload}
      {cause : Cause}
      (hNameless : channel.idItem = .error cause) :
      Delivers order
        [.asked (channelCall order) (.ok channel)]
        (.error cause)
  | unsent
      {channel : Payload}
      {channelId : Int}
      (hNamed : channel.idItem = .ok channelId)
      (cause : Cause) :
      Delivers order
        [.asked (channelCall order) (.ok channel),
          .asked (noticeCall order channelId) (.error cause)]
        (.error cause)
  | sent
      {channel : Payload}
      {channelId : Int}
      (hNamed : channel.idItem = .ok channelId)
      (message : Payload) :
      Delivers order
        [.asked (channelCall order) (.ok channel),
          .asked (noticeCall order channelId) (.ok message)]
        (.ok ())

/- Whether the end of a delivery does not stop the ban. -/
def isOverlooked : Except Cause Unit → Bool
  | .ok _ => true
  | .error cause => cause.isRefusal

/- A refusal is no cancellation. -/
theorem ne_cancelled_of_isRefusal
    {cause : Cause}
    (hRefusal : cause.isRefusal = true) :
    cause ≠ .cancelled := by
  rintro rfl
  cases hRefusal

/- A channel without a usable id is not overlooked. -/
theorem isOverlooked_of_nameless
    {channel : Payload}
    {cause : Cause}
    (hNameless : channel.idItem = .error cause) :
    isOverlooked (.error cause) = false := by
  have hMisread := Payload.isMisreading_of_idItem hNameless
  cases cause with
  | refused status => cases hMisread
  | _ => rfl

/- The notice is delivered in these ways and no others. -/
theorem runs_delivery_iff
    {ended : Except Cause Unit} :
    Runs
        ((Platform.sendDirectMessage order.userId
          (.text
            (BanOrder.notice order.reason order.hours))).bind
          fun _ => .done ())
        trace ended ↔
      Delivers order trace ended := by
  constructor
  · intro hRuns
    cases hRuns with
    | ask opened hNext =>
    cases opened with
    | error cause =>
        rcases runs_fail_iff.mp hNext with ⟨rfl, rfl⟩
        exact .unreachable cause
    | ok channel =>
        cases hNamed : channel.idItem with
        | error cause =>
            simp only [settle, Program.bind, bind_eq,
              hNamed] at hNext
            rcases runs_fail_iff.mp hNext with ⟨rfl, rfl⟩
            exact .nameless hNamed
        | ok channelId =>
            simp only [settle, Program.bind, bind_eq,
              hNamed] at hNext
            cases hNext with
            | ask posted hNext =>
            cases posted with
            | error cause =>
                rcases runs_fail_iff.mp hNext with ⟨rfl, rfl⟩
                exact .unsent hNamed cause
            | ok message =>
                rcases runs_done_iff.mp hNext with ⟨rfl, rfl⟩
                exact .sent hNamed message
  · intro hDelivers
    cases hDelivers with
    | unreachable cause => exact .ask _ (.fail cause)
    | nameless hNameless =>
        refine .ask _ ?_
        simp only [settle, Program.bind, bind_eq, hNameless]
        exact .fail _
    | unsent hNamed cause =>
        refine .ask _ ?_
        simp only [settle, Program.bind, bind_eq, hNamed]
        exact .ask _ (.fail cause)
    | sent hNamed message =>
        refine .ask _ ?_
        simp only [settle, Program.bind, bind_eq, hNamed]
        exact .ask _ (.done ())

/- A failure is passed on unless it is overlooked. -/
theorem runs_sendNotice_iff
    {result : Except Cause Unit} :
    Runs (sendNotice order) trace result ↔
      ∃ ended, Delivers order trace ended ∧
        result =
          if isOverlooked ended then .ok () else ended := by
  constructor
  · intro hRuns
    rcases runs_handling_iff.mp hRuns with
      ⟨before, ended, after, rfl, hDelivery, hEnd⟩
    refine ⟨ended, ?_⟩
    rw [← runs_delivery_iff]
    cases ended with
    | ok _ =>
        rcases hEnd with ⟨rfl, rfl⟩
        rw [List.append_nil]
        exact ⟨hDelivery, rfl⟩
    | error cause =>
        by_cases hRefusal : cause.isRefusal = true
        · simp only [if_pos
            (And.intro (ne_cancelled_of_isRefusal hRefusal)
              hRefusal)] at hEnd
          rcases runs_done_iff.mp hEnd with ⟨rfl, rfl⟩
          rw [List.append_nil]
          exact ⟨hDelivery, by simp [isOverlooked, hRefusal]⟩
        · simp only [if_neg (not_and_of_not_right _ hRefusal)]
            at hEnd
          rcases hEnd with ⟨rfl, rfl⟩
          rw [List.append_nil]
          exact ⟨hDelivery, by simp [isOverlooked, hRefusal]⟩
  · rintro ⟨ended, hDelivers, rfl⟩
    refine runs_handling_iff.mpr ⟨trace, ended, [],
      (List.append_nil trace).symm,
      runs_delivery_iff.mpr hDelivers, ?_⟩
    cases ended with
    | ok _ => exact ⟨rfl, rfl⟩
    | error cause =>
        by_cases hRefusal : cause.isRefusal = true
        · simp only [if_pos
            (And.intro (ne_cancelled_of_isRefusal hRefusal)
              hRefusal)]
          simp only [isOverlooked, hRefusal, if_true]
          exact .done ()
        · simp [isOverlooked, hRefusal]

------------------------------------------------------------
-- The Ban
------------------------------------------------------------

/- The call by which the user of an order is banned. -/
def banCall
    (g : Int)
    (order : BanOrder) : Request :=
  .platform
    (.ban g order.userId deletedSeconds (some order.reason))

/- What is left to do once the user was banned. -/
def recording
    (g : Int)
    (order : BanOrder) : Program (Option Int) :=
  if order.hours ≤ 0 then .done none
  else
    clockSeconds.bind fun now =>
      (Store.transaction
        (Store.execute
          (.putBan
            ⟨g, order.userId, now + order.hours * 3600,
              order.reason⟩))).bind fun _ =>
        .done (some (now + order.hours * 3600))

/- What follows when the call for a ban is answered. -/
def concluding
    (g : Int)
    (order : BanOrder) :
    Except Cause Payload → Program (Option Int)
  | .ok _ => recording g order
  | .error cause => .fail cause

theorem impose_eq
    (g : Int)
    (order : BanOrder) :
    impose g order =
      (sendNotice order).bind fun _ =>
        .ask (banCall g order) (concluding g order) := by
  unfold impose
  rw [bind_eq]
  congr
  funext _
  refine congrArg (Program.ask (banCall g order)) ?_
  funext answer
  cases answer with
  | ok a => rfl
  | error cause => rfl

/-
  After the delivery of the notice the user is banned, by one
  and the same call however the delivery ended, if that end is
  overlooked; otherwise it is the end of the whole.
-/
theorem runs_impose_iff
    {result : Except Cause (Option Int)} :
    Runs (impose g order) trace result ↔
      ∃ notice ended, Delivers order notice ended ∧
        ((isOverlooked ended = true ∧
            ∃ answer rest,
              trace =
                  notice ++
                    .asked (banCall g order) answer :: rest ∧
                Runs (concluding g order answer) rest result) ∨
          ∃ cause, ended = .error cause ∧
            cause.isRefusal = false ∧ trace = notice ∧
              result = .error cause) := by
  rw [impose_eq]
  constructor
  · intro hRuns
    rcases runs_bind_iff.mp hRuns with
      ⟨cause, rfl, hFail⟩ | ⟨notice, _, after, rfl, hSent, hBan⟩
    · rcases runs_sendNotice_iff.mp hFail with
        ⟨ended, hDelivers, hEnd⟩
      split at hEnd
      · cases hEnd
      · rename_i hStopped
        cases hEnd
        exact ⟨trace, _, hDelivers, Or.inr
          ⟨cause, rfl, eq_false_of_ne_true hStopped, rfl, rfl⟩⟩
    · rcases runs_sendNotice_iff.mp hSent with
        ⟨ended, hDelivers, hEnd⟩
      have hOverlooked : isOverlooked ended = true := by
        split at hEnd
        · assumption
        · rw [← hEnd]
          rfl
      cases hBan with
      | ask answer hRest =>
      exact ⟨notice, ended, hDelivers, Or.inl
        ⟨hOverlooked, answer, _, rfl, hRest⟩⟩
  · rintro ⟨notice, ended, hDelivers,
      ⟨hOverlooked, answer, rest, rfl, hRest⟩ |
        ⟨cause, rfl, hStopped, rfl, rfl⟩⟩
    · refine runs_bind_iff.mpr (Or.inr ⟨notice, (), _, rfl,
        runs_sendNotice_iff.mpr ⟨ended, hDelivers, ?_⟩,
        Runs.ask (r := banCall g order) answer hRest⟩)
      rw [if_pos hOverlooked]
    · refine runs_bind_iff.mpr (Or.inl ⟨cause, rfl,
        runs_sendNotice_iff.mpr ⟨_, hDelivers, ?_⟩⟩)
      rw [if_neg (by simp [isOverlooked, hStopped])]

/- A ban for an hour. -/
def anHour : BanOrder :=
  ⟨80351110224678912, 1, "spam"⟩

/-
  The network fails while the channel is opened, or the
  channel has no id, and the user is not banned.
-/
theorem undelivered_unbanned :
    Runs (impose 100 anHour)
        [.asked (channelCall anHour) (.error (.system "down"))]
        (.error (.system "down")) ∧
      Runs (impose 100 anHour)
        [.asked (channelCall anHour) (.ok (.map []))]
        (.error .missingField) := by
  have hNameless :
      (Payload.map []).idItem = .error .missingField := rfl
  exact
    ⟨runs_impose_iff.mpr
        ⟨_, _, .unreachable (.system "down"),
          Or.inr ⟨_, rfl, rfl, rfl, rfl⟩⟩,
      runs_impose_iff.mpr
        ⟨_, _, .nameless hNameless,
          Or.inr ⟨_, rfl, rfl, rfl, rfl⟩⟩⟩

end Ban

end GuildWarden
