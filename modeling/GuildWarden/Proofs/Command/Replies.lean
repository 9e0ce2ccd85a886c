import GuildWarden.Proofs.Command.Respect
import GuildWarden.Proofs.Dispatch.Retraction

/-
  This file follows the replies to the messages of commands.
  The replies to one message come one after the other; those
  to different messages go on beside each other, one exchange
  at a time. The history then has, for each message, the reply
  that stands: the last one posted, unless the platform has
  said since that it does not know it. A reply changes the one
  that stands, and is posted where there is none.

  Key definitions include:
    * `Command.Replies.stands`
    * `Command.Replies.IsPost`
    * `Command.Replies.IsReply`
    * `Command.Replies.Moves`
    * `Command.Replies.Course`
    * `Program.Fulfils`

  Main statements:
    * `Command.Context.fulfils_reply`
    * `Command.Replies.Course.fulfils_latest`
    * `Command.Replies.Course.reply_keeps_standing`
-/

namespace GuildWarden

open Program

------------------------------------------------------------
-- Calls
------------------------------------------------------------

namespace Command.Replies

/- A call of the platform with its answer. -/
abbrev Answered : Type :=
  Platform.Call × Except Cause Payload

/- The call that an exchange is, if it is one. -/
def call? : Exchange → Option Answered
  | .asked (.platform c) answer => some (c, answer)
  | _ => none

/-
  The reply that stands after a call. A new message stands; one
  that turns out to be unknown does not stand any more.
-/
def stands
    (before : Option Int) : Answered → Option Int
  | (.sendMessage _ _ _, .ok p) => p.idItem.toOption
  | (.editMessage _ replyId _ _, .error cause) =>
    if cause.isUnknownTarget && before == some replyId then none
    else before
  | _ => before

/-
  What is answered as a rule: a new message has an id, and the
  clock can be read. Everything else may go well or fail.
-/
def IsUsual : (r : Request) → Except Cause r.Answer → Prop
  | .platform (.sendMessage _ _ _), .ok p =>
    ∃ replyId, p.idItem = .ok replyId
  | .now, .error _ => False
  | _, _ => True

theorem exists_isUsual
    (r : Request) :
    ∃ answer, IsUsual r answer := by
  cases r with
  | now => exact ⟨.ok (0 : Rat), trivial⟩
  | platform call =>
      refine ⟨.error .timedOut, ?_⟩
      cases call <;> trivial
  | _ => exact ⟨.error .timedOut, trivial⟩

/- What has an id is not empty. -/
theorem isFilled_of_idItem
    {p : Payload}
    {n : Int}
    (hId : p.idItem = .ok n) :
    p.isFilled = true := by
  cases p with
  | map fields =>
      cases fields with
      | nil => cases hId
      | cons field fields => rfl
  | _ => cases hId

------------------------------------------------------------
-- Replies
------------------------------------------------------------

variable {c : Context}
variable {content : Payload}
variable {card : Option Payload}

/- The calls of a message that is posted, and how it ends. -/
inductive IsPost
    (c : Context)
    (content : Payload)
    (card : Option Payload) :
    List Answered → Except Cause Unit → Prop where
  | unfit
      {cause : Cause}
      (hFit : Platform.contentOf content = .error cause) :
      IsPost c content card [] (.error cause)
  | posted
      {fit : Option Payload}
      (hFit : Platform.contentOf content = .ok fit)
      (message : Payload) :
      IsPost c content card
        [(.sendMessage c.channelId fit card, .ok message)]
        (.ok ())
  | refused
      {fit : Option Payload}
      (hFit : Platform.contentOf content = .ok fit)
      (cause : Cause) :
      IsPost c content card
        [(.sendMessage c.channelId fit card, .error cause)]
        (.error cause)

/-
  The calls of a reply, and how it ends, by the reply that
  stood before. Without one a message is posted. One that
  stands is edited; only if it is unknown is a message posted
  then, and any other failure is raised.
-/
inductive IsReply
    (c : Context)
    (content : Payload)
    (card : Option Payload) :
    Option Int → List Answered → Except Cause Unit → Prop where
  | posted
      {calls : List Answered}
      {result : Except Cause Unit}
      (hPost : IsPost c content card calls result) :
      IsReply c content card none calls result
  | unfit
      {cause : Cause}
      (replyId : Int)
      (hFit :
        Platform.fitted (content.orElse (.text "")) =
          .error cause) :
      IsReply c content card (some replyId) [] (.error cause)
  | edited
      {fit : Payload}
      (replyId : Int)
      (hFit :
        Platform.fitted (content.orElse (.text "")) = .ok fit)
      (message : Payload) :
      IsReply c content card (some replyId)
        [(.editMessage c.channelId replyId fit card,
          .ok message)]
        (.ok ())
  | refused
      {fit : Payload}
      {cause : Cause}
      (replyId : Int)
      (hFit :
        Platform.fitted (content.orElse (.text "")) = .ok fit)
      (hKnown : cause.isUnknownTarget = false) :
      IsReply c content card (some replyId)
        [(.editMessage c.channelId replyId fit card,
          .error cause)]
        (.error cause)
  | replaced
      {fit : Payload}
      {cause : Cause}
      {calls : List Answered}
      {result : Except Cause Unit}
      (replyId : Int)
      (hFit :
        Platform.fitted (content.orElse (.text "")) = .ok fit)
      (hGone : cause.isUnknownTarget = true)
      (hPost : IsPost c content card calls result) :
      IsReply c content card (some replyId)
        ((.editMessage c.channelId replyId fit card,
          .error cause) :: calls)
        result

end Command.Replies

------------------------------------------------------------
-- Programs
------------------------------------------------------------

namespace Program

open Command.Replies

/-
  Whatever is usually answered, and whatever others do in the
  memory meanwhile, a program that began with the given calls
  ends as it should. Of the history it changes no entry but
  that of its own message, and at its end this entry is the
  reply that stands.
-/
def Fulfils
    (i : Int)
    (S : List Answered → Except Cause Unit → Prop) :
    Program Unit → List Answered → (entry stood : Option Int) →
      Prop
  | .done u, calls, entry, stood =>
    S calls (.ok u) ∧ entry = stood
  | .fail cause, calls, entry, stood =>
    S calls (.error cause) ∧ entry = stood
  | .access change next, calls, entry, stood =>
    ∀ m, m.history.replyTo? i = entry →
      (∀ j, j ≠ i →
        (change m).history.find? j = m.history.find? j) ∧
      (next m).Fulfils i S calls
        ((change m).history.replyTo? i) stood
  | .ask r next, calls, entry, stood =>
    ∀ answer, IsUsual r answer →
      (next answer).Fulfils i S
        (calls ++ (call? (.asked r answer)).toList) entry
        ((call? (.asked r answer)).toList.foldl stands stood)

variable {i : Int}
variable {S : List Answered → Except Cause Unit → Prop}
variable {p : Program Unit}
variable {calls : List Answered}
variable {stood : Option Int}
variable {m : Memory}

/- A program that has begun well can end well. -/
theorem Fulfils.exists_end
    (hFulfils :
      p.Fulfils i S calls (m.history.replyTo? i) stood) :
    ∃ rest result, S (calls ++ rest) result ∧
      (p.hasEnded = true → rest = [] ∧ p = settle result) := by
  induction p generalizing m calls stood with
  | done u =>
      refine ⟨[], .ok u, ?_, fun _ => ⟨rfl, rfl⟩⟩
      rw [List.append_nil]
      exact hFulfils.1
  | fail cause =>
      refine ⟨[], .error cause, ?_, fun _ => ⟨rfl, rfl⟩⟩
      rw [List.append_nil]
      exact hFulfils.1
  | access change next hInduction =>
      rcases hInduction m (hFulfils m rfl).2 with
        ⟨rest, result, hEnd, _⟩
      exact ⟨rest, result, hEnd, nofun⟩
  | ask r next hInduction =>
      rcases exists_isUsual r with ⟨answer, hUsual⟩
      rcases hInduction answer (hFulfils answer hUsual) with
        ⟨rest, result, hEnd, _⟩
      rw [List.append_assoc] at hEnd
      exact ⟨_, result, hEnd, nofun⟩

/- Once it has ended, the entry is the reply that stands. -/
theorem Fulfils.eq_of_hasEnded
    {entry : Option Int}
    (hFulfils : p.Fulfils i S calls entry stood)
    (hEnded : p.hasEnded = true) :
    entry = stood := by
  cases p with
  | done u => exact hFulfils.2
  | fail cause => exact hFulfils.2
  | access change next => cases hEnded
  | ask r next => cases hEnded

end Program

namespace Command.Context

open Command.Replies

variable {i : Int}
variable {S : List Answered → Except Cause Unit → Prop}
variable {calls : List Answered}
variable {c : Context}
variable {content : Payload}
variable {card : Option Payload}

/- A message is posted where none stands, and recorded. -/
theorem fulfils_post
    {entry stood : Option Int}
    (hId : c.recordedId? = some i)
    (hEntry : entry = none)
    (hStood : stood = none)
    (hPost :
      ∀ after result, IsPost c content card after result →
        S (calls ++ after) result) :
    ((Platform.sendMessage c.channelId content card).bind
      c.record).Fulfils i S calls entry stood := by
  subst hEntry hStood
  unfold Platform.sendMessage
  cases hFit : Platform.contentOf content with
  | error cause =>
      have hUnfit := hPost [] _ (.unfit hFit)
      rw [List.append_nil] at hUnfit
      exact ⟨hUnfit, rfl⟩
  | ok fit =>
      intro answer hUsual
      cases answer with
      | error cause =>
          exact ⟨hPost _ _ (.refused hFit cause), rfl⟩
      | ok message =>
          rcases hUsual with ⟨replyId, hReply⟩
          have hPosted := hPost _ _ (.posted hFit message)
          rw [← List.append_nil (calls ++ _)] at hPosted
          have hFilled := isFilled_of_idItem hReply
          simp only [Program.bind, Program.settle, record, hId,
            hFilled, hReply, if_true, bind_eq]
          intro time hTime
          cases time with
          | error cause => cases hTime
          | ok time =>
              intro m _
              constructor
              · intro j hOther
                rw [ReplyHistory.find?_record, if_neg hOther]
              · refine ⟨hPosted, ?_⟩
                rw [ReplyHistory.replyTo?,
                  ReplyHistory.find?_record, if_pos rfl]
                simp [call?, stands, hReply, Except.toOption]

/- A reply that stands is edited, or replaced if it is gone. -/
theorem fulfils_change
    {replyId : Int}
    {entry : Option Int}
    (hId : c.recordedId? = some i)
    (hEntry : entry = some replyId) :
    ((c.change i replyId content card).bind
      (c.afresh content card)).Fulfils i
        (IsReply c content card (some replyId)) []
        entry (some replyId) := by
  subst hEntry
  unfold change Platform.editMessage
  cases hFit : Platform.fitted (content.orElse (.text "")) with
  | error cause =>
      have hCause := Platform.eq_badType_of_fitted hFit
      subst hCause
      exact ⟨.unfit replyId hFit, rfl⟩
  | ok fit =>
      intro answer _
      cases answer with
      | ok message =>
          exact ⟨.edited replyId hFit message, rfl⟩
      | error cause =>
          cases hGone : cause.isUnknownTarget with
          | true =>
              have hCause : cause = .refused 404 := by
                simpa [Cause.isUnknownTarget] using hGone
              subst hCause
              intro m _
              constructor
              · intro j hOther
                rw [ReplyHistory.find?_erase, if_neg hOther]
              · have hErased :
                    (m.history.erase i).replyTo? i = none := by
                  rw [ReplyHistory.replyTo?,
                    ReplyHistory.find?_erase, if_pos rfl]
                  rfl
                refine fulfils_post hId hErased ?_ ?_
                · simp [call?, stands, hGone]
                · intro after result hPost
                  exact .replaced replyId hFit hGone hPost
          | false =>
              simp only [attempt, Program.bind, Program.settle,
                pure_eq, hGone, Bool.and_false]
              refine ⟨.refused replyId hFit hGone, ?_⟩
              simp [call?, stands, hGone]

/- A reply does what it should about the one that stands. -/
theorem fulfils_reply
    (stood : Option Int)
    (hId : c.recordedId? = some i) :
    (c.reply content card).Fulfils i
      (IsReply c content card stood) [] stood stood := by
  rw [reply_eq]
  unfold changeEarlier
  simp only [hId]
  intro m hEntry
  refine ⟨fun _ _ => rfl, ?_⟩
  subst hEntry
  cases hStood : m.history.replyTo? i with
  | none =>
      simp only [Program.bind, hStood]
      exact fulfils_post hId hStood rfl fun _ _ => .posted
  | some replyId =>
      simp only [Program.bind, hStood]
      exact fulfils_change hId hStood

end Command.Context

------------------------------------------------------------
-- Courses
------------------------------------------------------------

namespace Command.Replies

/-
  What is done about a message: a reply starts, or the one that
  is under way makes an exchange.
-/
inductive Step where
  | starts
      (c : Context)
      (content : Payload)
      (card : Option Payload)
  | exchanges (e : Exchange)

/- What is under way for each message. -/
abbrev Running : Type :=
  Int → Program Unit

/-
  A step for one message. The next reply starts when the one
  before has ended.
-/
inductive Moves
    (m : Memory)
    (running : Running) :
    Int × Step → Memory → Running → Prop where
  | starts
      (i : Int)
      {c : Context}
      (content : Payload)
      (card : Option Payload)
      (hEnded : (running i).hasEnded = true)
      (hId : c.recordedId? = some i) :
      Moves m running (i, .starts c content card) m
        (Function.update running i (c.reply content card))
  | looks
      (i : Int)
      {change : Memory → Memory}
      {next : Memory → Program Unit}
      (hNext : running i = .access change next) :
      Moves m running (i, .exchanges (.saw m)) (change m)
        (Function.update running i (next m))
  | asks
      (i : Int)
      {r : Request}
      {next : Except Cause r.Answer → Program Unit}
      (hNext : running i = .ask r next)
      (answer : Except Cause r.Answer)
      (hUsual : IsUsual r answer) :
      Moves m running (i, .exchanges (.asked r answer)) m
        (Function.update running i (next answer))

/-
  What can come about when the replies to all messages go on
  in any order, the latest step first. Whatever else changes
  the memory meanwhile leaves the history alone.
-/
inductive Course
    (initial : Memory) :
    List (Int × Step) → Memory → Running → Prop where
  | start :
      Course initial [] initial fun _ => .done ()
  | outside
      {log : List (Int × Step)}
      {m later : Memory}
      {running : Running}
      (hCourse : Course initial log m running)
      (hSame : later.history = m.history) :
      Course initial log later running
  | step
      {log : List (Int × Step)}
      {x : Int × Step}
      {m later : Memory}
      {running running' : Running}
      (hCourse : Course initial log m running)
      (hMoves : Moves m running x later running') :
      Course initial (x :: log) later running'

/- The calls that a step makes for a message. -/
def callsAt
    (i : Int) : Int × Step → List Answered
  | (j, .exchanges e) => if j = i then (call? e).toList else []
  | (_, .starts _ _ _) => []

/- The calls for the replies to a message, the first one first. -/
def calls
    (i : Int)
    (log : List (Int × Step)) : List Answered :=
  log.reverse.flatMap (callsAt i)

/- The reply to a message that stands after all that was done. -/
def standing
    (initial : Memory)
    (i : Int)
    (log : List (Int × Step)) : Option Int :=
  (calls i log).foldl stands (initial.history.replyTo? i)

variable {initial m later : Memory}
variable {log newer older : List (Int × Step)}
variable {running running' : Running}
variable {i j : Int}
variable {e : Exchange}
variable {s : Step}
variable {x : Int × Step}

theorem calls_cons :
    calls i (x :: log) = calls i log ++ callsAt i x := by
  simp [calls]

theorem standing_cons :
    standing initial i (x :: log) =
      (callsAt i x).foldl stands (standing initial i log) := by
  rw [standing, calls_cons, List.foldl_append]
  rfl

theorem callsAt_self :
    callsAt i (i, .exchanges e) = (call? e).toList :=
  if_pos rfl

theorem callsAt_of_ne
    (hOther : x.1 ≠ i) :
    callsAt i x = [] := by
  rcases x with ⟨j, c | e⟩
  · rfl
  · exact if_neg hOther

namespace Moves

variable {S : List Answered → Except Cause Unit → Prop}
variable {begun : List Answered}
variable {stood : Option Int}

/- Nothing happens to what is under way for other messages. -/
theorem running_of_ne
    (hMoves : Moves m running x later running')
    (hOther : i ≠ x.1) :
    running' i = running i := by
  cases hMoves with
  | starts => exact Function.update_of_ne hOther _ _
  | looks => exact Function.update_of_ne hOther _ _
  | asks => exact Function.update_of_ne hOther _ _

/- An exchange of a reply that does what it should. -/
theorem fulfils
    (hMoves : Moves m running (i, .exchanges e) later running')
    (hFulfils :
      (running i).Fulfils i S begun (m.history.replyTo? i)
        stood) :
    (running' i).Fulfils i S (begun ++ (call? e).toList)
      (later.history.replyTo? i)
      ((call? e).toList.foldl stands stood) := by
  cases hMoves with
  | looks _ hNext =>
      rw [hNext] at hFulfils
      have hLater := (hFulfils m rfl).2
      rw [← List.append_nil begun] at hLater
      rw [Function.update_self]
      exact hLater
  | asks _ hNext answer hUsual =>
      rw [hNext] at hFulfils
      rw [Function.update_self]
      exact hFulfils answer hUsual

/- It leaves the entries of other messages alone. -/
theorem find?_of_ne
    (hMoves : Moves m running (i, s) later running')
    (hFulfils :
      (running i).Fulfils i S begun (m.history.replyTo? i)
        stood)
    (hOther : j ≠ i) :
    later.history.find? j = m.history.find? j := by
  cases hMoves with
  | starts => rfl
  | looks _ hNext =>
      rw [hNext] at hFulfils
      exact (hFulfils m rfl).1 j hOther
  | asks => rfl

theorem replyTo?_of_ne
    (hMoves : Moves m running x later running')
    (hFulfils :
      (running x.1).Fulfils x.1 S begun
        (m.history.replyTo? x.1) stood)
    (hOther : j ≠ x.1) :
    later.history.replyTo? j = m.history.replyTo? j := by
  unfold ReplyHistory.replyTo?
  rw [hMoves.find?_of_ne hFulfils hOther]

end Moves

namespace Course

/- Whatever is under way ends with what stands as its entry. -/
theorem exists_fulfils
    (hCourse : Course initial log m running)
    (i : Int) :
    ∃ S begun, (running i).Fulfils i S begun
      (m.history.replyTo? i) (standing initial i log) := by
  induction hCourse generalizing i with
  | start => exact ⟨fun _ _ => True, [], trivial, rfl⟩
  | outside _ hSame hInduction =>
      rw [hSame]
      exact hInduction i
  | @step log x m later running running' _ hMoves hInduction =>
      rcases hInduction i with ⟨S, begun, hFulfils⟩
      rw [standing_cons]
      by_cases hOwn : x.1 = i
      · rcases x with ⟨_, s⟩
        subst hOwn
        cases s with
        | exchanges e =>
            rw [callsAt_self]
            exact ⟨S, _, hMoves.fulfils hFulfils⟩
        | starts c content card =>
            cases hMoves with
            | starts _ _ _ hEnded hId =>
                rw [Function.update_self,
                  hFulfils.eq_of_hasEnded hEnded]
                exact ⟨_, [], Context.fulfils_reply _ hId⟩
      · rcases hInduction x.1 with ⟨_, _, hOther⟩
        rw [callsAt_of_ne hOwn,
          hMoves.running_of_ne (Ne.symm hOwn),
          hMoves.replyTo?_of_ne hOther (Ne.symm hOwn)]
        exact ⟨S, begun, hFulfils⟩

/-
  The latest reply to a message does what it should about the
  reply that stood when it was called.
-/
theorem fulfils_latest
    {c : Context}
    {content : Payload}
    {card : Option Payload}
    (hCourse : Course initial log m running)
    (hLog : log = newer ++ (i, .starts c content card) :: older)
    (hLatest :
      ∀ x ∈ newer, x.1 = i → ∃ e, x.2 = .exchanges e) :
    (running i).Fulfils i
      (IsReply c content card (standing initial i older))
      (calls i newer) (m.history.replyTo? i)
      (standing initial i log) := by
  induction hCourse generalizing newer with
  | start => simp at hLog
  | outside _ hSame hInduction =>
      rw [hSame]
      exact hInduction hLog hLatest
  | @step log x m later running running' hCourse hMoves
      hInduction =>
      rcases hCourse.exists_fulfils x.1 with ⟨_, _, hTurn⟩
      cases newer with
      | nil =>
          cases hLog
          cases hMoves with
          | starts _ _ _ hEnded hId =>
              rw [Function.update_self,
                hTurn.eq_of_hasEnded hEnded, standing_cons]
              exact Context.fulfils_reply _ hId
      | cons y newer =>
          cases hLog
          have hFulfils := hInduction rfl fun x hMember =>
            hLatest x (List.mem_cons_of_mem _ hMember)
          rw [standing_cons, calls_cons]
          by_cases hOwn : x.1 = i
          · rcases hLatest x List.mem_cons_self hOwn with
              ⟨e, hExchange⟩
            rcases x with ⟨_, s⟩
            subst hOwn hExchange
            rw [callsAt_self]
            exact hMoves.fulfils hFulfils
          · rw [callsAt_of_ne hOwn, List.append_nil,
              hMoves.running_of_ne (Ne.symm hOwn),
              hMoves.replyTo?_of_ne hTurn (Ne.symm hOwn)]
            exact hFulfils

/-
  At any time, the latest reply to a message has made the calls
  of a reply that edits the one that stood when it was called,
  or has them still before it; and one that has ended has made
  them all. A message without a reply under way has the reply
  that stands as its entry, and a step for one message leaves
  the entries of all others alone.
-/
theorem reply_keeps_standing
    (hCourse : Course initial log m running)
    (i : Int) :
    (∀ newer older c content card,
      log = newer ++ (i, .starts c content card) :: older →
      (∀ x ∈ newer, x.1 = i → ∃ e, x.2 = .exchanges e) →
        ∃ rest result,
          IsReply c content card (standing initial i older)
            (calls i newer ++ rest) result ∧
          ((running i).hasEnded = true →
            rest = [] ∧ running i = settle result)) ∧
      ((running i).hasEnded = true →
        m.history.replyTo? i = standing initial i log) ∧
      ∀ s later running',
        Moves m running (i, s) later running' →
          ∀ j, j ≠ i →
            later.history.find? j = m.history.find? j := by
  rcases hCourse.exists_fulfils i with ⟨_, _, hFulfils⟩
  refine ⟨?_, hFulfils.eq_of_hasEnded, ?_⟩
  · intro newer older c content card hLog hLatest
    exact (hCourse.fulfils_latest hLog hLatest).exists_end
  · intro s later running' hMoves j hOther
    exact hMoves.find?_of_ne hFulfils hOther

end Course

/- The context of a message in one channel. -/
def contextOf
    (messageId : Int) : Context where
  guildId := none
  channelId := 1
  author := { id := 2, name := "ada", bot := false }
  messageId := some messageId
  memberRoles := none
  keepsHistory := true
  mark := "?"

/- A new message with the given id. -/
def created
    (id : String) : Except Cause Payload :=
  .ok (.map [("id", .text id)])

/- The call that posts a text in that channel. -/
def posting
    (s : String) : Platform.Call :=
  .sendMessage 1 (some (.text s)) none

/- The call that changes a message there into a text. -/
def editing
    (replyId : Int)
    (s : String) : Platform.Call :=
  .editMessage 1 replyId (.text s) none

/-
  The first reply to a message is deleted by somebody before
  the second one; another message is answered meanwhile.
-/
theorem lostReply_replaced :
    ∃ log m running,
      Course Memory.empty log m running ∧
        calls 7 log =
          [(posting "a", created "70"),
            (editing 70 "b", .error (.refused 404)),
            (posting "b", created "71")] ∧
        (running 7).hasEnded = true ∧
        m.history.replyTo? 7 = some 71 := by
  have hStart :
      Course Memory.empty [] Memory.empty fun _ => .done () :=
    .start
  have hFirst := hStart
    |>.step (.starts 7 (c := contextOf 7) (.text "a") none
      rfl rfl)
    |>.step (.looks 7 rfl)
    |>.step (.asks 7 (r := .platform (posting "a")) rfl
      (created "70") ⟨70, rfl⟩)
    |>.step (.asks 7 (r := .now) rfl (.ok (0 : Rat)) trivial)
    |>.step (.looks 7 rfl)
  have hBoth := hFirst
    |>.step (.starts 7 (c := contextOf 7) (.text "b") none
      rfl rfl)
    |>.step (.starts 8 (c := contextOf 8) (.text "c") none
      rfl rfl)
    |>.step (.looks 7 rfl)
    |>.step (.looks 8 rfl)
    |>.step (.asks 7 (r := .platform (editing 70 "b")) rfl
      (.error (.refused 404)) trivial)
    |>.step (.asks 8 (r := .platform (posting "c")) rfl
      (created "80") ⟨80, rfl⟩)
  have hSecond := hBoth
    |>.step (.looks 7 rfl)
    |>.step (.asks 7 (r := .platform (posting "b")) rfl
      (created "71") ⟨71, rfl⟩)
    |>.step (.asks 7 (r := .now) rfl (.ok (1 : Rat)) trivial)
    |>.step (.looks 7 rfl)
  rcases hSecond.reply_keeps_standing 7 with ⟨_, hEntry, _⟩
  exact ⟨_, _, _, hSecond, rfl, rfl, hEntry rfl⟩

end Command.Replies

end GuildWarden
