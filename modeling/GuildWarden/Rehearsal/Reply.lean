import GuildWarden.Rehearsal.Archive

/-
  This file defines how the world of a rehearsal replies to
  the requests of a program: at once, or after some time.

  Key definitions include:
    * `Rehearsal.Reply`
    * `Rehearsal.World.reply`
-/

namespace GuildWarden.Rehearsal

/-
  A reply to a request with the given type of answers: at
  once, at the next turn, after a delay, or never.
-/
inductive Reply (α : Type) where
  | atOnce (answer : Except Cause α) (w : World)
  | nextTurn (answer : Except Cause α) (w : World)
  | after
      (delay : Rat)
      (complete : World → Except Cause α × World)
      (w : World)
  | never (w : World)

namespace World

------------------------------------------------------------
-- Calls
------------------------------------------------------------

/- Whether a call sends a message to a channel. -/
def isPost : Platform.Call → Bool
  | .sendMessage _ _ _ => true
  | _ => false

/- The usual answer of the platform. -/
def usualAnswer
    (w : World) :
    Platform.Call → Payload
  | .sendMessage _ _ _ =>
    .map [("id", .text (Number.decimal w.nextMessageId))]
  | .openDirectChannel _ => .map [("id", .text "8000")]
  | .gatewayAddress => .map [("url", .text "wss://gateway.test")]
  | .getRoles _ => .list []
  | .getMember _ _ => .map [("roles", .list [])]
  | _ => .null

/- Complete a call to the platform; usual messages are numbered. -/
def answerCall
    (c : Platform.Call)
    (r : Response)
    (w : World) : Except Cause Payload × World :=
  match r.refusal?, r with
  | some cause, _ => (.error cause, w)
  | none, .body p => (.ok p, w)
  | none, _ =>
    let next := if isPost c then w.nextMessageId + 1 else w.nextMessageId
    (.ok (w.usualAnswer c), { w with nextMessageId := next })

/- Complete a login; any refusal is a refusal of the token. -/
def answerLogin
    (r : Response)
    (w : World) : Except Cause Payload × World :=
  match r.refusal? with
  | some (.refused _) => (.error .loginRefused, w)
  | some cause => (.error cause, w)
  | none =>
    let usual := .map [("id", .text "999"), ("username", .text "bot")]
    (.ok (r.answer usual), w)

/- Complete a call to a service. -/
def answerService
    (r : Response)
    (w : World) : Except Cause Payload × World :=
  (r.serviceAnswer, w)

/- Reply to a call by the rule for its name. -/
def byRule
    (w : World)
    (name : String)
    (complete : Response → World → Except Cause Payload × World) :
    Reply Payload :=
  match w.take name with
  | (some r, w) =>
    if 0 < r.delay then .after r.delay (complete r.response) w
    else
      let (answer, w) := complete r.response w
      .atOnce answer w
  | (none, w) =>
    let (answer, w) := complete .usual w
    .atOnce answer w

/- Reply to a pause. -/
def pause
    (w : World) :
    Span → Reply Unit
  | .seconds n =>
    if 0 < n then .after n (fun w => (.ok (), w)) w
    else .nextTurn (.ok ()) w
  | .endless => .never w

/- Reply that nothing more is to be said. -/
def done
    (w : World) : Reply Unit :=
  .atOnce (.ok ()) w

/-
  Reply to a request. Timers and the lock of the store are
  the business of the stage on which the program runs.
-/
def reply
    (w : World) :
    (r : Request) → Reply r.Answer
  | .platform c => byRule (w.record (.call c)) c.name (answerCall c)
  | .login token =>
    let w := { w with memory := { w.memory with token := some token } }
    byRule (w.record (.login token)) "LOGIN" answerLogin
  | .closePlatform => (w.record .platformClosed).done
  | .openService _ userAgent timeout =>
    (w.record (.serviceOpened userAgent timeout)).done
  | .service c => byRule (w.record (.serviceCall c)) c.name answerService
  | .closeService _ => (w.record .serviceClosed).done
  | .openStore =>
    let (answer, w) := w.openStore
    .atOnce answer w
  | .closeStore => w.closeStore.done
  | .reachStore =>
    .atOnce (if w.isOpen then .ok () else .error storeClosed) w
  | .lockStore => w.done
  | .unlockStore => w.done
  | .statement s =>
    let (answer, w) := w.execute s
    .atOnce answer w
  | .commit => w.commit.done
  | .rollback => w.rollback.done
  | .now => .atOnce (.ok (epoch + w.clock)) w
  | .pause span => w.pause span
  | .startTimer _ => w.done
  | .stopTimer => .atOnce (.ok false) w
  | .note n => (w.record (.noted n)).done

end World

end GuildWarden.Rehearsal
