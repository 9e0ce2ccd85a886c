import GuildWarden.Rehearsal.Scene
import GuildWarden.Run.Boot
import GuildWarden.Run.ExitCode

/-
  This file defines rehearsals of a whole bot: one that is
  given frames by hand, and a run of the program from its
  start to its end.

  Key definitions include:
    * `Rehearsal.Scene.ofBot`
    * `Rehearsal.Scene.deliver`
    * `Rehearsal.Scene.shutDown`
    * `Rehearsal.Scene.restart`
    * `Rehearsal.Production`
    * `Rehearsal.Production.run`
-/

namespace GuildWarden.Rehearsal

open Gateway

namespace Scene

------------------------------------------------------------
-- Bots
------------------------------------------------------------

/- The scene of a bot that does not run yet. -/
def ofBot
    (script : Script)
    (w : World)
    (b : Bot)
    (token : String) : Scene :=
  let sc := Scene.ofSession script w (b.session token w.clock)
  { sc with
    stage :=
      { sc.stage with
        pool := Pool.ofSlots b.workers
        tasks := Bot.tasks.map asAnswer
        interval := b.interval }
    dispatcher := some b.dispatcher
    isListening := true }

/- Whether no job of the pool is left. -/
def isQuiet
    (sc : Scene) : Bool :=
  sc.stage.pool.jobs.isEmpty

/- Let every job of the pool come to its end. -/
def finishJobs
    (sc : Scene) : Scene :=
  sc.runUntil isQuiet none

/- Do the periodic tasks once. -/
def playTasks
    (sc : Scene) : Scene :=
  { sc with stage := sc.stage.playOnce none }

/- Run a program to its end beside everything else. -/
def perform
    (sc : Scene)
    (p : Program Unit) : Except Cause Unit × Scene :=
  let (id, stage) := sc.stage.enter .program (asAnswer p)
  let isDone (sc : Scene) := (sc.stage.result? id).isSome
  let sc := { sc with stage }.runUntil isDone none
  let result := (sc.stage.result? id).getD (.error .cancelled)
  (result.map fun _ => (), sc.dismiss (some id))

------------------------------------------------------------
-- Frames by hand
------------------------------------------------------------

/-
  Prepare for a new session that a frame has started; it is in
  full operation if that succeeds.
-/
def prepare
    (sc : Scene) : Option Cause × Scene :=
  let isDone (sc : Scene) := (sc.resultOf? sc.hydrating).isSome
  let stage := sc.stage.runUntil
    (fun st => isDone { sc with stage := st }) none
  let sc := { sc with stage }
  match sc.resultOf? sc.hydrating with
  | none => (none, sc)
  | some result =>
    let sc := { sc.dismiss sc.hydrating with hydrating := none }
    let sc := sc.onSession fun s _ => { s with phase := .idle }
    match result with
    | .ok _ =>
      (none, (sc.onSession fun s m => s.markActive m.now).obeyAll)
    | .error cause => (some cause, sc)

/-
  Give the session a frame; answers the failure that comes of
  it. Only a map is a frame.
-/
def deliver
    (sc : Scene)
    (frame : Payload) : Option Cause × Scene :=
  if !frame.isMap then (some .notAMap, sc)
  else
    let (session, failure) := sc.session.handle sc.moment frame
    let sc := { sc with session }.obeyAll
    match failure with
    | some cause => (some cause, sc)
    | none => if sc.hydrating.isSome then sc.prepare else (none, sc)

/- Give the session frames up to the first failure. -/
def deliverAll
    (sc : Scene) :
    List Payload → Option Cause × Scene
  | [] => (none, sc)
  | frame :: frames =>
    match sc.deliver frame with
    | (some cause, sc) => (some cause, sc)
    | (none, sc) => deliverAll sc frames

------------------------------------------------------------
-- Shutting down
------------------------------------------------------------

/-
  Stop taking events, let the jobs of the pool run on for a
  length of time and cancel those that are left.
-/
def drain
    (sc : Scene)
    (grace : Span) : Scene :=
  let d := Pool.Drain.start sc.stage.pool sc.clock grace
  let stage := { sc.stage with pool := sc.stage.pool.close }
  let sc := { sc with stage, isListening := false }
  if d.found.isEmpty then sc
  else
    let isDone (sc : Scene) := (d.left sc.stage.pool).isEmpty
    let sc := sc.runUntil isDone d.due
    { sc with stage := sc.stage.cancelJobs (d.left sc.stage.pool) }

/- Whether the session has nothing more to do. -/
def isOver
    (sc : Scene) : Bool :=
  let isIdle :=
    match sc.session.phase with
    | .idle => true
    | .ended _ => true
    | _ => false
  isIdle && sc.session.outbox.isEmpty

/- Stop everything in order: tasks, jobs, the session, the services. -/
def shutDown
    (sc : Scene)
    (loop : Option ActorId)
    (grace : Span) : Scene :=
  let sc := { sc with stage := sc.stage.stopLoop loop }.drain grace
  let sc := sc.onSession fun s _ => s.close
  (sc.runUntil isOver none |>.perform Run.farewell).2

/- Shut down, and start a new bot on the same file. -/
def restart
    (sc : Scene)
    (script : Script)
    (b : Bot)
    (token : String)
    (grace : Span) : Scene :=
  let w := (sc.shutDown none grace).world
  let memory := { Memory.empty with botUserId := w.memory.botUserId }
  ofBot script { w with memory }.openStore.2 b token

end Scene

------------------------------------------------------------
-- Runs of the program
------------------------------------------------------------

/- What a rehearsed run of the program starts from. -/
structure Production where
  script : Script
  settings : Settings
  token : String

namespace Production

/- How a run ends whose session has ended, or was stopped. -/
def endingOf
    (s : Session) : Run.Ending :=
  match s.phase with
  | .ended (some _) => .finished 1
  | _ => .finished 0

/- Leave the session in the middle of whatever it does. -/
def abandon
    (sc : Scene) : Scene :=
  if sc.isOver then sc
  else
    (sc.onSession fun s m => s.leave m (some .cancelled)).obeyAll

/- Let a bot run until it is stopped or its session ends. -/
def play
    (p : Production)
    (sc : Scene) : Run.Ending × World :=
  let (stage, loop) := sc.stage.startLoop none none
  let sc := { sc with stage }.onSession fun s _ => s.connect
  let sc := sc.runUntil (fun sc => sc.isStopped || sc.isOver) none
  match p.settings.shutdownGrace with
  | .error _ => (.failed, (abandon sc).world)
  | .ok grace =>
    (endingOf sc.session, (sc.shutDown loop (.ofBinary64 grace)).world)

/- Run the program; answers how it ends and the world after it. -/
def run
    (p : Production) : Run.Ending × World :=
  match p.script.world.perform (Run.boot p.settings "." p.token) with
  | (.ok (.ready token b), w) =>
    p.play (Scene.ofBot p.script w b token)
  | (.ok .givenUp, w) => (.finished 1, w)
  | (.error _, w) => (.failed, w)

end Production

end GuildWarden.Rehearsal
