import GuildWarden.Dispatch.Dispatcher
import Mathlib.Data.List.Nodup

/-
  This file shows that a command is run once for every
  delivery, as long as the delivery is remembered. Those that
  are remembered are the last ones for which a run was
  submitted, and a run is submitted exactly for an event that
  asks for one and whose delivery is not among them.

  Key definitions include:
    * `Dispatcher.Delivery.stamp`
    * `Dispatcher.Asks`
    * `Dispatcher.Docket`
    * `Dispatcher.Docket.IsExact`

  Main statements:
    * `Dispatcher.job_eq_some_iff`
    * `Dispatcher.Docket.IsExact.take`
    * `Dispatcher.Docket.isExact_of_occasions`
-/

namespace GuildWarden

------------------------------------------------------------
-- Deliveries
------------------------------------------------------------

/- What timestamps that agree have in common. -/
def Timestamp.point
    (t : Timestamp) : Bool × Int :=
  (t.offset.isSome, t.instant)

theorem Timestamp.agrees_iff
    {s t : Timestamp} :
    s.agrees t = true ↔ s.point = t.point := by
  simp [agrees, point]

/- Whether an author is no bot, and not oneself. -/
def Author.isUser
    (own : Option Int)
    (a : Author) : Bool :=
  !a.bot && own != some a.id

namespace Dispatcher

variable {d : Dispatcher}
variable {now : Rat}
variable {own : Option Int}
variable {e : Event}
variable {m : Memory}
variable {x y : Delivery}
variable {call : Command.Message}

/- What deliveries that ask for the same run have in common. -/
def Delivery.stamp
    (x : Delivery) : Int × Option (Bool × Int) :=
  (x.messageId, x.editedAt.map Timestamp.point)

theorem Delivery.agrees_iff :
    x.agrees y = true ↔ x.stamp = y.stamp := by
  rcases x with ⟨id, editedAt⟩
  rcases y with ⟨id', editedAt'⟩
  cases editedAt <;> cases editedAt' <;>
    simp [agrees, stamp, Timestamp.agrees_iff]

/- Noon in universal time is one o'clock in the next zone. -/
example :
    Delivery.agrees
        ⟨10, some ⟨⟨2024, 1, 1⟩, 12, 0, 0, 0, some 0⟩⟩
        ⟨10, some
          ⟨⟨2024, 1, 1⟩, 13, 0, 0, 0, some 3600000000⟩⟩ =
      true := by
  decide

/- A local time agrees with no time that has an offset. -/
example :
    Delivery.agrees
        ⟨10, some ⟨⟨2024, 1, 1⟩, 12, 0, 0, 0, none⟩⟩
        ⟨10, some ⟨⟨2024, 1, 1⟩, 12, 0, 0, 0, some 0⟩⟩ =
      false := by
  decide

/- A delivery is remembered if none with its stamp was seen. -/
theorem remember_eq
    (d : Dispatcher)
    (x : Delivery) :
    d.remember x =
      if x.stamp ∈ d.seen.map Delivery.stamp then none
      else some { d with seen := newest (d.seen ++ [x]) } := by
  have hSeen :
      d.seen.any x.agrees = true ↔
        x.stamp ∈ d.seen.map Delivery.stamp := by
    simp only [List.any_eq_true, List.mem_map,
      Delivery.agrees_iff, eq_comm (a := x.stamp)]
  unfold remember
  simp only [hSeen]

theorem newest_suffix
    (ds : List Delivery) :
    newest ds <:+ ds :=
  List.drop_suffix _ ds

theorem length_newest
    (ds : List Delivery) :
    (newest ds).length = min 2048 ds.length := by
  rw [newest, seenLimit, List.length_drop]
  omega

------------------------------------------------------------
-- Events
------------------------------------------------------------

/- The delivery that a message or an edit of one is. -/
def delivery? : Event → Option Delivery
  | .messageCreate e => some ⟨e.messageId, none⟩
  | .messageUpdate e => some ⟨e.messageId, e.editedTimestamp⟩
  | _ => none

theorem isByBot_eq
    (m : Memory)
    (a : Author) :
    isByBot m a = !a.isUser m.botUserId := by
  simp [isByBot, Author.isUser, bne, beq_eq_decide]

/-
  An event asks for the run of a command: a message of a user
  does if its text calls one, and so does a real edit of a
  message that is not too old.
-/
inductive Asks
    (d : Dispatcher)
    (now : Rat)
    (own : Option Int) :
    Event → Delivery → Command.Message → Prop where
  | message
      (e : Event.Message)
      (hUser : e.author.isUser own = true)
      (hCall : d.isCall e.content = true) :
      Asks d now own (.messageCreate e) ⟨e.messageId, none⟩
        ⟨e.content, e.author, e.guildId, e.channelId,
          some e.messageId, e.memberRoles⟩
  | edit
      (e : Event.Edit)
      (text : String)
      (author : Author)
      (editedAt : Timestamp)
      (hText : e.content = .text text)
      (hAuthor : e.author = some author)
      (hEdited : e.editedTimestamp = some editedAt)
      (hUser : author.isUser own = true)
      (hCall : d.isCall text = true)
      (hFresh :
        ReplyHistory.isFresh d.maxAge now e.timestamp = true) :
      Asks d now own (.messageUpdate e)
        ⟨e.messageId, some editedAt⟩
        ⟨text, author, e.guildId, e.channelId,
          some e.messageId, e.memberRoles⟩

theorem Asks.delivery?_eq
    (hAsks : Asks d now own e x call) :
    delivery? e = some x := by
  cases hAsks with
  | message e _ _ => rfl
  | edit e text author editedAt _ _ hEdited _ _ _ =>
      rw [delivery?, hEdited]

/- The run that an event asks for is done unless it was before. -/
theorem Asks.take_eq
    (hAsks : Asks d now m.botUserId e x call) :
    ∃ m', d.take now m e =
      d.runOnce m' x.editedAt x.messageId call := by
  cases hAsks with
  | message e hUser hCall =>
      refine
        ⟨learnMember m e.guildId e.author.id e.memberRoles, ?_⟩
      change d.takeMessage m e = _
      simp only [takeMessage, isByBot_eq, hUser, hCall]
      rfl
  | edit e text author editedAt hText hAuthor hEdited hUser
      hCall hFresh =>
      refine
        ⟨learnMember m e.guildId author.id e.memberRoles, ?_⟩
      change d.takeEdit now m e = _
      simp only [takeEdit, takeEditedText, hText, hAuthor,
        hEdited, isByBot_eq, hUser, hCall, hFresh]
      rfl

/- Nothing but the memory is changed if no run is asked for. -/
theorem take_eq_noting
    (hMessage : (delivery? e).isSome = true)
    (hNone : ∀ x call, ¬ Asks d now m.botUserId e x call) :
    ∃ m', d.take now m e = d.noting m' := by
  cases e with
  | messageCreate e =>
      change ∃ m', d.takeMessage m e = _
      unfold takeMessage
      split
      · exact ⟨_, rfl⟩
      · rename_i hByUser
        have hUser : e.author.isUser m.botUserId = true := by
          simpa [isByBot_eq] using hByUser
        simp only
        split
        · exact ⟨_, rfl⟩
        · rename_i hCall
          exact absurd (.message e hUser (by simpa using hCall))
            (hNone _ _)
  | messageUpdate e =>
      change ∃ m', d.takeEdit now m e = _
      unfold takeEdit
      split
      · exact ⟨_, rfl⟩
      · rename_i author editedAt hAuthor hEdited _
        split
        · exact ⟨_, rfl⟩
        · rename_i hByUser
          have hUser : author.isUser m.botUserId = true := by
            simpa [isByBot_eq] using hByUser
          simp only
          split
          · rename_i text hText
            unfold takeEditedText
            split
            · rename_i hCalls
              rw [Bool.and_eq_true] at hCalls
              exact absurd
                (.edit e text author editedAt hText hAuthor
                  hEdited hUser hCalls.1 hCalls.2)
                (hNone _ _)
            · exact ⟨_, rfl⟩
          · exact ⟨_, rfl⟩
      · exact ⟨_, rfl⟩
  | _ => cases hMessage

/- No other event is remembered. -/
theorem dispatcher_take_of_other
    (hOther : delivery? e = none) :
    (d.take now m e).dispatcher = d := by
  cases e with
  | messageCreate e => cases hOther
  | messageUpdate e => cases hOther
  | messageDelete messageId channelId guildId =>
      change (d.takeDeletion m messageId).dispatcher = d
      unfold takeDeletion
      split <;> rfl
  | _ => rfl

/- A delivery that was not seen is remembered, and run. -/
theorem runOnce_of_new
    (m : Memory)
    (call : Command.Message)
    (hNew : x.stamp ∉ d.seen.map Delivery.stamp) :
    d.runOnce m x.editedAt x.messageId call =
      ⟨{ d with seen := newest (d.seen ++ [x]) }, m,
        some
          ⟨some (.message x.messageId),
            routing d.router call⟩⟩ := by
  have hRemember := remember_eq d x
  rw [if_neg hNew] at hRemember
  unfold runOnce
  rw [hRemember]
  rfl

/- A delivery that was seen changes nothing but the memory. -/
theorem runOnce_of_seen
    (m : Memory)
    (call : Command.Message)
    (hSeen : x.stamp ∈ d.seen.map Delivery.stamp) :
    d.runOnce m x.editedAt x.messageId call = d.noting m := by
  have hRemember := remember_eq d x
  rw [if_pos hSeen] at hRemember
  unfold runOnce
  rw [hRemember]

/-
  A run is submitted exactly if it is asked for and its
  delivery was not seen.
-/
theorem job_eq_some_iff
    {job : Job}
    (hMessage : (delivery? e).isSome = true) :
    (d.take now m e).job = some job ↔
      ∃ x call, Asks d now m.botUserId e x call ∧
        x.stamp ∉ d.seen.map Delivery.stamp ∧
          job =
            ⟨some (.message x.messageId),
              routing d.router call⟩ := by
  constructor
  · intro hJob
    by_cases hAsked : ∃ x call, Asks d now m.botUserId e x call
    · rcases hAsked with ⟨x, call, hAsks⟩
      rcases hAsks.take_eq with ⟨m', hTake⟩
      refine ⟨x, call, hAsks, ?_⟩
      rw [hTake] at hJob
      by_cases hSeen : x.stamp ∈ d.seen.map Delivery.stamp
      · rw [runOnce_of_seen m' call hSeen] at hJob
        cases hJob
      · rw [runOnce_of_new m' call hSeen] at hJob
        cases hJob
        exact ⟨hSeen, rfl⟩
    · push Not at hAsked
      rcases take_eq_noting hMessage hAsked with ⟨m', hTake⟩
      rw [hTake] at hJob
      cases hJob
  · rintro ⟨x, call, hAsks, hNew, rfl⟩
    rcases hAsks.take_eq with ⟨m', hTake⟩
    rw [hTake, runOnce_of_new m' call hNew]

------------------------------------------------------------
-- Dockets
------------------------------------------------------------

/- An event with the time and the memory when it is taken. -/
structure Occasion where
  now : Rat
  memory : Memory
  event : Event

/-
  A dispatcher with the deliveries for which it submitted a
  run, in the order of their submission.
-/
structure Docket where
  dispatcher : Dispatcher
  admitted : List Delivery

namespace Docket

variable {k : Docket}
variable {o : Occasion}

/- A dispatcher that has not submitted anything. -/
def new
    (r : Router)
    (maxAge : Number.Binary64) : Docket where
  dispatcher := .new r maxAge
  admitted := []

/- Take an event and note its delivery if a run is submitted. -/
def take
    (k : Docket)
    (o : Occasion) : Docket :=
  let t := k.dispatcher.take o.now o.memory o.event
  {
    dispatcher := t.dispatcher
    admitted :=
      if t.job.isSome then
        k.admitted ++ (delivery? o.event).toList
      else k.admitted
  }

/-
  What is promised of a docket. The deliveries that are
  remembered are the last ones that were admitted, at most
  2048, and no two of them ask for the same run. A run is
  submitted exactly for an event that asks for it and is not
  remembered. So a delivery is admitted once more only after
  2048 different other ones.
-/
structure IsExact
    (k : Docket) : Prop where
  last : k.dispatcher.seen <:+ k.admitted
  size :
    k.dispatcher.seen.length = min 2048 k.admitted.length
  distinct : (k.dispatcher.seen.map Delivery.stamp).Nodup
  submits :
    ∀ (o : Occasion) (job : Job),
      (delivery? o.event).isSome = true →
        ((k.dispatcher.take o.now o.memory o.event).job =
            some job ↔
          ∃ x call,
            Asks k.dispatcher o.now o.memory.botUserId o.event
                x call ∧
              x.stamp ∉ k.dispatcher.seen.map Delivery.stamp ∧
                job =
                  ⟨some (.message x.messageId),
                    routing k.dispatcher.router call⟩)
  apart :
    ∀ before x between y after,
      k.admitted = before ++ x :: between ++ y :: after →
        x.stamp = y.stamp →
          ∃ others, others <:+ between ∧
            others.length = 2048 ∧
              (others.map Delivery.stamp).Nodup ∧
                x.stamp ∉ others.map Delivery.stamp

/- A delivery that is not remembered is admitted. -/
def accept
    (k : Docket)
    (x : Delivery) : Docket where
  dispatcher :=
    { k.dispatcher with
      seen := newest (k.dispatcher.seen ++ [x]) }
  admitted := k.admitted ++ [x]

theorem seen_accept
    (k : Docket)
    (x : Delivery) :
    (k.accept x).dispatcher.seen =
      newest (k.dispatcher.seen ++ [x]) := by
  unfold accept
  with_reducible rfl

theorem admitted_accept
    (k : Docket)
    (x : Delivery) :
    (k.accept x).admitted = k.admitted ++ [x] :=
  rfl

/- An event admits its delivery, or changes nothing. -/
theorem take_cases
    (k : Docket)
    (o : Occasion) :
    k.take o = k ∨
      ∃ x, x.stamp ∉ k.dispatcher.seen.map Delivery.stamp ∧
        k.take o = k.accept x := by
  cases hDelivery : delivery? o.event with
  | none =>
      have hSame :
          (k.dispatcher.take o.now o.memory
            o.event).dispatcher = k.dispatcher :=
        dispatcher_take_of_other hDelivery
      refine Or.inl ?_
      simp [take, hSame, hDelivery]
  | some z =>
      have hMessage : (delivery? o.event).isSome = true := by
        rw [hDelivery]
        rfl
      by_cases hAsked :
          ∃ x call,
            Asks k.dispatcher o.now o.memory.botUserId
              o.event x call
      · rcases hAsked with ⟨x, call, hAsks⟩
        rcases hAsks.take_eq with ⟨m', hTake⟩
        by_cases hSeen :
            x.stamp ∈ k.dispatcher.seen.map Delivery.stamp
        · refine Or.inl ?_
          rw [runOnce_of_seen m' call hSeen] at hTake
          simp [take, hTake, noting]
        · refine Or.inr ⟨x, hSeen, ?_⟩
          rw [runOnce_of_new m' call hSeen] at hTake
          simp [take, hTake, hAsks.delivery?_eq, accept]
      · push Not at hAsked
        rcases take_eq_noting hMessage hAsked with ⟨m', hTake⟩
        refine Or.inl ?_
        simp [take, hTake, noting]

/- What is remembered lies behind the last delivery like a new one. -/
theorem IsExact.others_of_new
    {before between : List Delivery}
    (hExact : IsExact k)
    (hNew : y.stamp ∉ k.dispatcher.seen.map Delivery.stamp)
    (hAdmitted : k.admitted = before ++ x :: between)
    (hSame : x.stamp = y.stamp) :
    k.dispatcher.seen <:+ between ∧
      k.dispatcher.seen.length = 2048 := by
  have hNotSeen : x ∉ k.dispatcher.seen := by
    intro hMember
    exact hNew (hSame ▸ List.mem_map_of_mem hMember)
  have hLast := hExact.last
  rw [hAdmitted] at hLast
  have hBehind : k.dispatcher.seen <:+ between := by
    rcases List.suffix_or_suffix_of_suffix hLast
      (List.suffix_append before (x :: between)) with
      hShort | hLong
    · rcases List.suffix_cons_iff.mp hShort with
        hWhole | hBehind
      · rw [hWhole] at hNotSeen
        exact absurd List.mem_cons_self hNotSeen
      · exact hBehind
    · exact absurd (hLong.subset List.mem_cons_self) hNotSeen
  refine ⟨hBehind, ?_⟩
  have hFewer := hBehind.length_le
  have hSize := hExact.size
  rw [hAdmitted, List.length_append, List.length_cons] at hSize
  omega

/- An admission keeps the promise. -/
theorem IsExact.accept
    (hExact : IsExact k)
    (hNew : x.stamp ∉ k.dispatcher.seen.map Delivery.stamp) :
    IsExact (k.accept x) where
  last := by
    rcases hExact.last with ⟨older, hOlder⟩
    rw [seen_accept, admitted_accept]
    refine (newest_suffix _).trans ⟨older, ?_⟩
    rw [← List.append_assoc, hOlder]
  size := by
    have hSize := hExact.size
    rw [seen_accept, admitted_accept, length_newest,
      List.length_append, List.length_append,
      List.length_singleton]
    omega
  distinct := by
    have hAll :
        ((k.dispatcher.seen ++ [x]).map
          Delivery.stamp).Nodup := by
      rw [List.map_append, List.map_singleton,
        ← List.concat_eq_append]
      exact hExact.distinct.concat hNew
    rw [seen_accept]
    exact hAll.sublist ((newest_suffix _).sublist.map _)
  submits := fun _ _ hMessage => job_eq_some_iff hMessage
  apart := by
    intro before y between z after hAdmitted hSame
    rw [admitted_accept] at hAdmitted
    rcases List.eq_nil_or_concat after with rfl | hMore
    · rcases List.append_inj' hAdmitted rfl with ⟨hOld, hLast⟩
      cases hLast
      rcases hExact.others_of_new hNew hOld hSame with
        ⟨hBehind, hLength⟩
      refine ⟨k.dispatcher.seen, hBehind, hLength,
        hExact.distinct, ?_⟩
      rw [hSame]
      exact hNew
    · rcases hMore with ⟨rest, last, rfl⟩
      rw [List.concat_eq_append, ← List.cons_append,
        ← List.append_assoc] at hAdmitted
      rcases List.append_inj' hAdmitted rfl with ⟨hOld, _⟩
      exact hExact.apart before y between z rest hOld hSame

theorem isExact_new
    (r : Router)
    (maxAge : Number.Binary64) :
    IsExact (new r maxAge) where
  last := List.suffix_refl []
  size := rfl
  distinct := List.nodup_nil
  submits := fun _ _ hMessage => job_eq_some_iff hMessage
  apart := by
    intro before x between y after hAdmitted
    simp [new] at hAdmitted

theorem IsExact.take
    (hExact : IsExact k)
    (o : Occasion) :
    IsExact (k.take o) := by
  rcases take_cases k o with hSame | ⟨x, hNew, hAdmitted⟩
  · rw [hSame]
    exact hExact
  · rw [hAdmitted]
    exact hExact.accept hNew

theorem IsExact.foldl_take
    (hExact : IsExact k)
    (os : List Occasion) :
    IsExact (os.foldl Docket.take k) := by
  induction os generalizing k with
  | nil => exact hExact
  | cons o rest hInduction => exact hInduction (hExact.take o)

/- Whatever events are taken, the promise is kept. -/
theorem isExact_of_occasions
    (r : Router)
    (maxAge : Number.Binary64)
    (os : List Occasion) :
    IsExact (os.foldl Docket.take (new r maxAge)) :=
  (isExact_new r maxAge).foldl_take os

end Docket

end Dispatcher

end GuildWarden
