import GuildWarden.Command.Play
import GuildWarden.Proofs.Command.Reporting

/-
  This file says which replies of the playground commands fit
  into one message. An output that is shown always does. The
  two other replies repeat complaints about options in front
  of a text that nobody has measured: that of a run without an
  output, and the link to a program whose output is too large.

  Key definitions include:
    * `Command.Play.answer`
    * `Command.Play.HasRoom`

  Main statements:
    * `Command.Play.length_complaintsOf`
    * `Command.Play.length_answer_le_iff`
    * `Command.Play.runs_run_iff`
    * `Command.Play.fits_iff_hasRoom`
-/

namespace GuildWarden.Command.Play

open Program Playground

------------------------------------------------------------
-- Complaints
------------------------------------------------------------

/- The complaints about the options of a run. -/
def complaintsOf
    (code : String)
    (options : Options) : String :=
  (buildRequest code options).2

/- A complaint repeats the whole value that is no choice. -/
theorem length_pick
    (c : Choice)
    (options : Options) :
    (c.pick options).2.length =
      if c.choices.contains
          ((options.lookup c.option).getD c.default) then 0
      else
        12 + c.title.length +
          ((options.lookup c.option).getD c.default).length := by
  simp only [Choice.pick]
  split
  · rfl
  · simp only [String.length_append]
    have hWords :
        "invalid ".length + " `".length + "`\n".length = 12 := rfl
    omega

theorem length_complaintsOf
    (code : String)
    (options : Options) :
    (complaintsOf code options).length =
      (channelChoice.pick options).2.length +
        (modeChoice.pick options).2.length +
          (editionChoice.pick options).2.length := by
  change
    ((channelChoice.pick options).2 ++ (modeChoice.pick options).2 ++
      (editionChoice.pick options).2).length = _
  rw [String.length_append, String.length_append]

------------------------------------------------------------
-- Replies
------------------------------------------------------------

/- The reply to a run with its complaints, its output and a link. -/
def answer
    (complaints output link : String) : String :=
  if isTooLarge complaints output then linked complaints link
  else shown complaints output

/-
  The complaints leave room for what follows them: for a link,
  or for the word that there was no output. In front of an
  output that is shown they always do.
-/
def HasRoom
    (complaints output link : String) : Prop :=
  if isTooLarge complaints output then
    complaints.length + 35 + link.length ≤ 2000
  else output = "" → complaints.length + 22 ≤ 2000

theorem length_linked
    (complaints link : String) :
    (linked complaints link).length =
      complaints.length + 35 + link.length := by
  simp only [linked, String.length_append]
  have hWords :
      "Output too large. Playground link: ".length = 35 := rfl
  omega

theorem length_shown
    (complaints output : String) :
    (shown complaints output).length =
      complaints.length +
        if output = "" then 22 else output.length + 7 := by
  unfold shown
  split
  · rw [String.length_append]
    rfl
  · simp only [String.length_append]
    have hFences : "```\n".length + "```".length = 7 := rfl
    omega

/- Output that is not too large leaves room for its fences. -/
theorem length_le_of_not_isTooLarge
    {complaints output : String}
    (hSmall : ¬ isTooLarge complaints output = true) :
    complaints.length + (output.length + 7) ≤ 2000 := by
  have hLimit : lengthLimit = 1993 := rfl
  simp only [isTooLarge, hLimit, Bool.or_eq_true, not_or,
    decide_eq_true_eq] at hSmall
  omega

/- A reply fits into one message if and only if there is room for it. -/
theorem length_answer_le_iff
    (complaints output link : String) :
    (answer complaints output link).length ≤ 2000 ↔
      HasRoom complaints output link := by
  unfold answer HasRoom
  split
  · rw [length_linked]
  · rename_i hSmall
    rw [length_shown]
    have hShort := length_le_of_not_isTooLarge hSmall
    split
    · rename_i hNone
      exact ⟨fun hFits _ => hFits, fun hRoom => hRoom hNone⟩
    · rename_i hSome
      exact iff_of_true hShort fun hNone => absurd hNone hSome

/- Short complaints leave room for any link of the usual length. -/
theorem hasRoom_of_short
    {complaints link : String}
    (output : String)
    (hLink : link.length ≤ 200)
    (hComplaints : complaints.length ≤ 1765) :
    HasRoom complaints output link := by
  rw [← length_answer_le_iff]
  unfold answer
  split
  · rw [length_linked]
    omega
  · rename_i hSmall
    rw [length_shown]
    have hShort := length_le_of_not_isTooLarge hSmall
    split <;> omega

------------------------------------------------------------
-- Runs
------------------------------------------------------------

variable {s : ServiceSettings}
variable {ctx : Context}
variable {code reply : String}
variable {options : Options}
variable {trace : List Exchange}

/- The request by which code is run. -/
def requestOf
    (code : String)
    (options : Options) : Playground.Request :=
  (buildRequest code options).1

/-
  What is asked for a link: nothing, unless the output is too
  large to be shown.
-/
def AsksFor
    (s : ServiceSettings)
    (code : String)
    (options : Options)
    (output link : String)
    (linking : List Exchange) : Prop :=
  if isTooLarge (complaintsOf code options) output then
    Runs (createLink s (requestOf code options)) linking (.ok link)
  else linking = []

theorem run_eq
    (s : ServiceSettings)
    (ctx : Context)
    (code : String)
    (options : Options) :
    run s ctx code options =
      (ctx.say runningReply).bind fun _ =>
        (execute s (requestOf code options)).bind fun result =>
          if isTooLarge (complaintsOf code options)
              (outputOf options result) then
            (createLink s (requestOf code options)).bind fun link =>
              .done (linked (complaintsOf code options) link)
          else
            .done (shown (complaintsOf code options)
              (outputOf options result)) :=
  rfl

/- Code is run, and then the reply is put together. -/
theorem runs_run_iff :
    Runs (run s ctx code options) trace (.ok reply) ↔
      ∃ said asked linking result link,
        trace = said ++ (asked ++ linking) ∧
          Runs (ctx.say runningReply) said (.ok ()) ∧
          Runs (execute s (requestOf code options)) asked
            (.ok result) ∧
          AsksFor s code options (outputOf options result) link
            linking ∧
          reply =
            answer (complaintsOf code options)
              (outputOf options result) link := by
  rw [run_eq]
  unfold AsksFor answer
  constructor
  · intro hRuns
    rcases runs_bind_ok_iff.mp hRuns with
      ⟨said, _, after, rfl, hSaid, hRest⟩
    rcases runs_bind_ok_iff.mp hRest with
      ⟨asked, result, linking, rfl, hAsked, hReply⟩
    split at hReply
    · rename_i hLarge
      rcases runs_bind_ok_iff.mp hReply with
        ⟨linking, link, _, rfl, hLink, hDone⟩
      rcases runs_done_iff.mp hDone with ⟨rfl, hSame⟩
      refine ⟨said, asked, linking, result, link, by simp, hSaid,
        hAsked, ?_, ?_⟩
      · rwa [if_pos hLarge]
      · rw [if_pos hLarge]
        exact Except.ok.inj hSame
    · rename_i hSmall
      rcases runs_done_iff.mp hReply with ⟨rfl, hSame⟩
      refine ⟨said, asked, [], result, "", rfl, hSaid, hAsked, ?_,
        ?_⟩
      · rw [if_neg hSmall]
      · rw [if_neg hSmall]
        exact Except.ok.inj hSame
  · rintro ⟨said, asked, linking, result, link, rfl, hSaid, hAsked,
      hLink, rfl⟩
    refine runs_bind_ok_iff.mpr ⟨said, (), _, rfl, hSaid,
      runs_bind_ok_iff.mpr ⟨asked, result, linking, rfl, hAsked,
        ?_⟩⟩
    split at hLink
    · rename_i hLarge
      rw [if_pos hLarge, if_pos hLarge]
      exact runs_bind_ok_iff.mpr ⟨linking, link, [], by simp, hLink,
        .done _⟩
    · rename_i hSmall
      rw [if_neg hSmall, if_neg hSmall, hLink]
      exact .done _

/-
  When a reply fits into one message. A run says that it is
  under way, asks for the result, and for a link if the output
  is too large, and puts its reply together from these and the
  complaints about the options. For all of them, the reply
  fits and is sent as it is if and only if the complaints
  leave room for it. They do if they are short.
-/
theorem fits_iff_hasRoom
    (s : ServiceSettings)
    (ctx : Context)
    (code : String)
    (options : Options) :
    (∀ trace reply,
      Runs (run s ctx code options) trace (.ok reply) ↔
        ∃ said asked linking result link,
          trace = said ++ (asked ++ linking) ∧
            Runs (ctx.say runningReply) said (.ok ()) ∧
            Runs (execute s (requestOf code options)) asked
              (.ok result) ∧
            AsksFor s code options (outputOf options result) link
              linking ∧
            reply =
              answer (complaintsOf code options)
                (outputOf options result) link) ∧
    ∀ (result : Result) (link : String),
      ((answer (complaintsOf code options)
          (outputOf options result) link).length ≤ 2000 ↔
        HasRoom (complaintsOf code options)
          (outputOf options result) link) ∧
      (Platform.fitted
          (.text (answer (complaintsOf code options)
            (outputOf options result) link)) =
          .ok (.text (answer (complaintsOf code options)
            (outputOf options result) link)) ↔
        HasRoom (complaintsOf code options)
          (outputOf options result) link) ∧
      (link.length ≤ 200 →
        (complaintsOf code options).length ≤ 1765 →
          HasRoom (complaintsOf code options)
            (outputOf options result) link) := by
  refine ⟨fun trace reply => runs_run_iff, ?_⟩
  intro result link
  refine ⟨length_answer_le_iff _ _ _, ?_, hasRoom_of_short _⟩
  rw [Platform.fitted_text_iff, length_answer_le_iff]

/- A value that is no channel, as long as a message may have it. -/
def wideValue : String :=
  String.ofList (List.replicate 1955 'x')

theorem length_wideComplaint :
    (complaintsOf "" [("channel", wideValue)]).length = 1982 := by
  have hWide : wideValue.length = 1955 := by
    unfold wideValue
    rw [String.length_ofList, List.length_replicate]
  have hOther :
      channelChoice.choices.contains wideValue = false := by
    rw [Bool.eq_false_iff]
    intro hChoice
    have hMember := List.contains_iff_mem.mp hChoice
    have hShort : ∀ c ∈ channelChoice.choices, c.length < 10 := by
      decide
    have hLess := hShort _ hMember
    omega
  have hChannel :
      (([("channel", wideValue)] : Options).lookup
        channelChoice.option).getD channelChoice.default = wideValue :=
    rfl
  have hTitle : channelChoice.title.length = 15 := rfl
  rw [length_complaintsOf, length_pick, hChannel, hOther, hTitle,
    hWide]
  rfl

/- Where and by whom the code is run. -/
def sender : Context where
  guildId := none
  channelId := 20
  author := ⟨1, "member", false⟩
  messageId := none
  memberRoles := none
  keepsHistory := false
  mark := "?"

/-
  A complaint about a long value leaves no room for the word
  that there was no output, and the end of the reply is lost.
-/
theorem wide_complaint_cut :
    ∃ trace reply,
      Runs
          (run ⟨"", "", .infinite true⟩ sender ""
            [("channel", wideValue)])
          trace (.ok reply) ∧
        reply.length = 2004 ∧
        Platform.fitted (.text reply) ≠ .ok (.text reply) := by
  have hSaid :
      Runs (sender.say runningReply)
        [.asked
          (.platform
            (.sendMessage 20 (some (.text runningReply)) none))
          (.ok .null)]
        (.ok ()) :=
    .ask _ (.done ())
  have hAsked :
      ∃ asked,
        Runs
          (execute ⟨"", "", .infinite true⟩
            (requestOf "" [("channel", wideValue)]))
          asked (.ok ⟨true, "", ""⟩) := by
    let m : Memory :=
      { Memory.empty with openServices := [.playground] }
    exact ⟨_, .access m
      (.ask (r := .service _)
        (.ok (.map [("success", .bool true)])) (.done _))⟩
  rcases hAsked with ⟨asked, hAsked⟩
  have hNothing :
      outputOf [("channel", wideValue)] ⟨true, "", ""⟩ = "" := by
    simp [outputOf]
  have hSmall :
      ¬ isTooLarge (complaintsOf "" [("channel", wideValue)]) "" =
        true := by
    rw [isTooLarge, length_wideComplaint]
    decide
  have hNoRoom :
      ¬ HasRoom (complaintsOf "" [("channel", wideValue)]) "" "" := by
    rw [HasRoom, if_neg hSmall, length_wideComplaint]
    intro hFits
    have hLess := hFits rfl
    omega
  rcases fits_iff_hasRoom ⟨"", "", .infinite true⟩ sender ""
      [("channel", wideValue)] with ⟨hRuns, hFits⟩
  rcases hFits ⟨true, "", ""⟩ "" with ⟨_, hSent, _⟩
  rw [hNothing] at hSent
  refine ⟨_, answer (complaintsOf "" [("channel", wideValue)]) "" "",
    (hRuns _ _).mpr ⟨_, asked, [], ⟨true, "", ""⟩, "", rfl, hSaid,
      hAsked, ?_, ?_⟩, ?_, ?_⟩
  · rw [AsksFor, hNothing, if_neg hSmall]
  · rw [hNothing]
  · rw [answer, if_neg hSmall, length_shown, length_wideComplaint]
    rfl
  · rw [ne_eq, hSent]
    exact hNoRoom

end GuildWarden.Command.Play
