import GuildWarden.Proofs.Effect.Runs
import GuildWarden.Proofs.Gateway.Snags
import GuildWarden.Registry.Client

/-
  This file says how a search for crates ends. Whatever goes
  wrong with the request is reported as a failure of the
  service. The answer is only looked into afterwards: one
  whose crates cannot be gone through, or that holds a crate
  whose downloads are no number, ends the search with the
  failure of the reading.

  Key definitions include:
    * `Web.Inquires`
    * `Payload.miscount?`
    * `Payload.mislisting?`
    * `Registry.Concludes`

  Main statements:
    * `Web.runs_ask_iff`
    * `Registry.cratesIn_eq_error_iff`
    * `Registry.runs_search_iff`
    * `Registry.reports_iff_of_search`
-/

namespace GuildWarden

open Program

variable {trace : List Exchange}

------------------------------------------------------------
-- Calls
------------------------------------------------------------

namespace Web

variable {service : Service}
variable {s : ServiceSettings}
variable {c : Call}

/- The request that opens a service. -/
def opening
    (service : Service)
    (s : ServiceSettings) : Request :=
  .openService service s.userAgent s.timeout

/- The ways in which a service is called and answers. -/
inductive Inquires
    (service : Service)
    (s : ServiceSettings)
    (c : Call) :
    List Exchange → Except Cause Payload → Prop where
  | opened
      {m : Memory}
      (hOpen : m.openServices.contains service = true)
      (answer : Except Cause Payload) :
      Inquires service s c
        [.saw m, .asked (.service c) answer]
        answer
  | unreachable
      {m : Memory}
      (hClosed : m.openServices.contains service = false)
      (cause : Cause) :
      Inquires service s c
        [.saw m, .asked (opening service s) (.error cause)]
        (.error cause)
  | reopened
      {m : Memory}
      (hClosed : m.openServices.contains service = false)
      (m' : Memory)
      (answer : Except Cause Payload) :
      Inquires service s c
        [.saw m, .asked (opening service s) (.ok ()), .saw m',
          .asked (.service c) answer]
        answer

/- The body that a service answers is its answer. -/
theorem Inquires.body_iff
    {answer : Except Cause Payload}
    {body : Payload}
    (hInquires : Inquires service s c trace answer) :
    (∃ call, .asked (.service call) (.ok body) ∈ trace) ↔
      answer = .ok body := by
  constructor
  · rintro ⟨call, hMember⟩
    cases hInquires <;>
      simp only [List.mem_cons, List.not_mem_nil, or_false,
        reduceCtorEq, false_or, opening] at hMember
    case opened => cases hMember; rfl
    case unreachable => cases hMember
    case reopened =>
      rcases hMember with hMember | hMember
      · cases hMember
      · cases hMember
        rfl
  · rintro rfl
    cases hInquires with
    | opened => exact ⟨c, .tail _ (.head _)⟩
    | reopened =>
        exact ⟨c, .tail _ (.tail _ (.tail _ (.head _)))⟩

/- So is the cause for which a request is refused. -/
theorem Inquires.cause_iff
    {answer : Except Cause Payload}
    {cause : Cause}
    (hInquires : Inquires service s c trace answer) :
    (∃ r, .asked r (.error cause) ∈ trace) ↔
      answer = .error cause := by
  constructor
  · rintro ⟨r, hMember⟩
    cases hInquires <;>
      simp only [List.mem_cons, List.not_mem_nil, or_false,
        reduceCtorEq, false_or, opening] at hMember
    case opened => cases hMember; rfl
    case unreachable => cases hMember; rfl
    case reopened =>
      rcases hMember with hMember | hMember
      · cases hMember
      · cases hMember
        rfl
  · rintro rfl
    cases hInquires with
    | opened => exact ⟨.service c, .tail _ (.head _)⟩
    | unreachable =>
        exact ⟨opening service s, .tail _ (.head _)⟩
    | reopened =>
        exact ⟨.service c, .tail _ (.tail _ (.tail _ (.head _)))⟩

/- What is made of the trouble with a service. -/
def reported
    (complaint : String) :
    Except Cause Payload → Except Cause Payload
  | .ok body => .ok body
  | .error cause =>
    .error
      (if isServiceTrouble cause then
        .externalService (complaint ++ cause.message)
      else cause)

/- Being cancelled is no trouble with a service. -/
theorem ne_cancelled_of_isServiceTrouble
    {cause : Cause}
    (hTrouble : isServiceTrouble cause = true) :
    cause ≠ .cancelled := by
  rintro rfl
  cases hTrouble

/- A service is called in these ways and no others. -/
theorem runs_inquiry_iff
    {answer : Except Cause Payload} :
    Runs
        ((ensureOpen service s).bind fun _ =>
          request (.service c))
        trace answer ↔
      Inquires service s c trace answer := by
  constructor
  · intro hRuns
    cases hRuns with
    | access m hNext =>
    simp only [Program.bind] at hNext
    cases hOpen : m.openServices.contains service with
    | true =>
        simp only [hOpen] at hNext
        have hTrace := runs_request_iff.mp hNext
        rw [hTrace]
        exact .opened hOpen answer
    | false =>
        simp only [hOpen] at hNext
        cases hNext with
        | ask started hNext =>
        cases started with
        | error cause =>
            rcases runs_fail_iff.mp hNext with ⟨rfl, rfl⟩
            exact .unreachable hOpen cause
        | ok done =>
            cases hNext with
            | access m' hNext =>
            have hTrace := runs_request_iff.mp hNext
            rw [hTrace]
            exact .reopened hOpen m' answer
  · intro hInquires
    cases hInquires with
    | @opened m hOpen =>
        refine .access m ?_
        simp only [Program.bind, hOpen]
        exact runs_request_iff.mpr rfl
    | @unreachable m hClosed cause =>
        refine .access m ?_
        simp only [Program.bind, hClosed]
        exact .ask _ (.fail cause)
    | @reopened m hClosed m' =>
        refine .access m ?_
        simp only [Program.bind, hClosed]
        refine .ask (r := opening service s) (.ok ()) ?_
        exact .access m' (runs_request_iff.mpr rfl)

/- A service is asked by a call, and its trouble is reported. -/
theorem runs_ask_iff
    {complaint : String}
    {result : Except Cause Payload} :
    Runs (ask service s complaint c) trace result ↔
      ∃ answer, Inquires service s c trace answer ∧
        result = reported complaint answer := by
  simp only [← runs_inquiry_iff]
  constructor
  · intro hRuns
    rcases runs_handling_iff.mp hRuns with
      ⟨before, answer, after, rfl, hInquiry, hEnd⟩
    refine ⟨answer, ?_⟩
    cases answer with
    | ok body =>
        rcases hEnd with ⟨rfl, rfl⟩
        rw [List.append_nil]
        exact ⟨hInquiry, rfl⟩
    | error cause =>
        by_cases hTrouble : isServiceTrouble cause = true
        · simp only [if_pos
            (And.intro (ne_cancelled_of_isServiceTrouble hTrouble)
              hTrouble)] at hEnd
          rcases runs_fail_iff.mp hEnd with ⟨rfl, rfl⟩
          rw [List.append_nil]
          exact ⟨hInquiry, by simp [reported, hTrouble]⟩
        · simp only [if_neg (not_and_of_not_right _ hTrouble)]
            at hEnd
          rcases hEnd with ⟨rfl, rfl⟩
          rw [List.append_nil]
          exact ⟨hInquiry, by simp [reported, hTrouble]⟩
  · rintro ⟨answer, hInquiry, rfl⟩
    refine runs_handling_iff.mpr ⟨trace, answer, [],
      (List.append_nil trace).symm, hInquiry, ?_⟩
    cases answer with
    | ok body => exact ⟨rfl, rfl⟩
    | error cause =>
        by_cases hTrouble : isServiceTrouble cause = true
        · simp only [if_pos
            (And.intro (ne_cancelled_of_isServiceTrouble hTrouble)
              hTrouble)]
          simp only [reported, hTrouble, if_true]
          exact .fail _
        · simp [reported, hTrouble]

end Web

------------------------------------------------------------
-- Bodies
------------------------------------------------------------

namespace Payload

variable {p : Payload}
variable {cause : Cause}

/- Why something is no count; what is not filled counts as zero. -/
def miscount? : Payload → Option Cause
  | .float .nan => some (.badValue "")
  | .float (.infinite _) => some .outOfRange
  | .text t =>
    if t = "" ∨ (Number.readInteger? t.toList).isSome then none
    else some (.badValue "")
  | .list items => if items.isEmpty then none else some .badType
  | .map fs => if fs.isEmpty then none else some .badType
  | _ => none

/- Something cannot be gone through member by member. -/
def isBarren : Payload → Bool
  | .list _ => false
  | .text _ => false
  | .map _ => false
  | _ => true

/-
  Why an answer lists no crates: what it has for them cannot
  be gone through, or else because of the first crate in the
  list whose downloads are no count.
-/
def mislisting?
    (body : Payload) : Option Cause :=
  if (body.field? "crates").any isBarren then some .badType
  else
    (body.entries "crates").findSome? fun crate =>
      (crate.field "downloads").miscount?

theorem wholeNumber_eq_error_iff :
    (p.orElse (.int 0)).wholeNumber = .error cause ↔
      p.miscount? = some cause := by
  cases p with
  | null => simp [orElse, isFilled, wholeNumber, miscount?]
  | bool b =>
      cases b <;> simp [orElse, isFilled, wholeNumber, miscount?]
  | int n =>
      by_cases hZero : n = 0 <;>
        simp [orElse, isFilled, wholeNumber, miscount?, hZero]
  | float x =>
      cases x with
      | finite negative mantissa exponent =>
          simp only [orElse, miscount?]
          split <;> simp [wholeNumber]
      | _ =>
          simp [orElse, isFilled, Number.Binary64.isZero,
            wholeNumber, miscount?]
  | text t =>
      by_cases hEmpty : t = ""
      · simp [orElse, isFilled, wholeNumber, miscount?, hEmpty]
      · cases hRead : Number.readInteger? t.toList <;>
          simp [orElse, isFilled, wholeNumber, miscount?, hEmpty,
            hRead]
  | list items =>
      cases items <;>
        simp [orElse, isFilled, wholeNumber, miscount?]
  | map fs =>
      cases fs <;>
        simp [orElse, isFilled, wholeNumber, miscount?]

/- Something is no count in three ways only. -/
theorem miscount?_cases
    (hMiscount : p.miscount? = some cause) :
    cause = .badType ∨ cause = .badValue "" ∨
      cause = .outOfRange := by
  unfold miscount? at hMiscount
  split at hMiscount <;> grind

/- The failure of an answer is one of the same three. -/
theorem mislisting?_cases
    (hMislisting : p.mislisting? = some cause) :
    cause = .badType ∨ cause = .badValue "" ∨
      cause = .outOfRange := by
  unfold mislisting? at hMislisting
  split at hMislisting
  · cases hMislisting
    exact Or.inl rfl
  · rcases List.exists_of_findSome?_eq_some hMislisting with
      ⟨crate, _, hMiscount⟩
    exact miscount?_cases hMiscount

end Payload

namespace Crate

/- A crate is read unless its downloads are no count. -/
theorem ofPayload_eq_error_iff
    {p : Payload}
    {cause : Cause} :
    ofPayload p = .error cause ↔
      (p.field "downloads").miscount? = some cause := by
  rw [← Payload.wholeNumber_eq_error_iff]
  unfold ofPayload
  cases ((p.field "downloads").orElse (.int 0)).wholeNumber with
  | error failure =>
      change
        (Except.error failure : Except Cause Crate) =
          .error cause ↔ _
      rw [Except.error.injEq, Except.error.injEq]
  | ok n =>
      constructor <;>
      · intro hFails
        cases hFails

end Crate

namespace Registry

variable {s : ServiceSettings}

/- The members of a text and the names of fields are no maps. -/
theorem maps_eq_nil
    {α : Type}
    (written : α → String)
    (as : List α) :
    Event.maps (as.map fun a => .text (written a)) = [] := by
  rw [Event.maps, List.filter_eq_nil_iff]
  intro p hMember
  rcases List.mem_map.mp hMember with ⟨a, _, rfl⟩
  exact Bool.false_ne_true

/- The crates in an answer are the maps in its list of them. -/
theorem cratesIn_eq
    (body : Payload) :
    cratesIn body =
      if (body.field? "crates").any Payload.isBarren then
        .error .badType
      else (body.entries "crates").mapM Crate.ofPayload := by
  have hMembers :
      cratesIn body =
        body.fieldMembers "crates" >>= fun items =>
          (Event.maps items).mapM Crate.ofPayload := by
    cases body <;> rfl
  rw [hMembers, Payload.fieldMembers, Payload.entries,
    Payload.field]
  cases body.field? "crates" with
  | none => rfl
  | some listed =>
      cases listed with
      | text t =>
          change
            (Event.maps (t.toList.map _)).mapM Crate.ofPayload = _
          rw [maps_eq_nil]
          rfl
      | map fs =>
          change (Event.maps (fs.map _)).mapM Crate.ofPayload = _
          rw [maps_eq_nil]
          rfl
      | _ => rfl

/- An answer is not read exactly where it lists no crates. -/
theorem cratesIn_eq_error_iff
    {body : Payload}
    {cause : Cause} :
    cratesIn body = .error cause ↔
      body.mislisting? = some cause := by
  rw [cratesIn_eq, Payload.mislisting?]
  split
  · rw [Except.error.injEq, Option.some.injEq]
  · exact Cause.mapM_eq_error_iff fun _ _ => Crate.ofPayload_eq_error_iff

/- An answer that lists crates is read as them, in order. -/
theorem cratesIn_eq_ok_iff
    {body : Payload}
    {crates : List Crate} :
    cratesIn body = .ok crates ↔
      body.mislisting? = none ∧
        List.Forall₂ (fun p crate => Crate.ofPayload p = .ok crate)
          (body.entries "crates") crates := by
  rw [← Cause.mapM_eq_ok_iff]
  cases hMislisting : body.mislisting? with
  | some cause =>
      rw [cratesIn_eq_error_iff.mpr hMislisting]
      simp
  | none =>
      have hListed :
          ¬(body.field? "crates").any Payload.isBarren = true := by
        intro hBarren
        rw [Payload.mislisting?, if_pos hBarren] at hMislisting
        cases hMislisting
      rw [cratesIn_eq, if_neg hListed, eq_self, true_and]

------------------------------------------------------------
-- Searches
------------------------------------------------------------

/- What a failed search is reported with. -/
def complaint
    (query : String) : String :=
  "crate search for " ++ Text.quoted query ++ " failed: "

/- How a search ends after the answer of the registry. -/
inductive Concludes
    (query : String) :
    Except Cause Payload → Except Cause (List Crate) → Prop where
  | troubled
      {cause : Cause}
      (hTrouble : Web.isServiceTrouble cause = true) :
      Concludes query (.error cause)
        (.error (.externalService (complaint query ++ cause.message)))
  | stopped
      {cause : Cause}
      (hOther : Web.isServiceTrouble cause = false) :
      Concludes query (.error cause) (.error cause)
  | listed
      {body : Payload}
      {crates : List Crate}
      (hListed : body.mislisting? = none)
      (hCrates :
        List.Forall₂ (fun p crate => Crate.ofPayload p = .ok crate)
          (body.entries "crates") crates) :
      Concludes query (.ok body) (.ok crates)
  | mislisted
      {body : Payload}
      {cause : Cause}
      (hMislisted : body.mislisting? = some cause) :
      Concludes query (.ok body) (.error cause)

/- An answer concludes a search in these ways and no others. -/
theorem concludes_iff
    {query : String}
    {answer : Except Cause Payload}
    {result : Except Cause (List Crate)} :
    Concludes query answer result ↔
      result =
        (Web.reported (complaint query) answer).bind cratesIn := by
  constructor
  · intro hConcludes
    cases hConcludes with
    | troubled hTrouble =>
        simp [Web.reported, hTrouble, Except.bind]
    | stopped hOther => simp [Web.reported, hOther, Except.bind]
    | listed hListed hCrates =>
        exact (cratesIn_eq_ok_iff.mpr ⟨hListed, hCrates⟩).symm
    | mislisted hMislisted =>
        exact (cratesIn_eq_error_iff.mpr hMislisted).symm
  · rintro rfl
    cases answer with
    | error cause =>
        cases hTrouble : Web.isServiceTrouble cause with
        | true =>
            simp only [Web.reported, hTrouble, if_true]
            exact .troubled hTrouble
        | false =>
            simp only [Web.reported, hTrouble]
            exact .stopped hTrouble
    | ok body =>
        change Concludes query (.ok body) (cratesIn body)
        cases hRead : cratesIn body with
        | error cause =>
            exact .mislisted (cratesIn_eq_error_iff.mp hRead)
        | ok crates =>
            rcases cratesIn_eq_ok_iff.mp hRead with
              ⟨hListed, hCrates⟩
            exact .listed hListed hCrates

/-
  A search whose query is blank finds nothing without asking.
  Any other one calls the registry once, and ends as the
  answer has it.
-/
theorem runs_search_iff
    {query : String}
    {result : Except Cause (List Crate)} :
    Runs (search s query) trace result ↔
      if Text.trimmed query = "" then trace = [] ∧ result = .ok []
      else
        ∃ answer,
          Web.Inquires .registry s
            (searchCall s (Text.trimmed query)) trace answer ∧
          Concludes (Text.trimmed query) answer result := by
  simp only [concludes_iff]
  by_cases hBlank : Text.trimmed query = ""
  · rw [search, if_pos hBlank, if_pos hBlank]
    exact runs_done_iff
  · rw [search, if_neg hBlank, if_neg hBlank]
    refine runs_bind_settle_iff.trans ?_
    simp only [Web.runs_ask_iff]
    constructor
    · rintro ⟨body, ⟨answer, hInquires, rfl⟩, hResult⟩
      exact ⟨answer, hInquires, hResult⟩
    · rintro ⟨answer, hInquires, hResult⟩
      exact ⟨_, ⟨answer, hInquires, rfl⟩, hResult⟩

/-
  Whether a search is answered by crates or by a report that
  the service failed. Whatever refuses the request is reported.
  An answer is read after that, and a search reports no more:
  one that lists crates gives them, and any other one ends the
  search with a failure of its type or of a value in it.
-/
theorem reports_iff_of_search
    {query : String}
    {result : Except Cause (List Crate)}
    (hRuns : Runs (search s query) trace result)
    (hTrouble : ∀ r cause,
      .asked r (.error cause) ∈ trace →
        Web.isServiceTrouble cause = true) :
    (((∃ crates, result = .ok crates) ∨
        ∃ detail, result = .error (.externalService detail)) ↔
      ∀ call body, .asked (.service call) (.ok body) ∈ trace →
        body.mislisting? = none) ∧
    (∀ r cause, .asked r (.error cause) ∈ trace →
      result =
        .error (.externalService
          (complaint (Text.trimmed query) ++ cause.message))) ∧
    ∀ call body, .asked (.service call) (.ok body) ∈ trace →
      (body.mislisting? = none ∧ ∃ crates, result = .ok crates ∧
        List.Forall₂ (fun p crate => Crate.ofPayload p = .ok crate)
          (body.entries "crates") crates) ∨
      ∃ cause, body.mislisting? = some cause ∧
        result = .error cause ∧
        (cause = .badType ∨ cause = .badValue "" ∨
          cause = .outOfRange) := by
  have hEnds := runs_search_iff.mp hRuns
  split at hEnds
  · rcases hEnds with ⟨rfl, rfl⟩
    simp
  · rcases hEnds with ⟨answer, hInquires, hConcludes⟩
    cases hConcludes with
    | @troubled cause hThis =>
        refine ⟨?_, ?_, ?_⟩
        · refine iff_of_true (Or.inr ⟨_, rfl⟩) ?_
          intro call body hAnswered
          cases hInquires.body_iff.mp ⟨call, hAnswered⟩
        · intro r cause' hRefused
          cases hInquires.cause_iff.mp ⟨r, hRefused⟩
          rfl
        · intro call body hAnswered
          cases hInquires.body_iff.mp ⟨call, hAnswered⟩
    | @stopped cause hOther =>
        -- Such a refusal is no trouble with the service.
        rcases hInquires.cause_iff.mpr rfl with ⟨r, hRefused⟩
        rw [hTrouble r cause hRefused] at hOther
        cases hOther
    | @listed body crates hListed hCrates =>
        refine ⟨?_, ?_, ?_⟩
        · refine iff_of_true (Or.inl ⟨crates, rfl⟩) ?_
          intro call body' hAnswered
          cases hInquires.body_iff.mp ⟨call, hAnswered⟩
          exact hListed
        · intro r cause hRefused
          cases hInquires.cause_iff.mp ⟨r, hRefused⟩
        · intro call body' hAnswered
          cases hInquires.body_iff.mp ⟨call, hAnswered⟩
          exact Or.inl ⟨hListed, crates, rfl, hCrates⟩
    | @mislisted body cause hMislisted =>
        have hCause := Payload.mislisting?_cases hMislisted
        refine ⟨?_, ?_, ?_⟩
        · apply iff_of_false
          · rintro (⟨crates, hResult⟩ | ⟨detail, hResult⟩)
            · cases hResult
            · cases hResult
              rcases hCause with hCause | hCause | hCause <;>
                cases hCause
          · intro hListed
            rcases hInquires.body_iff.mpr rfl with
              ⟨call, hAnswered⟩
            rw [hListed call body hAnswered] at hMislisted
            cases hMislisted
        · intro r cause' hRefused
          cases hInquires.cause_iff.mp ⟨r, hRefused⟩
        · intro call body' hAnswered
          cases hInquires.body_iff.mp ⟨call, hAnswered⟩
          exact Or.inr ⟨cause, hMislisted, rfl, hCause⟩

/- The settings of a registry. -/
def crateRegistry : ServiceSettings :=
  ⟨"https://crates.io/api/v1", "", .infinite true⟩

/- A search that is answered null in the place of its crates. -/
def nullTrace : List Exchange :=
  [
    .saw Memory.empty,
    .asked (Web.opening .registry crateRegistry) (.ok ()),
    .saw Memory.empty,
    .asked (.service (searchCall crateRegistry "serde"))
      (.ok (.map [("crates", .null)]))
  ]

theorem runs_nullTrace :
    Runs (search crateRegistry "serde") nullTrace
      (.error .badType) := by
  have hTrimmed : Text.trimmed "serde" = "serde" := by decide
  refine runs_search_iff.mpr ?_
  rw [hTrimmed, if_neg (by decide)]
  exact ⟨_, .reopened rfl Memory.empty _, .mislisted rfl⟩

/- The search fails, and not with a report on the service. -/
theorem null_crates_unreported :
    Runs (search crateRegistry "serde") nullTrace
        (.error .badType) ∧
      ¬((∃ crates : List Crate,
          Except.error Cause.badType = .ok crates) ∨
        ∃ detail, (Except.error Cause.badType : Except Cause (List Crate)) =
          .error (.externalService detail)) := by
  refine ⟨runs_nullTrace, fun hReported => ?_⟩
  have hUnrefused (r : Request) (cause : Cause)
      (hRefused : .asked r (.error cause) ∈ nullTrace) :
      Web.isServiceTrouble cause = true := by
    simp only [nullTrace, List.mem_cons, List.not_mem_nil,
      or_false, reduceCtorEq, false_or] at hRefused
    rcases hRefused with hRefused | hRefused <;> cases hRefused
  have hListed :=
    (reports_iff_of_search runs_nullTrace hUnrefused).1.mp hReported
      (searchCall crateRegistry "serde") (.map [("crates", .null)])
      (.tail _ (.tail _ (.tail _ (.head _))))
  cases hListed

end Registry

end GuildWarden
