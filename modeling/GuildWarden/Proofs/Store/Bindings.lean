import GuildWarden.Effect.Memory
import GuildWarden.Proofs.Store.Atomicity
import GuildWarden.Proofs.Store.Bans

/-
  This file says what statements make of the stored bindings,
  and how the bindings of a guild are replaced by one.

  Key definitions include:
    * `Store.Statement.bindingsAfter`
    * `Store.IsDistinct`
    * `Store.IsSingle`
    * `Store.replaceGuild`

  Main statements:
    * `Store.Connection.bindings_of_run`
    * `Store.isDistinct_replaceGuild`
    * `Store.isSingle_replaceGuild`
    * `Memory.gatherBindings_of_isDistinct`
-/

namespace GuildWarden

namespace Store

------------------------------------------------------------
-- Statements on Bindings
------------------------------------------------------------

/- The bindings after a statement. -/
def Statement.bindingsAfter
    (bindings : List Binding) : Statement → List Binding
  | .addBinding row => bindings ++ [row]
  | .dropBindings g => bindings.filter fun r => r.guildId != g
  | _ => bindings

variable {c later : Connection}
variable {s : Statement}
variable {answer : s.Answer}

/- A statement that succeeds leaves the bindings it should. -/
theorem Connection.bindings_of_run
    (hRun : c.run s = (.ok answer, later)) :
    later.current.bindings =
      s.bindingsAfter c.current.bindings := by
  have hEffect := Connection.effect_of_run hRun
  generalize later.current = t at hEffect ⊢
  cases s with
  | addBinding row =>
      rw [(Statement.effect_addBinding hEffect).2]
      rfl
  | createTable name =>
      cases hEffect
      simp only [Statement.bindingsAfter]
      split <;> rfl
  | markVersion v =>
      cases hEffect
      simp only [Statement.bindingsAfter]
      split <;> rfl
  | _ =>
      cases hEffect
      rfl

/- No statement removes a table. -/
theorem Connection.has_of_run
    {name : TableName}
    (hRun : c.run s = (.ok answer, later))
    (hHas : c.current.has name = true) :
    later.current.has name = true := by
  have hEffect := Connection.effect_of_run hRun
  generalize later.current = t at hEffect ⊢
  cases s with
  | addBinding row =>
      rw [(Statement.effect_addBinding hEffect).2]
      exact hHas
  | createTable other =>
      cases hEffect
      split
      · exact hHas
      · simp only [Tables.has, List.contains_eq_mem,
          List.mem_append, decide_eq_true_eq] at hHas ⊢
        exact Or.inl hHas
  | markVersion v =>
      cases hEffect
      split
      · exact hHas
      · exact hHas
  | _ =>
      cases hEffect
      exact hHas

/- A reaction is bound once. -/
theorem Connection.not_sameReaction_of_run
    {row : Binding}
    {answer : Unit}
    (hRun :
      c.run (.addBinding row) = (.ok answer, later)) :
    ∀ r ∈ c.current.bindings, row.sameReaction r = false :=
  (Statement.effect_addBinding (Connection.effect_of_run hRun)).1

------------------------------------------------------------
-- One Binding for a Guild
------------------------------------------------------------

/- No reaction is bound twice. -/
def IsDistinct
    (rows : List Binding) : Prop :=
  rows.Pairwise fun a b => a.sameReaction b = false

/- No guild has two bindings. -/
def IsSingle
    (rows : List Binding) : Prop :=
  rows.Pairwise fun a b => a.guildId ≠ b.guildId

/- A binding in place of all others of its guild. -/
def replaceGuild
    (rows : List Binding)
    (b : Binding) : List Binding :=
  rows.filter (fun r => r.guildId != b.guildId) ++ [b]

theorem Binding.sameReaction_comm
    (a b : Binding) :
    a.sameReaction b = b.sameReaction a := by
  simp only [Binding.sameReaction, BEq.comm]

variable {rows : List Binding}
variable {b : Binding}

theorem isDistinct_replaceGuild
    (hDistinct : IsDistinct rows)
    (hNew :
      ∀ r ∈ rows.filter fun r => r.guildId != b.guildId,
        b.sameReaction r = false) :
    IsDistinct (replaceGuild rows b) := by
  refine List.pairwise_append.mpr
    ⟨hDistinct.filter _, List.pairwise_singleton _ b, ?_⟩
  intro r hMember b' hSame
  rw [List.mem_singleton.mp hSame, Binding.sameReaction_comm]
  exact hNew r hMember

theorem isSingle_replaceGuild
    (hSingle : IsSingle rows) :
    IsSingle (replaceGuild rows b) := by
  refine List.pairwise_append.mpr
    ⟨hSingle.filter _, List.pairwise_singleton _ b, ?_⟩
  intro r hMember b' hSame
  rw [List.mem_singleton.mp hSame]
  simpa using (List.mem_filter.mp hMember).2

/- A row that matches no other is put at the end. -/
theorem putRow_of_not_same
    {α : Type}
    {same : α → α → Bool}
    {row : α}
    {rows : List α}
    (hNew : ∀ r ∈ rows, same row r = false) :
    putRow same row rows = rows ++ [row] := by
  unfold putRow
  rw [if_neg]
  intro hAny
  rcases List.any_eq_true.mp hAny with ⟨r, hMember, hSame⟩
  rw [hNew r hMember] at hSame
  cases hSame

end Store

/- Distinct bindings are a map as they are. -/
theorem Memory.gatherBindings_of_isDistinct
    {rows : List Store.Binding}
    (hDistinct : Store.IsDistinct rows) :
    Memory.gatherBindings rows = rows := by
  have hGather (acc : List Store.Binding)
      (hAll : Store.IsDistinct (acc ++ rows)) :
      rows.foldl
          (fun acc b =>
            Store.putRow Store.Binding.sameReaction b acc)
          acc =
        acc ++ rows := by
    clear hDistinct
    induction rows generalizing acc with
    | nil => simp
    | cons b rows hInduction =>
        have hNew : ∀ r ∈ acc, b.sameReaction r = false := by
          intro r hMember
          rw [Store.Binding.sameReaction_comm]
          exact (List.pairwise_append.mp hAll).2.2 r hMember b
            List.mem_cons_self
        rw [List.foldl_cons, Store.putRow_of_not_same hNew,
          hInduction _ (by simpa using hAll),
          List.append_assoc, List.singleton_append]
  exact hGather [] hDistinct

/- A new binding takes the place of those of its guild. -/
theorem Memory.bindings_putBinding
    {m : Memory}
    {b : Store.Binding}
    (hNew :
      ∀ r ∈ m.bindings.filter fun r =>
          r.guildId != b.guildId,
        b.sameReaction r = false) :
    (m.putBinding b).bindings =
      Store.replaceGuild m.bindings b :=
  Store.putRow_of_not_same hNew

end GuildWarden
