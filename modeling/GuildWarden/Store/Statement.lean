import GuildWarden.Cause
import GuildWarden.Store.Table

/-
  This file defines the statements of the store and what each
  of them answers and does. Ids and times have 64 bits; a
  statement with a larger number is refused.

  Key definitions include:
    * `Store.Statement`
    * `Store.Statement.Answer`
    * `Store.Statement.execute`
-/

namespace GuildWarden.Store

/- A statement. -/
inductive Statement where
  | configure (setting : String)
  | createTable (name : TableName)
  | createIndex (name : TableName)
  | markVersion (version : Int)
  | versions
  | putTag (row : TagRow)
  | dropTag (guildId : Int) (key : String)
  | findTag (guildId : Int) (key : String)
  | tagKeys (guildId : Int)
  | addBinding (row : Binding)
  | boundMessages (guildId : Int)
  | dropBindings (guildId : Int)
  | isBound (messageId : Int) (emoji : String)
  | allBindings
  | putBan (row : BanRow)
  | dropBan (guildId userId : Int)
  | expiredBans (now : Int)
  | isBanned (guildId userId : Int)
deriving DecidableEq, Repr

namespace Statement

/- What a statement answers. -/
def Answer : Statement → Type
  | .versions => List Int
  | .dropTag _ _ => Bool
  | .findTag _ _ => Option TagRow
  | .tagKeys _ => List String
  | .boundMessages _ => List Int
  | .isBound _ _ => Bool
  | .allBindings => List Binding
  | .dropBan _ _ => Bool
  | .expiredBans _ => List BanRow
  | .isBanned _ _ => Bool
  | _ => Unit

------------------------------------------------------------
-- Properties
------------------------------------------------------------

/- The verb that a statement starts with. -/
def verb : Statement → String
  | .configure _ => "PRAGMA"
  | .createTable _ => "CREATE"
  | .createIndex _ => "CREATE"
  | .markVersion _ => "INSERT"
  | .putTag _ => "INSERT"
  | .dropTag _ _ => "DELETE"
  | .addBinding _ => "INSERT"
  | .dropBindings _ => "DELETE"
  | .putBan _ => "INSERT"
  | .dropBan _ _ => "DELETE"
  | _ => "SELECT"

/- The table of a statement. -/
def table? : Statement → Option TableName
  | .configure _ => none
  | .createTable n => some n
  | .createIndex n => some n
  | .markVersion _ => some .versions
  | .versions => some .versions
  | .putTag _ => some .tags
  | .dropTag _ _ => some .tags
  | .findTag _ _ => some .tags
  | .tagKeys _ => some .tags
  | .addBinding _ => some .bindings
  | .boundMessages _ => some .bindings
  | .dropBindings _ => some .bindings
  | .isBound _ _ => some .bindings
  | .allBindings => some .bindings
  | .putBan _ => some .bans
  | .dropBan _ _ => some .bans
  | .expiredBans _ => some .bans
  | .isBanned _ _ => some .bans

/- Whether a statement changes rows. -/
def isWrite
    (s : Statement) : Bool :=
  s.verb == "INSERT" || s.verb == "DELETE"

/- The numbers that a statement hands to the store. -/
def numbers : Statement → List Int
  | .markVersion v => [v]
  | .putTag r => [r.guildId, r.authorId]
  | .dropTag g _ => [g]
  | .findTag g _ => [g]
  | .tagKeys g => [g]
  | .addBinding r => [r.messageId, r.guildId, r.channelId, r.roleId]
  | .boundMessages g => [g]
  | .dropBindings g => [g]
  | .isBound m _ => [m]
  | .putBan r => [r.guildId, r.userId, r.unbanAt]
  | .dropBan g u => [g, u]
  | .expiredBans t => [t]
  | .isBanned g u => [g, u]
  | _ => []

/- Numbers of 64 bits. -/
def fits
    (n : Int) : Bool :=
  -9223372036854775808 ≤ n && n ≤ 9223372036854775807

------------------------------------------------------------
-- Effects
------------------------------------------------------------

/- Put a text at its place among sorted texts. -/
def insertText
    (s : String) :
    List String → List String
  | [] => [s]
  | t :: ts => if s ≤ t then s :: t :: ts else t :: insertText s ts

/- Put a ban at its place, behind those that end no later. -/
def insertBan
    (b : BanRow) :
    List BanRow → List BanRow
  | [] => [b]
  | c :: cs =>
    if b.unbanAt < c.unbanAt then b :: c :: cs else c :: insertBan b cs

/- The bans that end up to a time, by their ends. -/
def expired
    (now : Int)
    (rows : List BanRow) : List BanRow :=
  (rows.filter fun r => r.unbanAt ≤ now).foldl
    (fun acc r => insertBan r acc) []

/-
  The answer of a statement on tables that exist, and the
  tables after it.
-/
def effect
    (t : Tables) :
    (s : Statement) → Except Cause (s.Answer × Tables)
  | .configure _ => .ok ((), t)
  | .createTable n =>
    .ok ((), if t.has n then t else { t with created := t.created ++ [n] })
  | .createIndex _ => .ok ((), t)
  | .markVersion v =>
    .ok ((), if t.versions.contains v then t
      else { t with versions := t.versions ++ [v] })
  | .versions => .ok (t.versions, t)
  | .putTag r =>
    .ok ((), { t with tags := putRow TagRow.sameTag r t.tags })
  | .dropTag g k =>
    let rest := t.tags.filter fun r => !(r.guildId == g && r.key == k)
    .ok (rest.length != t.tags.length, { t with tags := rest })
  | .findTag g k =>
    .ok (t.tags.find? fun r => r.guildId == g && r.key == k, t)
  | .tagKeys g =>
    let keys := (t.tags.filter fun r => r.guildId == g).map (·.key)
    .ok (keys.foldl (fun acc k => insertText k acc) [], t)
  | .addBinding r =>
    if t.bindings.any r.sameReaction then .error .constraintBroken
    else .ok ((), { t with bindings := t.bindings ++ [r] })
  | .boundMessages g =>
    .ok
      (((t.bindings.filter fun r => r.guildId == g).map
        (·.messageId)).eraseDups, t)
  | .dropBindings g =>
    .ok ((), { t with
      bindings := t.bindings.filter fun r => r.guildId != g })
  | .isBound m e => .ok (t.bindings.any fun r => r.isOf m e, t)
  | .allBindings => .ok (t.bindings, t)
  | .putBan r => .ok ((), { t with bans := putRow BanRow.sameUser r t.bans })
  | .dropBan g u =>
    let rest := t.bans.filter fun r => !(r.guildId == g && r.userId == u)
    .ok (rest.length != t.bans.length, { t with bans := rest })
  | .expiredBans now => .ok (expired now t.bans, t)
  | .isBanned g u =>
    .ok (t.bans.any fun r => r.guildId == g && r.userId == u, t)

/- Whether the table that a statement needs is missing. -/
def lacksTable
    (s : Statement)
    (t : Tables) : Bool :=
  match s with
  | .createTable _ => false
  | _ =>
    match s.table? with
    | some n => !t.has n
    | none => false

/- Execute a statement on the tables. -/
def execute
    (s : Statement)
    (t : Tables) : Except Cause (s.Answer × Tables) :=
  if s.lacksTable t then .error (.storageFault "")
  else if !s.numbers.all fits then .error .outOfRange
  else effect t s

end Statement

end GuildWarden.Store
