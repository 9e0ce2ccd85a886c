import GuildWarden.Cause
import GuildWarden.Text.Blank
import GuildWarden.Text.Escape

/-
  This file defines web addresses: their parts, how a text is
  cut into them, how the parts of a query are written, and how
  one part of a query is set.

  Key definitions include:
    * `Url`
    * `Url.read`
    * `Url.queryPart`
    * `Url.setQuery`
    * `Url.replaceQuery`
    * `Url.written`
-/

namespace GuildWarden

open GuildWarden.Text

/-
  A web address. The endpoint is the number behind the host,
  the query is a list of names with values; the other parts
  are in their written form.
-/
structure Url where
  scheme : String
  user : Option String
  host : String
  endpoint : Option Nat
  path : List Char
  query : List (String × String)
  fragment : List Char
deriving DecidableEq, Repr

namespace Url

------------------------------------------------------------
-- Classes of characters
------------------------------------------------------------

/- Marks that may stand in every part. -/
def isMark
    (c : Char) : Bool :=
  "!$'()*,".toList.contains c

/- Marks that separate the parts of a query. -/
def isSeparator
    (c : Char) : Bool :=
  "+&=;".toList.contains c

/- Characters that may stand in the name of a user. -/
def inUser
    (c : Char) : Bool :=
  isUnreserved c || isMark c || isSeparator c

/- Characters that may stand in a path. -/
def inPath
    (c : Char) : Bool :=
  inUser c || c == '@' || c == ':'

/- Characters that may stand in a fragment. -/
def inFragment
    (c : Char) : Bool :=
  inPath c || c == '?' || c == '/'

/- Characters that stand for themselves in a part of a query. -/
def inQueryPart
    (c : Char) : Bool :=
  isUnreserved c || isMark c || "?/:@".toList.contains c

------------------------------------------------------------
-- Encoding
------------------------------------------------------------

/-
  A part in its written form. What is already encoded stays
  encoded, unless the character needs no encoding; encoded
  protected characters are never decoded.
-/
def requoted
    (allowed guarded : Char → Bool) :
    List Char → List Char
  | [] => []
  | '%' :: a :: b :: cs =>
    match hexOctet? a b with
    | some n =>
      let c := Char.ofNat n
      if n < 128 && allowed c && !guarded c then
        c :: requoted allowed guarded cs
      else percentOctet n ++ requoted allowed guarded cs
    | none => "%25".toList ++ requoted allowed guarded (a :: b :: cs)
  | c :: cs =>
    (if allowed c || guarded c then [c] else percentChar c) ++
      requoted allowed guarded cs

/- A name or a value in a query; a space becomes a plus sign. -/
def queryPart
    (s : String) : List Char :=
  s.toList.flatMap fun c =>
    if c = ' ' then ['+'] else percentEncode inQueryPart [c]

/- The octets of a part of a query. -/
def queryOctets : List Char → List Nat
  | [] => []
  | '%' :: a :: b :: cs =>
    match hexOctet? a b with
    | some n => n :: queryOctets cs
    | none => 0x25 :: queryOctets (a :: b :: cs)
  | c :: cs =>
    (if c = '+' then [0x20] else Utf8.encodeChar c) ++ queryOctets cs

/- The text that a part of a query stands for. -/
def readQueryPart
    (cs : List Char) : String :=
  String.ofList (Utf8.decodeLossy (queryOctets cs))

/- The names and values of a query; a missing value is empty. -/
def readQuery
    (cs : List Char) : List (String × String) :=
  ((cs.splitOn '&').filter (!·.isEmpty)).map fun part =>
    (readQueryPart (part.takeWhile (· != '=')),
      readQueryPart ((part.dropWhile (· != '=')).drop 1))

/- The written form of a query. -/
def writtenQuery
    (query : List (String × String)) : List Char :=
  ['&'].intercalate <|
    query.map fun q => queryPart q.1 ++ '=' :: queryPart q.2

------------------------------------------------------------
-- Reading
------------------------------------------------------------

/- Characters of a scheme. -/
def inScheme
    (c : Char) : Bool :=
  c.isAlphanum || c == '+' || c == '-' || c == '.'

/- The scheme in front of a colon, in small letters. -/
def splitScheme
    (cs : List Char) : String × List Char :=
  match cs.takeWhile (· != ':'), cs.dropWhile (· != ':') with
  | s :: ss, _ :: rest =>
    if s.isAlpha && ss.all inScheme then
      (String.ofList ((s :: ss).map Char.toLower), rest)
    else ("", cs)
  | _, _ => ("", cs)

/- Cut a text in front of the first of some characters. -/
def cutBefore
    (stops : List Char)
    (cs : List Char) : List Char × List Char :=
  (cs.takeWhile fun c => !stops.contains c,
    cs.dropWhile fun c => !stops.contains c)

/- The last part of a text after a separator, and what is before it. -/
def cutAtLast
    (sep : Char)
    (cs : List Char) : Option (List Char × List Char) :=
  match cs.reverse.dropWhile (· != sep) with
  | [] => none
  | _ :: before =>
    some (before.reverse, (cs.reverse.takeWhile (· != sep)).reverse)

/- The host and the text of the number behind it. -/
def splitPlace
    (cs : List Char) : List Char × Option (List Char) :=
  let (host, rest) :=
    match cs with
    | '[' :: inner =>
      (inner.takeWhile (· != ']'), (inner.dropWhile (· != ']')).drop 1)
    | _ => (cs.takeWhile (· != ':'), cs.dropWhile (· != ':'))
  match rest with
  | ':' :: [] => (host, none)
  | ':' :: endpoint => (host, some endpoint)
  | _ => (host, none)

/- The number behind a host has 16 bits. -/
def readEndpoint
    (cs : List Char) : Except Cause Nat :=
  let n := digitsValue (cs.map fun c => c.toNat - 48)
  if cs.all Char.isDigit && n ≤ 65535 then .ok n
  else .error (.badValue "")

/- The number that a scheme implies. -/
def usualEndpoint
    (scheme : String) : Option Nat :=
  [("http", 80), ("https", 443), ("ws", 80), ("wss", 443), ("ftp", 21)].lookup
    scheme

/- A user name, and a password after a colon. -/
def writtenUser
    (cs : List Char) : Option String :=
  let quote (cs : List Char) := requoted inUser (fun _ => false) cs
  match cs.takeWhile (· != ':'), cs.dropWhile (· != ':') with
  | [], [] => none
  | name, [] => some (String.ofList (quote name))
  | name, _ :: word =>
    some (String.ofList (quote name ++ ':' :: quote word))

/- A host; one that holds colons is put in brackets. -/
def writtenHost
    (cs : List Char) : String :=
  let cs := cs.map Char.toLower
  if cs.contains ':' then String.ofList ('[' :: cs ++ [']'])
  else String.ofList cs

/- The user, the host and the number behind it in an authority. -/
def readAuthority
    (scheme : String)
    (cs : List Char) :
    Except Cause (Option String × String × Option Nat) := do
  if cs.contains '[' != cs.contains ']' then throw (.badValue "")
  let (user, place) := (cutAtLast '@' cs).getD ([], cs)
  let (host, given?) := splitPlace place
  if host.isEmpty then throw (.badValue "")
  let endpoint ←
    match given? with
    | some p => (readEndpoint p).map some
    | none => .ok none
  let endpoint := if endpoint == usualEndpoint scheme then none else endpoint
  return (writtenUser user, writtenHost host, endpoint)

/- Walk through the names of a path; `..` takes the last one back. -/
def walk
    (reached : List (List Char)) :
    List (List Char) → List (List Char)
  | [] => reached.reverse
  | name :: rest =>
    if name = "..".toList then
      walk (if rest.isEmpty then [] :: reached.drop 1 else reached.drop 1) rest
    else if name = ".".toList then
      walk (if rest.isEmpty then [] :: reached else reached) rest
    else walk (name :: reached) rest

/- A path without the names `.` and `..`. -/
def straightPath : List Char → List Char
  | '/' :: cs => '/' :: ['/'].intercalate (walk [] (cs.splitOn '/'))
  | cs => ['/'].intercalate (walk [] (cs.splitOn '/'))

/- Blanks and control characters in front of an address. -/
def isLeadingGap
    (c : Char) : Bool :=
  c.toNat ≤ 0x20

/- Characters that are ignored everywhere in an address. -/
def isIgnored
    (c : Char) : Bool :=
  c == '\t' || c == '\n' || c == '\r'

/- The address that a text denotes. -/
def read
    (s : String) : Except Cause Url := do
  let cs := (s.toList.dropWhile isLeadingGap).filter (!isIgnored ·)
  let (scheme, rest) := splitScheme cs
  let (authority, rest) :=
    match rest with
    | '/' :: '/' :: body => cutBefore ['/', '?', '#'] body
    | _ => ([], rest)
  let (rest, fragment) := cutBefore ['#'] rest
  let (path, query) := cutBefore ['?'] rest
  let path := requoted inPath (fun c => c == '/' || c == '+') path
  let query := readQuery (query.drop 1)
  let fragment :=
    requoted inFragment (fun _ => false) (fragment.drop 1)
  if authority.isEmpty then
    return ⟨scheme, none, "", none, path, query, fragment⟩
  else
    let (user, host, endpoint) ← readAuthority scheme authority
    return ⟨scheme, user, host, endpoint, straightPath path, query, fragment⟩

------------------------------------------------------------
-- Changing and writing
------------------------------------------------------------

/- Set a value in a query: in the place of the first one of its name. -/
def setFirst
    (name value : String) :
    List (String × String) → List (String × String)
  | [] => [(name, value)]
  | q :: qs =>
    if q.1 = name then (name, value) :: qs.filter (·.1 != name)
    else q :: setFirst name value qs

/- Set a value in the query. -/
def setQuery
    (u : Url)
    (name value : String) : Url :=
  { u with query := setFirst name value u.query }

/- Replace the query. -/
def replaceQuery
    (u : Url)
    (query : List (String × String)) : Url :=
  { u with query := query }

/- Schemes whose addresses always show an authority. -/
def hierarchical : List String :=
  [
    "ftp", "http", "gopher", "nntp", "telnet", "imap", "wais", "file",
    "mms", "https", "shttp", "snews", "prospero", "rtsp", "rtspu",
    "rsync", "svn", "svn+ssh", "sftp", "nfs", "git", "git+ssh", "ws", "wss"
  ]

/- The authority of an address. -/
def writtenAuthority
    (u : Url) : List Char :=
  let user :=
    match u.user with
    | some s => s.toList ++ ['@']
    | none => []
  let endpoint :=
    match u.endpoint with
    | some n => ':' :: (toString n).toList
    | none => []
  user ++ u.host.toList ++ endpoint

/- The written form of an address. -/
def written
    (u : Url) : String :=
  let query := writtenQuery u.query
  let authority := u.writtenAuthority
  let path :=
    if u.path.isEmpty && u.host != "" &&
        (!query.isEmpty || !u.fragment.isEmpty) then ['/']
    else u.path
  let body :=
    if !authority.isEmpty || (hierarchical.contains u.scheme &&
        path.take 2 != ['/', '/']) then
      let path :=
        if !path.isEmpty && path.head? != some '/' then '/' :: path else path
      '/' :: '/' :: authority ++ path
    else path
  let body :=
    if u.scheme = "" then body else u.scheme.toList ++ ':' :: body
  let body := if query.isEmpty then body else body ++ '?' :: query
  let body :=
    if u.fragment.isEmpty then body else body ++ '#' :: u.fragment
  String.ofList body

end Url

end GuildWarden
