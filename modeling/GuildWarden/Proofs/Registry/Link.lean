import GuildWarden.Proofs.Text.Trimming
import GuildWarden.Proofs.Web.Query
import GuildWarden.Registry.Client

/-
  This file shows that a link to the documentation of an item
  in a crate that comes with the compiler carries the path of
  the item: without any request, it is the documentation of
  the crate with a query that is read as the path.

  Key definitions include:
    * `Url.IsPage`

  Main statements:
    * `Url.toList_written_setQuery`
    * `Registry.splitItem_eq`
    * `Registry.docLink_carries_path`
-/

namespace GuildWarden

namespace Url

/- An address with a path, without a query and a fragment. -/
structure IsPage
    (u : Url) : Prop where
  path : u.path ≠ []
  query : u.query = []
  fragment : u.fragment = []

instance
    (u : Url) :
    Decidable u.IsPage :=
  decidable_of_iff
    (u.path ≠ [] ∧ u.query = [] ∧ u.fragment = [])
    ⟨fun h => ⟨h.1, h.2.1, h.2.2⟩,
      fun h => ⟨h.path, h.query, h.fragment⟩⟩

/- What is written of an address with a path in front of its query. -/
def front
    (u : Url) : List Char :=
  let path :=
    if !u.path.isEmpty && u.path.head? != some '/' then '/' :: u.path
    else u.path
  let body :=
    if !u.writtenAuthority.isEmpty || (hierarchical.contains u.scheme &&
        u.path.take 2 != ['/', '/']) then
      '/' :: '/' :: u.writtenAuthority ++ path
    else u.path
  if u.scheme = "" then body else u.scheme.toList ++ ':' :: body

theorem toList_written
    {u : Url}
    (hPath : u.path ≠ []) :
    u.written.toList =
      u.front ++
        (if writtenQuery u.query = [] then []
          else '?' :: writtenQuery u.query) ++
        (if u.fragment = [] then [] else '#' :: u.fragment) := by
  have hSome : u.path.isEmpty = false := by simpa using hPath
  unfold written front
  simp only [hSome, Bool.false_and, String.toList_ofList,
    List.isEmpty_iff]
  by_cases hQuery : writtenQuery u.query = [] <;>
    by_cases hFragment : u.fragment = [] <;>
      simp [hPath, hQuery, hFragment]

/- A value that is set on a page is written behind its address. -/
theorem toList_written_setQuery
    {u : Url}
    (hPage : u.IsPage)
    (name value : String) :
    (u.setQuery name value).written.toList =
      u.written.toList ++
        '?' :: (queryPart name ++ '=' :: queryPart value) := by
  have hFront : (u.setQuery name value).front = u.front := rfl
  have hQuery :
      writtenQuery (u.setQuery name value).query =
        queryPart name ++ '=' :: queryPart value := by
    rw [setQuery, hPage.query]
    simp [setFirst, writtenQuery]
  have hNone : writtenQuery u.query = [] := by
    rw [hPage.query]
    rfl
  have hFragment : (u.setQuery name value).fragment = [] :=
    hPage.fragment
  rw [toList_written (u := u.setQuery name value) hPage.path,
    toList_written hPage.path, hFront, hQuery, hNone, hFragment,
    hPage.fragment]
  simp

end Url

namespace Registry

open Program Text

/- The address of each documentation is read as a page. -/
theorem exists_page_of_builtin
    {name url : String}
    (hBuiltin : (name, url) ∈ builtinDocs) :
    ∃ u, Url.read url = .ok u ∧ u.IsPage ∧ u.written = url := by
  have hEach :
      (builtinDocs.all fun e =>
        match Url.read e.2 with
        | .ok u => decide (u.IsPage ∧ u.written = e.2)
        | .error _ => false) = true := by
    decide +kernel
  have hThis := List.all_eq_true.mp hEach _ hBuiltin
  simp only at hThis
  split at hThis
  · rename_i u hRead
    exact ⟨u, hRead, of_decide_eq_true hThis⟩
  · cases hThis

/- A path is set on the address of a documentation. -/
theorem withItem_of_builtin
    {name url path : String}
    (hBuiltin : (name, url) ∈ builtinDocs)
    (hSome : path ≠ "") :
    withItem (.text url) path =
      .ok (.text
        (url ++ "?search=" ++ String.ofList (Url.queryPart path))) := by
  rcases exists_page_of_builtin hBuiltin with
    ⟨u, hRead, hPage, hWritten⟩
  have hName : Url.queryPart "search" = "search".toList := by
    decide
  have hLink :
      (u.setQuery "search" path).written =
        url ++ "?search=" ++ String.ofList (Url.queryPart path) := by
    apply String.toList_inj.mp
    rw [Url.toList_written_setQuery hPage, hName, hWritten]
    simp
  rw [withItem, if_neg hSome]
  simp only [hRead]
  change Except.ok (Payload.text (u.setQuery "search" path).written) = _
  rw [hLink]

/- The name of each crate is kept as it is, and found again. -/
theorem name_of_builtin
    {name url : String}
    (hBuiltin : (name, url) ∈ builtinDocs) :
    name ≠ "" ∧ StartsFilled name.toList ∧
      trimmed name = name ∧ IsFree "::".toList name.toList ∧
        builtinDocs.lookup name = some url := by
  have hEach :
      (builtinDocs.all fun e =>
        e.1 != "" && e.1.toList.head?.all (!isBlank ·) &&
          trimmed e.1 == e.1 &&
          decide (IsFree "::".toList e.1.toList) &&
          builtinDocs.lookup e.1 == some e.2) = true := by
    decide +kernel
  have hThis := List.all_eq_true.mp hEach _ hBuiltin
  simp only [Bool.and_eq_true, bne_iff_ne, beq_iff_eq,
    decide_eq_true_eq] at hThis
  rcases hThis with ⟨⟨⟨⟨hSome, hStarts⟩, hKept⟩, hFree⟩, hLookup⟩
  refine ⟨hSome, ?_, hKept, hFree, hLookup⟩
  intro c hHead
  rw [Option.mem_def] at hHead
  simpa [hHead] using hStarts

/- A query of a name and a path is split between them. -/
theorem splitItem_eq
    {name path : String}
    (hName : name ≠ "")
    (hStarts : StartsFilled name.toList)
    (hFree : IsFree "::".toList name.toList)
    (hPath : path ≠ "")
    (hEnds : EndsFilled path.toList) :
    splitItem (name ++ "::" ++ path) = (trimmed name, path) := by
  have hLetters :
      (name ++ "::" ++ path).toList =
        name.toList ++ "::".toList ++ path.toList := by
    rw [String.toList_append, String.toList_append]
  have hKept :
      trim (name ++ "::" ++ path).toList =
        name.toList ++ "::".toList ++ path.toList := by
    have hFirst : name.toList ≠ [] := by simpa using hName
    have hLast : path.toList ≠ [] := by simpa using hPath
    rw [hLetters]
    apply trim_of_filled
    · rw [List.append_assoc]
      exact hStarts.append hFirst
    · exact hEnds.append hLast
  have hCut :
      cutAt? "::".toList (trim (name ++ "::" ++ path).toList) =
        some (name.toList, path.toList) :=
    cutAt?_eq_some_iff.mpr ⟨hKept, hFree⟩
  simp only [splitItem, hCut, String.ofList_toList]

/-
  A link to an item carries its path. For every crate that
  comes with the compiler and every path that is not empty and
  has no blank at its ends, the link is found without any
  request: the documentation of the crate, and a query that
  holds plain characters only and is read as the path.
-/
theorem docLink_carries_path
    (s : ServiceSettings)
    {name url path : String}
    (hBuiltin : (name, url) ∈ builtinDocs)
    (hSome : path ≠ "")
    (hTrimmed : trimmed path = path) :
    ∃ q : String,
      docLink s (name ++ "::" ++ path) =
        .done (some (.text (url ++ "?search=" ++ q))) ∧
      (∀ c ∈ q.toList, Url.IsPlain c) ∧
      Utf8.decodeStrict? (Url.queryOctets q.toList) =
        some path.toList := by
  rcases name_of_builtin hBuiltin with
    ⟨hName, hStarts, hKept, hFree, hLookup⟩
  have hEnds : EndsFilled path.toList := by
    have hPath : trim path.toList = path.toList := by
      rw [← String.ofList_inj, String.ofList_toList]
      exact hTrimmed
    rw [← hPath]
    exact endsFilled_trim path.toList
  refine ⟨String.ofList (Url.queryPart path), ?_, ?_, ?_⟩
  · unfold docLink
    rw [splitItem_eq hName hStarts hFree hSome hEnds, hKept]
    simp only [if_neg hName, crateDocs, hLookup]
    change
      (settle (withItem (.text url) path)).bind
        (fun link => .done (some link)) = _
    rw [withItem_of_builtin hBuiltin hSome]
    rfl
  · rw [String.toList_ofList]
    exact fun c hMember => Url.isPlain_of_mem_queryPart hMember
  · rw [String.toList_ofList, Url.queryOctets_queryPart,
      Utf8.decodeStrict?_encode]

/- A path with separators, percent signs and letters of several sizes. -/
theorem docLink_carries_separators :
    ∃ q : String,
      docLink ⟨"https://crates.io/api/v1", "", .infinite true⟩
          ("std" ++ "::" ++ "fmt::é #a&b=c+d%20\x7f€") =
        .done (some (.text
          ("https://doc.rust-lang.org/stable/std/" ++ "?search=" ++ q))) ∧
      (∀ c ∈ q.toList, Url.IsPlain c) ∧
      Utf8.decodeStrict? (Url.queryOctets q.toList) =
        some "fmt::é #a&b=c+d%20\x7f€".toList :=
  docLink_carries_path ⟨"https://crates.io/api/v1", "", .infinite true⟩
    (by decide : ("std", "https://doc.rust-lang.org/stable/std/") ∈ builtinDocs)
    (by decide) (by decide +kernel)

end Registry

end GuildWarden
