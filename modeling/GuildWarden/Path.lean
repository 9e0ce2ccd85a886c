/-
  This file defines how a path is made absolute and free of
  `.` and `..`, where nothing on the way is a link, and the
  base directory of the program.

  Key definitions include:
    * `Path.resolve`
    * `Path.parent`
    * `Path.baseDirectory?`
-/

namespace GuildWarden.Path

/- A directory as the list of names that lead to it. -/
abbrev Names :=
  List String

/- Walk along the names of a path, the last name first. -/
def walk
    (reached : Names) :
    Names → Names
  | [] => reached
  | name :: rest =>
    if name = "" || name = "." then walk reached rest
    else if name = ".." then walk (reached.drop 1) rest
    else walk (name :: reached) rest

/-
  The written form of the place that a path leads to, seen
  from a directory `here`.
-/
def resolve
    (here path : String) : String :=
  let names := path.splitOn "/"
  if path.startsWith "/" then
    "/" ++ "/".intercalate (walk [] names).reverse
  else
    "/".intercalate (here :: (walk [] names).reverse)

/- The directory that holds a place. -/
def parent
    (place : String) : String :=
  let names := ((place.splitOn "/").filter (· != "")).dropLast
  "/" ++ "/".intercalate names

/-
  The base directory: the configured home, or for a packed
  program the directory of the executable.
-/
def baseDirectory?
    (home : Option String)
    (packed : Bool)
    (here executable : String) : Option String :=
  match home with
  | some h =>
    if h != "" then some (resolve here h)
    else if packed then some (parent (resolve here executable))
    else none
  | none =>
    if packed then some (parent (resolve here executable)) else none

end GuildWarden.Path
