import ResourceApi.Text.Percent
import ResourceApi.Text.Pieces

/-!
# Request targets

A target names a path and a query, either alone (`/posts?limit=1`) or after a scheme and an authority
(`http://host/posts`), which say nothing about the resource. A lone `*` is its own path.
-/

namespace ResourceApi

/-- A request target. An absent query is empty. -/
structure Target where
  path : String
  query : String
  deriving DecidableEq, Repr

namespace Target

/-- Whether a character ends the authority. -/
def endsAuthority (c : Char) : Bool :=
  c == '/' || c == '?' || c == '#'

/-- What follows the scheme and the authority, if they are given. -/
def afterAuthority (s : List Char) : List Char :=
  match s with
  | '/' :: _ => s
  | _ =>
    match s.dropWhile (· != ':') with
    | ':' :: '/' :: '/' :: rest => rest.dropWhile fun c => !endsAuthority c
    | _ => s

/-- Read a target. The path ends at the first question mark and the query at the first number sign; an empty path is
the root. -/
def ofText (s : String) : Target :=
  let visible := (afterAuthority s.toList).takeWhile (· != '#')
  let path := visible.takeWhile (· != '?')
  let query := (visible.dropWhile (· != '?')).drop 1
  { path := if path.isEmpty then "/" else String.ofList path
    query := String.ofList query }

end Target

/-- The segments of a path: the parts between slashes, empty ones left out, each decoded after it was cut. So a
segment may hold a slash that was escaped. -/
def Path.segments (path : String) : List String :=
  (Text.splitNonEmpty '/' path).map Percent.decode

end ResourceApi
