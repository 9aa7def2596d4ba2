import Signpost.Url.Split

/-!
# Locations

A request names its target by a path, by a URL without a scheme, or by a full URL.
`Location.ofText` brings the three into one form: the host, the path, and the query with its mark.
A URL keeps its path as written. A path is resolved as a browser would, against the root: dot
segments go, and it begins with a slash.
-/
namespace Signpost.Url

/-- A target in normal form. The host is empty unless a URL named it; a query that is not empty
carries its question mark. -/
structure Location where
  host : String
  path : String
  query : String
  deriving DecidableEq, Repr, Inhabited

/-- Path and query, as rules for a query are keyed. -/
def Location.pathWithQuery (location : Location) : String :=
  location.path ++ location.query

/-- The path before the parameters of its last segment, and the parameters. -/
def splitParameters (path : List Char) : List Char × List Char :=
  let last := Text.afterLast '/' path
  match Text.cut? ';' last with
  | some (name, parameters) => (path.take (path.length - last.length) ++ name, parameters)
  | none => (path, [])

/-- The segments of a path below the root. Empty segments inside a path that does not begin at the
root are dropped. -/
def segments (path : List Char) : List (List Char) :=
  if path.head? == some '/' then Text.pieces '/' path
  else
    let parts := Text.pieces '/' path
    [] :: parts.dropLast.filter (!·.isEmpty) ++ [parts.getLast?.getD []]

/-- One step of the walk along a path: a double dot takes the last segment back, a single dot
stays. The segments walked so far stand in reverse. -/
def walk (walked : List (List Char)) (segment : List Char) : List (List Char) :=
  if segment == ['.', '.'] then walked.drop 1
  else if segment == ['.'] then walked
  else segment :: walked

/-- The segments without dot segments. A dot segment at the end leaves an empty one. -/
def withoutDots (parts : List (List Char)) : List (List Char) :=
  let walked := parts.foldl walk []
  let last := parts.getLast?.getD []
  if last == ['.'] || last == ['.', '.'] then ([] :: walked).reverse else walked.reverse

/-- The path with a slash in front. -/
def rooted (path : List Char) : List Char :=
  if path.head? == some '/' then path else '/' :: path

/-- A path resolved against the root. -/
def resolvePath (path : List Char) : List Char :=
  let (path, parameters) := splitParameters path
  let resolved :=
    if path.isEmpty && parameters.isEmpty then ['/']
    else Text.join '/' (withoutDots (segments path))
  let resolved := if resolved.isEmpty then ['/'] else resolved
  rooted resolved ++ if parameters.isEmpty then [] else ';' :: parameters

/-- The path of a URL that may be followed by parameters without text, which are dropped. -/
def tidyPath (path : List Char) : List Char :=
  let (path, parameters) := splitParameters path
  path ++ if parameters.isEmpty then [] else ';' :: parameters

/-- A location from its parts. -/
def Location.ofParts (host path query : List Char) : Location where
  host := String.ofList host
  path := if path.isEmpty then "/" else String.ofList path
  query := if query.isEmpty then "" else String.ofList ('?' :: query)

/-- The scheme of a request that names none. -/
def https : List Char := "https".toList

/-- The location that a full URL names. -/
def Location.ofUrl (url : List Char) : Except Malformed Location := do
  let parts ← Parts.split [] url
  let host ← hostOfAuthority parts.authority
  return Location.ofParts host parts.path parts.query

/-- The location that a path names. A URL of another scheme counts as a path; it is not resolved. -/
def Location.ofPath (url : List Char) : Except Malformed Location := do
  let parts ← Parts.split https url
  if parts.scheme != https then
    return Location.ofParts [] parts.path parts.query
  else if !parts.authority.isEmpty then
    return Location.ofParts [] (tidyPath parts.path) parts.query
  else
    return Location.ofParts [] (resolvePath parts.path) parts.query

/-- The text begins as a full URL does. -/
def isFullUrl (url : List Char) : Bool :=
  "http://".toList.isPrefixOf url || "https://".toList.isPrefixOf url

/-- The location that a request names. -/
def Location.ofText (text : String) : Except Malformed Location :=
  let url := text.toList
  if ['/', '/'].isPrefixOf url then Location.ofUrl ("https:".toList ++ url)
  else if isFullUrl url then Location.ofUrl url
  else Location.ofPath url

end Signpost.Url
