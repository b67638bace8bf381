import AtomsPlatform.Lib.Splitting
import Mathlib.Data.List.Basic

/-!
# Route coverage

Compares the routes Bob planned with the files Alex generated. Paths and their segments are lists of
characters.
-/

namespace AtomsPlatform.Run
attribute [local instance] Splitting.lawfulBEq_text

/-- Source `ROUTE_COVERAGE_STEP`. -/
def routeCoverageStep : String := "route-coverage"

/-- Source `PlannedRoute`. -/
structure PlannedRoute where
  method : String
  path : String
deriving DecidableEq, Repr

/-- A path or a segment of one. -/
abbrev Chars := List Char

/-- Whether a segment is `opening`, one or more characters that satisfy `inner`, and `closing`. -/
def encloses (opening closing : String) (inner : Char → Bool) (segment : Chars) : Bool :=
  let middle := (segment.drop opening.length).take
    (segment.length - opening.length - closing.length)
  opening.toList.isPrefixOf segment && closing.toList.isSuffixOf segment && !middle.isEmpty &&
    middle.all inner

/-- `[A-Za-z0-9_]` -/
def isWordChar (c : Char) : Bool :=
  c.isAlphanum || c = '_'

/-- What the source's `map` makes of one segment. -/
def normalizeSegment (segment : Chars) : Chars :=
  if encloses "[[..." "]]" (· ≠ ']') segment then "[[...]]".toList
  else if encloses "[..." "]" (· ≠ ']') segment then "[...]".toList
  else if encloses "[" "]" (· ≠ ']') segment then "[]".toList
  else if encloses ":" "" isWordChar segment || encloses "\x7b" "\x7d" (· ≠ '\x7d') segment then
    "[]".toList
  else segment

/-- `segments.join("/")` -/
def joinSegments (segments : List Chars) : Chars :=
  ['/'].intercalate segments

/-- Source `normalizeRoutePath`: dynamic segment names differ freely, only their shape matters. -/
def normalizeRoutePath (path : Chars) : Chars :=
  let withoutQuery := path.takeWhile fun c => c ≠ '?' ∧ c ≠ '#'
  let segments := (withoutQuery.splitOn '/').filter fun segment => !segment.isEmpty
  '/' :: joinSegments (segments.map normalizeSegment)

/-- `filePath.replace(/^src\//u, "")` -/
def withoutSrc (filePath : Chars) : Chars :=
  if "src/".toList.isPrefixOf filePath then filePath.drop 4 else filePath

/-- The alternatives of `SOURCE_EXTENSION`. -/
def sourceExtensions : List String :=
  [".tsx", ".ts", ".jsx", ".js", ".mjs"]

/-- The part of a file name before its source extension, if it has one. -/
def sourceBase? (fileName : Chars) : Option Chars :=
  (sourceExtensions.find? fun extension => extension.toList.isSuffixOf fileName).map fun extension =>
    fileName.take (fileName.length - extension.length)

/-- `/^\(.*\)$/u`, where `.` is any character but a line terminator. -/
def isRouteGroup (segment : Chars) : Bool :=
  let isLineTerminator (c : Char) : Bool :=
    c = '\n' || c = '\r' || c.toNat = 0x2028 || c.toNat = 0x2029
  2 ≤ segment.length && segment.head? = some '(' && segment.getLast? = some ')' &&
    segment.all fun c => !isLineTerminator c

/-- Source `routeServedByFile`: the route a file serves, if it is a route entry. -/
def routeServedByFile (filePath : Chars) : Option Chars :=
  let segments := (withoutSrc filePath).splitOn '/'
  let fileName := segments.getLast?.getD []
  let directories := (segments.drop 1).dropLast
  if segments.head? = some "app".toList then
    match sourceBase? fileName with
    | some base =>
      if base = "page".toList ∨ base = "route".toList then
        some (normalizeRoutePath (joinSegments (directories.filter fun segment =>
          !isRouteGroup segment && segment.head? ≠ some '@')))
      else none
    | none => none
  else if segments.head? = some "pages".toList then
    match sourceBase? fileName with
    | some base =>
      if base.head? = some '_' then none
      else some (normalizeRoutePath (joinSegments
        (directories ++ if base = "index".toList then [] else [base])))
    | none => none
  else none

/-- The loop over the planned routes; `seen` holds the routes that were reported. -/
def collectMissing (served : List Chars) : List PlannedRoute → (seen : List Chars) → List PlannedRoute
  | [], _ => []
  | route :: routes, seen =>
    let normalized := normalizeRoutePath route.path.toList
    if route.path.toList.head? ≠ some '/' then collectMissing served routes seen
    else if normalized ∈ served ∨ normalized ∈ seen then collectMissing served routes seen
    else route :: collectMissing served routes (normalized :: seen)

/-- Source `findMissingRoutes`: the planned routes with no file serving them. -/
def findMissingRoutes (planned : List PlannedRoute) (filePaths : List String) : List PlannedRoute :=
  let paths := filePaths.map String.toList
  let usesFileRouting := paths.any fun path =>
    "app/".toList.isPrefixOf (withoutSrc path) || "pages/".toList.isPrefixOf (withoutSrc path)
  if usesFileRouting then collectMissing (paths.filterMap routeServedByFile) planned [] else []

/-- Source `describeMissingRoutes`. -/
def describeMissingRoutes (missing : List PlannedRoute) : String :=
  "\n".intercalate (missing.map fun route => s!"{route.method} {route.path}")

example : findMissingRoutes [⟨"GET", "/login"⟩, ⟨"GET", "/items/:id"⟩]
    ["src/app/page.tsx", "src/app/items/[itemId]/page.tsx"] = [⟨"GET", "/login"⟩] := by
  decide

end AtomsPlatform.Run
