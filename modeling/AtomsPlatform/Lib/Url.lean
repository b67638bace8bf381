import Mathlib

/-!
# URLs

The URL parser of the WHATWG standard, one function a part of the input. Hosts of special schemes and
addresses in brackets are read by parsers of their own, which are parameters: they write a host in its one
spelling. Left out are `file:` URLs, and references that do not start with a slash.
-/

namespace Whatwg

section Percent

/-- The digits of percent-encoding. -/
def hexDigits : List Char :=
  ['0', '1', '2', '3', '4', '5', '6', '7', '8', '9', 'A', 'B', 'C', 'D', 'E', 'F']

/-- A byte, percent-encoded. -/
def percentByte (byte : UInt8) : List Char :=
  ['%', hexDigits.getD (byte.toNat / 16) '0', hexDigits.getD (byte.toNat % 16) '0']

/-- A character, percent-encoded if it is in a set. -/
def percentChar (set : Char → Bool) (c : Char) : List Char :=
  if set c then (String.utf8EncodeChar c).flatMap percentByte else [c]

/-- A text whose characters of a set are percent-encoded. -/
def percentEncode (set : Char → Bool) (text : List Char) : List Char :=
  text.flatMap (percentChar set)

/-- C0 controls, and what is not ASCII. -/
def isC0Control (c : Char) : Bool :=
  c.toNat ≤ 0x1F || 0x7E < c.toNat

/-- The fragment percent-encode set. -/
def isFragmentEncoded (c : Char) : Bool :=
  isC0Control c || c ∈ [' ', '"', '<', '>', '`']

/-- The query percent-encode set, and that of special schemes. -/
def isQueryEncoded (special : Bool) (c : Char) : Bool :=
  isC0Control c || c ∈ [' ', '"', '#', '<', '>'] || (special && c = '\'')

/-- The path percent-encode set. -/
def isPathEncoded (c : Char) : Bool :=
  isQueryEncoded false c || c ∈ ['?', '^', '`', '{', '}']

/-- The userinfo percent-encode set. -/
def isUserinfoEncoded (c : Char) : Bool :=
  isPathEncoded c || c ∈ ['/', ':', ';', '=', '@', '[', '\\', ']', '|']

/-- Forbidden host code points. -/
def isForbiddenHost (c : Char) : Bool :=
  c.toNat = 0 ||
    c ∈ ['\t', '\n', '\r', ' ', '#', '/', ':', '<', '>', '?', '@', '[', '\\', ']', '^', '|']

end Percent

section Components

/-- The characters that `encodeURIComponent` leaves as they are. -/
def isUnreserved (c : Char) : Bool :=
  c.isAlphanum || c ∈ ['-', '_', '.', '!', '~', '*', '\'', '(', ')']

def encodeURIComponent (text : List Char) : List Char :=
  percentEncode (fun c => !isUnreserved c) text

/-- The value of a digit, in either case. -/
def hexValue (c : Char) : Option Nat :=
  if c.isDigit then some (c.toNat - '0'.toNat)
  else if 'a'.toNat ≤ c.toNat ∧ c.toNat ≤ 'f'.toNat then some (c.toNat - 'a'.toNat + 10)
  else if 'A'.toNat ≤ c.toNat ∧ c.toNat ≤ 'F'.toNat then some (c.toNat - 'A'.toNat + 10)
  else none

/-- The characters of a text, and the bytes that are percent-encoded in it. -/
def escapes : List Char → Option (List (UInt8 ⊕ Char))
  | [] => some []
  | '%' :: high :: low :: rest => do
    let high ← hexValue high
    let low ← hexValue low
    let rest ← escapes rest
    some (.inl (UInt8.ofNat (16 * high + low)) :: rest)
  | '%' :: _ => none
  | c :: rest => (escapes rest).map (.inr c :: ·)

/-- How many bytes follow the first one of a character. -/
def followers (byte : UInt8) : Option Nat :=
  if byte.toNat < 0x80 then some 0
  else if byte.toNat < 0xC0 then none
  else if byte.toNat < 0xE0 then some 1
  else if byte.toNat < 0xF0 then some 2
  else if byte.toNat < 0xF8 then some 3
  else none

/-- The character of several bytes, if they are its encoding. -/
def characterOf : List UInt8 → Option Char
  | [] => none
  | first :: others =>
    let lead := first.toNat % 2 ^ (6 - others.length)
    let c := Char.ofNat (others.foldl (fun n byte => 64 * n + byte.toNat % 64) lead)
    if String.utf8EncodeChar c = first :: others then some c else none

/-- The text of characters and bytes; `needed` bytes have to follow the pending ones. -/
def decodeEscapes (pending : List UInt8) (needed : Nat) : List (UInt8 ⊕ Char) → Option (List Char)
  | [] => if needed = 0 then some [] else none
  | .inr c :: rest => if needed = 0 then (decodeEscapes [] 0 rest).map (c :: ·) else none
  | .inl byte :: rest =>
    if needed = 0 then
      match followers byte with
      | none => none
      | some 0 => (decodeEscapes [] 0 rest).map (Char.ofNat byte.toNat :: ·)
      | some needed => decodeEscapes [byte] needed rest
    else if byte.toNat / 64 = 2 then
      if needed = 1 then do
        let c ← characterOf (pending ++ [byte])
        (decodeEscapes [] 0 rest).map (c :: ·)
      else decodeEscapes (pending ++ [byte]) (needed - 1) rest
    else none

/-- `decodeURIComponent`, `none` for a `URIError`. -/
def decodeURIComponent (text : List Char) : Option (List Char) :=
  (escapes text).bind (decodeEscapes [] 0)

end Components

/-- The path of a URL; one without segments is a text. -/
inductive Path where
  | segments :
    List (List Char) → Path
  | text :
    List Char → Path
deriving DecidableEq, Repr

/-- A URL. Its host is in its one spelling. -/
structure Url where
  scheme : List Char
  username : List Char := []
  password : List Char := []
  host : Option (List Char) := none
  port : Option Nat := none
  path : Path := .segments []
  query : Option (List Char) := none
  fragment : Option (List Char) := none
deriving DecidableEq, Repr

/-- The parsers of the hosts of special schemes and of the addresses in brackets. -/
structure HostParsers where
  domain : List Char → Option (List Char)
  address : List Char → Option (List Char)

/-- Parsers of names of ASCII letters, digits, dots and hyphens that end in a letter, and of no addresses. -/
def asciiHosts : HostParsers where
  domain text :=
    if (text.all fun c => c.isAlphanum || c = '.' || c = '-') && text.getLast?.any Char.isAlpha then
      some (text.map Char.toLower)
    else none
  address _ := none

section Scheme

/-- The special schemes with their ports. -/
def specialSchemes : List (List Char × Option Nat) :=
  [(['f', 't', 'p'], some 21), (['f', 'i', 'l', 'e'], none), (['h', 't', 't', 'p'], some 80),
    (['h', 't', 't', 'p', 's'], some 443), (['w', 's'], some 80), (['w', 's', 's'], some 443)]

def isSpecial (scheme : List Char) : Bool :=
  specialSchemes.any fun special => special.1 = scheme

def defaultPort (scheme : List Char) : Option Nat :=
  (specialSchemes.find? fun special => special.1 = scheme).bind (·.2)

def isSchemeCharacter (c : Char) : Bool :=
  c.isAlphanum || c = '+' || c = '-' || c = '.'

/-- The scheme of a text, and what follows its colon. -/
def parseScheme (text : List Char) : Option (List Char × List Char) :=
  match text.dropWhile isSchemeCharacter with
  | ':' :: rest =>
    if text.head?.any Char.isAlpha then
      some ((text.takeWhile isSchemeCharacter).map Char.toLower, rest)
    else none
  | _ => none

end Scheme

section Authority

/-- What comes before the last `@`, and after it. -/
def splitCredentials : List Char → Option (List Char × List Char)
  | [] => none
  | c :: cs =>
    match splitCredentials cs with
    | some (credentials, host) => some (c :: credentials, host)
    | none => if c = '@' then some ([], cs) else none

/-- The host, and the port after the first colon that is not in brackets. -/
def splitPort (inside : Bool) : List Char → List Char × Option (List Char)
  | [] => ([], none)
  | c :: cs =>
    if c = ':' ∧ inside = false then ([], some cs)
    else
      let inside := if c = '[' then true else if c = ']' then false else inside
      let (host, port) := splitPort inside cs
      (c :: host, port)

/-- The host parser. -/
def parseHost (hosts : HostParsers) (special : Bool) (text : List Char) : Option (List Char) :=
  match text with
  | '[' :: inner =>
    if inner.getLast? = some ']' then
      (hosts.address inner.dropLast).map fun address => '[' :: (address ++ [']'])
    else none
  | _ =>
    if special then hosts.domain text
    else if text.any isForbiddenHost then none
    else some (percentEncode isC0Control text)

/-- A port; the default one of the scheme is left out. -/
def parsePort (scheme digits : List Char) : Option (Option Nat) :=
  if digits.all Char.isDigit then
    let port := digits.foldl (fun n c => 10 * n + (c.toNat - '0'.toNat)) 0
    if digits = [] then some none
    else if 0xFFFF < port then none
    else if defaultPort scheme = some port then some none
    else some (some port)
  else none

/-- The credentials before an `@`, encoded. -/
def parseCredentials (credentials : List Char) : List Char × List Char :=
  (percentEncode isUserinfoEncoded (credentials.takeWhile (· ≠ ':')),
    percentEncode isUserinfoEncoded (credentials.dropWhile (· ≠ ':')).tail)

/-- A host with its port. -/
def parseHostPort (hosts : HostParsers) (scheme : List Char) (needed : Bool) (text : List Char) :
    Option (List Char × Option Nat) := do
  let (host, port) := splitPort false text
  if host = [] ∧ (needed ∨ port.isSome) then none
  else
    let host ← parseHost hosts (isSpecial scheme) host
    let port ← parsePort scheme (port.getD [])
    some (host, port)

/-- The authority of a URL. -/
def parseAuthority (hosts : HostParsers) (scheme text : List Char) : Option Url :=
  match splitCredentials text with
  | some (credentials, hostPort) => do
    let (host, port) ← parseHostPort hosts scheme true hostPort
    let (username, password) := parseCredentials credentials
    some { scheme, username, password, host := some host, port }
  | none => do
    let (host, port) ← parseHostPort hosts scheme (isSpecial scheme) text
    some { scheme, host := some host, port }

end Authority

section Path

def isSlash (special : Bool) (c : Char) : Bool :=
  c = '/' || (special && c = '\\')

def isSingleDot (segment : List Char) : Bool :=
  segment.map Char.toLower ∈ [['.'], ['%', '2', 'e']]

def isDoubleDot (segment : List Char) : Bool :=
  segment.map Char.toLower ∈
    [['.', '.'], ['.', '%', '2', 'e'], ['%', '2', 'e', '.'], ['%', '2', 'e', '%', '2', 'e']]

/-- The segments of a path without its dot segments. One at the end leaves an empty segment. -/
def resolveDots : List (List Char) → List (List Char) → List (List Char)
  | path, [] => path
  | path, [segment] =>
    if isDoubleDot segment then path.dropLast ++ [[]]
    else if isSingleDot segment then path ++ [[]]
    else path ++ [segment]
  | path, segment :: rest =>
    if isDoubleDot segment then resolveDots path.dropLast rest
    else if isSingleDot segment then resolveDots path rest
    else resolveDots (path ++ [segment]) rest

/-- The path after its first slash. -/
def parsePath (special : Bool) (text : List Char) : List (List Char) :=
  resolveDots [] ((text.splitOnP (isSlash special)).map (percentEncode isPathEncoded))

/-- Where the path ends. -/
def isMark (c : Char) : Bool :=
  c = '?' || c = '#'

def parseFragment : List Char → Option (List Char)
  | '#' :: text => some (percentEncode isFragmentEncoded text)
  | _ => none

/-- The query and the fragment. -/
def parseMarks (url : Url) : List Char → Url
  | '?' :: text =>
    { url with
      query := some (percentEncode (isQueryEncoded (isSpecial url.scheme)) (text.takeWhile (· ≠ '#')))
      fragment := parseFragment (text.dropWhile (· ≠ '#')) }
  | text => { url with fragment := parseFragment text }

/-- The path of a URL with its first slash, the query and the fragment. Only the path of a special scheme
always has a segment. -/
def parsePathAndMarks (url : Url) (text : List Char) : Url :=
  let special := isSpecial url.scheme
  let path := text.takeWhile fun c => !isMark c
  let segments := if path = [] ∧ special = false then [] else parsePath special path.tail
  parseMarks { url with path := .segments segments } (text.dropWhile fun c => !isMark c)

/-- The path without a slash at its start, the query and the fragment. -/
def parseTextAndMarks (url : Url) (text : List Char) : Url :=
  let path := text.takeWhile fun c => !isMark c
  let marks := text.dropWhile fun c => !isMark c
  let path :=
    if marks ≠ [] ∧ path.getLast? = some ' ' then
      percentEncode isC0Control path.dropLast ++ ['%', '2', '0']
    else percentEncode isC0Control path
  parseMarks { url with path := .text path } marks

end Path

section Parse

def isC0ControlOrSpace (c : Char) : Bool :=
  c.toNat ≤ 0x20

def isTabOrNewline (c : Char) : Bool :=
  c = '\t' || c = '\n' || c = '\r'

/-- The input without controls and spaces at its ends. -/
def trimEnds (input : List Char) : List Char :=
  (input.dropWhile isC0ControlOrSpace).rdropWhile isC0ControlOrSpace

/-- Nor does the parser see tabs and newlines. -/
def strip (input : List Char) : List Char :=
  (trimEnds input).filter fun c => !isTabOrNewline c

def isAuthorityEnd (special : Bool) (c : Char) : Bool :=
  isSlash special c || isMark c

/-- What follows the slashes of a scheme. -/
def parseAfterSlashes (hosts : HostParsers) (scheme text : List Char) : Option Url := do
  let special := isSpecial scheme
  let url ← parseAuthority hosts scheme (text.takeWhile fun c => !isAuthorityEnd special c)
  some (parsePathAndMarks url (text.dropWhile fun c => !isAuthorityEnd special c))

/-- `new URL(input)` -/
def parse (hosts : HostParsers) (input : List Char) : Option Url := do
  let (scheme, rest) ← parseScheme (strip input)
  if scheme = ['f', 'i', 'l', 'e'] then none
  else if isSpecial scheme then parseAfterSlashes hosts scheme (rest.dropWhile (isSlash true))
  else
    match rest with
    | '/' :: '/' :: text => parseAfterSlashes hosts scheme text
    | '/' :: _ => some (parsePathAndMarks { scheme } rest)
    | _ => some (parseTextAndMarks { scheme } rest)

/-- `new URL(reference, base)`, for a reference that starts with a slash. -/
def resolve (hosts : HostParsers) (base : Url) (reference : List Char) : Option Url :=
  let special := isSpecial base.scheme
  match base.path, strip reference with
  | .segments _, '/' :: rest =>
    if rest.head?.any (isSlash special) then
      parseAfterSlashes hosts base.scheme
        (if special then rest.dropWhile (isSlash true) else rest.tail)
    else
      some (parsePathAndMarks
        { base with path := .segments [], query := none, fragment := none } ('/' :: rest))
  | _, _ => none

end Parse

section Serialize

/-- The digits of a port. -/
def portText (port : Option Nat) : List Char :=
  match port with
  | none => []
  | some port => ':' :: Nat.toDigits 10 port

/-- `url.protocol` -/
def Url.protocol (url : Url) : List Char :=
  url.scheme ++ [':']

/-- `url.hostname` -/
def Url.hostname (url : Url) : List Char :=
  url.host.getD []

/-- `url.host` -/
def Url.hostAndPort (url : Url) : List Char :=
  url.hostname ++ portText url.port

/-- A path as a URL has it. -/
def Path.serialize : Path → List Char
  | .segments parts => parts.flatMap fun segment => '/' :: segment
  | .text path => path

/-- `url.pathname` -/
def Url.pathname (url : Url) : List Char :=
  url.path.serialize

/-- `url.origin`, `none` for the text `null`. -/
def Url.origin (url : Url) : Option (List Char) :=
  if isSpecial url.scheme ∧ url.scheme ≠ ['f', 'i', 'l', 'e'] then
    some (url.protocol ++ ['/', '/'] ++ url.hostAndPort)
  else none

/-- The credentials in front of the host. -/
def Url.credentials (url : Url) : List Char :=
  if url.username = [] ∧ url.password = [] then []
  else if url.password = [] then url.username ++ ['@']
  else url.username ++ ':' :: url.password ++ ['@']

/-- The query and the fragment as a URL has them. -/
def Url.marks (url : Url) : List Char :=
  (url.query.elim [] fun query => '?' :: query) ++ url.fragment.elim [] fun fragment => '#' :: fragment

/-- `url.toString()` -/
def Url.href (url : Url) : List Char :=
  let start :=
    match url.host, url.path with
    | some _, _ => '/' :: '/' :: (url.credentials ++ url.hostAndPort)
    | none, .segments ([] :: _ :: _) => ['/', '.']
    | none, _ => []
  url.protocol ++ start ++ url.pathname ++ url.marks

end Serialize

section Encoded
variable {set : Char → Bool} {c : Char} {text decoded : List Char}

lemma mem_percentByte {byte : UInt8} (mem : c ∈ percentByte byte) : c = '%' ∨ c ∈ hexDigits := by
  have digit {n : Nat} : hexDigits.getD n '0' ∈ hexDigits := by
    rw [List.getD_eq_getElem?_getD]
    cases found : hexDigits[n]? with
    | none => exact List.mem_cons_self
    | some d => exact List.mem_of_getElem? found
  rcases List.mem_cons.mp mem with rfl | mem
  · exact .inl rfl
  · rcases List.mem_cons.mp mem with rfl | mem
    · exact .inr digit
    · rw [List.mem_singleton.mp mem]
      exact .inr digit

/-- What an encoded text is made of. -/
lemma mem_percentEncode (mem : c ∈ percentEncode set text) :
    (set c = false ∧ c ∈ text) ∨ c = '%' ∨ c ∈ hexDigits := by
  obtain ⟨d, inside, mem⟩ := List.mem_flatMap.mp mem
  rw [percentChar] at mem
  split at mem
  · obtain ⟨byte, -, mem⟩ := List.mem_flatMap.mp mem
    exact .inr (mem_percentByte mem)
  · rename_i plain
    rw [List.mem_singleton.mp mem]
    exact .inl ⟨Bool.eq_false_iff.mpr plain, inside⟩

lemma percentEncode_eq_self (plain : ∀ c ∈ text, set c = false) : percentEncode set text = text := by
  induction text with
  | nil => rfl
  | cons c text ih =>
    have first : percentChar set c = [c] := by
      rw [percentChar, plain c List.mem_cons_self]
      rfl
    have others := ih fun d mem => plain d (List.mem_cons_of_mem _ mem)
    rw [percentEncode, List.flatMap_cons, first]
    exact congrArg _ others

lemma escapes_plain (plain : '%' ∉ text) : escapes text = some (text.map .inr) := by
  induction text with
  | nil => rfl
  | cons c text ih =>
    have other : c ≠ '%' := fun same => plain (same ▸ List.mem_cons_self)
    rw [escapes, ih fun mem => plain (List.mem_cons_of_mem _ mem)]
    · rfl
    · exact fun _ _ _ same => absurd same other
    · exact fun same => absurd same other

lemma decodeEscapes_plain : decodeEscapes [] 0 (text.map .inr) = some text := by
  induction text with
  | nil => rfl
  | cons c text ih =>
    rw [List.map_cons, decodeEscapes, if_pos rfl, ih]
    rfl

/-- A text without escapes stands for itself. -/
lemma decodeURIComponent_plain (plain : '%' ∉ text) : decodeURIComponent text = some text := by
  rw [decodeURIComponent, escapes_plain plain]
  exact decodeEscapes_plain

lemma escapes_nil (none : escapes text = some []) : text = [] := by
  unfold escapes at none
  split at none
  · rfl
  · obtain ⟨high, -, none⟩ := Option.bind_eq_some_iff.mp none
    obtain ⟨low, -, none⟩ := Option.bind_eq_some_iff.mp none
    obtain ⟨rest, -, none⟩ := Option.bind_eq_some_iff.mp none
    cases none
  · cases none
  · simp at none

lemma map_cons_nil {rest : Option (List Char)} : rest.map (c :: ·) ≠ some [] := by
  simp

/-- Bytes and characters that stand for no text are none. -/
lemma decodeEscapes_nil {pending : List UInt8} {needed : Nat} {parts : List (UInt8 ⊕ Char)}
    (none : decodeEscapes pending needed parts = some []) : needed = 0 ∧ parts = [] := by
  induction parts generalizing pending needed with
  | nil =>
    rw [decodeEscapes] at none
    split at none
    · exact ⟨‹_›, rfl⟩
    · cases none
  | cons part rest ih =>
    cases part with
    | inr c =>
      rw [decodeEscapes] at none
      split at none
      · exact absurd none map_cons_nil
      · cases none
    | inl byte =>
      rw [decodeEscapes] at none
      split at none
      · split at none
        · cases none
        · exact absurd none map_cons_nil
        · rename_i more found _
          exact absurd (ih none).1 found
      · split at none
        · split at none
          · obtain ⟨c, -, none⟩ := Option.bind_eq_some_iff.mp none
            exact absurd none map_cons_nil
          · have last := (ih none).1
            omega
        · cases none

lemma decodeURIComponent_ne_nil (is : decodeURIComponent text = some decoded) (some_text : text ≠ []) :
    decoded ≠ [] := by
  rintro rfl
  obtain ⟨parts, escaped, is⟩ := Option.bind_eq_some_iff.mp is
  obtain ⟨-, rfl⟩ := decodeEscapes_nil is
  exact some_text (escapes_nil escaped)

end Encoded

section Split
variable {skip p : Char → Bool} {c : Char} {text : List Char}

/-- The text after the first occurrence of a character. -/
def afterFirst (c : Char) (text : List Char) : List Char :=
  (text.dropWhile (· ≠ c)).tail

lemma afterFirst_suffix : afterFirst c text <:+ text :=
  (List.tail_suffix _).trans (List.dropWhile_suffix _)

lemma mem_of_afterFirst (some : afterFirst c text ≠ []) : c ∈ text := by
  by_contra absent
  refine some ?_
  have none : text.dropWhile (· ≠ c) = [] :=
    List.dropWhile_eq_nil_iff.mpr fun d mem => decide_eq_true fun same => absent (same ▸ mem)
  rw [afterFirst, none]
  rfl

lemma trimEnds_infix : trimEnds text <:+: text :=
  (List.rdropWhile_prefix _ _).isInfix.trans (List.dropWhile_suffix _).isInfix

lemma splitCredentials_ne_none (mem : '@' ∈ text) : splitCredentials text ≠ none := by
  induction text with
  | nil => cases mem
  | cons c text ih =>
    rw [splitCredentials]
    rcases List.mem_cons.mp mem with rfl | mem
    · cases splitCredentials text <;> nofun
    · cases found : splitCredentials text with
      | none => exact absurd found (ih mem)
      | some parts => nofun

lemma splitCredentials_eq {credentials host : List Char}
    (found : splitCredentials text = some (credentials, host)) :
    text = credentials ++ '@' :: host ∧ '@' ∉ host := by
  induction text generalizing credentials with
  | nil => cases found
  | cons c text ih =>
    rw [splitCredentials] at found
    split at found
    · rename_i inner
      cases found
      obtain ⟨is, last⟩ := ih inner
      exact ⟨congrArg _ is, last⟩
    · rename_i none
      split at found
      · rename_i here
        cases found
        refine ⟨by rw [here]; rfl, fun mem => ?_⟩
        exact absurd none (splitCredentials_ne_none mem)
      · cases found

/-- Characters that are skipped do not move the end of a part. -/
lemma takeWhile_filter (kept : ∀ c, skip c = true → p c = true) :
    (text.filter fun c => !skip c).takeWhile p = (text.takeWhile p).filter fun c => !skip c := by
  induction text with
  | nil => rfl
  | cons c text ih =>
    cases skipped : skip c with
    | true => simp [skipped, kept c skipped, ih]
    | false => cases inside : p c <;> simp [skipped, inside, ih]

lemma dropWhile_filter (kept : ∀ c, skip c = true → p c = true) :
    (text.filter fun c => !skip c).dropWhile p = (text.dropWhile p).filter fun c => !skip c := by
  induction text with
  | nil => rfl
  | cons c text ih =>
    cases skipped : skip c with
    | true => simp [skipped, kept c skipped, ih]
    | false => cases inside : p c <;> simp [skipped, inside, ih]

lemma afterFirst_filter (kept : skip c = false) :
    afterFirst c (text.filter fun c => !skip c) = (afterFirst c text).filter fun c => !skip c := by
  have other : ∀ d, skip d = true → decide (d ≠ c) = true := by
    intro d skipped
    refine decide_eq_true ?_
    rintro rfl
    cases kept.symm.trans skipped
  rw [afterFirst, afterFirst, dropWhile_filter other]
  cases found : text.dropWhile (· ≠ c) with
  | nil => rfl
  | cons d rest =>
    have first := List.head?_dropWhile_not (fun d => decide (d ≠ c)) text
    rw [found] at first
    have here : d = c := of_not_not (of_decide_eq_false first)
    rw [here, List.filter_cons_of_pos (by simp [kept])]
    rfl

lemma splitCredentials_filter (kept : skip '@' = false) :
    splitCredentials (text.filter fun c => !skip c) =
      (splitCredentials text).map fun parts =>
        (parts.1.filter fun c => !skip c, parts.2.filter fun c => !skip c) := by
  induction text with
  | nil => rfl
  | cons c text ih =>
    cases skipped : skip c with
    | true =>
      have other : c ≠ '@' := by
        rintro rfl
        cases kept.symm.trans skipped
      rw [List.filter_cons_of_neg (by simp [skipped]), ih, splitCredentials]
      cases splitCredentials text with
      | none => simp [other]
      | some parts => simp [skipped]
    | false =>
      rw [List.filter_cons_of_pos (by simp [skipped]), splitCredentials, ih, splitCredentials]
      cases splitCredentials text with
      | none => by_cases here : c = '@' <;> simp [here]
      | some parts => simp [skipped]

end Split

section Inversion
variable {hosts : HostParsers} {url : Url} {scheme input text rest : List Char} {c : Char}

lemma afterFirst_append {name : List Char} (free : c ∉ name) :
    afterFirst c (name ++ c :: rest) = rest := by
  have other : ∀ d ∈ name, decide (d ≠ c) = true := fun d mem =>
    decide_eq_true fun same => free (same ▸ mem)
  rw [afterFirst, List.dropWhile_append_of_pos other, List.dropWhile_cons_of_neg (by simp)]
  rfl

lemma parseScheme_eq (parsed : parseScheme text = some (scheme, rest)) :
    ∃ name, text = name ++ ':' :: rest ∧ '/' ∉ name ∧ scheme = name.map Char.toLower := by
  rw [parseScheme] at parsed
  split at parsed
  · rename_i after found
    split at parsed
    · cases parsed
      refine ⟨text.takeWhile isSchemeCharacter, ?_, fun mem => ?_, rfl⟩
      · rw [← found, List.takeWhile_append_dropWhile]
      · exact absurd (List.mem_takeWhile_imp mem) (by decide)
    · cases parsed
  · cases parsed

lemma parseMarks_eq : ∃ query fragment, parseMarks url text = { url with query, fragment } := by
  unfold parseMarks
  split
  · exact ⟨_, _, rfl⟩
  · exact ⟨_, _, rfl⟩

lemma parsePathAndMarks_eq : ∃ path query fragment,
    parsePathAndMarks url text = { url with path := .segments path, query, fragment } := by
  rw [parsePathAndMarks]
  obtain ⟨query, fragment, is⟩ := parseMarks_eq
  exact ⟨_, query, fragment, is⟩

lemma parseTextAndMarks_host : (parseTextAndMarks url text).host = url.host := by
  rw [parseTextAndMarks]
  obtain ⟨query, fragment, is⟩ := parseMarks_eq
  rw [is]

lemma parseTextAndMarks_scheme : (parseTextAndMarks url text).scheme = url.scheme := by
  rw [parseTextAndMarks]
  obtain ⟨query, fragment, is⟩ := parseMarks_eq
  rw [is]

/-- The password of an authority. -/
def authorityPassword (text : List Char) : List Char :=
  (splitCredentials text).elim [] fun parts => afterFirst ':' parts.1

lemma authorityPassword_infix : authorityPassword text <:+: text := by
  rw [authorityPassword]
  cases found : splitCredentials text with
  | none => exact List.nil_infix
  | some parts =>
    have whole := (splitCredentials_eq found).1
    have first : parts.1 <+: text := ⟨_, whole.symm⟩
    exact afterFirst_suffix.isInfix.trans first.isInfix

lemma parseAuthority_eq (parsed : parseAuthority hosts scheme text = some url) :
    url.scheme = scheme ∧ url.password = percentEncode isUserinfoEncoded (authorityPassword text) := by
  rw [parseAuthority] at parsed
  rw [authorityPassword]
  split at parsed
  · rename_i credentials hostPort found
    obtain ⟨hostPort, -, is⟩ := Option.bind_eq_some_iff.mp parsed
    cases is
    rw [found]
    exact ⟨rfl, rfl⟩
  · rename_i found
    obtain ⟨hostPort, -, is⟩ := Option.bind_eq_some_iff.mp parsed
    cases is
    rw [found]
    exact ⟨rfl, rfl⟩

lemma parseAfterSlashes_eq (parsed : parseAfterSlashes hosts scheme text = some url) :
    url.scheme = scheme ∧
      url.password = percentEncode isUserinfoEncoded
        (authorityPassword (text.takeWhile fun c => !isAuthorityEnd (isSpecial scheme) c)) := by
  obtain ⟨authority, found, is⟩ := Option.bind_eq_some_iff.mp parsed
  obtain ⟨path, query, fragment, same⟩ := @parsePathAndMarks_eq authority
    (text.dropWhile fun c => !isAuthorityEnd (isSpecial scheme) c)
  cases is
  rw [same]
  obtain ⟨named, password⟩ := parseAuthority_eq found
  exact ⟨named, password⟩

/-- A URL of another scheme with a host has it after two slashes. -/
lemma parse_host (parsed : parse hosts input = some url) (plain : isSpecial url.scheme = false)
    (host : url.hostname ≠ []) :
    parseAfterSlashes hosts url.scheme (afterFirst '/' (afterFirst '/' (strip input))) = some url := by
  obtain ⟨⟨scheme, rest⟩, found, parsed⟩ := Option.bind_eq_some_iff.mp parsed
  obtain ⟨name, whole, free, -⟩ := parseScheme_eq found
  dsimp only at parsed
  split at parsed
  · cases parsed
  · split at parsed
    · rename_i special
      rw [← (parseAfterSlashes_eq parsed).1, plain] at special
      cases special
    · split at parsed
      · rename_i text
        have colon : '/' ∉ name ++ [':'] := by
          simp [free]
        have first : afterFirst '/' (strip input) = '/' :: text := by
          rw [whole]
          have apart : name ++ ':' :: '/' :: '/' :: text = (name ++ [':']) ++ '/' :: '/' :: text := by
            rw [List.append_assoc]
            rfl
          rw [apart, afterFirst_append colon]
        have second : afterFirst '/' ('/' :: text) = text := afterFirst_append List.not_mem_nil
        rw [first, second, (parseAfterSlashes_eq parsed).1]
        exact parsed
      · rename_i after _
        obtain ⟨path, query, fragment, same⟩ := @parsePathAndMarks_eq { scheme } ('/' :: after)
        rw [same] at parsed
        cases parsed
        exact absurd rfl host
      · cases parsed
        refine absurd ?_ host
        rw [Url.hostname, parseTextAndMarks_host]
        rfl

end Inversion

section Case
variable {c d : Char}

lemma toLower_cases : c.toLower = c ∨ (97 ≤ c.toLower.toNat ∧ c.toLower.toNat ≤ 122) := by
  rw [Char.toLower]
  split
  · rename_i upper
    have bounds : 65 ≤ c.val.toNat ∧ c.val.toNat ≤ 90 := by
      simpa [UInt32.le_iff_toNat_le] using upper
    have sum : (c.val + 32).toNat = c.val.toNat + 32 := by
      rw [UInt32.toNat_add]
      exact Nat.mod_eq_of_lt (by simp only [UInt32.reduceToNat]; omega)
    have number (c' : Char) (is : c'.val = c.val + 32) : c'.toNat = c.val.toNat + 32 := by
      rw [← sum, ← is]
      rfl
    rw [number _ rfl]
    exact .inr (by omega)
  · exact .inl rfl

lemma toLower_letter (letter : 97 ≤ c.toNat ∧ c.toNat ≤ 122) : c.toLower = c := by
  rw [Char.toLower, dif_neg]
  rintro ⟨-, small⟩
  have small : c.toNat ≤ 90 := UInt32.le_iff_toNat_le.mp small
  omega

lemma toLower_toLower : c.toLower.toLower = c.toLower := by
  rcases toLower_cases (c := c) with same | letter
  · rw [same, same]
  · exact toLower_letter letter

/-- What is no letter comes from itself. -/
lemma toLower_eq (is : c.toLower = d) (other : d.toNat < 97 ∨ 122 < d.toNat) : c = d := by
  rcases toLower_cases (c := c) with same | letter
  · exact same.symm.trans is
  · rw [is] at letter
    omega

end Case

end Whatwg
