import AtomsPlatform.Database.SecretRefinement
import AtomsPlatform.Lib.UrlRoundTrip

/-!
# Secret references

The references of the Vault store as URLs, and the paths of its requests. A key and a mount may have segments
that a URL does not keep: single dots, and in a mount slashes.
-/

namespace AtomsPlatform.Database
open Whatwg

/-- Source `VaultSecretStore`: the fields that name its secrets. -/
structure Vault where
  address : Text
  mount : Text
deriving DecidableEq, Repr

namespace Vault

/-- `.replace(/\/$/, "")` -/
def dropTrailingSlash (text : Text) : Text :=
  if text.getLast? = some '/' then text.dropLast else text

/-- The constructor of source `VaultSecretStore`. -/
def create (hosts : HostParsers) (address mount : Text) : Except Failure Vault :=
  match parse hosts address with
  | none => .error (.error "Invalid URL")
  | some url => do
    let mount ← normalizeKey mount
    pure { address := dropTrailingSlash url.href, mount }

variable (hosts : HostParsers) (vault : Vault)

/-- Source `referenceForKey`. -/
def referenceForKey (key : Text) : Except Failure Text :=
  VaultSecretStore.referenceForKey vault.mount key

/-- `.replace(/^\//, "")` -/
def dropLeadingSlash : Text → Text
  | '/' :: text => text
  | text => text

/-- Source `#parseReference`. -/
def parseReference (reference : Text) : Except Failure Text :=
  match parse hosts reference with
  | none => .error (.secretStore "INVALID_SECRET_REFERENCE" "Malformed secret reference" false)
  | some parsed =>
    if parsed.protocol ≠ "vault:".toList ∨ parsed.hostname ≠ vault.mount then
      .error (.secretStore "INVALID_SECRET_REFERENCE" "Secret reference belongs to another store" false)
    else
      match decodeURIComponent (dropLeadingSlash parsed.pathname) with
      | none => .error (.error "URI malformed")
      | some key => normalizeKey key

/-- The name of an area. -/
def areaName : KvArea → Text
  | .data => "data".toList
  | .metadata => "metadata".toList

/-- The URL of a request of source `#request`. -/
def requestUrl (area : KvArea) (key : Text) : Text :=
  vault.address ++ "/v1/".toList ++ encodeURIComponent vault.mount ++ '/' :: areaName area ++
    '/' :: ['/'].intercalate ((segments key).map encodeURIComponent)

/-- The path that `fetch` requests: of a web address without credentials. -/
def requestPath (area : KvArea) (key : Text) : Option (List Text) :=
  match parse hosts (requestUrl vault area key) with
  | none => none
  | some url =>
    if (url.scheme = "http".toList ∨ url.scheme = "https".toList) ∧ url.username = [] ∧ url.password = [] then
      match url.path with
      | .segments parts => some parts
      | .text _ => none
    else none

end Vault

section Property
variable (hosts : HostParsers) (vault : Vault)

/-- The segments of an address, without an empty one at its end. -/
def basePath (url : Whatwg.Url) : List Text :=
  match url.path with
  | .segments parts => if parts.getLast? = some [] then parts.dropLast else parts
  | .text _ => []

/-- The reference of a key leads back to it, as it is normalized. -/
def RoundTrip (key normalized : Text) : Prop :=
  ∃ reference, vault.referenceForKey key = .ok reference ∧
    vault.parseReference hosts reference = .ok normalized

/-- The path of a key is below its mount. -/
def InsideMount (url : Whatwg.Url) (area : KvArea) (normalized : Text) : Prop :=
  ∃ below, below ≠ [] ∧ vault.requestPath hosts area normalized =
    some (basePath url ++ ["v1".toList, encodeURIComponent vault.mount, Vault.areaName area] ++ below)

/-- Two keys, which are normalized to `k` and `k'`, are told apart and found again. -/
structure Faithful (url : Whatwg.Url) (key key' k k' : Text) : Prop where
  roundTrip : RoundTrip hosts vault key k ∧ RoundTrip hosts vault key' k'
  inside : ∀ area, InsideMount hosts vault url area k ∧ InsideMount hosts vault url area k'
  references : k ≠ k' → vault.referenceForKey key ≠ vault.referenceForKey key'
  paths : k ≠ k' → ∀ area, vault.requestPath hosts area k ≠ vault.requestPath hosts area k'

/-- An address that requests can be made to, and that ends with its path. -/
structure IsBase (url : Whatwg.Url) : Prop where
  web : url.scheme = "http".toList ∨ url.scheme = "https".toList
  credentials : url.username = [] ∧ url.password = []
  marks : url.query = none ∧ url.fragment = none

end Property

section Characters
variable {c d : Char} {segment key : Text}

/-- What the parts of URLs make of the characters of keys. -/
structure KeyCharacter (c : Char) : Prop where
  visible : 0x20 < c.toNat
  host : c ≠ '/' → isForbiddenHost c = false
  control : isC0Control c = false ∧ c ≠ '@'
  path : isPathEncoded c = false ∧ isMark c = false ∧ c ≠ '\\'
  component : c ≠ '/' → isUnreserved c = true
  escape : c ≠ '%'

lemma keyCharacter (character : isKeyCharacter c = true) : KeyCharacter c := by
  have other {d : Char} (no : isKeyCharacter d = false) : c ≠ d := by
    rintro rfl
    cases character.symm.trans no
  have bounds : 45 ≤ c.toNat ∧ c.toNat ≤ 122 := by
    simp only [isKeyCharacter, Char.isAlphanum, Char.isAlpha, Char.isUpper, Char.isLower, Char.isDigit,
      Bool.or_eq_true, Bool.and_eq_true, decide_eq_true_eq, ge_iff_le, UInt32.le_iff_toNat_le] at character
    have code : c.val.toNat = c.toNat := rfl
    obtain (((letter | rfl) | rfl) | rfl) | rfl := character
    · have range : ((65 ≤ c.toNat ∧ c.toNat ≤ 90) ∨ (97 ≤ c.toNat ∧ c.toNat ≤ 122)) ∨
          (48 ≤ c.toNat ∧ c.toNat ≤ 57) := letter
      omega
    all_goals decide
  have control : isC0Control c = false := by
    rw [isC0Control, Bool.or_eq_false_iff]
    exact ⟨decide_eq_false (by omega), decide_eq_false (by omega)⟩
  have list {l : List Char} (no : ∀ d ∈ l, isKeyCharacter d = false) : (decide (c ∈ l)) = false :=
    decide_eq_false fun mem => other (no c mem) rfl
  refine ⟨by omega, fun slash => ?_, ⟨control, other (by decide)⟩, ⟨?_, ?_, other (by decide)⟩,
    fun slash => ?_, other (by decide)⟩
  · have forbidden : ∀ d ∈ ['\t', '\n', '\r', ' ', '#', '/', ':', '<', '>', '?', '@', '[', '\\', ']', '^', '|'],
        isKeyCharacter d = false ∨ d = '/' :=
      List.all_iff_forall_prop.mp (by decide)
    rw [isForbiddenHost, Bool.or_eq_false_iff]
    refine ⟨decide_eq_false (by omega), decide_eq_false fun mem => ?_⟩
    exact (forbidden c mem).elim (fun no => other no rfl) slash
  · rw [isPathEncoded, isQueryEncoded, control, list (List.all_iff_forall_prop.mp (by decide)),
      list (List.all_iff_forall_prop.mp (by decide))]
    rfl
  · rw [isMark, Bool.or_eq_false_iff]
    exact ⟨decide_eq_false (other (by decide)), decide_eq_false (other (by decide))⟩
  · simp only [isKeyCharacter, Bool.or_eq_true, decide_eq_true_eq] at character
    obtain (((letter | rfl) | rfl) | rfl) | rfl := character
    · rw [isUnreserved, letter]
      rfl
    · decide
    · decide
    · exact absurd rfl slash
    · decide

lemma map_toLower_dots (is : segment.map Char.toLower = ['.']) : segment = ['.'] := by
  obtain ⟨c, rfl, dot⟩ := List.map_eq_singleton_iff.mp is
  rw [toLower_eq dot (by decide)]

/-- The segments of keys that a path does not keep are single dots. -/
lemma isPlain_iff (characters : ∀ c ∈ segment, isKeyCharacter c = true) (double : segment ≠ ['.', '.']) :
    isPlain segment = true ↔ segment ≠ ['.'] := by
  have escape {s : Text} (percent : '%' ∈ s) : segment.map Char.toLower ≠ s := by
    intro is
    rw [← is] at percent
    obtain ⟨c, mem, is⟩ := List.mem_map.mp percent
    exact (keyCharacter (characters c mem)).escape (toLower_eq is (by decide))
  have pair : segment.map Char.toLower ≠ ['.', '.'] := by
    intro is
    obtain ⟨c, rest, rfl, first, others⟩ := List.map_eq_cons_iff.mp is
    obtain ⟨d, rfl, second⟩ := List.map_eq_singleton_iff.mp others
    rw [toLower_eq first (by decide), toLower_eq second (by decide)] at double
    exact double rfl
  have single : isSingleDot segment = true ↔ segment = ['.'] := by
    simp only [isSingleDot, decide_eq_true_eq, List.mem_cons, List.not_mem_nil, or_false]
    constructor
    · rintro (is | is)
      · exact map_toLower_dots is
      · exact absurd is (escape (by decide))
    · rintro rfl
      exact .inl rfl
  have none : isDoubleDot segment = false := by
    simp only [isDoubleDot, decide_eq_false_iff_not, List.mem_cons, List.not_mem_nil, or_false, not_or]
    exact ⟨pair, escape (by decide), escape (by decide), escape (by decide)⟩
  rw [isPlain, none, Bool.not_false, Bool.and_true, Bool.not_eq_true', ne_eq, ← single, Bool.not_eq_true]

end Characters

section References
variable {hosts : HostParsers} {vault : Vault} {text host path mount key k : Text}

lemma scheme_vault : parseScheme ("vault://".toList ++ text) = some ("vault".toList, '/' :: '/' :: text) :=
  rfl

/-- A reference of key characters, as a URL. -/
lemma parse_vault (characters : ∀ c ∈ host ++ '/' :: path, isKeyCharacter c = true) (free : '/' ∉ host) :
    parse hosts ("vault://".toList ++ (host ++ '/' :: path)) =
      some { scheme := "vault".toList, host := some host,
             path := .segments (resolveDots [] (segments path)) } := by
  have known : ∀ c ∈ host ++ '/' :: path, KeyCharacter c := fun c mem => keyCharacter (characters c mem)
  have in_host : ∀ c ∈ host, KeyCharacter c ∧ c ≠ '/' := fun c mem =>
    ⟨known c (List.mem_append_left _ mem), fun same => free (same ▸ mem)⟩
  have in_path : ∀ c ∈ '/' :: path, KeyCharacter c := fun c mem => known c (List.mem_append_right _ mem)
  have visible : ∀ c ∈ "vault://".toList ++ (host ++ '/' :: path), 0x20 < c.toNat := by
    intro c mem
    rcases List.mem_append.mp mem with mem | mem
    · have start : ∀ c ∈ "vault://".toList, 0x20 < c.toNat :=
        List.all_iff_forall_prop.mp (by decide)
      exact start c mem
    · exact (known c mem).visible
  have plain : isSpecial "vault".toList = false := by decide
  have inside : ∀ c ∈ host, (!isAuthorityEnd false c) = true := by
    intro c mem
    obtain ⟨character, other⟩ := in_host c mem
    rw [isAuthorityEnd, isSlash, character.path.2.1]
    simp [other]
  obtain ⟨front, back⟩ := takeWhile_append_marks (y := '/' :: path) inside fun c mem => by
    cases mem
    rfl
  have forbidden : ∀ c ∈ host, isForbiddenHost c = false := fun c mem =>
    (in_host c mem).1.host (in_host c mem).2
  have port : splitPort false host = (host, none) := by
    have whole : splitPort false (host ++ []) = (host ++ [], none) := splitPort_domain forbidden
    rw [List.append_nil] at whole
    exact whole
  have read : parseHost hosts false host = some host := by
    rw [parseHost.eq_def]
    split
    · exact absurd (forbidden _ List.mem_cons_self) (by decide)
    · rw [if_neg Bool.false_ne_true, List.any_eq_false.mpr fun c mem => by simp [forbidden c mem],
        if_neg Bool.false_ne_true, percentEncode_eq_self fun c mem => (in_host c mem).1.control.1]
  have authority : parseAuthority hosts "vault".toList host =
      some { scheme := "vault".toList, host := some host } := by
    rw [parseAuthority, splitCredentials_none fun mem => (in_host _ mem).1.control.2 rfl]
    dsimp only
    rw [plain, parseHostPort, port, plain]
    dsimp only
    rw [if_neg (by simp), read]
    rfl
  obtain ⟨whole, none⟩ := takeWhile_append_marks (x := '/' :: path) (y := []) (p := fun c => !isMark c)
    (fun c mem => by simp [(in_path c mem).path.2.1]) fun c mem => by cases mem
  rw [List.append_nil] at whole none
  have encoded : (path.splitOnP (isSlash false)).map (percentEncode isPathEncoded) = segments path := by
    have slash : isSlash false = fun c => c == '/' := by
      funext c
      rw [isSlash, Bool.false_and, Bool.or_false]
      rfl
    rw [segments, List.splitOn_eq_splitOnP, ← slash]
    refine (List.map_congr_left fun part found => ?_).trans (List.map_id _)
    refine percentEncode_eq_self fun c inside => ?_
    exact (in_path c (List.mem_cons_of_mem _ (Splitting.mem_splitOnP found inside).2)).path.1
  rw [parse, strip_eq_self visible, Option.bind_eq_bind, scheme_vault, Option.bind_some]
  dsimp only
  rw [if_neg (by decide), plain, if_neg Bool.false_ne_true]
  show parseAfterSlashes hosts "vault".toList (host ++ '/' :: path) = _
  rw [parseAfterSlashes, plain, Option.bind_eq_bind, front, authority, Option.bind_some, back,
    parsePathAndMarks]
  dsimp only
  rw [whole, none, plain, if_neg (by simp), List.tail_cons, parsePath, encoded]
  rfl

lemma segments_dropWhile {l segment : Text} (mem : segment ∈ segments (l.dropWhile fun c => c = '/')) :
    segment ∈ segments l := by
  induction l with
  | nil => exact mem
  | cons c l ih =>
    by_cases slash : c = '/'
    · subst slash
      rw [List.dropWhile_cons_of_pos (by simp)] at mem
      rw [segments, List.splitOn_cons_eq_if_modifyHead, if_pos (by simp)]
      exact List.mem_cons_of_mem _ (ih mem)
    · rw [List.dropWhile_cons_of_neg (by simp [slash])] at mem
      exact mem

lemma segments_rdropWhile {l segment : Text} (mem : segment ∈ segments (l.rdropWhile fun c => c = '/')) :
    segment ∈ segments l := by
  induction l using List.reverseRecOn with
  | nil => exact mem
  | append_singleton l c ih =>
    by_cases slash : c = '/'
    · subst slash
      rw [List.rdropWhile_concat_pos _ _ _ (by simp)] at mem
      rw [segments, List.splitOn_append_cons_self]
      exact List.mem_append_left _ (ih mem)
    · rw [List.rdropWhile_concat_neg _ _ _ (by simp [slash])] at mem
      exact mem

/-- A text without spaces is only trimmed of slashes. -/
lemma normalizeKey_trim (characters : ∀ c ∈ text, isKeyCharacter c = true) (ok : normalizeKey text = .ok k) :
    k = Words.trim '/' text := by
  have start : text.dropWhile isSpace = text :=
    List.dropWhile_eq_self_iff.mpr fun _ => by simp [not_isSpace (characters _ (List.getElem_mem _))]
  have stop : text.rdropWhile isSpace = text :=
    List.rdropWhile_eq_self_iff.mpr fun _ => by simp [not_isSpace (characters _ (List.getLast_mem _))]
  simp only [normalizeKey, start, stop] at ok
  split at ok
  · split at ok
    · cases ok
    · cases ok
      rfl
  · cases ok

lemma referenceForKey_eq (ok : normalizeKey key = .ok k) :
    vault.referenceForKey key = .ok (vaultReference vault.mount k) := by
  rw [Vault.referenceForKey, VaultSecretStore.referenceForKey, ok]
  rfl

lemma vaultReference_eq : vaultReference mount k = "vault://".toList ++ (mount ++ '/' :: k) := by
  have apart (scheme : Text) : scheme ++ mount ++ ['/'] ++ k = scheme ++ (mount ++ '/' :: k) := by
    rw [List.append_assoc, List.append_assoc]
    rfl
  exact apart _

lemma reference_characters (mount_ok : Normalized mount) (normalized : Normalized k) :
    ∀ c ∈ mount ++ '/' :: k, isKeyCharacter c = true := by
  intro c mem
  rcases List.mem_append.mp mem with mem | mem
  · exact mount_ok.characters c mem
  · rcases List.mem_cons.mp mem with rfl | mem
    · decide
    · exact normalized.characters c mem

/-- The segments of a key: their characters, and what a path makes of them. -/
lemma Normalized.segment (normalized : Normalized k) {part : Text} (mem : part ∈ segments k) :
    (∀ c ∈ part, isKeyCharacter c = true ∧ c ≠ '/') ∧ (isPlain part = true ↔ part ≠ ['.']) := by
  have inside : ∀ c ∈ part, isKeyCharacter c = true ∧ c ≠ '/' := by
    intro c in_part
    rw [segments, List.splitOn_eq_splitOnP] at mem
    obtain ⟨other, in_key⟩ := Splitting.mem_splitOnP mem in_part
    exact ⟨normalized.characters c in_key, by simpa using other⟩
  exact ⟨inside, isPlain_iff (fun c mem => (inside c mem).1) (normalized.parts part mem).2⟩

/-- A reference leads back to its key exactly if the mount is one segment, and no segment of the key is a
single dot. -/
lemma roundTrip_iff (mount_ok : Normalized vault.mount) (ok : normalizeKey key = .ok k) :
    RoundTrip hosts vault key k ↔ '/' ∉ vault.mount ∧ ['.'] ∉ segments k := by
  have normalized := normalized_of_ok ok
  have characters := reference_characters mount_ok normalized
  have protocol : "vault".toList ++ [':'] = "vault:".toList := rfl
  by_cases slash : '/' ∈ vault.mount
  · -- The host is only the first segment of the mount.
    refine iff_of_false ?_ fun both => both.1 slash
    rintro ⟨reference, is, back⟩
    obtain ⟨host, rest, whole, free⟩ := List.eq_append_cons_of_mem slash
    cases (referenceForKey_eq ok).symm.trans is
    have text : vaultReference vault.mount k = "vault://".toList ++ (host ++ '/' :: (rest ++ '/' :: k)) := by
      rw [vaultReference_eq, whole, List.append_assoc, List.cons_append]
    have longer : host ≠ vault.mount := by
      intro same
      have length := congrArg List.length whole
      rw [← same, List.length_append, List.length_cons] at length
      omega
    rw [whole, List.append_assoc, List.cons_append] at characters
    rw [Vault.parseReference, text, parse_vault characters free] at back
    dsimp only at back
    rw [if_pos (.inr longer)] at back
    cases back
  · -- What is read again is the key without its single dots.
    have parts : ∀ part ∈ resolveDots [] (segments k),
        (∀ c ∈ part, isKeyCharacter c = true ∧ c ≠ '/') ∧ part ≠ ['.'] := by
      intro part mem
      rcases mem_resolveDots mem with before | none | ⟨mem, plain⟩
      · cases before
      · rw [none]
        exact ⟨nofun, nofun⟩
      · obtain ⟨inside, single⟩ := normalized.segment mem
        exact ⟨inside, single.mp plain⟩
    have nonempty : resolveDots [] (segments k) ≠ [] := resolveDots_ne_nil (List.splitOn_ne_nil _ _)
    have written := serialize_intercalate nonempty
    have keys : ∀ c ∈ ['/'].intercalate (resolveDots [] (segments k)), isKeyCharacter c = true := by
      intro c mem
      have mem : c ∈ (Path.segments (resolveDots [] (segments k))).serialize := by
        rw [written]
        exact List.mem_cons_of_mem _ mem
      obtain ⟨part, found, mem⟩ := List.mem_flatMap.mp mem
      rcases List.mem_cons.mp mem with rfl | mem
      · decide
      · exact ((parts part found).1 c mem).1
    have decoded := decodeURIComponent_plain fun mem => (keyCharacter (keys _ mem)).escape rfl
    have back : vault.parseReference hosts (vaultReference vault.mount k) =
        normalizeKey (['/'].intercalate (resolveDots [] (segments k))) := by
      rw [Vault.parseReference, vaultReference_eq, parse_vault characters slash]
      dsimp only
      rw [if_neg (by rw [Whatwg.Url.protocol, protocol]; simp [Whatwg.Url.hostname]), Whatwg.Url.pathname,
        Path.serialize.eq_1]
      rw [Path.serialize.eq_1] at written
      rw [written, Vault.dropLeadingSlash, decoded]
    have iff : RoundTrip hosts vault key k ↔
        normalizeKey (['/'].intercalate (resolveDots [] (segments k))) = .ok k := by
      rw [← back]
      constructor
      · rintro ⟨reference, is, found⟩
        cases (referenceForKey_eq ok).symm.trans is
        exact found
      · exact fun found => ⟨_, referenceForKey_eq ok, found⟩
    rw [iff]
    constructor
    · intro same
      refine ⟨slash, fun dot => ?_⟩
      have trimmed := normalizeKey_trim keys same
      rw [trimmed, Words.trim] at dot
      have inside := segments_dropWhile (segments_rdropWhile dot)
      rw [segments, List.splitOn_intercalate _ (fun part mem in_part => ((parts part mem).1 _ in_part).2 rfl)
        nonempty] at inside
      exact (parts _ inside).2 rfl
    · rintro ⟨-, dotless⟩
      have plain : resolveDots [] (segments k) = segments k := by
        refine resolveDots_plain fun part mem => (normalized.segment mem).2.mpr ?_
        rintro rfl
        exact dotless mem
      rw [plain, segments, List.intercalate_splitOn]
      exact normalized.normalizeKey

end References

section Requests
variable {hosts : HostParsers} {vault : Vault} {url : Whatwg.Url} {parts : List Text} {area : KvArea}
  {x y k mount : Text}

lemma dropTrailingSlash_append (some : y ≠ []) :
    Vault.dropTrailingSlash (x ++ y) = x ++ Vault.dropTrailingSlash y := by
  rw [Vault.dropTrailingSlash, Vault.dropTrailingSlash, List.getLast?_append_of_ne_nil _ some]
  split
  · rw [List.dropLast_append_of_ne_nil some]
  · rfl

lemma serialize_append {parts' : List Text} :
    (Path.segments (parts ++ parts')).serialize =
      (Path.segments parts).serialize ++ (Path.segments parts').serialize :=
  List.flatMap_append

lemma address_path (address : WebAddress hosts url parts) : url.path = .segments parts := by
  obtain ⟨authority, -, whole⟩ := address.authority
  rw [whole]

/-- An address without a slash at its end has its base path. -/
lemma dropTrailingSlash_serialize (address : WebAddress hosts url parts) :
    Vault.dropTrailingSlash (Path.segments parts).serialize = (Path.segments (basePath url)).serialize := by
  obtain ⟨front, last, rfl⟩ := (List.eq_nil_or_concat' parts).resolve_left address.nonempty
  have clean := (address.parts last (List.mem_append_right _ (List.mem_singleton_self _))).1
  have one : (Path.segments [last]).serialize = '/' :: last := List.append_nil _
  rw [serialize_append, one, dropTrailingSlash_append (List.cons_ne_nil _ _), basePath,
    address_path address]
  dsimp only
  rw [List.getLast?_concat]
  cases last with
  | nil =>
    rw [if_pos rfl, List.dropLast_concat]
    exact List.append_nil _
  | cons c last =>
    have other : (c :: last).getLast? ≠ some '/' := by
      intro slash
      have mem := List.mem_of_getLast? slash
      exact absurd (clean _ mem).2 (by decide)
    have kept : Vault.dropTrailingSlash ('/' :: c :: last) = '/' :: c :: last := by
      rw [Vault.dropTrailingSlash, List.getLast?_cons_cons, if_neg other]
    rw [if_neg (by simp), serialize_append, kept]
    exact congrArg _ one.symm

/-- What follows the address of a request. -/
def requestParts (mount : Text) (area : KvArea) (k : Text) : List Text :=
  ["v1".toList, encodeURIComponent mount, Vault.areaName area] ++ segments k

lemma requestUrl_eq (normalized : Normalized k) :
    vault.requestUrl area k =
      vault.address ++ (Path.segments (requestParts vault.mount area k)).serialize := by
  have keys : (segments k).map encodeURIComponent = segments k := by
    refine (List.map_congr_left fun part found => ?_).trans (List.map_id _)
    refine percentEncode_eq_self fun c inside => ?_
    obtain ⟨character, other⟩ := (normalized.segment found).1 c inside
    rw [(keyCharacter character).component other]
    rfl
  have behind := serialize_intercalate (List.splitOn_ne_nil '/' k)
  have joined (address version mount area : Text) :
      address ++ ('/' :: (version ++ ['/'])) ++ mount ++ '/' :: area ++ '/' :: ['/'].intercalate (segments k) =
        address ++ (Path.segments ([version, mount, area] ++ segments k)).serialize := by
    rw [serialize_append, segments, behind, Path.serialize]
    simp only [List.flatMap_cons, List.flatMap_nil, List.append_assoc, List.cons_append, List.nil_append]
  have version : "/v1/".toList = '/' :: ("v1".toList ++ ['/']) := rfl
  rw [Vault.requestUrl, keys, version]
  exact joined _ _ _ _

lemma clean_component : Clean (encodeURIComponent x) := by
  intro c mem
  rcases mem_percentEncode mem with ⟨kept, -⟩ | rfl | digit
  · have unreserved : isUnreserved c = true := by simpa using kept
    have other {d : Char} (no : isUnreserved d = false) : c ≠ d := by
      rintro rfl
      cases unreserved.symm.trans no
    have bounds : 33 ≤ c.toNat ∧ c.toNat ≤ 126 := by
      simp only [isUnreserved, Bool.or_eq_true, decide_eq_true_eq] at unreserved
      rcases unreserved with letter | mem
      · simp only [Char.isAlphanum, Char.isAlpha, Char.isUpper, Char.isLower, Char.isDigit, Bool.or_eq_true,
          Bool.and_eq_true, decide_eq_true_eq, ge_iff_le, UInt32.le_iff_toNat_le] at letter
        have range : ((65 ≤ c.toNat ∧ c.toNat ≤ 90) ∨ (97 ≤ c.toNat ∧ c.toNat ≤ 122)) ∨
            (48 ≤ c.toNat ∧ c.toNat ≤ 57) := letter
        omega
      · have list : ∀ d ∈ ['-', '_', '.', '!', '~', '*', '\'', '(', ')'], 33 ≤ d.toNat ∧ d.toNat ≤ 126 :=
          List.all_iff_forall_prop.mp (by decide)
        exact list c mem
    have control : isC0Control c = false := by
      rw [isC0Control, Bool.or_eq_false_iff]
      exact ⟨decide_eq_false (by omega), decide_eq_false (by omega)⟩
    have list {l : List Char} (no : ∀ d ∈ l, isUnreserved d = false) : (decide (c ∈ l)) = false :=
      decide_eq_false fun mem => other (no c mem) rfl
    refine ⟨?_, ?_⟩
    · rw [isPathEncoded, isQueryEncoded, control, list (List.all_iff_forall_prop.mp (by decide)),
      list (List.all_iff_forall_prop.mp (by decide))]
      rfl
    · rw [isSlash, Bool.or_eq_false_iff, Bool.true_and]
      exact ⟨decide_eq_false (other (by decide)), decide_eq_false (other (by decide))⟩
  · decide
  · have digits : ∀ d ∈ Whatwg.hexDigits, isPathEncoded d = false ∧ isSlash true d = false :=
      List.all_iff_forall_prop.mp (by decide)
    exact digits c digit

lemma clean_requestParts (normalized : Normalized k) :
    ∀ part ∈ requestParts mount area k, Clean part := by
  intro part mem
  rcases List.mem_append.mp mem with mem | mem
  · simp only [List.mem_cons, List.not_mem_nil, or_false] at mem
    rcases mem with rfl | rfl | rfl
    · intro c mem
      have version : ∀ c ∈ "v1".toList, isPathEncoded c = false ∧ isSlash true c = false :=
        List.all_iff_forall_prop.mp (by decide)
      exact version c mem
    · exact clean_component
    · intro c mem
      have name : ∀ c ∈ Vault.areaName area, isPathEncoded c = false ∧ isSlash true c = false := by
        cases area <;> exact List.all_iff_forall_prop.mp (by decide)
      exact name c mem
  · intro c inside
    obtain ⟨character, other⟩ := (normalized.segment mem).1 c inside
    have known := keyCharacter character
    refine ⟨known.path.1, ?_⟩
    rw [isSlash, Bool.or_eq_false_iff, Bool.true_and]
    exact ⟨decide_eq_false other, decide_eq_false known.path.2.2⟩

/-- The path that is requested is that of the address and that of the key, read together; where the address
has a query or a fragment, only that of the address. -/
lemma requestPath_eq (address : WebAddress hosts url parts)
    (is : vault.address = Vault.dropTrailingSlash url.href) (normalized : Normalized k)
    (web : url.scheme = "http".toList ∨ url.scheme = "https".toList) :
    vault.requestPath hosts area k =
      if url.username = [] ∧ url.password = [] then
        some (if url.marks = [] then
          resolveDots [] (basePath url ++ requestParts vault.mount area k) else parts)
      else none := by
  have clean : ∀ part ∈ requestParts vault.mount area k, Clean part := clean_requestParts normalized
  have clean_parts : ∀ part ∈ parts, Clean part := fun part mem => (address.parts part mem).1
  have clean_base : ∀ part ∈ basePath url, Clean part := by
    intro part mem
    refine clean_parts part ?_
    rw [basePath, address_path address] at mem
    dsimp only at mem
    split at mem
    · exact List.dropLast_subset _ mem
    · exact mem
  have path_nonempty : (Path.segments parts).serialize ≠ [] := by
    rw [serialize_intercalate address.nonempty]
    exact List.cons_ne_nil _ _
  have plain : resolveDots [] parts = parts := resolveDots_plain fun part mem => (address.parts part mem).2
  have read : ∃ query fragment, parse hosts (vault.requestUrl area k) =
      some { url with
        path := .segments (if url.marks = [] then
          resolveDots [] (basePath url ++ requestParts vault.mount area k) else parts)
        query
        fragment } := by
    rw [requestUrl_eq normalized, is, address.href]
    by_cases none : url.marks = []
    · have some_parts : basePath url ++ requestParts vault.mount area k ≠ [] :=
        List.append_ne_nil_of_right_ne_nil _ (List.cons_ne_nil _ _)
      obtain ⟨query, fragment, found⟩ := address.parse web []
        (fun part mem => (List.mem_append.mp mem).elim (clean_base part) (clean part)) some_parts nofun nofun
      refine ⟨query, fragment, ?_⟩
      rw [none, List.append_nil, dropTrailingSlash_append path_nonempty, dropTrailingSlash_serialize address,
        List.append_assoc, ← serialize_append, if_pos rfl, ← found, List.append_nil]
    · obtain ⟨c, rest, whole⟩ := List.exists_cons_of_ne_nil none
      obtain ⟨follows, visible⟩ := address.marks
      have cut : ∃ rest', Vault.dropTrailingSlash url.marks = c :: rest' ∧ ∀ d ∈ rest', d ∈ url.marks := by
        rw [whole]
        cases rest with
        | nil =>
          have mark : c ≠ '/' := by
            rintro rfl
            exact absurd (follows '/' (by rw [whole]; rfl)) (by decide)
          refine ⟨[], ?_, nofun⟩
          rw [Vault.dropTrailingSlash, if_neg (by simpa using mark)]
        | cons d rest =>
          refine ⟨Vault.dropTrailingSlash (d :: rest), dropTrailingSlash_append (x := [c]) (List.cons_ne_nil _ _),
            fun e mem => ?_⟩
          rw [Vault.dropTrailingSlash] at mem
          split at mem
          · exact List.mem_cons_of_mem _ (List.dropLast_subset _ mem)
          · exact List.mem_cons_of_mem _ mem
      obtain ⟨rest', cut, subset⟩ := cut
      have marked : Marks (Vault.dropTrailingSlash url.marks ++
          (Path.segments (requestParts vault.mount area k)).serialize) := by
        rw [cut]
        intro d mem
        cases mem
        exact follows c (by rw [whole]; rfl)
      have all_visible : ∀ d ∈ Vault.dropTrailingSlash url.marks ++
          (Path.segments (requestParts vault.mount area k)).serialize, 0x20 < d.toNat := by
        rw [cut]
        intro d mem
        rcases List.mem_append.mp mem with mem | mem
        · rcases List.mem_cons.mp mem with rfl | mem
          · exact visible _ (by rw [whole]; exact List.mem_cons_self)
          · exact visible d (subset d mem)
        · obtain ⟨part, inside, mem⟩ := List.mem_flatMap.mp mem
          rcases List.mem_cons.mp mem with rfl | mem
          · decide
          · exact visible_of_path (clean part inside d mem).1
      obtain ⟨query, fragment, found⟩ := address.parse web _ clean_parts address.nonempty marked all_visible
      have apart (a p d t : Text) : a ++ (p ++ d) ++ t = a ++ (p ++ (d ++ t)) := by
        rw [List.append_assoc, List.append_assoc]
      refine ⟨query, fragment, ?_⟩
      rw [dropTrailingSlash_append (List.append_ne_nil_of_right_ne_nil _ none),
        dropTrailingSlash_append none, apart, if_neg none, found, plain]
  obtain ⟨query, fragment, found⟩ := read
  rw [Vault.requestPath, found]
  dsimp only
  by_cases credentials : url.username = [] ∧ url.password = []
  · rw [if_pos ⟨web, credentials⟩, if_pos credentials]
  · rw [if_neg fun both => credentials both.2, if_neg credentials]

lemma created_eq {address mountText : Text} (parsed : parse hosts address = some url)
    (created : Vault.create hosts address mountText = .ok vault) :
    vault.address = Vault.dropTrailingSlash url.href ∧ Normalized vault.mount := by
  rw [Vault.create, parsed] at created
  dsimp only at created
  cases mount_is : normalizeKey mountText with
  | error e =>
    rw [mount_is] at created
    cases created
  | ok mount =>
    rw [mount_is] at created
    cases created
    exact ⟨rfl, normalized_of_ok mount_is⟩

/-- A request goes out with the scheme of the address. -/
lemma requestUrl_scheme (is : vault.address = Vault.dropTrailingSlash url.href) :
    ∃ rest, vault.requestUrl area k = url.scheme ++ ':' :: rest := by
  obtain ⟨rest, href⟩ : ∃ rest, url.href = url.scheme ++ [':'] ++ rest := by
    rw [Whatwg.Url.href, Whatwg.Url.protocol]
    exact ⟨_, by rw [List.append_assoc, List.append_assoc, List.append_assoc]⟩
  obtain ⟨rest', cut⟩ : ∃ rest', Vault.dropTrailingSlash url.href = url.scheme ++ [':'] ++ rest' := by
    rw [href]
    by_cases none : rest = []
    · rw [none, List.append_nil, Vault.dropTrailingSlash, List.getLast?_concat, if_neg (by decide)]
      exact ⟨[], (List.append_nil _).symm⟩
    · rw [dropTrailingSlash_append none]
      exact ⟨_, rfl⟩
  rw [Vault.requestUrl, is, cut]
  have apart (a r s t u v : Text) : a ++ [':'] ++ r ++ s ++ t ++ u ++ v = a ++ ':' :: (r ++ s ++ t ++ u ++ v) := by
    simp only [List.append_assoc, List.cons_append, List.nil_append]
  exact ⟨_, apart _ _ _ _ _ _⟩

lemma web_of_requestPath {address : Text} {path : List Text} (parsed : parse hosts address = some url)
    (is : vault.address = Vault.dropTrailingSlash url.href)
    (requested : vault.requestPath hosts area k = some path) :
    url.scheme = "http".toList ∨ url.scheme = "https".toList := by
  obtain ⟨rest, written⟩ : ∃ rest, vault.requestUrl area k = url.scheme ++ ':' :: rest := requestUrl_scheme is
  obtain ⟨after, found⟩ := parse_scheme parsed
  rw [Vault.requestPath, written] at requested
  split at requested
  · cases requested
  · rename_i request read
    split at requested
    · rename_i reached
      rw [← scheme_of_written (parseScheme_text found) read]
      exact reached.1
    · cases requested

lemma marks_nil : url.marks = [] ↔ url.query = none ∧ url.fragment = none := by
  rw [Whatwg.Url.marks]
  cases url.query <;> cases url.fragment <;> simp

/-- What is below the mount has a longer path than the address. -/
lemma basePath_length (address : WebAddress hosts url parts) : parts.length ≤ (basePath url).length + 1 := by
  rw [basePath, address_path address]
  dsimp only
  split
  · rw [List.length_dropLast]
    omega
  · omega

/-- The requests of a key are below its mount exactly if the address is a base and nothing is a single dot. -/
lemma inside_request (lawful : hosts.Lawful) {address : Text} (parsed : parse hosts address = some url)
    (is : vault.address = Vault.dropTrailingSlash url.href) (normalized : Normalized k)
    (inside : InsideMount hosts vault url area k) : IsBase url ∧ vault.mount ≠ ['.'] := by
  obtain ⟨below, some_below, requested⟩ := inside
  have web := web_of_requestPath parsed is requested
  have special : isSpecial url.scheme = true := by
    rcases web with http | https
    · rw [http]
      decide
    · rw [https]
      decide
  obtain ⟨parts, read⟩ := webAddress_of_parse lawful parsed special
  rw [requestPath_eq read is normalized web] at requested
  split at requested
  · rename_i credentials
    have path := Option.some.inj requested
    have marks : url.marks = [] := by
      by_contra marked
      rw [if_neg marked] at path
      have lengths := congrArg List.length path
      have short := basePath_length read
      rw [List.length_append, List.length_append] at lengths
      simp only [List.length_cons, List.length_nil] at lengths
      omega
    rw [if_pos marks] at path
    refine ⟨⟨web, credentials, marks_nil.mp marks⟩, fun dot => ?_⟩
    have mem : encodeURIComponent vault.mount ∈
        resolveDots [] (basePath url ++ requestParts vault.mount area k) := by
      rw [path]
      refine List.mem_append_left _ (List.mem_append_right _ ?_)
      exact List.mem_cons_of_mem _ List.mem_cons_self
    rw [dot] at mem
    have single : encodeURIComponent ['.'] = ['.'] := by decide
    rw [single] at mem
    rcases mem_resolveDots mem with before | none | ⟨-, plain⟩
    · cases before
    · cases none
    · exact absurd plain (by decide)
  · cases requested

/-- The path of a request, where nothing is a single dot. -/
lemma requestPath_plain (lawful : hosts.Lawful) {address : Text} (parsed : parse hosts address = some url)
    (is : vault.address = Vault.dropTrailingSlash url.href) (base : IsBase url)
    (mount_ok : Normalized vault.mount) (slash : '/' ∉ vault.mount) (dot : vault.mount ≠ ['.'])
    (normalized : Normalized k) (dotless : ['.'] ∉ segments k) :
    vault.requestPath hosts area k = some (basePath url ++ requestParts vault.mount area k) := by
  have special : isSpecial url.scheme = true := by
    rcases base.web with http | https
    · rw [http]
      decide
    · rw [https]
      decide
  obtain ⟨parts, read⟩ := webAddress_of_parse lawful parsed special
  have component : encodeURIComponent vault.mount = vault.mount := by
    refine percentEncode_eq_self fun c mem => ?_
    rw [(keyCharacter (mount_ok.characters c mem)).component fun same => slash (same ▸ mem)]
    rfl
  have one : segments vault.mount = [vault.mount] := List.splitOn_eq_singleton slash
  have double : vault.mount ≠ ['.', '.'] :=
    (mount_ok.parts vault.mount (by rw [one]; exact List.mem_singleton_self _)).2
  have plain : ∀ part ∈ basePath url ++ requestParts vault.mount area k, isPlain part = true := by
    intro part mem
    rcases List.mem_append.mp mem with mem | mem
    · rw [basePath, address_path read] at mem
      dsimp only at mem
      split at mem
      · exact (read.parts part (List.dropLast_subset _ mem)).2
      · exact (read.parts part mem).2
    · rcases List.mem_append.mp mem with mem | mem
      · simp only [List.mem_cons, List.not_mem_nil, or_false] at mem
        rcases mem with rfl | rfl | rfl
        · decide
        · rw [component]
          exact (isPlain_iff mount_ok.characters double).mpr dot
        · cases area <;> decide
      · refine (normalized.segment mem).2.mpr ?_
        rintro rfl
        exact dotless mem
  rw [requestPath_eq read is normalized base.web, if_pos base.credentials, if_pos (marks_nil.mpr base.marks),
    resolveDots_plain plain]
  rfl

/-- Two keys are told apart and found again exactly if the address is one that requests extend, the mount is
one segment other than a dot, and no segment of the keys is a dot. -/
theorem faithful_iff (hosts : HostParsers) (lawful : hosts.Lawful) {address mountText : Text}
    {url : Whatwg.Url} {vault : Vault} {key key' k k' : Text} (parsed : parse hosts address = some url)
    (created : Vault.create hosts address mountText = .ok vault) (ok : normalizeKey key = .ok k)
    (ok' : normalizeKey key' = .ok k') :
    Faithful hosts vault url key key' k k' ↔
      IsBase url ∧ '/' ∉ vault.mount ∧ vault.mount ≠ ['.'] ∧ ['.'] ∉ segments k ∧ ['.'] ∉ segments k' := by
  obtain ⟨is, mount_ok⟩ := created_eq parsed created
  have normalized := normalized_of_ok ok
  have normalized' := normalized_of_ok ok'
  constructor
  · intro faithful
    obtain ⟨slash, dotless⟩ := (roundTrip_iff mount_ok ok).mp faithful.roundTrip.1
    obtain ⟨-, dotless'⟩ := (roundTrip_iff mount_ok ok').mp faithful.roundTrip.2
    obtain ⟨base, dot⟩ := inside_request lawful parsed is normalized (faithful.inside .data).1
    exact ⟨base, slash, dot, dotless, dotless'⟩
  · rintro ⟨base, slash, dot, dotless, dotless'⟩
    have path (area : KvArea) : vault.requestPath hosts area k =
        some (basePath url ++ requestParts vault.mount area k) :=
      requestPath_plain lawful parsed is base mount_ok slash dot normalized dotless
    have path' (area : KvArea) : vault.requestPath hosts area k' =
        some (basePath url ++ requestParts vault.mount area k') :=
      requestPath_plain lawful parsed is base mount_ok slash dot normalized' dotless'
    have some_segments (k : Text) : segments k ≠ [] := List.splitOn_ne_nil _ _
    refine ⟨⟨(roundTrip_iff mount_ok ok).mpr ⟨slash, dotless⟩, (roundTrip_iff mount_ok ok').mpr ⟨slash, dotless'⟩⟩,
      fun area => ⟨⟨segments k, some_segments k, ?_⟩, segments k', some_segments k', ?_⟩, fun differ same => ?_,
      fun differ area same => ?_⟩
    · rw [path, requestParts, List.append_assoc]
    · rw [path', requestParts, List.append_assoc]
    · rw [referenceForKey_eq ok, referenceForKey_eq ok', Except.ok.injEq] at same
      exact differ (List.append_cancel_left same)
    · rw [path, path', Option.some.injEq] at same
      have equal : segments k = segments k' := List.append_cancel_left (List.append_cancel_left same)
      have joined := congrArg ['/'].intercalate equal
      rw [segments, segments, List.intercalate_splitOn, List.intercalate_splitOn] at joined
      exact differ joined

/-- A Vault server. -/
def vaultAddress : Text :=
  "https://vault.example:8200/proxy/".toList

def vaultUrl : Whatwg.Url where
  scheme := "https".toList
  host := some "vault.example".toList
  port := some 8200
  path := .segments ["proxy".toList, []]

lemma parse_vaultAddress : parse asciiHosts vaultAddress = some vaultUrl := by
  decide

lemma create_vaultAddress :
    Vault.create asciiHosts vaultAddress "secret".toList =
      .ok ⟨"https://vault.example:8200/proxy".toList, "secret".toList⟩ := by
  rw [Vault.create, parse_vaultAddress]
  rfl

/-- Two keys without dots. -/
theorem faithful_dotless :
    Faithful asciiHosts ⟨"https://vault.example:8200/proxy".toList, "secret".toList⟩ vaultUrl
        "projects/a".toList "projects/b/".toList "projects/a".toList "projects/b".toList ↔
      IsBase vaultUrl ∧ '/' ∉ "secret".toList ∧ "secret".toList ≠ ['.'] ∧
        ['.'] ∉ segments "projects/a".toList ∧ ['.'] ∉ segments "projects/b".toList :=
  faithful_iff asciiHosts asciiHosts_lawful parse_vaultAddress create_vaultAddress rfl rfl

/-- A key with a dot is another key when it is read again. -/
theorem dotted_key_unfaithful :
    ¬ ∀ (hosts : HostParsers) (address mountText : Text) (url : Whatwg.Url) (vault : Vault)
      (key key' k k' : Text), hosts.Lawful → parse hosts address = some url → IsBase url →
      Vault.create hosts address mountText = .ok vault → normalizeKey key = .ok k →
      normalizeKey key' = .ok k' → Faithful hosts vault url key key' k k' := by
  intro all
  have base : IsBase vaultUrl := ⟨.inr rfl, ⟨rfl, rfl⟩, rfl, rfl⟩
  have dotted : normalizeKey "a/./b".toList = .ok "a/./b".toList := rfl
  have faithful := all _ _ _ _ _ _ _ _ _ asciiHosts_lawful parse_vaultAddress base create_vaultAddress
    dotted dotted
  have mount_ok : Normalized "secret".toList := normalized_of_ok (show normalizeKey "secret".toList = .ok "secret".toList from rfl)
  have dotless := ((roundTrip_iff mount_ok dotted).mp faithful.roundTrip.1).2
  exact dotless (by decide)

end Requests

end AtomsPlatform.Database
