import AtomsPlatform.Lib.Splitting
import AtomsPlatform.Lib.Url

/-!
# URLs that are written and read again

What a URL is written as is read as that URL again, with more segments behind its path. The parsers of hosts
are those of a lawful platform: what they give is a host in its one spelling.
-/

namespace Whatwg

/-- A host that was read has no characters with a meaning in URLs, and is read as itself. -/
structure HostParsers.Lawful (hosts : HostParsers) : Prop where
  domain {text host : List Char} : hosts.domain text = some host →
    hosts.domain host = some host ∧ host ≠ [] ∧ ∀ c ∈ host, isForbiddenHost c = false ∧ 0x20 < c.toNat
  address {text host : List Char} : hosts.address text = some host →
    hosts.address host = some host ∧ ∀ c ∈ host, c.isAlphanum ∨ c = ':'

section Dots
variable {path parts rest : List (List Char)} {segment : List Char}

/-- A segment that stays in a path. -/
def isPlain (segment : List Char) : Bool :=
  !isSingleDot segment && !isDoubleDot segment

lemma isPlain_nil : isPlain [] = true := by
  decide

/-- Every segment of a path is plain. -/
lemma mem_resolveDots (mem : segment ∈ resolveDots path rest) :
    segment ∈ path ∨ segment = [] ∨ (segment ∈ rest ∧ isPlain segment = true) := by
  induction path, rest using resolveDots.induct with
  | case1 path => exact .inl mem
  | case2 path last double =>
    rw [resolveDots, if_pos double] at mem
    rcases List.mem_append.mp mem with mem | mem
    · exact .inl (List.dropLast_subset _ mem)
    · exact .inr (.inl (List.mem_singleton.mp mem))
  | case3 path last double single =>
    rw [resolveDots, if_neg double, if_pos single] at mem
    rcases List.mem_append.mp mem with mem | mem
    · exact .inl mem
    · exact .inr (.inl (List.mem_singleton.mp mem))
  | case4 path last double single =>
    rw [resolveDots, if_neg double, if_neg single] at mem
    rcases List.mem_append.mp mem with mem | mem
    · exact .inl mem
    · rw [List.mem_singleton.mp mem]
      exact .inr (.inr ⟨List.mem_cons_self, by simp [isPlain, double, single]⟩)
  | case5 path first rest more double ih =>
    rw [resolveDots, if_pos double] at mem
    · rcases ih mem with before | none | ⟨later, plain⟩
      · exact .inl (List.dropLast_subset _ before)
      · exact .inr (.inl none)
      · exact .inr (.inr ⟨List.mem_cons_of_mem _ later, plain⟩)
    · exact more
  | case6 path first rest more double single ih =>
    rw [resolveDots, if_neg double, if_pos single] at mem
    · rcases ih mem with before | none | ⟨later, plain⟩
      · exact .inl before
      · exact .inr (.inl none)
      · exact .inr (.inr ⟨List.mem_cons_of_mem _ later, plain⟩)
    · exact more
  | case7 path first rest more double single ih =>
    rw [resolveDots, if_neg double, if_neg single] at mem
    · rcases ih mem with before | none | ⟨later, plain⟩
      · rcases List.mem_append.mp before with before | here
        · exact .inl before
        · rw [List.mem_singleton.mp here]
          exact .inr (.inr ⟨List.mem_cons_self, by simp [isPlain, double, single]⟩)
      · exact .inr (.inl none)
      · exact .inr (.inr ⟨List.mem_cons_of_mem _ later, plain⟩)
    · exact more

/-- Plain segments in front stay. -/
lemma resolveDots_append (plain : ∀ segment ∈ parts, isPlain segment = true) (some : rest ≠ []) :
    resolveDots path (parts ++ rest) = resolveDots (path ++ parts) rest := by
  induction parts generalizing path with
  | nil => rw [List.nil_append, List.append_nil]
  | cons segment parts ih =>
    have here := plain segment List.mem_cons_self
    rw [isPlain, Bool.and_eq_true, Bool.not_eq_true', Bool.not_eq_true'] at here
    have more : parts ++ rest ≠ [] := List.append_ne_nil_of_right_ne_nil _ some
    rw [List.cons_append, resolveDots, here.2, here.1]
    · have later := @ih (path ++ [segment]) fun s mem => plain s (List.mem_cons_of_mem _ mem)
      rw [if_neg Bool.false_ne_true, if_neg Bool.false_ne_true, later, List.append_assoc]
      rfl
    · exact more

lemma resolveDots_plain (plain : ∀ segment ∈ rest, isPlain segment = true) :
    resolveDots path rest = path ++ rest := by
  rcases List.eq_nil_or_concat rest with rfl | ⟨parts, last, rfl⟩
  · rw [resolveDots, List.append_nil]
  · rw [List.concat_eq_append] at plain ⊢
    have here := plain last List.mem_concat_self
    rw [isPlain, Bool.and_eq_true, Bool.not_eq_true', Bool.not_eq_true'] at here
    rw [resolveDots_append (fun s mem => plain s (List.mem_append_left _ mem)) (List.cons_ne_nil _ _),
      resolveDots, here.2, here.1, if_neg Bool.false_ne_true, if_neg Bool.false_ne_true, List.append_assoc]

end Dots

section Segments
variable {special : Bool} {parts : List (List Char)} {segment text : List Char}

/-- A segment as a URL has it. -/
def Clean (segment : List Char) : Prop :=
  ∀ c ∈ segment, isPathEncoded c = false ∧ isSlash true c = false

lemma isSlash_of_special {c : Char} (other : isSlash true c = false) : isSlash special c = false := by
  cases special with
  | true => exact other
  | false =>
    rw [isSlash, Bool.or_eq_false_iff] at other ⊢
    exact ⟨other.1, rfl⟩

lemma Clean.encode (clean : Clean segment) : percentEncode isPathEncoded segment = segment :=
  percentEncode_eq_self fun c mem => (clean c mem).1

/-- The tail of a path that is written is its segments. -/
lemma split_serialize (clean : ∀ s ∈ segment :: parts, Clean s) :
    (segment ++ (Path.segments parts).serialize).splitOnP (isSlash special) = segment :: parts := by
  induction parts generalizing segment with
  | nil =>
    rw [Path.serialize, List.flatMap_nil, List.append_nil]
    exact List.splitOnP_eq_singleton fun c mem =>
      isSlash_of_special (clean segment List.mem_cons_self c mem).2
  | cons next parts ih =>
    have text : segment ++ (Path.segments (next :: parts)).serialize =
        segment ++ '/' :: (next ++ (Path.segments parts).serialize) := rfl
    have free : ∀ c ∈ segment, isSlash special c = false := fun c mem =>
      isSlash_of_special (clean segment List.mem_cons_self c mem).2
    rw [text, List.splitOnP_append_cons_of_forall_mem free '/' rfl,
      ih fun s mem => clean s (List.mem_cons_of_mem _ mem)]

/-- A path is its segments with slashes in between. -/
lemma serialize_intercalate (some : parts ≠ []) :
    (Path.segments parts).serialize = '/' :: ['/'].intercalate parts := by
  induction parts with
  | nil => exact absurd rfl some
  | cons segment parts ih =>
    cases parts with
    | nil =>
      rw [Path.serialize, List.flatMap_cons, List.flatMap_nil, List.append_nil, List.intercalate_singleton]
    | cons next parts =>
      have later := ih (List.cons_ne_nil _ _)
      rw [Path.serialize] at later ⊢
      rw [List.flatMap_cons, later, List.intercalate_cons_cons, List.append_assoc]
      rfl

lemma parsePath_serialize (clean : ∀ s ∈ segment :: parts, Clean s) :
    parsePath special (segment ++ (Path.segments parts).serialize) = resolveDots [] (segment :: parts) := by
  have same : (segment :: parts).map (percentEncode isPathEncoded) = segment :: parts :=
    List.map_congr_left (fun s mem => (clean s mem).encode) |>.trans (List.map_id _)
  rw [parsePath, split_serialize clean, same]

/-- A path that was read is written as it is read. -/
lemma mem_parsePath (mem : segment ∈ parsePath true text) : Clean segment ∧ isPlain segment = true := by
  rcases mem_resolveDots mem with before | none | ⟨mem, plain⟩
  · cases before
  · rw [none]
    exact ⟨fun c mem => absurd mem List.not_mem_nil, isPlain_nil⟩
  · refine ⟨fun c inside => ?_, plain⟩
    obtain ⟨part, found, rfl⟩ := List.mem_map.mp mem
    rcases mem_percentEncode inside with ⟨kept, inside⟩ | rfl | digit
    · exact ⟨kept, (Splitting.mem_splitOnP found inside).1⟩
    · decide
    · have digits : ∀ d ∈ hexDigits, isPathEncoded d = false ∧ isSlash true d = false :=
        List.all_iff_forall_prop.mp (by decide)
      exact digits c digit

end Segments

section Web
variable {hosts : HostParsers} {scheme authority marks text : List Char} {parts : List (List Char)} {url : Url}

lemma kept_of_visible {c : Char} (visible : 0x20 < c.toNat) : (!isTabOrNewline c) = true := by
  rw [Bool.not_eq_true', isTabOrNewline, Bool.or_eq_false_iff, Bool.or_eq_false_iff]
  refine ⟨⟨decide_eq_false ?_, decide_eq_false ?_⟩, decide_eq_false ?_⟩
  · rintro rfl
    exact absurd visible (by decide)
  · rintro rfl
    exact absurd visible (by decide)
  · rintro rfl
    exact absurd visible (by decide)

lemma strip_eq_self (visible : ∀ c ∈ text, 0x20 < c.toNat) : strip text = text := by
  have other : ∀ c ∈ text, isC0ControlOrSpace c = false := fun c mem =>
    decide_eq_false (Nat.not_le.mpr (visible c mem))
  have start : text.dropWhile isC0ControlOrSpace = text :=
    List.dropWhile_eq_self_iff.mpr fun _ => by simp [other _ (List.getElem_mem _)]
  have stop : text.rdropWhile isC0ControlOrSpace = text :=
    List.rdropWhile_eq_self_iff.mpr fun _ => by simp [other _ (List.getLast_mem _)]
  rw [strip, trimEnds, start, stop, List.filter_eq_self]
  exact fun c mem => kept_of_visible (visible c mem)

/-- What follows a path: nothing, or a query or a fragment. -/
def Marks (marks : List Char) : Prop :=
  ∀ c ∈ marks.head?, isMark c = true

lemma takeWhile_append_marks {p : Char → Bool} {x y : List Char} (inside : ∀ c ∈ x, p c = true)
    (outside : ∀ c ∈ y.head?, p c = false) :
    (x ++ y).takeWhile p = x ∧ (x ++ y).dropWhile p = y := by
  rw [List.takeWhile_append_of_pos inside, List.dropWhile_append_of_pos inside]
  cases y with
  | nil => exact ⟨List.append_nil _, rfl⟩
  | cons c y =>
    have other := outside c rfl
    rw [List.takeWhile_cons, List.dropWhile_cons, other]
    exact ⟨List.append_nil _, rfl⟩

/-- The path of a web address, from what it is written as. -/
lemma parsePathAndMarks_serialize (special : isSpecial url.scheme = true) (clean : ∀ s ∈ parts, Clean s)
    (some : parts ≠ []) (follows : Marks marks) :
    ∃ query fragment, parsePathAndMarks url ((Path.segments parts).serialize ++ marks) =
      { url with path := .segments (resolveDots [] parts), query, fragment } := by
  obtain ⟨segment, parts, rfl⟩ := List.exists_cons_of_ne_nil some
  have inside : ∀ c ∈ (Path.segments (segment :: parts)).serialize, (!isMark c) = true := by
    intro c mem
    obtain ⟨part, found, mem⟩ := List.mem_flatMap.mp mem
    rcases List.mem_cons.mp mem with rfl | mem
    · rfl
    · have kept := (clean part found c mem).1
      rw [Bool.not_eq_true', isMark, Bool.or_eq_false_iff]
      constructor
      · refine decide_eq_false ?_
        rintro rfl
        exact absurd kept (by decide)
      · refine decide_eq_false ?_
        rintro rfl
        exact absurd kept (by decide)
  obtain ⟨path, rest⟩ := takeWhile_append_marks inside fun c mem => by simp [follows c mem]
  obtain ⟨query, fragment, is⟩ := parseMarks_eq
  refine ⟨query, fragment, ?_⟩
  rw [parsePathAndMarks, path, rest, special]
  have tail : (Path.segments (segment :: parts)).serialize.tail =
      segment ++ (Path.segments parts).serialize := rfl
  rw [tail, parsePath_serialize clean, if_neg (by simp), is]

lemma visible_of_path {c : Char} (kept : isPathEncoded c = false) : 0x20 < c.toNat := by
  have other : c ≠ ' ' := by
    rintro rfl
    exact absurd kept (by decide)
  have code : c.toNat ≠ 0x20 := fun same => other (Char.ext (UInt32.toNat_inj.mp same))
  simp only [isPathEncoded, isQueryEncoded, isC0Control, Bool.or_eq_false_iff, decide_eq_false_iff_not,
    Nat.not_le] at kept
  have bound := kept.1.1.1.1
  omega

/-- A web address with its scheme and authority. -/
lemma parse_web (web : scheme = "http".toList ∨ scheme = "https".toList)
    (visible : ∀ c ∈ authority ++ marks, 0x20 < c.toNat)
    (bare : ∀ c ∈ authority, isAuthorityEnd true c = false) (nonempty : authority ≠ [])
    (parsed : parseAuthority hosts scheme authority = some url) (clean : ∀ s ∈ parts, Clean s)
    (some_parts : parts ≠ []) (follows : Marks marks) :
    ∃ query fragment,
      parse hosts (scheme ++ "://".toList ++ authority ++ ((Path.segments parts).serialize ++ marks)) =
        some { url with path := .segments (resolveDots [] parts), query, fragment } := by
  have written : ∀ c ∈ (Path.segments parts).serialize ++ marks, 0x20 < c.toNat := by
    intro c mem
    rcases List.mem_append.mp mem with mem | mem
    · obtain ⟨part, found, mem⟩ := List.mem_flatMap.mp mem
      rcases List.mem_cons.mp mem with rfl | mem
      · decide
      · exact visible_of_path (clean part found c mem).1
    · exact visible c (List.mem_append_right _ mem)
  have whole : ∀ c ∈ scheme ++ "://".toList ++ authority ++ ((Path.segments parts).serialize ++ marks),
      0x20 < c.toNat := by
    have start : ∀ c ∈ scheme ++ "://".toList, 0x20 < c.toNat := by
      rcases web with rfl | rfl <;> exact List.all_iff_forall_prop.mp (by decide)
    intro c mem
    rcases List.mem_append.mp mem with mem | mem
    · rcases List.mem_append.mp mem with mem | mem
      · exact start c mem
      · exact visible c (List.mem_append_left _ mem)
    · exact written c mem
  have special : isSpecial scheme = true := by
    rcases web with rfl | rfl <;> decide
  have other : scheme ≠ ['f', 'i', 'l', 'e'] := by
    rcases web with rfl | rfl <;> decide
  have named : parseScheme (scheme ++ "://".toList ++ authority ++
      ((Path.segments parts).serialize ++ marks)) =
        some (scheme, '/' :: '/' :: (authority ++ ((Path.segments parts).serialize ++ marks))) := by
    rcases web with rfl | rfl <;> rfl
  have slashes : ('/' :: '/' :: (authority ++ ((Path.segments parts).serialize ++ marks))).dropWhile
      (isSlash true) = authority ++ ((Path.segments parts).serialize ++ marks) := by
    obtain ⟨c, rest, rfl⟩ := List.exists_cons_of_ne_nil nonempty
    have first := bare c List.mem_cons_self
    rw [isAuthorityEnd, Bool.or_eq_false_iff] at first
    rw [List.dropWhile_cons_of_pos rfl, List.dropWhile_cons_of_pos rfl, List.cons_append,
      List.dropWhile_cons_of_neg (by simp [first.1])]
  have ends : ∀ c ∈ ((Path.segments parts).serialize ++ marks).head?,
      (!isAuthorityEnd true c) = false := by
    obtain ⟨part, others, rfl⟩ := List.exists_cons_of_ne_nil some_parts
    intro c mem
    cases mem
    rfl
  obtain ⟨front, back⟩ := takeWhile_append_marks (fun c mem => by simp [bare c mem]) ends
  obtain ⟨named_url, -⟩ := parseAuthority_eq parsed
  obtain ⟨query, fragment, is⟩ :=
    parsePathAndMarks_serialize (named_url ▸ special) clean some_parts follows
  refine ⟨query, fragment, ?_⟩
  rw [parse, strip_eq_self whole, Option.bind_eq_bind, named, Option.bind_some]
  dsimp only
  rw [if_neg other, if_pos special, slashes, parseAfterSlashes, special, Option.bind_eq_bind, front, parsed,
    Option.bind_some, back, is]

end Web

section Hosts
variable {hosts : HostParsers} {scheme text host rest address : List Char} {port : Option Nat} {url : Url}
  {needed : Bool}

lemma parseHostPort_eq (parsed : parseHostPort hosts scheme needed text = some (host, port)) :
    ∃ hostText digits, parseHost hosts (isSpecial scheme) hostText = some host ∧
      parsePort scheme digits = some port := by
  rw [parseHostPort] at parsed
  dsimp only at parsed
  split at parsed
  · cases parsed
  · obtain ⟨host', read, parsed⟩ := Option.bind_eq_some_iff.mp parsed
    obtain ⟨port', read', parsed⟩ := Option.bind_eq_some_iff.mp parsed
    cases parsed
    exact ⟨_, _, read, read'⟩

/-- The host and the port of an authority. -/
lemma parseAuthority_hostPort (parsed : parseAuthority hosts scheme text = some url) :
    ∃ host hostText digits, url.host = some host ∧
      parseHost hosts (isSpecial scheme) hostText = some host ∧ parsePort scheme digits = some url.port := by
  rw [parseAuthority] at parsed
  split at parsed
  · obtain ⟨⟨host, port⟩, read, is⟩ := Option.bind_eq_some_iff.mp parsed
    cases is
    obtain ⟨hostText, digits, found, found'⟩ := parseHostPort_eq read
    exact ⟨host, hostText, digits, rfl, found, found'⟩
  · obtain ⟨⟨host, port⟩, read, is⟩ := Option.bind_eq_some_iff.mp parsed
    cases is
    obtain ⟨hostText, digits, found, found'⟩ := parseHostPort_eq read
    exact ⟨host, hostText, digits, rfl, found, found'⟩

/-- A host as a special URL has it. -/
inductive HostOf (hosts : HostParsers) : List Char → Prop where
  | domain {host : List Char} :
    hosts.domain host = some host → host ≠ [] →
      (∀ c ∈ host, isForbiddenHost c = false ∧ 0x20 < c.toNat) → HostOf hosts host
  | address {address : List Char} :
    hosts.address address = some address → (∀ c ∈ address, c.isAlphanum ∨ c = ':') →
      HostOf hosts ('[' :: (address ++ [']']))

lemma parseHost_form (lawful : hosts.Lawful) (parsed : parseHost hosts true text = some host) :
    HostOf hosts host := by
  rw [parseHost.eq_def] at parsed
  split at parsed
  · split at parsed
    · obtain ⟨address, read, is⟩ := Option.map_eq_some_iff.mp parsed
      cases is
      obtain ⟨again, chars⟩ := lawful.address read
      exact .address again chars
    · cases parsed
  · obtain ⟨again, nonempty, chars⟩ := lawful.domain parsed
    exact .domain again nonempty chars

lemma splitPort_address (chars : ∀ c ∈ address, c.isAlphanum ∨ c = ':') :
    splitPort true (address ++ ']' :: rest) =
      (address ++ ']' :: (splitPort false rest).1, (splitPort false rest).2) := by
  induction address with
  | nil => rfl
  | cons c address ih =>
    have opening : c ≠ '[' := by
      rintro rfl
      exact absurd (chars _ List.mem_cons_self) (by decide)
    have closing : c ≠ ']' := by
      rintro rfl
      exact absurd (chars _ List.mem_cons_self) (by decide)
    have later := ih fun d mem => chars d (List.mem_cons_of_mem _ mem)
    rw [List.cons_append, splitPort, if_neg (by simp), if_neg opening, if_neg closing]
    dsimp only
    rw [later]
    rfl

lemma splitPort_domain (chars : ∀ c ∈ host, isForbiddenHost c = false) :
    splitPort false (host ++ rest) = (host ++ (splitPort false rest).1, (splitPort false rest).2) := by
  induction host with
  | nil => rfl
  | cons c host ih =>
    have other {d : Char} (forbidden : isForbiddenHost d = true) : c ≠ d := by
      rintro rfl
      cases (chars _ List.mem_cons_self).symm.trans forbidden
    have colon : c ≠ ':' := other (by decide)
    have later := ih fun d mem => chars d (List.mem_cons_of_mem _ mem)
    rw [List.cons_append, splitPort, if_neg (by simp [colon]), if_neg (other (by decide)),
      if_neg (other (by decide))]
    dsimp only
    rw [later]
    rfl

/-- The port is found behind the host. -/
lemma HostOf.splitPort (form : HostOf hosts host) :
    splitPort false (host ++ portText port) = (host, port.map (Nat.toDigits 10)) := by
  have behind : Whatwg.splitPort false (portText port) = ([], port.map (Nat.toDigits 10)) := by
    cases port <;> rfl
  cases form with
  | domain _ _ chars =>
    rw [splitPort_domain fun c mem => (chars c mem).1, behind, List.append_nil]
  | @address address _ chars =>
    have text : '[' :: (address ++ [']']) ++ portText port = '[' :: (address ++ ']' :: portText port) := by
      rw [List.cons_append, List.append_assoc]
      rfl
    rw [text, Whatwg.splitPort, if_neg (by simp), if_pos rfl]
    dsimp only
    rw [splitPort_address chars, behind]

/-- A host is read as itself. -/
lemma HostOf.parseHost (form : HostOf hosts host) : parseHost hosts true host = some host := by
  cases form with
  | domain again _ chars =>
    rw [Whatwg.parseHost.eq_def]
    split
    · exact absurd (chars _ List.mem_cons_self).1 (by decide)
    · exact again
  | @address address again _ =>
    rw [Whatwg.parseHost, if_pos List.getLast?_concat, List.dropLast_concat, again]
    rfl

lemma HostOf.ne_nil (form : HostOf hosts host) : host ≠ [] := by
  cases form with
  | domain _ nonempty _ => exact nonempty
  | address _ _ => exact List.cons_ne_nil _ _

lemma alphanum_or_colon {c : Char} (kind : c.isAlphanum ∨ c = ':') :
    isAuthorityEnd true c = false ∧ 0x20 < c.toNat ∧ c ≠ '@' := by
  have other {d : Char} (no : ¬ (d.isAlphanum ∨ d = ':')) : c ≠ d := by
    rintro rfl
    exact no kind
  have ends : isAuthorityEnd true c = false := by
    simp only [isAuthorityEnd, isSlash, isMark, Bool.or_eq_false_iff, Bool.true_and, decide_eq_false_iff_not]
    exact ⟨⟨other (by decide), other (by decide)⟩, other (by decide), other (by decide)⟩
  refine ⟨ends, ?_, other (by decide)⟩
  rcases kind with letter | rfl
  · simp only [Char.isAlphanum, Char.isAlpha, Char.isUpper, Char.isLower, Char.isDigit, Bool.or_eq_true,
      Bool.and_eq_true, decide_eq_true_eq, ge_iff_le, UInt32.le_iff_toNat_le] at letter
    have bounds : ((65 ≤ c.toNat ∧ c.toNat ≤ 90) ∨ (97 ≤ c.toNat ∧ c.toNat ≤ 122)) ∨
        (48 ≤ c.toNat ∧ c.toNat ≤ 57) := letter
    omega
  · decide

/-- The characters of a host. -/
lemma HostOf.chars (form : HostOf hosts host) :
    ∀ c ∈ host, isAuthorityEnd true c = false ∧ 0x20 < c.toNat ∧ c ≠ '@' := by
  intro c mem
  cases form with
  | domain _ _ chars =>
    obtain ⟨allowed, visible⟩ := chars c mem
    have other {d : Char} (forbidden : isForbiddenHost d = true) : c ≠ d := by
      rintro rfl
      cases allowed.symm.trans forbidden
    have ends : isAuthorityEnd true c = false := by
      simp only [isAuthorityEnd, isSlash, isMark, Bool.or_eq_false_iff, Bool.true_and,
        decide_eq_false_iff_not]
      exact ⟨⟨other (by decide), other (by decide)⟩, other (by decide), other (by decide)⟩
    exact ⟨ends, visible, other (by decide)⟩
  | address _ chars =>
    rcases List.mem_cons.mp mem with rfl | mem
    · decide
    · rcases List.mem_append.mp mem with mem | mem
      · exact alphanum_or_colon (chars c mem)
      · rw [List.mem_singleton.mp mem]
        decide

lemma parsePort_toDigits {digits : List Char} {p : Nat} (parsed : parsePort scheme digits = some (some p)) :
    parsePort scheme (Nat.toDigits 10 p) = some (some p) := by
  have digit : (Nat.toDigits 10 p).all Char.isDigit = true :=
    List.all_eq_true.mpr fun c mem => Nat.isDigit_of_mem_toDigits (by decide) (by decide) mem
  have value : (Nat.toDigits 10 p).foldl (fun n c => 10 * n + (c.toNat - '0'.toNat)) 0 = p :=
    Nat.ofDigitChars_ten_toDigits
  rw [parsePort] at parsed
  split at parsed
  · dsimp only at parsed
    split at parsed
    · cases parsed
    · split at parsed
      · cases parsed
      · rename_i small
        split at parsed
        · cases parsed
        · rename_i other
          have same : digits.foldl (fun n c => 10 * n + (c.toNat - '0'.toNat)) 0 = p :=
            Option.some.inj (Option.some.inj parsed)
          rw [same] at small other
          rw [parsePort, if_pos digit, value, if_neg Nat.toDigits_ne_nil, if_neg small, if_neg other]
  · cases parsed

lemma splitCredentials_none (absent : '@' ∉ text) : splitCredentials text = none := by
  cases found : splitCredentials text with
  | none => rfl
  | some parts =>
    refine absurd ?_ absent
    rw [(splitCredentials_eq found).1]
    exact List.mem_append_right _ List.mem_cons_self

lemma encoded_userinfo {c : Char} (mem : c ∈ percentEncode isUserinfoEncoded text) :
    isUserinfoEncoded c = false := by
  rcases mem_percentEncode mem with ⟨kept, -⟩ | rfl | digit
  · exact kept
  · decide
  · have digits : ∀ d ∈ hexDigits, isUserinfoEncoded d = false :=
      List.all_iff_forall_prop.mp (by decide)
    exact digits c digit

/-- Credentials as a URL has them. -/
def Userinfo (text : List Char) : Prop :=
  ∀ c ∈ text, isUserinfoEncoded c = false

lemma Userinfo.ne {c d : Char} (userinfo : Userinfo text) (encoded : isUserinfoEncoded d = true)
    (mem : c ∈ text) : c ≠ d := by
  rintro rfl
  cases (userinfo c mem).symm.trans encoded

/-- The characters of credentials. -/
lemma Userinfo.chars (userinfo : Userinfo text) :
    ∀ c ∈ text, isAuthorityEnd true c = false ∧ 0x20 < c.toNat := by
  intro c mem
  have other {d : Char} (encoded : isUserinfoEncoded d = true) : c ≠ d := userinfo.ne encoded mem
  have ends : isAuthorityEnd true c = false := by
    simp only [isAuthorityEnd, isSlash, isMark, Bool.or_eq_false_iff, Bool.true_and, decide_eq_false_iff_not]
    exact ⟨⟨other (by decide), other (by decide)⟩, other (by decide), other (by decide)⟩
  have kept := userinfo c mem
  rw [isUserinfoEncoded, Bool.or_eq_false_iff] at kept
  exact ⟨ends, visible_of_path kept.1⟩

/-- The parts of an authority that was read. -/
structure Authority (hosts : HostParsers) (scheme : List Char) (url : Url) : Prop where
  named : url = ⟨scheme, url.username, url.password, url.host, url.port, .segments [], none, none⟩
  username : Userinfo url.username
  password : Userinfo url.password
  host : ∃ host, url.host = some host ∧ HostOf hosts host
  port : parsePort scheme ((url.port.map (Nat.toDigits 10)).getD []) = some url.port

lemma authority_of_parse (lawful : hosts.Lawful) (special : isSpecial scheme = true)
    (parsed : parseAuthority hosts scheme text = some url) : Authority hosts scheme url := by
  obtain ⟨host, hostText, digits, is, found, found'⟩ := parseAuthority_hostPort parsed
  rw [special] at found
  have port : parsePort scheme ((url.port.map (Nat.toDigits 10)).getD []) = some url.port := by
    cases port : url.port with
    | none => rfl
    | some p =>
      rw [port] at found'
      exact parsePort_toDigits found'
  have rest : url = ⟨scheme, url.username, url.password, url.host, url.port, .segments [], none, none⟩ ∧
      Userinfo url.username ∧ Userinfo url.password := by
    rw [parseAuthority] at parsed
    split at parsed
    · obtain ⟨_, -, is⟩ := Option.bind_eq_some_iff.mp parsed
      cases is
      exact ⟨rfl, fun c mem => encoded_userinfo mem, fun c mem => encoded_userinfo mem⟩
    · obtain ⟨_, -, is⟩ := Option.bind_eq_some_iff.mp parsed
      cases is
      exact ⟨rfl, fun c mem => absurd mem List.not_mem_nil, fun c mem => absurd mem List.not_mem_nil⟩
  exact ⟨rest.1, rest.2.1, rest.2.2, ⟨host, is, parseHost_form lawful found⟩, port⟩

/-- An authority as a URL has it. -/
def Url.authority (url : Url) : List Char :=
  url.credentials ++ url.hostAndPort

lemma Authority.hostAndPort (authority : Authority hosts scheme url) :
    ∃ host, url.host = some host ∧ HostOf hosts host ∧ url.hostAndPort = host ++ portText url.port := by
  obtain ⟨host, is, form⟩ := authority.host
  refine ⟨host, is, form, ?_⟩
  rw [Url.hostAndPort, Url.hostname, is]
  rfl

lemma Authority.hostAndPort_chars (authority : Authority hosts scheme url) :
    ∀ c ∈ url.hostAndPort, isAuthorityEnd true c = false ∧ 0x20 < c.toNat ∧ c ≠ '@' := by
  obtain ⟨host, -, form, written⟩ := authority.hostAndPort
  intro c mem
  rw [written] at mem
  rcases List.mem_append.mp mem with mem | mem
  · exact form.chars c mem
  · cases port : url.port with
    | none =>
      rw [port] at mem
      cases mem
    | some p =>
      rw [port] at mem
      rcases List.mem_cons.mp mem with rfl | mem
      · decide
      · have digit := Nat.isDigit_of_mem_toDigits (by decide) (by decide) mem
        exact alphanum_or_colon (.inl (by simp [Char.isAlphanum, digit]))

lemma Authority.credentials_chars (authority : Authority hosts scheme url) :
    ∀ c ∈ url.credentials, isAuthorityEnd true c = false ∧ 0x20 < c.toNat := by
  intro c mem
  rw [Url.credentials] at mem
  split at mem
  · cases mem
  · split at mem
    · rcases List.mem_append.mp mem with mem | mem
      · exact authority.username.chars c mem
      · rw [List.mem_singleton.mp mem]
        decide
    · rcases List.mem_append.mp mem with mem | mem
      · rcases List.mem_append.mp mem with mem | mem
        · exact authority.username.chars c mem
        · rcases List.mem_cons.mp mem with rfl | mem
          · decide
          · exact authority.password.chars c mem
      · rw [List.mem_singleton.mp mem]
        decide

/-- What ends with an `@` is split there. -/
lemma splitCredentials_append {credentials : List Char} (absent : '@' ∉ text) :
    splitCredentials (credentials ++ '@' :: text) = some (credentials, text) := by
  induction credentials with
  | nil =>
    rw [List.nil_append, splitCredentials, splitCredentials_none absent]
    exact if_pos rfl
  | cons c credentials ih =>
    rw [List.cons_append, splitCredentials, ih]

lemma Authority.parseHostPort (authority : Authority hosts scheme url) (special : isSpecial scheme = true)
    (host : List Char) (is : url.host = some host) :
    parseHostPort hosts scheme needed url.hostAndPort = some (host, url.port) := by
  obtain ⟨host', is', form, written⟩ := authority.hostAndPort
  cases is.symm.trans is'
  rw [written, Whatwg.parseHostPort, form.splitPort]
  dsimp only
  rw [if_neg fun none => form.ne_nil none.1, special, form.parseHost, authority.port]
  rfl

/-- An authority is read as it is written. -/
lemma Authority.parse (authority : Authority hosts scheme url) (special : isSpecial scheme = true) :
    parseAuthority hosts scheme url.authority = some url := by
  have absent : '@' ∉ url.hostAndPort := fun mem => (authority.hostAndPort_chars _ mem).2.2 rfl
  obtain ⟨host, is, form⟩ := authority.host
  have encoded {info : List Char} (userinfo : Userinfo info) :
      percentEncode isUserinfoEncoded info = info := percentEncode_eq_self userinfo
  have colon {info : List Char} (userinfo : Userinfo info) : ∀ c ∈ info, decide (c ≠ ':') = true :=
    fun c mem => decide_eq_true (userinfo.ne (by decide) mem)
  have read (credentials : List Char) : parseAuthority hosts scheme (credentials ++ '@' :: url.hostAndPort) =
      some ⟨scheme, (parseCredentials credentials).1, (parseCredentials credentials).2, some host, url.port,
        .segments [], none, none⟩ := by
    rw [parseAuthority, splitCredentials_append absent]
    dsimp only
    rw [authority.parseHostPort special host is]
    rfl
  rw [Url.authority, Url.credentials]
  split
  · rename_i none
    rw [List.nil_append, parseAuthority, splitCredentials_none absent]
    dsimp only
    rw [authority.parseHostPort special host is]
    have whole := authority.named
    rw [none.1, none.2, is] at whole
    exact congrArg some whole.symm
  · split
    · rename_i none
      have whole := authority.named
      have credentials : parseCredentials url.username = (url.username, []) := by
        obtain ⟨front, back⟩ := takeWhile_append_marks (y := []) (colon authority.username) fun c mem => by
          cases mem
        rw [List.append_nil] at front back
        rw [parseCredentials, front, back, encoded authority.username]
        rfl
      rw [List.append_assoc, List.singleton_append, read, credentials]
      rw [none, is] at whole
      exact congrArg some whole.symm
    · have whole := authority.named
      have credentials : parseCredentials (url.username ++ ':' :: url.password) =
          (url.username, url.password) := by
        obtain ⟨front, back⟩ := takeWhile_append_marks (y := ':' :: url.password)
          (colon authority.username) fun c mem => by
            cases mem
            rfl
        rw [parseCredentials, front, back, encoded authority.username]
        exact congrArg _ (encoded authority.password)
      rw [List.append_assoc, List.singleton_append, read, credentials]
      rw [is] at whole
      exact congrArg some whole.symm

end Hosts

section Addresses
variable {hosts : HostParsers} {input text marks scheme rest : List Char} {parts : List (List Char)} {url : Url}

lemma resolveDots_ne_nil {path rest : List (List Char)} (some : rest ≠ []) : resolveDots path rest ≠ [] := by
  induction path, rest using resolveDots.induct with
  | case1 => exact absurd rfl some
  | case2 path last double =>
    rw [resolveDots, if_pos double]
    exact List.append_ne_nil_of_right_ne_nil _ (List.cons_ne_nil _ _)
  | case3 path last double single =>
    rw [resolveDots, if_neg double, if_pos single]
    exact List.append_ne_nil_of_right_ne_nil _ (List.cons_ne_nil _ _)
  | case4 path last double single =>
    rw [resolveDots, if_neg double, if_neg single]
    exact List.append_ne_nil_of_right_ne_nil _ (List.cons_ne_nil _ _)
  | case5 path first rest more double ih =>
    rw [resolveDots, if_pos double]
    · exact ih fun none => more none
    · exact more
  | case6 path first rest more double single ih =>
    rw [resolveDots, if_neg double, if_pos single]
    · exact ih fun none => more none
    · exact more
  | case7 path first rest more double single ih =>
    rw [resolveDots, if_neg double, if_neg single]
    · exact ih fun none => more none
    · exact more

lemma parsePath_ne_nil {special : Bool} : parsePath special text ≠ [] := by
  refine resolveDots_ne_nil fun none => ?_
  exact List.splitOnP_ne_nil _ _ (List.map_eq_nil_iff.mp none)

/-- An encoded text is visible. -/
lemma visible_of_encoded {set : Char → Bool} (control : ∀ c, set c = false → 0x20 < c.toNat) :
    ∀ c ∈ percentEncode set text, 0x20 < c.toNat := by
  intro c mem
  rcases mem_percentEncode mem with ⟨kept, -⟩ | rfl | digit
  · exact control c kept
  · decide
  · have digits : ∀ d ∈ hexDigits, 0x20 < d.toNat :=
      List.all_iff_forall_prop.mp (by decide)
    exact digits c digit

lemma visible_of_not {c : Char} (control : isC0Control c = false) (space : c ≠ ' ') : 0x20 < c.toNat := by
  have code : c.toNat ≠ 0x20 := fun same => space (Char.ext (UInt32.toNat_inj.mp same))
  rw [isC0Control, Bool.or_eq_false_iff, decide_eq_false_iff_not] at control
  omega

lemma visible_parseFragment : ∀ fragment ∈ parseFragment text, ∀ c ∈ fragment, 0x20 < c.toNat := by
  intro fragment is
  unfold parseFragment at is
  split at is
  · cases is
    refine visible_of_encoded fun c kept => ?_
    rw [isFragmentEncoded, Bool.or_eq_false_iff, decide_eq_false_iff_not] at kept
    exact visible_of_not kept.1 fun same => kept.2 (same ▸ List.mem_cons_self)
  · cases is

/-- The query and the fragment of a URL that was read, as they are written. -/
lemma marks_parseMarks (none : url.query = none) :
    Marks (parseMarks url text).marks ∧ ∀ c ∈ (parseMarks url text).marks, 0x20 < c.toNat := by
  have fragments {f : Option (List Char)} (visible : ∀ fragment ∈ f, ∀ c ∈ fragment, 0x20 < c.toNat) :
      Marks (f.elim [] fun fragment => '#' :: fragment) ∧
        ∀ c ∈ f.elim [] fun fragment => '#' :: fragment, 0x20 < c.toNat := by
    cases f with
    | none => exact ⟨nofun, nofun⟩
    | some fragment =>
      refine ⟨fun c mem => ?_, fun c mem => ?_⟩
      · cases mem
        rfl
      · rcases List.mem_cons.mp mem with rfl | mem
        · decide
        · exact visible fragment rfl c mem
  unfold parseMarks
  split
  · refine ⟨fun c mem => ?_, fun c mem => ?_⟩
    · cases mem
      rfl
    · rcases List.mem_append.mp mem with mem | mem
      · rcases List.mem_cons.mp mem with rfl | mem
        · decide
        · refine visible_of_encoded (fun c kept => ?_) c mem
          rw [isQueryEncoded, Bool.or_eq_false_iff, Bool.or_eq_false_iff, decide_eq_false_iff_not] at kept
          exact visible_of_not kept.1.1 fun same => kept.1.2 (same ▸ List.mem_cons_self)
      · exact (fragments visible_parseFragment).2 c mem
  · rw [Url.marks, none]
    exact fragments visible_parseFragment

/-- A web address that was read. -/
structure WebAddress (hosts : HostParsers) (url : Url) (parts : List (List Char)) : Prop where
  special : isSpecial url.scheme = true
  authority : ∃ authority, Authority hosts url.scheme authority ∧
    url = { authority with path := .segments parts, query := url.query, fragment := url.fragment }
  nonempty : parts ≠ []
  parts : ∀ segment ∈ parts, Clean segment ∧ isPlain segment = true
  marks : Marks url.marks ∧ ∀ c ∈ url.marks, 0x20 < c.toNat

lemma Authority.webAddress {authority : Url} {path : List Char} (read : Authority hosts scheme authority)
    (special : isSpecial scheme = true) :
    WebAddress hosts (parseMarks { authority with path := .segments (parsePath true path) } marks)
      (parsePath true path) := by
  have named : authority.scheme = scheme := congrArg Url.scheme read.named
  have query : authority.query = none := congrArg Url.query read.named
  obtain ⟨query', fragment, same⟩ :=
    @parseMarks_eq { authority with path := .segments (parsePath true path) } marks
  have marked : Marks (parseMarks { authority with path := .segments (parsePath true path) } marks).marks ∧
      ∀ c ∈ (parseMarks { authority with path := .segments (parsePath true path) } marks).marks,
        0x20 < c.toNat := marks_parseMarks query
  rw [same] at marked ⊢
  refine ⟨named ▸ special, ⟨authority, named ▸ read, rfl⟩, parsePath_ne_nil, ?_, marked⟩
  exact fun segment mem => mem_parsePath mem

lemma webAddress_of_parse (lawful : hosts.Lawful) (parsed : parse hosts input = some url)
    (special : isSpecial url.scheme = true) : ∃ parts, WebAddress hosts url parts := by
  obtain ⟨⟨scheme, rest⟩, -, parsed⟩ := Option.bind_eq_some_iff.mp parsed
  have slashes {text : List Char} (web : isSpecial scheme = true)
      (parsed : parseAfterSlashes hosts scheme text = some url) : ∃ parts, WebAddress hosts url parts := by
    obtain ⟨authority, found, is⟩ := Option.bind_eq_some_iff.mp parsed
    have read := authority_of_parse lawful web found
    have named : authority.scheme = scheme := congrArg Url.scheme read.named
    have web' : isSpecial authority.scheme = true := named ▸ web
    cases is
    rw [parsePathAndMarks, web', if_neg (by simp)]
    exact ⟨_, read.webAddress web⟩
  dsimp only at parsed
  split at parsed
  · cases parsed
  · split at parsed
    · rename_i web
      exact slashes web parsed
    · rename_i other
      split at parsed
      · rw [(parseAfterSlashes_eq parsed).1] at special
        exact absurd special other
      · rename_i after _
        obtain ⟨path, query, fragment, same⟩ := @parsePathAndMarks_eq { scheme } ('/' :: after)
        rw [same] at parsed
        cases parsed
        exact absurd special other
      · cases parsed
        rw [parseTextAndMarks_scheme] at special
        exact absurd special other

/-- What a web address is written as. -/
lemma WebAddress.href (address : WebAddress hosts url parts) :
    url.href = url.scheme ++ "://".toList ++ url.authority ++
      ((Path.segments parts).serialize ++ url.marks) := by
  obtain ⟨authority, read, whole⟩ := address.authority
  obtain ⟨host, is, -⟩ := read.hostAndPort
  have host_is : url.host = some host := by
    rw [whole]
    exact is
  have path_is : url.path = .segments parts := by
    rw [whole]
  have text : "://".toList = ':' :: '/' :: '/' :: [] := rfl
  rw [Url.href, host_is]
  dsimp only
  rw [Url.pathname, path_is, Url.protocol, Url.authority, text]
  simp only [List.append_assoc, List.cons_append, List.nil_append]

/-- A web address is read as it is written, with more segments behind its path. -/
lemma WebAddress.parse (address : WebAddress hosts url parts)
    (web : url.scheme = "http".toList ∨ url.scheme = "https".toList) (marks : List Char)
    {parts' : List (List Char)} (clean : ∀ s ∈ parts', Clean s) (some_parts : parts' ≠ []) (follows : Marks marks)
    (visible : ∀ c ∈ marks, 0x20 < c.toNat) :
    ∃ query fragment,
      parse hosts (url.scheme ++ "://".toList ++ url.authority ++ ((Path.segments parts').serialize ++ marks)) =
        some { url with path := .segments (resolveDots [] parts'), query, fragment } := by
  obtain ⟨authority, read, whole⟩ := address.authority
  have same : url.authority = authority.authority := by
    rw [whole]
    rfl
  have chars : ∀ c ∈ authority.authority, isAuthorityEnd true c = false ∧ 0x20 < c.toNat := by
    intro c mem
    rcases List.mem_append.mp mem with mem | mem
    · exact read.credentials_chars c mem
    · exact ⟨(read.hostAndPort_chars c mem).1, (read.hostAndPort_chars c mem).2.1⟩
  have nonempty : authority.authority ≠ [] := by
    obtain ⟨host, -, form, written⟩ := read.hostAndPort
    rw [Url.authority, written]
    exact List.append_ne_nil_of_right_ne_nil _ (List.append_ne_nil_of_left_ne_nil form.ne_nil _)
  have all_visible : ∀ c ∈ authority.authority ++ marks, 0x20 < c.toNat := fun c mem =>
    (List.mem_append.mp mem).elim (fun mem => (chars c mem).2) (visible c)
  obtain ⟨query, fragment, is⟩ := parse_web web all_visible (fun c mem => (chars c mem).1) nonempty
    (read.parse address.special) clean some_parts follows
  refine ⟨query, fragment, ?_⟩
  rw [same, is]
  conv_rhs => rw [whole]

end Addresses

section Schemes
variable {hosts : HostParsers} {input scheme rest : List Char} {url : Url} {c : Char}

lemma isSchemeCharacter_toLower (kept : isSchemeCharacter c = true) : isSchemeCharacter c.toLower = true := by
  rcases toLower_cases (c := c) with same | letter
  · rw [same]
    exact kept
  · have alpha : c.toLower.isAlphanum = true := by
      simp only [Char.isAlphanum, Char.isAlpha, Char.isLower, Bool.or_eq_true, Bool.and_eq_true,
        decide_eq_true_eq, ge_iff_le, UInt32.le_iff_toNat_le]
      exact .inl (.inr letter)
    rw [isSchemeCharacter, alpha]
    rfl

/-- The scheme of a URL is in lower case. -/
def SchemeText (scheme : List Char) : Prop :=
  scheme.map Char.toLower = scheme ∧ ∀ c ∈ scheme, isSchemeCharacter c = true

lemma parseScheme_text (parsed : parseScheme input = some (scheme, rest)) : SchemeText scheme := by
  rw [parseScheme] at parsed
  split at parsed
  · split at parsed
    · cases parsed
      refine ⟨?_, fun c mem => ?_⟩
      · rw [List.map_map]
        exact List.map_congr_left fun c _ => toLower_toLower
      · obtain ⟨d, inside, rfl⟩ := List.mem_map.mp mem
        exact isSchemeCharacter_toLower (List.mem_takeWhile_imp inside)
    · cases parsed
  · cases parsed

/-- The scheme of a URL is the one that was read. -/
lemma parse_scheme (parsed : parse hosts input = some url) :
    ∃ rest, parseScheme (strip input) = some (url.scheme, rest) := by
  obtain ⟨⟨scheme, rest⟩, found, parsed⟩ := Option.bind_eq_some_iff.mp parsed
  dsimp only at parsed
  split at parsed
  · cases parsed
  · split at parsed
    · rw [(parseAfterSlashes_eq parsed).1]
      exact ⟨rest, found⟩
    · split at parsed
      · rw [(parseAfterSlashes_eq parsed).1]
        exact ⟨_, found⟩
      · rename_i after _
        obtain ⟨path, query, fragment, same⟩ := @parsePathAndMarks_eq { scheme } ('/' :: after)
        rw [same] at parsed
        cases parsed
        exact ⟨_, found⟩
      · cases parsed
        rw [parseTextAndMarks_scheme]
        exact ⟨_, found⟩

lemma rdropWhile_append_cons {p : Char → Bool} {x y : List Char} (kept : p c = false) :
    (x ++ c :: y).rdropWhile p = x ++ c :: y.rdropWhile p := by
  induction y using List.reverseRecOn with
  | nil => rw [List.rdropWhile_nil, List.rdropWhile_concat_neg _ _ _ (by simp [kept])]
  | append_singleton y b ih =>
    have whole : x ++ c :: (y ++ [b]) = (x ++ c :: y) ++ [b] := by
      rw [List.append_assoc, List.cons_append]
    rw [whole]
    cases dropped : p b with
    | true => rw [List.rdropWhile_concat_pos _ _ _ dropped, ih, List.rdropWhile_concat_pos _ _ _ dropped]
    | false =>
      rw [List.rdropWhile_concat_neg _ _ _ (by simp [dropped]),
        List.rdropWhile_concat_neg _ _ _ (by simp [dropped]), whole]

lemma visible_scheme (kept : isSchemeCharacter c = true) : 0x20 < c.toNat := by
  simp only [isSchemeCharacter, Bool.or_eq_true, decide_eq_true_eq] at kept
  rcases kept with ((letter | rfl) | rfl) | rfl
  · exact (alphanum_or_colon (.inl letter)).2.1
  · decide
  · decide
  · decide

/-- A text that starts with a scheme has that scheme. -/
lemma scheme_of_written (text : SchemeText scheme) (parsed : parse hosts (scheme ++ ':' :: rest) = some url) :
    url.scheme = scheme := by
  obtain ⟨after, found⟩ := parse_scheme parsed
  have control {c : Char} (visible : 0x20 < c.toNat) : isC0ControlOrSpace c = false :=
    decide_eq_false (Nat.not_le.mpr visible)
  have start : (scheme ++ ':' :: rest).dropWhile isC0ControlOrSpace = scheme ++ ':' :: rest := by
    cases scheme with
    | nil => rfl
    | cons c scheme =>
      rw [List.cons_append, List.dropWhile_cons_of_neg]
      rw [control (visible_scheme (text.2 c List.mem_cons_self))]
      exact Bool.false_ne_true
  have same : scheme.filter (fun c => !isTabOrNewline c) = scheme := by
    exact List.filter_eq_self.mpr fun c mem => kept_of_visible (visible_scheme (text.2 c mem))
  have stripped : ∃ rest', strip (scheme ++ ':' :: rest) = scheme ++ ':' :: rest' := by
    refine ⟨(rest.rdropWhile isC0ControlOrSpace).filter fun c => !isTabOrNewline c, ?_⟩
    rw [strip, trimEnds, start, rdropWhile_append_cons (by decide), List.filter_append, same]
    rfl
  obtain ⟨rest', stripped⟩ := stripped
  obtain ⟨front, back⟩ := takeWhile_append_marks (y := ':' :: rest') text.2 fun c mem => by
    cases mem
    decide
  have read : parseScheme (scheme ++ ':' :: rest') =
      if (scheme ++ ':' :: rest').head?.any Char.isAlpha then
        some (((scheme ++ ':' :: rest').takeWhile isSchemeCharacter).map Char.toLower, rest')
      else none := by
    rw [parseScheme, back]
    rfl
  rw [stripped, read] at found
  split at found
  · rw [front, text.1] at found
    cases found
    rfl
  · cases found

lemma asciiHosts_lawful : asciiHosts.Lawful where
  domain := by
    intro text host read
    simp only [asciiHosts] at read
    split at read
    · rename_i named
      cases read
      rw [Bool.and_eq_true, List.all_eq_true] at named
      obtain ⟨chars, last⟩ := named
      have kept {c : Char} (mem : c ∈ text.map Char.toLower) :
          (c.isAlphanum || c = '.' || c = '-') = true := by
        obtain ⟨d, inside, rfl⟩ := List.mem_map.mp mem
        rcases toLower_cases (c := d) with same | letter
        · rw [same]
          exact chars d inside
        · have alpha : d.toLower.isAlphanum = true := by
            simp only [Char.isAlphanum, Char.isAlpha, Char.isLower, Bool.or_eq_true, Bool.and_eq_true,
              decide_eq_true_eq, ge_iff_le, UInt32.le_iff_toNat_le]
            exact .inl (.inr letter)
          rw [alpha]
          rfl
      have ends : (text.map Char.toLower).getLast?.any Char.isAlpha = true := by
        rw [List.getLast?_map]
        cases found : text.getLast? with
        | none =>
          rw [found] at last
          cases last
        | some c =>
          rw [found] at last
          rcases toLower_cases (c := c) with same | letter
          · rw [Option.map_some, same]
            exact last
          · simp only [Option.map_some, Option.any_some, Char.isAlpha, Char.isLower, Bool.or_eq_true,
              Bool.and_eq_true, decide_eq_true_eq, ge_iff_le, UInt32.le_iff_toNat_le]
            exact .inr letter
      have again : (text.map Char.toLower).map Char.toLower = text.map Char.toLower := by
        rw [List.map_map]
        exact List.map_congr_left fun c _ => toLower_toLower
      refine ⟨?_, ?_, fun c mem => ?_⟩
      · simp only [asciiHosts]
        rw [ends, Bool.and_true, List.all_eq_true.mpr fun c mem => kept mem, if_pos rfl, again]
      · intro none
        rw [none] at ends
        cases ends
      · have kind := kept mem
        simp only [Bool.or_eq_true, decide_eq_true_eq] at kind
        rcases kind with (letter | rfl) | rfl
        · have other {d : Char} (no : d.isAlphanum = false) : c ≠ d := by
            rintro rfl
            cases letter.symm.trans no
          have visible := (alphanum_or_colon (.inl letter)).2.1
          refine ⟨?_, visible⟩
          simp only [isForbiddenHost, Bool.or_eq_false_iff, decide_eq_false_iff_not, List.mem_cons,
            List.not_mem_nil, or_false, not_or]
          refine ⟨by omega, ?_⟩
          refine ⟨other ?_, other ?_, other ?_, other ?_, other ?_, other ?_, other ?_, other ?_, other ?_,
            other ?_, other ?_, other ?_, other ?_, other ?_, other ?_, other ?_⟩ <;> decide
        · decide
        · decide
    · cases read
  address := by
    intro text host read
    cases read

end Schemes

end Whatwg
