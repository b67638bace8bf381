import AtomsPlatform.Lib.Splitting
import AtomsPlatform.Run.RouteCoverage
import Mathlib.Data.Bool.AllAny

/-!
# Routes and the files that serve them

What it means that a file serves a planned route, said without the normal forms that the code compares, and
that `findMissingRoutes` reports the routes that no file serves.
-/

namespace AtomsPlatform.Run.Coverage

section Segments

/-- A segment without a meaning of its own. -/
structure Plain (segment : Chars) : Prop where
  nonempty : segment ≠ []
  characters : ∀ c ∈ segment, c ∉ "/?#[]\x7b\x7d:()@".toList
  start : segment.head? ≠ some '_'
  page : segment ≠ "index".toList

/-- The name between the marks of a dynamic segment. -/
def Named (closing : Char) (name : Chars) : Prop :=
  name ≠ [] ∧ ∀ c ∈ name, c ∉ [closing, '/', '?', '#']

/-- A dynamic segment for one part of a path: `[a]`, `:a` or `{a}`. -/
inductive Single : Chars → Prop where
  | bracket {name} :
    Named ']' name →
    (∀ rest, rest ≠ [] → name ≠ ['.', '.', '.'] ++ rest) →
    Single (['['] ++ name ++ [']'])
  | colon {name} :
    name ≠ [] →
    (∀ c ∈ name, isWordChar c = true) →
    Single ([':'] ++ name)
  | brace {name} :
    Named '\x7d' name →
    Single (['\x7b'] ++ name ++ ['\x7d'])

/-- A dynamic segment for the rest of a path: `[...a]`. -/
inductive CatchAll : Chars → Prop where
  | rest {name} :
    Named ']' name →
    CatchAll (['[', '.', '.', '.'] ++ name ++ [']'])

/-- Segments that are equal up to the names of dynamic ones. -/
inductive SameSegment : Chars → Chars → Prop where
  | plain {s} :
    Plain s →
    SameSegment s s
  | single {s t} :
    Single s →
    Single t →
    SameSegment s t
  | catchAll {s t} :
    CatchAll s →
    CatchAll t →
    SameSegment s t

/-- A route group `(a)` or a slot `@a`: a directory that is no part of the path. -/
inductive Silent : Chars → Prop where
  | group {name} :
    (∀ c ∈ name, c ≠ '/' ∧ c ≠ '\n' ∧ c ≠ '\r' ∧ c.toNat ≠ 0x2028 ∧ c.toNat ≠ 0x2029) →
    Silent (['('] ++ name ++ [')'])
  | slot {name} :
    '/' ∉ name →
    Silent (['@'] ++ name)

/-- Directories, and the same ones with route groups and slots inserted. -/
inductive Inserted : List Chars → List Chars → Prop where
  | nil :
    Inserted [] []
  | keep {s directories all} :
    Inserted directories all →
    Inserted (s :: directories) (s :: all)
  | insert {s directories all} :
    Silent s →
    Inserted directories all →
    Inserted directories (s :: all)

/-- The segments of a planned path. -/
def parts (path : Chars) : List Chars :=
  (path.splitOn '/').filter fun segment => !segment.isEmpty

/-- A file serves a path: `src/?app/<path>/page|route.<ext>` up to route groups and slots, or
`src/?pages/<path>(/index)?.<ext>`, and in both up to the names of dynamic segments. -/
inductive Serves : Chars → Chars → Prop where
  | app {root directories all page extension path} :
    root ∈ ["".toList, "src/".toList] →
    List.Forall₂ SameSegment directories (parts path) →
    Inserted directories all →
    page ∈ ["page".toList, "route".toList] →
    extension ∈ sourceExtensions →
    Serves (root ++ joinSegments ("app".toList :: all ++ [page ++ extension.toList])) path
  | index {root directories extension path} :
    root ∈ ["".toList, "src/".toList] →
    List.Forall₂ SameSegment directories (parts path) →
    extension ∈ sourceExtensions →
    Serves (root ++ joinSegments ("pages".toList :: directories ++ ["index".toList ++ extension.toList])) path
  | page {root directories last extension path} :
    root ∈ ["".toList, "src/".toList] →
    List.Forall₂ SameSegment (directories ++ [last]) (parts path) →
    extension ∈ sourceExtensions →
    Serves (root ++ joinSegments ("pages".toList :: directories ++ [last ++ extension.toList])) path

end Segments

section Normal
variable {opening closing : String} {front back : Chars} {inner : Char → Bool} {segment name s t : Chars}
  {segments : List Chars}

/-- What the patterns of dynamic segments match. -/
lemma encloses_iff (opens : opening.toList = front) (closes : closing.toList = back) :
    encloses opening closing inner segment = true ↔
      ∃ name, segment = front ++ name ++ back ∧ name ≠ [] ∧ ∀ c ∈ name, inner c = true := by
  have first : opening.length = front.length := by rw [← opens]; rfl
  have last : closing.length = back.length := by rw [← closes]; rfl
  simp only [encloses, first, last, opens, closes, Bool.and_eq_true, List.isPrefixOf_iff_prefix,
    List.isSuffixOf_iff_suffix, Bool.not_eq_true', List.isEmpty_eq_false_iff, List.all_eq_true]
  -- What is between the two marks, when the segment begins and ends with them.
  have between (name : Chars) : ((front ++ name ++ back).drop front.length).take
      ((front ++ name ++ back).length - front.length - back.length) = name := by
    rw [List.append_assoc, List.drop_left, List.take_left']
    rw [List.length_append, List.length_append]
    omega
  constructor
  · intro ⟨⟨⟨⟨rest, begins⟩, ends⟩, middle⟩, inside⟩
    subst begins
    have long : back.length ≤ rest.length := by
      by_contra short
      refine middle (List.take_eq_nil_iff.mpr (.inl ?_))
      rw [List.length_append]
      omega
    obtain ⟨name, rfl⟩ := List.suffix_of_suffix_length_le ends (List.suffix_append front rest) long
    rw [← List.append_assoc, between] at middle inside
    exact ⟨name, (List.append_assoc ..).symm, middle, inside⟩
  · intro ⟨name, is, nonempty, inside⟩
    subst is
    rw [between]
    refine ⟨⟨⟨?_, List.suffix_append _ _⟩, nonempty⟩, inside⟩
    rw [List.append_assoc]
    exact List.prefix_append _ _

lemma opens_optional : "[[...".toList = ['[', '[', '.', '.', '.'] := rfl
lemma opens_catchAll : "[...".toList = ['[', '.', '.', '.'] := rfl
lemma opens_bracket : "[".toList = ['['] := rfl
lemma closes_bracket : "]".toList = [']'] := rfl
lemma closes_brackets : "]]".toList = [']', ']'] := rfl

/-- A segment that does not begin with a bracket matches none of the patterns with brackets. -/
lemma normalizeSegment_of_head {c : Char} (other : c ≠ '[') : normalizeSegment (c :: segment) =
    if encloses ":" "" isWordChar (c :: segment) || encloses "\x7b" "\x7d" (· ≠ '\x7d') (c :: segment) then
      "[]".toList
    else c :: segment := by
  have unmatched {opening closing : String} {rest : Chars} (opens : opening.toList = '[' :: rest) :
      ¬ encloses opening closing (· ≠ ']') (c :: segment) = true := by
    intro matched
    obtain ⟨name, is, -⟩ := (encloses_iff opens rfl).mp matched
    exact other (List.cons.inj is).1
  rw [normalizeSegment, if_neg (unmatched opens_optional), if_neg (unmatched opens_catchAll),
    if_neg (unmatched opens_bracket)]

lemma Named.closed {c : Char} (named : Named c name) : ∀ d ∈ name, decide (d ≠ c) = true := by
  intro d mem
  refine decide_eq_true fun is => named.2 d mem ?_
  rw [is]
  exact List.mem_cons_self

lemma normalizeSegment_single (single : Single s) : normalizeSegment s = "[]".toList := by
  cases single with
  | @bracket name named other =>
    have one : encloses "[" "]" (· ≠ ']') (['['] ++ name ++ [']']) = true :=
      (encloses_iff opens_bracket closes_bracket).mpr ⟨name, rfl, named.1, named.closed⟩
    have two : ¬ encloses "[[..." "]]" (· ≠ ']') (['['] ++ name ++ [']']) = true := by
      intro matched
      obtain ⟨inside, is, -⟩ := (encloses_iff opens_optional closes_brackets).mp matched
      have same : name ++ [']'] = (['[', '.', '.', '.'] ++ inside ++ [']']) ++ [']'] := by
        rw [List.append_assoc _ [']'] [']']]
        exact (List.cons.inj is).2
      have closed := named.closed ']'
      rw [List.append_cancel_right same] at closed
      exact absurd (closed (List.mem_append_right _ List.mem_cons_self)) (by decide)
    have three : ¬ encloses "[..." "]" (· ≠ ']') (['['] ++ name ++ [']']) = true := by
      intro matched
      obtain ⟨inside, is, some, -⟩ := (encloses_iff opens_catchAll closes_bracket).mp matched
      have same : name ++ [']'] = (['.', '.', '.'] ++ inside) ++ [']'] := (List.cons.inj is).2
      exact other inside some (List.append_cancel_right same)
    rw [normalizeSegment, if_neg two, if_neg three, if_pos one]
  | @colon name some word =>
    have matched : encloses ":" "" isWordChar (':' :: name) = true :=
      (encloses_iff (show ":".toList = [':'] from rfl) (show "".toList = [] from rfl)).mpr
        ⟨name, (List.append_nil _).symm, some, word⟩
    rw [List.singleton_append, normalizeSegment_of_head (by decide), matched]
    rfl
  | @brace name named =>
    have matched : encloses "\x7b" "\x7d" (· ≠ '\x7d') ('\x7b' :: (name ++ ['\x7d'])) = true :=
      (encloses_iff (show "\x7b".toList = ['\x7b'] from rfl) (show "\x7d".toList = ['\x7d'] from rfl)).mpr
        ⟨name, rfl, named.1, named.closed⟩
    rw [List.append_assoc, List.singleton_append, normalizeSegment_of_head (by decide), matched, Bool.or_true]
    rfl

lemma normalizeSegment_catchAll (rest : CatchAll s) : normalizeSegment s = "[...]".toList := by
  cases rest with
  | @rest name named =>
    have two : ¬ encloses "[[..." "]]" (· ≠ ']') (['[', '.', '.', '.'] ++ name ++ [']']) = true := by
      intro matched
      obtain ⟨inside, is, -⟩ := (encloses_iff opens_optional closes_brackets).mp matched
      exact absurd (List.cons.inj (List.cons.inj is).2).1 (by decide)
    have three : encloses "[..." "]" (· ≠ ']') (['[', '.', '.', '.'] ++ name ++ [']']) = true :=
      (encloses_iff opens_catchAll closes_bracket).mpr ⟨name, rfl, named.1, named.closed⟩
    rw [normalizeSegment, if_neg two, if_pos three]

/-- The normal forms of segments meet if the segments are equal up to the names of dynamic ones. -/
lemma normalizeSegment_same (same : SameSegment s t) : normalizeSegment s = normalizeSegment t := by
  cases same with
  | plain => rfl
  | single left right => rw [normalizeSegment_single left, normalizeSegment_single right]
  | catchAll left right => rw [normalizeSegment_catchAll left, normalizeSegment_catchAll right]

/-- A segment that neither the split at slashes nor the cut of a query nor the filter of a file's directories
changes. -/
structure Clean (segment : Chars) : Prop where
  nonempty : segment ≠ []
  characters : ∀ c ∈ segment, c ≠ '/' ∧ c ≠ '?' ∧ c ≠ '#'
  starts : ∀ c ∈ segment.head?, c ≠ '(' ∧ c ≠ '@' ∧ c ≠ '_'
  page : segment ≠ "index".toList

lemma Plain.clean (plain : Plain s) : Clean s := by
  have marks : ∀ c ∈ s, ∀ d ∈ "/?#[]\x7b\x7d:()@".toList, c ≠ d := by
    intro c mem d mark is
    rw [← is] at mark
    exact plain.characters c mem mark
  refine ⟨plain.nonempty, fun c mem => ?_, fun c head => ?_, plain.page⟩
  · exact ⟨marks c mem '/' (by decide), marks c mem '?' (by decide), marks c mem '#' (by decide)⟩
  · have mem := List.mem_of_mem_head? head
    refine ⟨marks c mem '(' (by decide), marks c mem '@' (by decide), fun is => plain.start ?_⟩
    rw [Option.mem_def.mp head, is]

lemma Named.characters {d : Char} (named : Named d name) : ∀ c ∈ name, c ≠ '/' ∧ c ≠ '?' ∧ c ≠ '#' := by
  intro c mem
  have others := named.2 c mem
  refine ⟨?_, ?_, ?_⟩
  · rintro rfl
    simp at others
  · rintro rfl
    simp at others
  · rintro rfl
    simp at others

/-- A dynamic segment begins with a mark of its own. -/
lemma clean_of_mark {c : Char} (mark : c ∈ ['[', ':', '\x7b'])
    (characters : ∀ d ∈ name, d ≠ '/' ∧ d ≠ '?' ∧ d ≠ '#') : Clean (c :: name) := by
  have other : (c ≠ '/' ∧ c ≠ '?' ∧ c ≠ '#') ∧ (c ≠ '(' ∧ c ≠ '@' ∧ c ≠ '_') ∧ c ≠ 'i' := by
    simp only [List.mem_cons, List.not_mem_nil, or_false] at mark
    rcases mark with rfl | rfl | rfl
    · decide
    · decide
    · decide
  refine ⟨List.cons_ne_nil _ _, List.forall_mem_cons.mpr ⟨other.1, characters⟩, ?_, ?_⟩
  · intro d head
    rw [← Option.some.inj (Option.mem_def.mp head)]
    exact other.2.1
  · intro is
    exact other.2.2 (List.cons.inj (is.trans (show "index".toList = ['i', 'n', 'd', 'e', 'x'] from rfl))).1

/-- A named segment between its marks. -/
lemma Named.clean {d e : Char} {marks : Chars} (named : Named e name) (mark : d ∈ ['[', ':', '\x7b'])
    (others : ∀ c ∈ marks ++ [e], c ≠ '/' ∧ c ≠ '?' ∧ c ≠ '#') : Clean (d :: (marks ++ name ++ [e])) := by
  refine clean_of_mark mark fun c mem => ?_
  rw [List.append_assoc, List.mem_append, List.mem_append] at mem
  rcases mem with front | inside | back
  · exact others c (List.mem_append_left _ front)
  · exact named.characters c inside
  · exact others c (List.mem_append_right _ back)

lemma Single.clean (single : Single s) : Clean s := by
  cases single with
  | @bracket name named _ =>
    have clean : Clean ('[' :: ([] ++ name ++ [']'])) := named.clean (by decide) (by simp)
    exact clean
  | @colon name nonempty word =>
    refine clean_of_mark (by decide) fun c mem => ?_
    have inside := word c mem
    refine ⟨?_, ?_, ?_⟩
    · rintro rfl
      exact absurd inside (by decide)
    · rintro rfl
      exact absurd inside (by decide)
    · rintro rfl
      exact absurd inside (by decide)
  | @brace name named =>
    have clean : Clean ('\x7b' :: ([] ++ name ++ ['\x7d'])) := named.clean (by decide) (by simp)
    exact clean

lemma CatchAll.clean (rest : CatchAll s) : Clean s := by
  cases rest with
  | @rest name named =>
    have clean : Clean ('[' :: (['.', '.', '.'] ++ name ++ [']'])) := named.clean (by decide) (by simp)
    exact clean

lemma SameSegment.clean (same : SameSegment s t) : Clean s ∧ Clean t := by
  cases same with
  | plain plain => exact ⟨plain.clean, plain.clean⟩
  | single left right => exact ⟨left.clean, right.clean⟩
  | catchAll left right => exact ⟨left.clean, right.clean⟩

/-- The segments of a path whose segments are clean are what its normal form is made of. -/
lemma normalizeRoutePath_eq {path : Chars} (clean : ∀ s ∈ parts path, Clean s) :
    normalizeRoutePath path = '/' :: joinSegments ((parts path).map normalizeSegment) := by
  have marks : ∀ c ∈ path, c ≠ '?' ∧ c ≠ '#' := by
    have whole : ['/'].intercalate (path.splitOn '/') = path := List.intercalate_splitOn '/'
    rw [← whole]
    refine Splitting.forall_intercalate (by decide) fun s mem c inside => ?_
    have kept : s ∈ parts path := by
      refine List.mem_filter.mpr ⟨mem, ?_⟩
      rw [Bool.not_eq_true', List.isEmpty_eq_false_iff]
      exact List.ne_nil_of_mem inside
    exact ((clean s kept).characters c inside).2
  have whole : (path.takeWhile fun c => c ≠ '?' ∧ c ≠ '#') = path :=
    List.takeWhile_eq_self_iff.mpr fun c mem => decide_eq_true (marks c mem)
  rw [normalizeRoutePath, whole]
  rfl

/-- Clean segments are found again in the path that they make. -/
lemma parts_joinSegments (clean : ∀ s ∈ segments, Clean s) : parts (joinSegments segments) = segments := by
  cases segments with
  | nil => rfl
  | cons first rest =>
    have split : (joinSegments (first :: rest)).splitOn '/' = first :: rest := by
      refine List.splitOn_intercalate '/' (fun s mem slash => ?_) (List.cons_ne_nil _ _)
      exact ((clean s mem).characters '/' slash).1 rfl
    rw [parts, split, List.filter_eq_self]
    intro s mem
    rw [Bool.not_eq_true', List.isEmpty_eq_false_iff]
    exact (clean s mem).nonempty

lemma SameSegment.forall₂ {segments' : List Chars} (same : List.Forall₂ SameSegment segments segments') :
    (∀ s ∈ segments, Clean s) ∧ (∀ s ∈ segments', Clean s) ∧
      segments.map normalizeSegment = segments'.map normalizeSegment := by
  induction same with
  | nil => exact ⟨fun s mem => absurd mem List.not_mem_nil, fun s mem => absurd mem List.not_mem_nil, rfl⟩
  | cons first _ ih =>
    obtain ⟨clean, clean', forms⟩ := ih
    refine ⟨List.forall_mem_cons.mpr ⟨first.clean.1, clean⟩,
      List.forall_mem_cons.mpr ⟨first.clean.2, clean'⟩, ?_⟩
    rw [List.map_cons, List.map_cons, normalizeSegment_same first, forms]

/-- The normal form of directories that are equal to a path up to names is that of the path. -/
lemma normalizeRoutePath_same {path : Chars} (same : List.Forall₂ SameSegment segments (parts path)) :
    normalizeRoutePath (joinSegments segments) = normalizeRoutePath path := by
  obtain ⟨clean, clean', forms⟩ := SameSegment.forall₂ same
  have again := parts_joinSegments clean
  rw [normalizeRoutePath_eq clean', normalizeRoutePath_eq (again.symm ▸ clean), again, forms]

end Normal

section Files
variable {root base extension : Chars} {segment : Chars} {directories all segments : List Chars}

/-- A file name has at most one source extension. -/
lemma extension_unique : ∀ e ∈ sourceExtensions, ∀ e' ∈ sourceExtensions, e.toList <:+ e'.toList → e = e' := by
  decide

lemma sourceBase_append {extension : String} (known : extension ∈ sourceExtensions) :
    sourceBase? (base ++ extension.toList) = some base := by
  have here : extension.toList.isSuffixOf (base ++ extension.toList) = true :=
    List.isSuffixOf_iff_suffix.mpr (List.suffix_append _ _)
  have found : (sourceExtensions.find? fun e => e.toList.isSuffixOf (base ++ extension.toList)) =
      some extension := by
    cases is : sourceExtensions.find? fun e => e.toList.isSuffixOf (base ++ extension.toList) with
    | none => exact absurd here (by simpa using List.find?_eq_none.mp is extension known)
    | some e =>
      have ends : e.toList <:+ base ++ extension.toList := by simpa using List.find?_some is
      have mem := List.mem_of_find?_eq_some is
      rcases List.suffix_or_suffix_of_suffix ends (List.suffix_append base extension.toList) with one | other
      · rw [extension_unique e mem extension known one]
      · rw [extension_unique extension known e mem other]
  have length : (base ++ extension.toList).length - extension.length = base.length := by
    rw [List.length_append, show extension.length = extension.toList.length from rfl, Nat.add_sub_cancel]
  rw [sourceBase?, found, Option.map_some, length, List.take_left]

/-- The segments of a file below a root directory. -/
lemma splitOn_withoutSrc (directory : Chars) (below : root ∈ ["".toList, "src/".toList])
    (own : directory ∈ ["app".toList, "pages".toList]) (apart : ∀ s ∈ segments, '/' ∉ s)
    (nonempty : segments ≠ []) :
    (withoutSrc (root ++ joinSegments (directory :: segments))).splitOn '/' = directory :: segments := by
  have head : ∃ c rest, joinSegments (directory :: segments) = c :: rest ∧ c ≠ 's' := by
    obtain ⟨second, others, rfl⟩ := List.exists_cons_of_ne_nil nonempty
    simp only [List.mem_cons, List.not_mem_nil, or_false] at own
    rcases own with rfl | rfl
    · exact ⟨'a', _, rfl, by decide⟩
    · exact ⟨'p', _, rfl, by decide⟩
  have same : withoutSrc (root ++ joinSegments (directory :: segments)) =
      joinSegments (directory :: segments) := by
    obtain ⟨c, rest, is, other⟩ := head
    simp only [List.mem_cons, List.not_mem_nil, or_false] at below
    rcases below with rfl | rfl
    · rw [is]
      have unmatched : ¬ "src/".toList.isPrefixOf ("".toList ++ c :: rest) = true := by
        rw [List.isPrefixOf_iff_prefix]
        intro starts
        exact other (List.cons_prefix_cons.mp starts).1.symm
      exact if_neg unmatched
    · have matched : "src/".toList.isPrefixOf ("src/".toList ++ joinSegments (directory :: segments)) = true :=
        List.isPrefixOf_iff_prefix.mpr (List.prefix_append _ _)
      exact if_pos matched
  rw [same, joinSegments]
  refine List.splitOn_intercalate '/' (List.forall_mem_cons.mpr ⟨?_, apart⟩) (List.cons_ne_nil _ _)
  simp only [List.mem_cons, List.not_mem_nil, or_false] at own
  rcases own with rfl | rfl
  · decide
  · decide

/-- Whether a directory below `app/` is part of the path. -/
def inPath (segment : Chars) : Bool :=
  !isRouteGroup segment && segment.head? ≠ some '@'

/-- A route group or a slot is not. -/
lemma Silent.out (silent : Silent segment) : inPath segment = false ∧ '/' ∉ segment := by
  cases silent with
  | @group name others =>
    constructor
    · have group : isRouteGroup (['('] ++ name ++ [')']) = true := by
        simp only [isRouteGroup, List.all_append, Bool.and_eq_true, decide_eq_true_eq, List.all_eq_true]
        refine ⟨⟨⟨?_, rfl⟩, ?_⟩, ⟨?_, ?_⟩, ?_⟩
        · simp
        · exact List.getLast?_concat
        · simp
        · intro c mem
          obtain ⟨-, lf, cr, ls, ps⟩ := others c mem
          simp [lf, cr, ls, ps]
        · simp
      rw [inPath, group]
      rfl
    · intro slash
      rcases List.mem_append.mp slash with slash | slash
      · rcases List.mem_append.mp slash with slash | slash
        · exact absurd slash (by decide)
        · exact (others '/' slash).1 rfl
      · exact absurd slash (by decide)
  | @slot name apart =>
    constructor
    · have slot : (['@'] ++ name).head? = some '@' := rfl
      rw [inPath, slot]
      simp
    · intro slash
      rcases List.mem_cons.mp slash with slash | slash
      · exact absurd slash (by decide)
      · exact apart slash

/-- A segment of the path is. -/
lemma Clean.kept (clean : Clean segment) : inPath segment = true := by
  have starts := clean.starts
  have group : isRouteGroup segment = false := by
    rw [Bool.eq_false_iff]
    intro matched
    simp only [isRouteGroup, Bool.and_eq_true, decide_eq_true_eq] at matched
    exact (starts '(' matched.1.1.2).1 rfl
  have slot : segment.head? ≠ some '@' := fun is => (starts '@' is).2.1 rfl
  rw [inPath, group, decide_eq_true slot]
  rfl

/-- The directories that are part of the path are those before the route groups and the slots came. -/
lemma Inserted.filter (inserted : Inserted directories all) (clean : ∀ s ∈ directories, Clean s) :
    all.filter inPath = directories ∧ ∀ s ∈ all, '/' ∉ s := by
  induction inserted with
  | nil => exact ⟨rfl, fun s mem => absurd mem List.not_mem_nil⟩
  | keep _ ih =>
    obtain ⟨here, clean⟩ := List.forall_mem_cons.mp clean
    obtain ⟨same, apart⟩ := ih clean
    refine ⟨?_, List.forall_mem_cons.mpr ⟨fun slash => (here.characters '/' slash).1 rfl, apart⟩⟩
    rw [List.filter_cons_of_pos here.kept, same]
  | insert silent _ ih =>
    obtain ⟨same, apart⟩ := ih clean
    obtain ⟨out, slash⟩ := silent.out
    refine ⟨?_, List.forall_mem_cons.mpr ⟨slash, apart⟩⟩
    rw [List.filter_cons_of_neg (Bool.eq_false_iff.mp out), same]

variable {file path : Chars} {extension : String}

/-- The route of a file below `app/`, from its segments. -/
lemma routeServedByFile_app (known : extension ∈ sourceExtensions)
    (split : (withoutSrc file).splitOn '/' = "app".toList :: (all ++ [base ++ extension.toList]))
    (entry : base = "page".toList ∨ base = "route".toList) :
    routeServedByFile file = some (normalizeRoutePath (joinSegments (all.filter inPath))) := by
  have last : (("app".toList :: (all ++ [base ++ extension.toList])).getLast?.getD []) =
      base ++ extension.toList := by
    rw [← List.cons_append, List.getLast?_concat]
    rfl
  have between : (("app".toList :: (all ++ [base ++ extension.toList])).drop 1).dropLast = all :=
    List.dropLast_concat
  rw [routeServedByFile, split, last, between, List.head?_cons, if_pos rfl, sourceBase_append known]
  exact if_pos entry

/-- The route of a file below `pages/`, from its segments. -/
lemma routeServedByFile_pages (known : extension ∈ sourceExtensions)
    (split : (withoutSrc file).splitOn '/' = "pages".toList :: (all ++ [base ++ extension.toList]))
    (own : ∀ c ∈ base.head?, c ≠ '_') :
    routeServedByFile file = some (normalizeRoutePath (joinSegments
      (all ++ if base = "index".toList then [] else [base]))) := by
  have last : (("pages".toList :: (all ++ [base ++ extension.toList])).getLast?.getD []) =
      base ++ extension.toList := by
    rw [← List.cons_append, List.getLast?_concat]
    rfl
  have between : (("pages".toList :: (all ++ [base ++ extension.toList])).drop 1).dropLast = all :=
    List.dropLast_concat
  have other : ¬ some "pages".toList = some "app".toList := by decide
  rw [routeServedByFile, split, last, between, List.head?_cons, if_neg other, if_pos rfl,
    sourceBase_append known]
  exact if_neg fun is => own '_' is rfl

/-- The normalizer of file paths meets the one of planned paths. -/
lemma Serves.route (serves : Serves file path) : routeServedByFile file = some (normalizeRoutePath path) := by
  have slashless : ∀ e ∈ sourceExtensions, '/' ∉ e.toList := by decide
  have named {base : Chars} {e : String} (known : e ∈ sourceExtensions) (apart : '/' ∉ base) :
      '/' ∉ base ++ e.toList := by
    intro slash
    exact (List.mem_append.mp slash).elim apart (slashless e known)
  have joined {segments : List Chars} {s : Chars} (apart : ∀ s ∈ segments, '/' ∉ s) (last : '/' ∉ s) :
      ∀ t ∈ segments ++ [s], '/' ∉ t := by
    intro t mem
    rcases List.mem_append.mp mem with before | final
    · exact apart t before
    · rw [List.mem_singleton.mp final]
      exact last
  cases serves with
  | @app root directories all page extension _ below same inserted entry known =>
    obtain ⟨kept, apart⟩ := inserted.filter (SameSegment.forall₂ same).1
    have pages : page = "page".toList ∨ page = "route".toList := by
      simpa using entry
    have slash : '/' ∉ page := by
      rcases pages with rfl | rfl
      · decide
      · decide
    have split := splitOn_withoutSrc "app".toList below List.mem_cons_self
      (joined apart (named known slash)) (List.append_ne_nil_of_right_ne_nil _ (List.cons_ne_nil _ _))
    have route := routeServedByFile_app known split pages
    rw [kept, normalizeRoutePath_same same] at route
    exact route
  | @index root directories extension _ below same known =>
    have clean := (SameSegment.forall₂ same).1
    have apart : ∀ s ∈ directories, '/' ∉ s := fun s mem slash => ((clean s mem).characters '/' slash).1 rfl
    have slash : '/' ∉ "index".toList := by decide
    have split := splitOn_withoutSrc "pages".toList below (List.mem_cons_of_mem _ List.mem_cons_self)
      (joined apart (named known slash)) (List.append_ne_nil_of_right_ne_nil _ (List.cons_ne_nil _ _))
    have own : ∀ c ∈ "index".toList.head?, c ≠ '_' := by
      intro c mem
      cases mem
      decide
    have route := routeServedByFile_pages known split own
    rw [if_pos rfl, List.append_nil, normalizeRoutePath_same same] at route
    exact route
  | @page root directories last extension _ below same known =>
    have clean := (SameSegment.forall₂ same).1
    have apart : ∀ s ∈ directories ++ [last], '/' ∉ s := fun s mem slash =>
      ((clean s mem).characters '/' slash).1 rfl
    have final : Clean last := clean last (List.mem_append_right _ List.mem_cons_self)
    have split := splitOn_withoutSrc "pages".toList below (List.mem_cons_of_mem _ List.mem_cons_self)
      (joined (fun s mem => apart s (List.mem_append_left _ mem))
        (named known (apart last (List.mem_append_right _ List.mem_cons_self))))
      (List.append_ne_nil_of_right_ne_nil _ (List.cons_ne_nil _ _))
    have route := routeServedByFile_pages known split fun c head => (final.starts c head).2.2
    rw [if_neg final.page, normalizeRoutePath_same same] at route
    exact route

end Files

section Reports
variable {served seen : List Chars} {planned : List PlannedRoute} {route : PlannedRoute}

/-- The normal form of a planned route. -/
def normalForm (route : PlannedRoute) : Chars :=
  normalizeRoutePath route.path.toList

/-- What the loop over the planned routes does with the first of them. -/
lemma collectMissing_cons : collectMissing served (route :: planned) seen =
    if route.path.toList.head? = some '/' ∧ normalForm route ∉ served ∧ normalForm route ∉ seen then
      route :: collectMissing served planned (normalForm route :: seen)
    else collectMissing served planned seen := by
  by_cases absolute : route.path.toList.head? = some '/'
  · by_cases known : normalizeRoutePath route.path.toList ∈ served ∨ normalizeRoutePath route.path.toList ∈ seen
    · rw [collectMissing, if_neg (not_not.mpr absolute), if_pos known, if_neg]
      exact fun new => known.elim new.2.1 new.2.2
    · rw [collectMissing, if_neg (not_not.mpr absolute), if_neg known, if_pos]
      · rfl
      · exact ⟨absolute, not_or.mp known⟩
  · rw [collectMissing, if_pos absolute, if_neg]
    exact fun new => absolute new.1

/-- What the loop reports, is planned, absolute, not served and not reported yet. -/
lemma collectMissing_mem : ∀ route ∈ collectMissing served planned seen, route ∈ planned ∧
    route.path.toList.head? = some '/' ∧ normalForm route ∉ served ∧ normalForm route ∉ seen := by
  induction planned generalizing seen with
  | nil =>
    intro route mem
    cases mem
  | cons first planned ih =>
    intro route mem
    rw [collectMissing_cons] at mem
    split at mem
    · rename_i new
      rcases List.mem_cons.mp mem with rfl | mem
      · exact ⟨List.mem_cons_self, new⟩
      · obtain ⟨later, absolute, unserved, unseen⟩ := ih route mem
        exact ⟨List.mem_cons_of_mem _ later, absolute, unserved, fun mem => unseen (List.mem_cons_of_mem _ mem)⟩
    · obtain ⟨later, rest⟩ := ih route mem
      exact ⟨List.mem_cons_of_mem _ later, rest⟩

lemma collectMissing_nodup : ((collectMissing served planned seen).map normalForm).Nodup := by
  induction planned generalizing seen with
  | nil => exact List.nodup_nil
  | cons first planned ih =>
    rw [collectMissing_cons]
    split
    · rw [List.map_cons, List.nodup_cons]
      refine ⟨fun mem => ?_, ih⟩
      obtain ⟨again, later, same⟩ := List.mem_map.mp mem
      have unseen := (collectMissing_mem again later).2.2.2
      rw [same] at unseen
      exact unseen List.mem_cons_self
    · exact ih

/-- An absolute route is served or reported, if its normal form was not reported yet. -/
lemma collectMissing_complete : ∀ route ∈ planned, route.path.toList.head? = some '/' →
    normalForm route ∈ served ∨ normalForm route ∈ seen ∨
      normalForm route ∈ (collectMissing served planned seen).map normalForm := by
  induction planned generalizing seen with
  | nil =>
    intro route mem
    cases mem
  | cons first planned ih =>
    intro route mem absolute
    rw [collectMissing_cons]
    rcases List.mem_cons.mp mem with rfl | mem
    · by_cases known : normalForm route ∈ served ∨ normalForm route ∈ seen
      · exact known.imp_right .inl
      · rw [if_pos ⟨absolute, not_or.mp known⟩]
        exact .inr (.inr List.mem_cons_self)
    · split
      · rcases ih route mem absolute with served | seen | later
        · exact .inl served
        · rcases List.mem_cons.mp seen with is | seen
          · refine .inr (.inr ?_)
            rw [is]
            exact List.mem_cons_self
          · exact .inr (.inl seen)
        · exact .inr (.inr (List.mem_cons_of_mem _ later))
      · exact ih route mem absolute

/-- Whether a file is below `app/` or `pages/`. -/
def UsesFileRouting (file : Chars) : Prop :=
  ∃ root ∈ ["".toList, "src/".toList], ∃ directory ∈ ["app/".toList, "pages/".toList],
    root ++ directory <+: file

/-- A directory of the project, whether or not the project keeps its sources below `src/`. -/
lemma below_iff (file directory : Chars) (other : directory.head? ≠ some 's') (nonempty : directory ≠ []) :
    (∃ root ∈ ["".toList, "src/".toList], root ++ directory <+: file) ↔ directory <+: withoutSrc file := by
  by_cases src : "src/".toList <+: file
  · obtain ⟨rest, rfl⟩ := src
    have without : withoutSrc ("src/".toList ++ rest) = rest :=
      if_pos (List.isPrefixOf_iff_prefix.mpr (List.prefix_append _ _))
    rw [without]
    constructor
    · intro ⟨root, known, starts⟩
      simp only [List.mem_cons, List.not_mem_nil, or_false] at known
      rcases known with rfl | rfl
      · obtain ⟨c, directory, rfl⟩ := List.exists_cons_of_ne_nil nonempty
        exact absurd (congrArg some (List.cons_prefix_cons.mp starts).1) other
      · exact (List.prefix_append_right_inj _).mp starts
    · intro starts
      refine ⟨"src/".toList, List.mem_cons_of_mem _ List.mem_cons_self, ?_⟩
      exact (List.prefix_append_right_inj _).mpr starts
  · have without : withoutSrc file = file :=
      if_neg fun matched => src (List.isPrefixOf_iff_prefix.mp matched)
    rw [without]
    constructor
    · intro ⟨root, known, starts⟩
      simp only [List.mem_cons, List.not_mem_nil, or_false] at known
      rcases known with rfl | rfl
      · exact starts
      · exact absurd ((List.prefix_append _ _).trans starts) src
    · intro starts
      exact ⟨"".toList, List.mem_cons_self, starts⟩

lemma usesFileRouting_iff {file : Chars} : UsesFileRouting file ↔
    ("app/".toList.isPrefixOf (withoutSrc file) || "pages/".toList.isPrefixOf (withoutSrc file)) = true := by
  have app := below_iff file "app/".toList (by decide) (by decide)
  have pages := below_iff file "pages/".toList (by decide) (by decide)
  rw [Bool.or_eq_true, List.isPrefixOf_iff_prefix, List.isPrefixOf_iff_prefix, ← app, ← pages]
  constructor
  · intro ⟨root, known, directory, own, starts⟩
    simp only [List.mem_cons, List.not_mem_nil, or_false] at own
    rcases own with rfl | rfl
    · exact .inl ⟨root, known, starts⟩
    · exact .inr ⟨root, known, starts⟩
  · rintro (⟨root, known, starts⟩ | ⟨root, known, starts⟩)
    · exact ⟨root, known, _, List.mem_cons_self, starts⟩
    · exact ⟨root, known, _, List.mem_cons_of_mem _ List.mem_cons_self, starts⟩

lemma mem_served {filePaths : List String} {form : Chars} :
    form ∈ (filePaths.map String.toList).filterMap routeServedByFile ↔
      ∃ file ∈ filePaths, routeServedByFile file.toList = some form := by
  rw [List.mem_filterMap]
  constructor
  · intro ⟨path, mem, is⟩
    obtain ⟨file, known, rfl⟩ := List.mem_map.mp mem
    exact ⟨file, known, is⟩
  · intro ⟨file, mem, is⟩
    exact ⟨file.toList, List.mem_map_of_mem mem, is⟩

/-- Nothing is reported, or the project uses file routing and the loop reports. -/
lemma findMissingRoutes_cases (planned : List PlannedRoute) (filePaths : List String) :
    ((∀ file ∈ filePaths, ¬ UsesFileRouting file.toList) ∧ findMissingRoutes planned filePaths = []) ∨
      (∃ file ∈ filePaths, UsesFileRouting file.toList) ∧ findMissingRoutes planned filePaths =
        collectMissing ((filePaths.map String.toList).filterMap routeServedByFile) planned [] := by
  by_cases uses : ((filePaths.map String.toList).any fun path =>
    "app/".toList.isPrefixOf (withoutSrc path) || "pages/".toList.isPrefixOf (withoutSrc path)) = true
  · refine .inr ⟨?_, if_pos uses⟩
    obtain ⟨path, mem, is⟩ := List.any_eq_true.mp uses
    obtain ⟨file, known, rfl⟩ := List.mem_map.mp mem
    exact ⟨file, known, usesFileRouting_iff.mpr is⟩
  · refine .inl ⟨fun file mem is => uses ?_, if_neg uses⟩
    exact List.any_eq_true.mpr ⟨file.toList, List.mem_map_of_mem mem, usesFileRouting_iff.mp is⟩

/-- The routes that are reported are those that no file serves: a route that a file serves is not reported;
what is reported is planned, absolute and served by no file, and there are no two routes of one normal form in
it; without a file below `app/` or `pages/` nothing is reported, and with one every absolute route is, up to
its normal form, unless that is the route of a file. -/
theorem findMissingRoutes_unserved (planned : List PlannedRoute) (filePaths : List String) :
    (∀ route ∈ planned, (∃ file ∈ filePaths, Serves file.toList route.path.toList) →
      route ∉ findMissingRoutes planned filePaths) ∧
    (∀ route ∈ findMissingRoutes planned filePaths, route ∈ planned ∧ route.path.toList.head? = some '/' ∧
      ¬ ∃ file ∈ filePaths, Serves file.toList route.path.toList) ∧
    ((findMissingRoutes planned filePaths).map normalForm).Nodup ∧
    ((∀ file ∈ filePaths, ¬ UsesFileRouting file.toList) → findMissingRoutes planned filePaths = []) ∧
    ((∃ file ∈ filePaths, UsesFileRouting file.toList) →
      ∀ route ∈ planned, route.path.toList.head? = some '/' →
        (∃ file ∈ filePaths, routeServedByFile file.toList = some (normalForm route)) ∨
          ∃ reported ∈ findMissingRoutes planned filePaths, normalForm reported = normalForm route) := by
  have reported : ∀ route ∈ findMissingRoutes planned filePaths, route ∈ planned ∧
      route.path.toList.head? = some '/' ∧ ¬ ∃ file ∈ filePaths, Serves file.toList route.path.toList := by
    intro route mem
    rcases findMissingRoutes_cases planned filePaths with ⟨-, is⟩ | ⟨-, is⟩
    · rw [is] at mem
      cases mem
    · rw [is] at mem
      obtain ⟨known, absolute, unserved, -⟩ := collectMissing_mem route mem
      refine ⟨known, absolute, fun ⟨file, mem, serves⟩ => unserved ?_⟩
      exact mem_served.mpr ⟨file, mem, serves.route⟩
  refine ⟨fun route _ serves mem => (reported route mem).2.2 serves, reported, ?_, ?_, ?_⟩
  · rcases findMissingRoutes_cases planned filePaths with ⟨-, is⟩ | ⟨-, is⟩
    · rw [is]
      exact List.nodup_nil
    · rw [is]
      exact collectMissing_nodup
  · intro none
    rcases findMissingRoutes_cases planned filePaths with ⟨-, is⟩ | ⟨⟨file, mem, uses⟩, -⟩
    · exact is
    · exact absurd uses (none file mem)
  · intro ⟨file, mem, uses⟩ route known absolute
    rcases findMissingRoutes_cases planned filePaths with ⟨none, -⟩ | ⟨-, is⟩
    · exact absurd uses (none file mem)
    · rw [is]
      have complete := @collectMissing_complete ((filePaths.map String.toList).filterMap routeServedByFile) []
        planned route known absolute
      rcases complete with served | seen | later
      · exact .inl (mem_served.mp served)
      · cases seen
      · exact .inr (List.mem_map.mp later)

end Reports

end AtomsPlatform.Run.Coverage
