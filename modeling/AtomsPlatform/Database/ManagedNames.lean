import AtomsPlatform.Database.Activities
import AtomsPlatform.Lib.Regex
import AtomsPlatform.Lib.Utf16
import AtomsPlatform.Lib.Words
import Mathlib.Data.Bool.AllAny

/-!
# Names of managed projects

The provider names a project after the database it is for, and recognises its own projects by the form
of their names. The name is cut after its separators are trimmed: where the cut falls right after a
separator, the provider does not recognise the project it has created, and a sweep takes its database
for missing.
-/

namespace AtomsPlatform.Database
open Interleaving Regex

/-- The pattern `[a-z0-9]`. -/
def slugCharacters : List Char :=
  "abcdefghijklmnopqrstuvwxyz0123456789".toList

/-- The pattern `[a-f0-9]`. -/
def hexDigits : List Char :=
  "abcdef0123456789".toList

/-- The hexadecimal digits of both cases. -/
def anyHexDigits : List Char :=
  "0123456789abcdefABCDEF".toList

/-- The texts that `z.string().uuid()` accepts. -/
def uuidPattern : RegularExpression Char :=
  oneOf anyHexDigits ^ 8 * (literal ['-'] * (oneOf anyHexDigits ^ 4 * (literal ['-'] *
    (oneOf "12345678".toList * oneOf anyHexDigits ^ 3 * literal ['-'] *
      (oneOf "89abAB".toList * oneOf anyHexDigits ^ 3 * literal ['-'] *
        oneOf anyHexDigits ^ 12))))) +
    (literal "00000000-0000-0000-0000-000000000000".toList +
      literal "ffffffff-ffff-ffff-ffff-ffffffffffff".toList)

/-- Source `ProvisionInputSchema`: a request for a project, as far as its name depends on it. -/
structure ProvisionInput where
  operationId : String
  displayName : String
  uuid : uuidPattern.rmatch operationId.toList = true
  named : 1 ≤ (Utf16.ofString displayName).length ∧ (Utf16.ofString displayName).length ≤ 160

/-- `toLowerCase`, as far as letters from a to z come of it. Any other character stands for itself:
    what becomes of it is not a letter from a to z or a digit either. -/
def lowerCase (c : Char) : List Char :=
  if c.isUpper then [c.toLower]
  else if c = '\u0130' then ['i', '\u0307']
  else if c = '\u212A' then ['k']
  else [c]

/-- `/[a-z0-9]/` -/
def isSlugCharacter (c : Char) : Bool :=
  slugCharacters.contains c

/-- A display name with hyphens between its words: the source's `base` before it is cut. -/
def hyphenated (displayName : String) : List Char :=
  Words.trim '-' (Words.squeeze isSlugCharacter '-' false (displayName.toList.flatMap lowerCase))

/-- Source `base`. -/
def projectBase (displayName : String) : List Char :=
  (hyphenated displayName).take 28

/-- Source `deterministicProjectName`. -/
def deterministicProjectName (input : ProvisionInput) : String :=
  let base := projectBase input.displayName
  let base := if base.isEmpty then "project".toList else base
  String.ofList ("atoms-".toList ++ base ++ ['-'] ++
    (input.operationId.toList.filter fun c => c ≠ '-').take 12)

/-- The pattern of source `isManagedProjectName`. -/
def managedProjectName : RegularExpression Char :=
  literal "atoms-".toList * (oneOf slugCharacters *
    (optional (atMost 26 (oneOf (slugCharacters ++ ['-'])) * oneOf slugCharacters) *
      (literal ['-'] * oneOf hexDigits ^ 12)))

/-- Source `isManagedProjectName`. -/
def isManagedProjectName (value : String) : Bool :=
  managedProjectName.rmatch value.toList

/-- Source `SupabaseProjectSchema`. -/
structure SupabaseProject where
  id : Option String := none
  ref : Option String := none
  name : String
  organizationSlug : Option String := none
  region : Option String := none
  status : Option String := none
  createdAt : Option String := none
deriving DecidableEq, Repr

/-- Source `parseExternalId`; its argument is trimmed already. -/
def parseExternalId (value : String) : Except Failure String :=
  if 1 ≤ value.length ∧ value.length ≤ 191 ∧
      value.toList.all (fun c => c.isAlphanum || c = '_' || c = '-') then .ok value
  else .error (.error "Invalid external id")

/-- Source `projectReference`. -/
def projectReference (project : SupabaseProject) : Except Failure String :=
  parseExternalId ((project.ref.or project.id).getD "")

/-- The resource that a project is listed as. -/
def managedResource (project : SupabaseProject) : Except Failure ManagedDatabaseResource :=
  (projectReference project).map fun externalId =>
    { externalId
      name := project.name
      region := project.region
      status := project.status
      createdAt := project.createdAt }

/-- Source `listManagedResources`, from the projects that the provider's service returns. -/
def listManagedResources (organizationSlug : String) (projects : List SupabaseProject) :
    Except Failure (List ManagedDatabaseResource) :=
  (projects.filter fun project =>
    project.organizationSlug = some organizationSlug ∧ isManagedProjectName project.name).mapM
    managedResource

/-- The words of a display name. -/
def nameWords (displayName : String) : List (List Char) :=
  Words.words isSlugCharacter (displayName.toList.flatMap lowerCase)

/-- A request whose project will be recognised: no words at the beginning of the display name, with
    single hyphens in between, are 27 characters long if further words follow, and the first twelve
    digits of the operation are in lower case. -/
structure Recognisable (input : ProvisionInput) : Prop where
  cut : ∀ first last, nameWords input.displayName = first ++ last → first ≠ [] → last ≠ [] →
    (['-'].intercalate first).length ≠ 27
  lowerCase : ∀ c ∈ input.operationId.toList.take 13, c.isUpper = false

section Patterns
variable {value base digits : List Char}

/-- What the recogniser takes for the name of a database. -/
structure ManagedBase (base : List Char) : Prop where
  short : base.length ≤ 28
  characters : ∀ c ∈ base, c ∈ slugCharacters ++ ['-']
  first : ∃ c ∈ slugCharacters, base.head? = some c
  last : ∃ c ∈ slugCharacters, base.getLast? = some c

/-- The base of a managed name, from the parts of the pattern. -/
lemma managedBase_iff : ManagedBase base ↔ ∃ c ∈ slugCharacters, ∃ rest,
    base = c :: rest ∧ (rest = [] ∨ ∃ middle, ∃ d ∈ slugCharacters, rest = middle ++ [d] ∧
      middle.length ≤ 26 ∧ ∀ e ∈ middle, e ∈ slugCharacters ++ ['-']) := by
  constructor
  · rintro ⟨short, characters, ⟨c, slug, head⟩, ⟨d, slug', last⟩⟩
    obtain ⟨rest, rfl⟩ : ∃ rest, base = c :: rest := List.head?_eq_some_iff.mp head
    refine ⟨c, slug, rest, rfl, ?_⟩
    obtain rfl | ⟨middle, d', rfl⟩ := List.eq_nil_or_concat rest
    · exact .inl rfl
    · rw [List.concat_eq_append] at *
      have same : d' = d := by simpa [List.getLast?_cons] using last
      subst same
      refine .inr ⟨middle, d', slug', rfl, ?_, fun e mem => characters e ?_⟩
      · simp at short
        omega
      · exact List.mem_cons_of_mem _ (List.mem_append_left _ mem)
  · rintro ⟨c, slug, rest, rfl, rfl | ⟨middle, d, slug', rfl, short, characters⟩⟩
    · refine ⟨by simp, fun e mem => ?_, ⟨c, slug, rfl⟩, ⟨c, slug, rfl⟩⟩
      rw [List.mem_singleton.mp mem]
      exact List.mem_append_left _ slug
    · refine ⟨by simp; omega, fun e mem => ?_, ⟨c, slug, rfl⟩, ⟨d, slug', ?_⟩⟩
      · obtain rfl | mem := List.mem_cons.mp mem
        · exact List.mem_append_left _ slug
        obtain mem | mem := List.mem_append.mp mem
        · exact characters e mem
        · rw [List.mem_singleton.mp mem]
          exact List.mem_append_left _ slug'
      · simp [List.getLast?_cons]

/-- The recogniser looks at the base and at the digits. -/
lemma isManagedProjectName_iff (base : List Char) (length : digits.length = 12) :
    isManagedProjectName (String.ofList ("atoms-".toList ++ base ++ ['-'] ++ digits)) = true ↔
      ManagedBase base ∧ ∀ c ∈ digits, c ∈ hexDigits := by
  rw [isManagedProjectName, String.toList_ofList, RegularExpression.rmatch_iff_matches',
    managedBase_iff]
  constructor
  · intro mem
    obtain ⟨x, start, y, rest₁, e⟩ := mem_mul.mp mem
    obtain ⟨x', letter, z, rest₂, rfl⟩ := mem_mul.mp rest₁
    obtain ⟨middle, optional, w, rest₃, rfl⟩ := mem_mul.mp rest₂
    obtain ⟨x'', hyphen, digits', hex, rfl⟩ := mem_mul.mp rest₃
    obtain ⟨length', hex⟩ := mem_oneOf_pow.mp hex
    obtain ⟨c, slug, rfl⟩ := mem_oneOf.mp letter
    rw [mem_literal.mp start, mem_literal.mp hyphen] at e
    -- both readings end in twelve digits after a hyphen
    have e : ("atoms-".toList ++ ([c] ++ middle)) ++ (['-'] ++ digits') =
        ("atoms-".toList ++ base) ++ (['-'] ++ digits) := by
      simpa using e
    obtain ⟨front, same⟩ := List.append_inj' e (by simp [length, length'])
    have same : digits' = digits := List.append_cancel_left same
    have front : base = [c] ++ middle := (List.append_cancel_left front).symm
    refine ⟨⟨c, slug, middle, front, ?_⟩, same ▸ hex⟩
    obtain none | some := mem_optional.mp optional
    · exact .inl none
    · obtain ⟨inner, characters, final, letter', rfl⟩ := mem_mul.mp some
      obtain ⟨d, slug', rfl⟩ := mem_oneOf.mp letter'
      exact .inr ⟨inner, d, slug', rfl, mem_atMost_oneOf.mp characters⟩
  · rintro ⟨⟨c, slug, rest, rfl, shape⟩, hex⟩
    have ending : rest ∈ (Regex.optional (atMost 26 (oneOf (slugCharacters ++ ['-'])) *
        oneOf slugCharacters)).matches' := by
      rw [mem_optional]
      obtain rfl | ⟨middle, d, slug', rfl, short, characters⟩ := shape
      · exact .inl rfl
      · exact .inr (mem_mul.mpr ⟨middle, mem_atMost_oneOf.mpr ⟨short, characters⟩, [d],
          mem_oneOf.mpr ⟨d, slug', rfl⟩, rfl⟩)
    refine mem_mul.mpr ⟨_, mem_literal.mpr rfl, c :: rest ++ ('-' :: digits), ?_, by simp⟩
    refine mem_mul.mpr ⟨[c], mem_oneOf.mpr ⟨c, slug, rfl⟩, rest ++ ('-' :: digits), ?_, rfl⟩
    refine mem_mul.mpr ⟨rest, ending, '-' :: digits, ?_, rfl⟩
    exact mem_mul.mpr ⟨['-'], mem_literal.mpr rfl, digits, mem_oneOf_pow.mpr ⟨length, hex⟩, rfl⟩

end Patterns

section Operation
variable {input : ProvisionInput}

/-- The digits of an operation in the name of its project. -/
def operationDigits (input : ProvisionInput) : List Char :=
  (input.operationId.toList.filter fun c => c ≠ '-').take 12

/-- The first two groups of a UUID. -/
lemma operationId_groups (input : ProvisionInput) : ∃ first second rest,
    input.operationId.toList = first ++ '-' :: (second ++ '-' :: rest) ∧
      (first.length = 8 ∧ ∀ c ∈ first, c ∈ anyHexDigits) ∧
      (second.length = 4 ∧ ∀ c ∈ second, c ∈ anyHexDigits) := by
  have mem := (RegularExpression.rmatch_iff_matches' _ _).mp input.uuid
  rw [uuidPattern, RegularExpression.matches'_add, Language.mem_add] at mem
  obtain mem | mem := mem
  · obtain ⟨first, group, x, rest₁, e⟩ := mem_mul.mp mem
    obtain ⟨y, hyphen, z, rest₂, rfl⟩ := mem_mul.mp rest₁
    obtain ⟨second, group', w, rest₃, rfl⟩ := mem_mul.mp rest₂
    obtain ⟨y', hyphen', v, -, rfl⟩ := mem_mul.mp rest₃
    rw [mem_literal.mp hyphen, mem_literal.mp hyphen'] at e
    exact ⟨first, second, v, e.symm, mem_oneOf_pow.mp group, mem_oneOf_pow.mp group'⟩
  · -- the nil and the maximal UUID
    rw [RegularExpression.matches'_add, Language.mem_add, mem_literal, mem_literal] at mem
    obtain e | e := mem
    · rw [e]
      exact ⟨List.replicate 8 '0', List.replicate 4 '0', "0000-0000-000000000000".toList, by decide,
        ⟨rfl, List.all_iff_forall_prop.mp (by decide)⟩, rfl, List.all_iff_forall_prop.mp (by decide)⟩
    · rw [e]
      exact ⟨List.replicate 8 'f', List.replicate 4 'f', "ffff-ffff-ffffffffffff".toList, by decide,
        ⟨rfl, List.all_iff_forall_prop.mp (by decide)⟩, rfl, List.all_iff_forall_prop.mp (by decide)⟩

/-- The digits in a name are those of the first two groups. -/
lemma operationDigits_hex (input : ProvisionInput) : (operationDigits input).length = 12 ∧
    ((∀ c ∈ operationDigits input, c ∈ hexDigits) ↔
      ∀ c ∈ input.operationId.toList.take 13, c.isUpper = false) := by
  have either : ∀ c ∈ anyHexDigits, c ≠ '-' ∧ (c ∈ hexDigits ↔ c.isUpper = false) :=
    List.all_iff_forall_prop.mp (by decide)
  obtain ⟨first, second, rest, e, ⟨eight, hex⟩, four, hex'⟩ := operationId_groups input
  have plain {group : List Char} (hex : ∀ c ∈ group, c ∈ anyHexDigits) :
      group.filter (fun c => c ≠ '-') = group :=
    List.filter_eq_self.mpr fun c mem => decide_eq_true (either c (hex c mem)).1
  have digits : operationDigits input = first ++ second := by
    rw [operationDigits, e, List.filter_append, plain hex, List.filter_cons_of_neg (by simp),
      List.filter_append, plain hex', ← List.append_assoc]
    exact List.take_left' (by simp [eight, four])
  have start : input.operationId.toList.take 13 = first ++ '-' :: second := by
    rw [e, show first ++ '-' :: (second ++ '-' :: rest) = (first ++ '-' :: second) ++ '-' :: rest by
      simp]
    exact List.take_left' (by simp [eight, four])
  rw [digits, start]
  refine ⟨by simp [eight, four], ?_⟩
  constructor
  · intro lower c mem
    obtain mem | mem := List.mem_append.mp mem
    · exact (either c (hex c mem)).2.mp (lower c (List.mem_append_left _ mem))
    obtain rfl | mem := List.mem_cons.mp mem
    · rfl
    · exact (either c (hex' c mem)).2.mp (lower c (List.mem_append_right _ mem))
  · intro lower c mem
    obtain mem | mem := List.mem_append.mp mem
    · exact (either c (hex c mem)).2.mpr (lower c (List.mem_append_left _ mem))
    · exact (either c (hex' c mem)).2.mpr
        (lower c (List.mem_append_right _ (List.mem_cons_of_mem _ mem)))

end Operation

section Bases
variable {displayName : String}

/-- The hyphenated name is its words, with hyphens in between. -/
lemma hyphenated_eq : hyphenated displayName = ['-'].intercalate (nameWords displayName) :=
  Words.trim_squeeze (by decide)

lemma mem_slugCharacters {c : Char} : isSlugCharacter c = true ↔ c ∈ slugCharacters := by
  rw [isSlugCharacter, List.contains_iff_mem]

lemma nameWords_characters {w : List Char} (mem : w ∈ nameWords displayName) :
    ∀ c ∈ w, c ∈ slugCharacters :=
  fun _ inside => mem_slugCharacters.mp (Words.kept_of_mem_words mem inside)

lemma hyphenated_characters : ∀ c ∈ hyphenated displayName, c ∈ slugCharacters ++ ['-'] := by
  intro c mem
  rw [hyphenated_eq] at mem
  obtain rfl | ⟨w, word, inside⟩ := Words.mem_intercalate mem
  · exact List.mem_append_right _ (List.mem_singleton_self _)
  · exact List.mem_append_left _ (nameWords_characters word c inside)

/-- A character of a hyphenated name that is not a hyphen. -/
lemma slug_of_ne {c : Char} (mem : c ∈ hyphenated displayName) (ne : c ≠ '-') :
    c ∈ slugCharacters := by
  obtain slug | hyphen := List.mem_append.mp (hyphenated_characters c mem)
  · exact slug
  · exact absurd (List.mem_singleton.mp hyphen) ne

/-- The base is cut after a hyphen if some words take up 27 characters and others follow. -/
lemma hyphen_cut : (hyphenated displayName)[27]? = some '-' ↔
    ∃ first last, nameWords displayName = first ++ last ∧ first ≠ [] ∧ last ≠ [] ∧
      (['-'].intercalate first).length = 27 := by
  rw [hyphenated_eq]
  refine Words.getElem?_intercalate fun w mem inside => ?_
  have hyphen := nameWords_characters mem _ inside
  revert hyphen
  decide

/-- The base of a name is recognised unless it is cut after a hyphen. -/
lemma managedBase_take (nonempty : hyphenated displayName ≠ []) :
    ManagedBase (projectBase displayName) ↔ (hyphenated displayName)[27]? ≠ some '-' := by
  have last : (projectBase displayName).getLast? =
      ((hyphenated displayName)[27]?.or (hyphenated displayName).getLast?) := by
    rw [projectBase, List.getLast?_take]
    rfl
  constructor
  · intro managed cut
    obtain ⟨c, slug, final⟩ := managed.last
    rw [last, cut, Option.some_or, Option.some.injEq] at final
    subst final
    revert slug
    decide
  · intro uncut
    refine ⟨List.length_take_le _ _, fun c mem => ?_, ?_, ?_⟩
    · exact hyphenated_characters c (List.mem_of_mem_take mem)
    · cases words : nameWords displayName with
      | nil =>
        rw [hyphenated_eq, words] at nonempty
        exact absurd rfl nonempty
      | cons w ws =>
        have word : w ∈ nameWords displayName := words ▸ List.mem_cons_self
        obtain ⟨c, w, rfl⟩ := List.exists_cons_of_ne_nil (Words.nonempty_of_mem_words word)
        refine ⟨c, nameWords_characters word c List.mem_cons_self, ?_⟩
        rw [projectBase, hyphenated_eq, words, List.intercalate_cons_cons_left]
        rfl
    · rw [last]
      cases at27 : (hyphenated displayName)[27]? with
      | some c =>
        refine ⟨c, slug_of_ne (List.mem_of_getElem? at27) ?_, rfl⟩
        rintro rfl
        exact uncut at27
      | none =>
        obtain ⟨c, final⟩ : ∃ c, (hyphenated displayName).getLast? = some c :=
          ⟨_, List.getLast?_eq_some_getLast nonempty⟩
        exact ⟨c, slug_of_ne (List.mem_of_getLast? final) (Words.getLast?_trim final), final⟩

lemma managedBase_project : ManagedBase "project".toList :=
  ⟨by decide, List.all_iff_forall_prop.mp (by decide), ⟨'p', by decide, rfl⟩, ⟨'t', by decide, rfl⟩⟩

/-- The recogniser and the encoder, on the name of one request. -/
lemma recognised_iff (input : ProvisionInput) :
    isManagedProjectName (deterministicProjectName input) = true ↔ Recognisable input := by
  obtain ⟨length, digits⟩ := operationDigits_hex input
  have base : ManagedBase (if (projectBase input.displayName).isEmpty then "project".toList
        else projectBase input.displayName) ↔
      ∀ first last, nameWords input.displayName = first ++ last → first ≠ [] → last ≠ [] →
        (['-'].intercalate first).length ≠ 27 := by
    by_cases none : hyphenated input.displayName = []
    · rw [projectBase, none]
      refine ⟨fun _ first last e some _ => ?_, fun _ => managedBase_project⟩
      rw [hyphenated_eq, nameWords, Words.intercalate_words_eq_nil] at none
      rw [nameWords, none] at e
      exact absurd (List.append_eq_nil_iff.mp e.symm).1 some
    · have some : (projectBase input.displayName).isEmpty = false := by
        rw [List.isEmpty_eq_false_iff, projectBase]
        simpa using none
      rw [some, if_neg Bool.false_ne_true, managedBase_take none, ne_eq, hyphen_cut]
      constructor
      · exact fun uncut first last e some some' length => uncut ⟨first, last, e, some, some', length⟩
      · rintro uncut ⟨first, last, e, some, some', length⟩
        exact uncut first last e some some' length
  have split := isManagedProjectName_iff (if (projectBase input.displayName).isEmpty then
    "project".toList else projectBase input.displayName) length
  rw [base, digits] at split
  exact split.trans ⟨fun ⟨cut, lower⟩ => ⟨cut, lower⟩, fun ⟨cut, lower⟩ => ⟨cut, lower⟩⟩

end Bases

section Inventory
variable {organizationSlug : String} {projects : List SupabaseProject}
  {resources : List ManagedDatabaseResource} {project : SupabaseProject}
  {resource : ManagedDatabaseResource}

lemma mem_mapM_iff {α β : Type} {f : α → Except Failure β} {l : List α} {bs : List β}
    (done : l.mapM f = .ok bs) :
    (∀ a ∈ l, ∃ b ∈ bs, f a = .ok b) ∧ ∀ b ∈ bs, ∃ a ∈ l, f a = .ok b := by
  induction l generalizing bs with
  | nil =>
    cases done
    refine ⟨fun a mem => ?_, fun b mem => ?_⟩
    · cases mem
    · cases mem
  | cons a l ih =>
    rw [List.mapM_cons] at done
    cases first : f a with
    | error e =>
      rw [first] at done
      cases done
    | ok b =>
      cases rest : l.mapM f with
      | error e =>
        rw [first, rest] at done
        cases done
      | ok bs' =>
        rw [first, rest] at done
        cases done
        obtain ⟨there, back⟩ := ih rest
        constructor
        · intro a' mem
          obtain rfl | mem := List.mem_cons.mp mem
          · exact ⟨b, List.mem_cons_self, first⟩
          · obtain ⟨b', mem, e⟩ := there a' mem
            exact ⟨b', List.mem_cons_of_mem _ mem, e⟩
        · intro b' mem
          obtain rfl | mem := List.mem_cons.mp mem
          · exact ⟨a, List.mem_cons_self, first⟩
          · obtain ⟨a', mem, e⟩ := back b' mem
            exact ⟨a', List.mem_cons_of_mem _ mem, e⟩

lemma managedResource_name (listed : managedResource project = .ok resource) :
    resource.name = project.name ∧ projectReference project = .ok resource.externalId := by
  rw [managedResource] at listed
  cases e : projectReference project with
  | error error =>
    rw [e] at listed
    cases listed
  | ok externalId =>
    rw [e] at listed
    cases listed
    exact ⟨rfl, rfl⟩

/-- A project of the organization is listed if its name is recognised. -/
lemma listed_iff (listed : listManagedResources organizationSlug projects = .ok resources)
    (mem : project ∈ projects) (own : project.organizationSlug = some organizationSlug) :
    (∃ resource ∈ resources, managedResource project = .ok resource) ↔
      isManagedProjectName project.name = true := by
  obtain ⟨there, back⟩ := mem_mapM_iff listed
  constructor
  · rintro ⟨resource, mem, e⟩
    obtain ⟨project', mem', e'⟩ := back resource mem
    rw [← (managedResource_name e).1, (managedResource_name e').1]
    have kept := (List.mem_filter.mp mem').2
    simp only [Bool.decide_and, Bool.and_eq_true, decide_eq_true_eq] at kept
    exact kept.2
  · intro managed
    exact there project (List.mem_filter.mpr ⟨mem, by simp [own, managed]⟩)

/-- What a sweep has done before it takes a database for missing. -/
def missingAccount (h : DatabaseCalls) : Operation → Prop
  | .observeMissingResource _ tracked _ =>
    ∃ resources, ⟨.listManagedResources, .ok resources⟩ ∈ h ∧
      tracked.externalId ∉ resources.map ManagedDatabaseResource.externalId
  | _ => True

/-- Calls that are not about missing databases. -/
def Operation.observesNoMissing : Operation → Bool
  | .observeMissingResource .. => false
  | _ => true

variable {h : DatabaseCalls} {o : Operation}

lemma observesNoMissing_account (quiet : o.observesNoMissing = true) : missingAccount h o := by
  cases o with
  | observeMissingResource => cases quiet
  | _ => trivial

/-- A sweep that has its inventory keeps it. -/
lemma inventory_call (quiet : o.observesNoMissing = true) :
    Accounts missingAccount (fun h => ⟨.listManagedResources, .ok resources⟩ ∈ h) (call o)
      (fun _ h => ⟨.listManagedResources, .ok resources⟩ ∈ h) fun _ _ => True :=
  Accounts.call (fun _ _ => observesNoMissing_account quiet)
    (fun _ _ listed => List.mem_append_left _ listed) fun _ _ _ => trivial

lemma quietly_account {calls : Operation → Bool} {α : Type} {p : Program α}
    (yields : Yields (making calls) p fun _ => True)
    (quiet : ∀ o, calls o = true → o.observesNoMissing = true) {P : DatabaseCalls → Prop}
    (keeps : ∀ h x, P h → P (h ++ [x])) :
    Accounts missingAccount P p (fun _ => P) fun _ _ => True :=
  (accounts_of_making yields (fun _ o made _ => observesNoMissing_account (quiet o made))
    fun _ _ _ _ holds => keeps _ _ holds).mono (fun _ holds => holds) (fun _ _ holds => holds)
    fun _ _ _ => trivial

/-- Only what is not in the inventory is missing. -/
lemma checkTracked_missing {sweepId : Uuid} {tracked : List TrackedDatabaseResource} :
    Accounts missingAccount (fun h => ⟨.listManagedResources, .ok resources⟩ ∈ h)
      (checkTracked sweepId (resources.map ManagedDatabaseResource.externalId) tracked)
      (fun _ h => ⟨.listManagedResources, .ok resources⟩ ∈ h) fun _ _ => True := by
  induction tracked with
  | nil => exact .pure fun _ listed => listed
  | cons resource tracked ih =>
    refine .bind (inventory_call rfl) fun now => ?_
    split_ifs with present
    · exact .bind (inventory_call rfl) fun _ => ih
    · refine .bind (R := fun _ h => ⟨.listManagedResources, .ok resources⟩ ∈ h) ?_ fun _ => ?_
      · refine Accounts.call (fun h listed => ⟨resources, listed, ?_⟩)
          (fun _ _ listed => List.mem_append_left _ listed) fun _ _ _ => trivial
        rwa [List.contains_iff_mem] at present
      · exact ih.bind fun missing => .pure fun _ listed => listed

lemma sweep_missing {options : ReconcilerOptions} {sweepId : Uuid} {staleBefore : Date} :
    Accounts missingAccount (fun _ => True) (sweep options sweepId staleBefore) (fun _ _ => True)
      fun _ _ => True := by
  refine .bind (R := fun resources h => ⟨.listManagedResources, .ok resources⟩ ∈ h) ?_
    fun resources => ?_
  · exact Accounts.call (fun _ _ => trivial)
      (fun _ _ _ => List.mem_append_right _ (List.mem_singleton_self _)) fun _ _ _ => trivial
  refine .bind (inventory_call rfl) fun trackedResources => ?_
  refine .bind (inventory_call rfl) fun now => ?_
  refine .bind (inventory_call rfl) fun recovery => ?_
  refine .bind (quietly_account dispatchRecovery_makes ?_ ?_) fun recovered => ?_
  · exact fun o made => by cases o <;> first | rfl | cases made
  · exact fun h x listed => List.mem_append_left _ listed
  refine .bind checkTracked_missing fun missing => ?_
  refine .bind (quietly_account checkOrphans_makes ?_ ?_) fun counts => ?_
  · exact fun o made => by cases o <;> first | rfl | cases made
  · exact fun h x listed => List.mem_append_left _ listed
  refine .bind (inventory_call rfl) fun now => ?_
  refine .bind (inventory_call rfl) fun _ => ?_
  refine .bind (inventory_call rfl) fun now => ?_
  exact .bind (inventory_call rfl) fun _ => .pure fun _ _ => trivial

/-- A call about which nothing has to be known. -/
lemma unasked_call (quiet : o.observesNoMissing = true) :
    Accounts missingAccount (fun _ => True) (call o) (fun _ _ => True) fun _ _ => True :=
  Accounts.call (fun _ _ => observesNoMissing_account quiet) (fun _ _ _ => trivial)
    fun _ _ _ => trivial

lemma reconcile_missing {options : ReconcilerOptions} :
    Accounts missingAccount (fun _ => True) (reconcile options) (fun _ _ => True)
      fun _ _ => True := by
  refine .bind (unasked_call rfl) fun startedAt => ?_
  refine .bind (R := fun _ _ => True) (.tryCatch (R := fun _ _ => True) ?_ fun error => ?_)
    fun begun => ?_
  · exact .bind (unasked_call rfl) fun sweepId => .pure fun _ _ => trivial
  · split
    · exact .pure fun _ _ => trivial
    · exact .throw fun _ _ => trivial
  cases begun with
  | none => exact .pure fun _ _ => trivial
  | some sweepId =>
    refine .bind (.tryCatch sweep_missing fun error => ?_) fun summary => .pure fun _ _ => trivial
    refine .bind (unasked_call rfl) fun now => ?_
    refine .bind (R := fun _ _ => True) ?_ fun _ => .throw fun _ _ => trivial
    exact .tryCatch (unasked_call rfl) fun _ => .pure fun _ _ => trivial

/-- Every activity accounts for the databases it takes for missing. -/
lemma program_missing (activity : Activity) :
    Accounts missingAccount (fun _ => True) activity.program (fun _ _ => True)
      fun _ _ => True := by
  cases activity with
  | reconciliation options => exact .bind reconcile_missing fun _ => .pure fun _ _ => trivial
  | delivery | provisionRequest | deleteRequest | cleanupApproval =>
    refine quietly_account (program_makes _) (fun o made => ?_) fun _ _ _ => trivial
    cases o <;> first | rfl | cases made

end Inventory

/-- The encoder and the recogniser agree on exactly the recognisable requests; their projects are
    listed; and a sweep never takes a database for missing whose project is listed under a name made
    for such a request. -/
theorem managed_names_agree (input : ProvisionInput) :
    (isManagedProjectName (deterministicProjectName input) = true ↔ Recognisable input) ∧
    (∀ organizationSlug projects resources,
      listManagedResources organizationSlug projects = .ok resources →
      ∀ project ∈ projects, project.organizationSlug = some organizationSlug →
      project.name = deterministicProjectName input →
      ((∃ resource ∈ resources, managedResource project = .ok resource) ↔ Recognisable input)) ∧
    ∀ G c₀ c h, Starts c₀ → databaseSystem.Traced G c₀ h c →
      ∀ before c₁ i sweepId tracked now env after,
      h = before ++ (c₁, .act i (.observeMissingResource sweepId tracked now) env) :: after →
      ∃ resources, ⟨.listManagedResources, .ok resources⟩ ∈ System.calls i before ∧
        ∀ organizationSlug projects,
        listManagedResources organizationSlug projects = .ok resources →
        ∀ project ∈ projects, project.organizationSlug = some organizationSlug →
        project.name = deterministicProjectName input →
        projectReference project = .ok tracked.externalId → ¬ Recognisable input := by
  have appears {organizationSlug projects resources}
      (listed : listManagedResources organizationSlug projects = .ok resources) {project}
      (mem : project ∈ projects) (own : project.organizationSlug = some organizationSlug)
      (named : project.name = deterministicProjectName input) :
      (∃ resource ∈ resources, managedResource project = .ok resource) ↔ Recognisable input := by
    rw [listed_iff listed mem own, named, recognised_iff]
  refine ⟨recognised_iff input, ?_, ?_⟩
  · intro organizationSlug projects resources listed project mem own named
    exact appears listed mem own named
  · intro G c₀ c h starts traced before c₁ i sweepId tracked now env after split
    obtain ⟨traced₁, -, -⟩ := traced.split split
    obtain ⟨t, k, at_i⟩ := traced.pending split
    obtain ⟨resources, inventory, absent⟩ : ∃ resources, _ ∧ _ :=
      traced₁.accounted starts.2.2 at_i (program_missing t [] trivial)
    refine ⟨resources, inventory, ?_⟩
    intro organizationSlug projects listed project mem own named reference recognisable
    obtain ⟨resource, there, e⟩ := (appears listed mem own named).mpr recognisable
    have same := Except.ok.inj (reference.symm.trans (managedResource_name e).2)
    rw [same] at absent
    exact absent (List.mem_map_of_mem there)

section Scenario

/-- An operation with digits in lower case. -/
def lowerCaseOperation : String :=
  "3f2b8c1e-9d4a-4b6f-8a17-5c0d2e9f7b31"

lemma lowerCaseOperation_uuid : uuidPattern.rmatch lowerCaseOperation.toList = true := by
  decide

/-- A request for a database of a short name. -/
def shortName : ProvisionInput where
  operationId := lowerCaseOperation
  displayName := "Atoms Phase 3 staging"
  uuid := lowerCaseOperation_uuid
  named := by decide

/-- A request for a database with a word of 27 letters and another one. -/
def cutName : ProvisionInput where
  operationId := lowerCaseOperation
  displayName := "internationalizationservice hub"
  uuid := lowerCaseOperation_uuid
  named := by decide

/-- `managed_names_agree` for the name of the staging database. -/
theorem managed_names_agree_staging :
    isManagedProjectName (deterministicProjectName shortName) = true := by
  refine (managed_names_agree shortName).1.mpr
    ⟨?_, List.all_iff_forall_prop.mp (by decide)⟩
  intro first last e some some' length
  have cut : (hyphenated shortName.displayName)[27]? = .some '-' :=
    hyphen_cut.mpr ⟨first, last, e, some, some', length⟩
  revert cut
  decide

/-- The provider does not recognise a project it has created. -/
theorem managed_names_disagree : ¬ ∀ input : ProvisionInput,
    isManagedProjectName (deterministicProjectName input) = true := by
  intro agree
  have recognisable := (recognised_iff cutName).mp (agree cutName)
  exact recognisable.cut ["internationalizationservice".toList] ["hub".toList] (by decide)
    (List.cons_ne_nil _ _) (List.cons_ne_nil _ _) (by decide)

end Scenario

end AtomsPlatform.Database
