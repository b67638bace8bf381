import AtomsPlatform.Lib.Table
import AtomsPlatform.Lib.Utf16
import Mathlib.Algebra.Order.Floor.Ring
import Mathlib.Data.Rat.Floor
import Mathlib.Data.Finset.Card
import Mathlib.Tactic.Linarith

/-!
# The throttled logger

`createThrottledLogger` of the workers: an error is printed in full the first time, and then at most one line
in a window, which says how often it was repeated. The logger remembers the window of every key, in the
order of a `Map`, and forgets the oldest key when there are too many. `throttled_log` says that it neither
floods nor loses.
-/

namespace AtomsPlatform.Run.Throttled

section Logger

/-- Source `ThrottledLoggerOptions`, with its defaults. Times are in milliseconds. -/
structure ThrottledLoggerOptions where
  intervalMs : ℚ := 60000
  maxKeys : ℤ := 200

/-- Source `Entry`. -/
structure Entry where
  windowStart : ℚ
  suppressed : Nat := 0
deriving DecidableEq, Repr

/-- What is thrown: an `Error`, or another value with the text of `String(error)`. -/
inductive LoggedError where
  | error (name message : Utf16) :
    LoggedError
  | other :
    (text : Utf16) → LoggedError
deriving DecidableEq, Repr

/-- Source `KEY_MESSAGE_LENGTH`. -/
def keyMessageLength : Nat :=
  160

/-- Source `describe`. -/
def describe : LoggedError → Utf16
  | .error name message => name ++ Utf16.ofString ": " ++ message.take keyMessageLength
  | .other text => text.take keyMessageLength

/-- A call of the logger, at the time that its clock tells. -/
structure Call where
  label : Utf16
  error : LoggedError
  context : Option Utf16 := none
  now : ℚ
deriving DecidableEq, Repr

/-- The key of a call: its context is no part of it. -/
def Call.key (call : Call) : Utf16 :=
  call.label ++ Utf16.ofString "|" ++ describe call.error

/-- A line: the error in full, or how many repetitions were skipped. -/
inductive Line where
  | full (label : Utf16) (context : Option Utf16) (error : LoggedError) :
    Line
  | summary (skipped : Nat) (text : Utf16) :
    Line
deriving DecidableEq, Repr

/-- `write(...)` with the error in full. -/
def Call.full (call : Call) : Line :=
  .full call.label call.context call.error

/-- `write(...)` with one short line. -/
def Call.summary (options : ThrottledLoggerOptions) (call : Call) (skipped : Nat) : Line :=
  .summary skipped (call.label ++ Utf16.ofString ": " ++ describe call.error ++
    Utf16.ofString s!" (repeated {skipped} more times in the last {⌊options.intervalMs / 1000 + 1 / 2⌋}s, " ++
    Utf16.ofString "stack trace suppressed)")

/-- `new Map<string, Entry>()`, in the order of the insertions. -/
abbrev Entries : Type :=
  List (Utf16 × Entry)

/-- Changes the entry of a key. -/
def Entries.change (entries : Entries) (key : Utf16) (entry : Entry) : Entries :=
  Table.update Prod.fst key (fun _ => true) (fun pair => (pair.1, entry)) entries

/-- Source `logError`: the entries afterwards, and the line that is written. -/
def logError (options : ThrottledLoggerOptions) (entries : Entries) (call : Call) :
    Entries × Option Line :=
  match Table.lookup Prod.fst call.key entries with
  | none =>
    let kept := if options.maxKeys ≤ entries.length then entries.tail else entries
    (kept ++ [(call.key, { windowStart := call.now })], some call.full)
  | some (_, entry) =>
    if call.now - entry.windowStart < options.intervalMs then
      (entries.change call.key { entry with suppressed := entry.suppressed + 1 }, none)
    else
      let restarted := entries.change call.key { windowStart := call.now }
      if entry.suppressed = 0 then (restarted, some call.full)
      else (restarted, some (call.summary options entry.suppressed))

end Logger

section Runs

/-- A call, and the line that it wrote. -/
structure Record where
  call : Call
  line : Option Line
deriving DecidableEq, Repr

/-- The entries of the logger, and what was written. -/
structure Log where
  entries : Entries := []
  records : List Record := []
deriving DecidableEq, Repr

/-- The log after one call more. -/
def Log.step (options : ThrottledLoggerOptions) (log : Log) (call : Call) : Log :=
  let (entries, line) := logError options log.entries call
  { entries, records := log.records ++ [{ call, line }] }

/-- The log after a sequence of calls. -/
def logged (options : ThrottledLoggerOptions) (calls : List Call) : Log :=
  calls.foldl (Log.step options) {}

/-- Whether a line is an error in full. -/
def Line.isFull : Line → Bool
  | .full .. => true
  | .summary .. => false

/-- The repetitions that a line reports. -/
def Line.skipped : Line → Nat
  | .full .. => 0
  | .summary skipped _ => skipped

variable (key : Utf16) (records : List Record)

/-- The calls of a key that were printed in full. -/
def fullLines : Nat :=
  records.countP fun r => r.call.key = key && r.line.any Line.isFull

/-- The calls of a key that wrote a summary. -/
def summaries : Nat :=
  records.countP fun r => r.call.key = key && r.line.any fun line => !line.isFull

/-- The repetitions that the summaries of a key reported. -/
def repetitions : Nat :=
  ((records.filter fun r => r.call.key = key).map fun r => r.line.elim 0 Line.skipped).sum

/-- The repetitions of a key that no summary has reported yet. -/
def pending (entries : Entries) : Nat :=
  (Table.lookup Prod.fst key entries).elim 0 fun pair => pair.2.suppressed

/-- The calls of a key that wrote a line at one of some times. -/
def linesWithin (times : ℚ → Bool) : Nat :=
  records.countP fun r => r.call.key = key && r.line.isSome && times r.call.now

/-- What a sequence of calls must not do: flood, lose a call, or hide the first one of a key. -/
structure Throttles (options : ThrottledLoggerOptions) (calls : List Call) : Prop where
  floods : ∀ key start,
    linesWithin key (logged options calls).records
        (fun t => start ≤ t && t < start + options.intervalMs) ≤ 1 ∧
      linesWithin key (logged options calls).records
        (fun t => start < t && t ≤ start + options.intervalMs) ≤ 1
  loses : ∀ key, (calls.countP fun call => call.key = key) =
    fullLines key (logged options calls).records + summaries key (logged options calls).records +
      repetitions key (logged options calls).records + pending key (logged options calls).entries
  first : ∀ before call after, calls = before ++ call :: after →
    (∀ earlier ∈ before, earlier.key ≠ call.key) →
      (logged options calls).records[before.length]? = some ⟨call, some call.full⟩

end Runs

section Steps
variable {options : ThrottledLoggerOptions} {entries : Entries} {call : Call} {entry : Entry} {key : Utf16}

/-- What one call does: its key is new, or it is inside the window of its key, or the window is over. -/
lemma logError_cases (options : ThrottledLoggerOptions) (entries : Entries) (call : Call) :
    (Table.lookup Prod.fst call.key entries = none ∧
        logError options entries call =
          ((if options.maxKeys ≤ entries.length then entries.tail else entries) ++
            [(call.key, { windowStart := call.now })], some call.full)) ∨
      ∃ entry, Table.lookup Prod.fst call.key entries = some (call.key, entry) ∧
        ((call.now - entry.windowStart < options.intervalMs ∧
            logError options entries call =
              (entries.change call.key { entry with suppressed := entry.suppressed + 1 }, none)) ∨
          (entry.windowStart + options.intervalMs ≤ call.now ∧ ∃ line, line.skipped = entry.suppressed ∧
            logError options entries call =
              (entries.change call.key { windowStart := call.now }, some line))) := by
  rw [logError]
  cases found : Table.lookup Prod.fst call.key entries with
  | none => exact .inl ⟨rfl, rfl⟩
  | some pair =>
    obtain ⟨key, entry⟩ := pair
    obtain rfl : key = call.key := Table.lookup_key found
    refine .inr ⟨entry, rfl, ?_⟩
    dsimp only
    by_cases inside : call.now - entry.windowStart < options.intervalMs
    · rw [if_pos inside]
      exact .inl ⟨inside, rfl⟩
    · rw [if_neg inside]
      refine .inr ⟨by linarith, ?_⟩
      by_cases none : entry.suppressed = 0
      · rw [if_pos none]
        exact ⟨call.full, none.symm, rfl⟩
      · rw [if_neg none]
        exact ⟨call.summary options entry.suppressed, rfl, rfl⟩

lemma keys_change : (entries.change key entry).map Prod.fst = entries.map Prod.fst :=
  Table.keys_update fun _ _ => rfl

lemma lookup_change {old : Entry} (found : Table.lookup Prod.fst key entries = some (key, old)) :
    Table.lookup Prod.fst key (entries.change key entry) = some (key, entry) := by
  have keeps : ∀ pair : Utf16 × Entry, pair.1 = key → (pair.1, entry).1 = key := fun _ is => is
  rw [Entries.change, Table.lookup_update keeps, found]
  rfl

lemma lookup_change_ne {other : Utf16} (ne : other ≠ key) :
    Table.lookup Prod.fst other (entries.change key entry) = Table.lookup Prod.fst other entries :=
  Table.lookup_update_ne (fun _ is => is) ne

/-- The number of keys stays within its bound. -/
lemma length_logError (small : (entries.length : ℤ) ≤ max options.maxKeys 1) :
    ((logError options entries call).1.length : ℤ) ≤ max options.maxKeys 1 := by
  have same {entry : Entry} : (entries.change call.key entry).length = entries.length :=
    List.length_map ..
  rcases logError_cases options entries call with ⟨-, is⟩ | ⟨entry, -, ⟨-, is⟩ | ⟨-, line, -, is⟩⟩
  · rw [is, List.length_append, List.length_singleton]
    split
    · rw [List.length_tail]
      omega
    · omega
  · rw [is, same]
    exact small
  · rw [is, same]
    exact small

end Steps

section Balance
variable {key : Utf16} {records : List Record} {r : Record} {line : Line} {n : Nat}

/-- The calls of a key are accounted for, with a number of repetitions that are pending. -/
def Balanced (key : Utf16) (records : List Record) (pending : Nat) : Prop :=
  (records.countP fun r => r.call.key = key) =
    fullLines key records + summaries key records + repetitions key records + pending

/-- A call of another key changes nothing. -/
lemma Balanced.other (balanced : Balanced key records n) (ne : r.call.key ≠ key) :
    Balanced key (records ++ [r]) n := by
  unfold Balanced fullLines summaries repetitions at balanced ⊢
  simp [List.countP_append, List.filter_append, ne, balanced]

/-- A call without a line is one more that is pending. -/
lemma Balanced.silent (balanced : Balanced key records n) (is : r.call.key = key) (silent : r.line = none) :
    Balanced key (records ++ [r]) (n + 1) := by
  unfold Balanced fullLines summaries repetitions at balanced ⊢
  simp only [List.countP_append, List.countP_singleton, List.filter_append, List.map_append, List.sum_append]
  simp [is, silent]
  omega

/-- A line reports everything that is pending. -/
lemma Balanced.reported (balanced : Balanced key records line.skipped) (is : r.call.key = key)
    (written : r.line = some line) : Balanced key (records ++ [r]) 0 := by
  unfold Balanced fullLines summaries repetitions at balanced ⊢
  simp only [List.countP_append, List.countP_singleton, List.filter_append, List.map_append, List.sum_append]
  cases line with
  | full label context error =>
    simp [is, written, Line.isFull, Line.skipped] at balanced ⊢
    omega
  | summary skipped text =>
    simp [is, written, Line.isFull, Line.skipped] at balanced ⊢
    omega

/-- Of records that are apart, at most one satisfies what no two records that are apart do. -/
lemma countP_le_one {R : Record → Record → Prop} {p : Record → Bool} (apart : records.Pairwise R)
    (one : ∀ r r', p r = true → p r' = true → ¬ R r r') : records.countP p ≤ 1 := by
  induction records with
  | nil => exact Nat.zero_le 1
  | cons r records ih =>
    obtain ⟨first, apart⟩ := List.pairwise_cons.mp apart
    rw [List.countP_cons]
    by_cases here : p r = true
    · have none : records.countP p = 0 := by
        rw [List.countP_eq_zero]
        intro r' mem there
        exact one r r' here there (first r' mem)
      rw [none, if_pos here]
    · rw [if_neg here]
      exact ih apart

end Balance

section Invariant
variable {options : ThrottledLoggerOptions} {calls : List Call} {call : Call} {log : Log}

/-- Two lines of one key are at least one window apart. -/
def Spaced (options : ThrottledLoggerOptions) (r r' : Record) : Prop :=
  r.call.key = r'.call.key → r.line.isSome → r'.line.isSome → r.call.now + options.intervalMs ≤ r'.call.now

/-- What holds of a log after calls, while it had room for their keys. -/
structure Remembers (options : ThrottledLoggerOptions) (calls : List Call) (log : Log) : Prop where
  recorded : log.records.map Record.call = calls
  distinct : (log.entries.map Prod.fst).Nodup
  known : ∀ key, key ∈ log.entries.map Prod.fst ↔ key ∈ calls.map Call.key
  began : ∀ key entry, Table.lookup Prod.fst key log.entries = some (key, entry) →
    ∃ c ∈ calls, c.now = entry.windowStart
  written : ∀ key entry, Table.lookup Prod.fst key log.entries = some (key, entry) →
    ∀ r ∈ log.records, r.call.key = key → r.line.isSome → r.call.now ≤ entry.windowStart
  balanced : ∀ key, Balanced key log.records (pending key log.entries)
  spaced : log.records.Pairwise (Spaced options)

lemma lookup_eq_none_iff {entries : Entries} {key : Utf16} :
    Table.lookup Prod.fst key entries = none ↔ key ∉ entries.map Prod.fst := by
  rw [Table.lookup, List.find?_eq_none, List.mem_map]
  constructor
  · rintro none ⟨pair, mem, is⟩
    exact none pair mem (decide_eq_true is)
  · intro absent pair mem is
    exact absent ⟨pair, mem, of_decide_eq_true is⟩

lemma Remembers.mem_calls (holds : Remembers options calls log) {r : Record} (mem : r ∈ log.records) :
    r.call ∈ calls := by
  rw [← holds.recorded]
  exact List.mem_map_of_mem mem

/-- What a record is added to. -/
lemma Remembers.recorded_append (holds : Remembers options calls log) {line : Option Line} :
    (log.records ++ [({ call, line } : Record)]).map Record.call = calls ++ [call] := by
  rw [List.map_append, holds.recorded]
  rfl

/-- A call of a new key, for which there is room. -/
lemma Remembers.add (holds : Remembers options calls log)
    (new : Table.lookup Prod.fst call.key log.entries = none) :
    Remembers options (calls ++ [call])
      ⟨log.entries ++ [(call.key, { windowStart := call.now })], log.records ++ [⟨call, some call.full⟩]⟩ := by
  have absent : call.key ∉ log.entries.map Prod.fst := lookup_eq_none_iff.mp new
  have unheard {r : Record} (mem : r ∈ log.records) : r.call.key ≠ call.key := by
    intro same
    refine absent ((holds.known _).mpr ?_)
    rw [← same]
    exact List.mem_map_of_mem (holds.mem_calls mem)
  have here : Table.lookup Prod.fst call.key (log.entries ++ [(call.key, { windowStart := call.now })]) =
      some (call.key, { windowStart := call.now }) :=
    Table.lookup_append_new new rfl
  have elsewhere {key : Utf16} (ne : key ≠ call.key) :
      Table.lookup Prod.fst key (log.entries ++ [(call.key, { windowStart := call.now })]) =
        Table.lookup Prod.fst key log.entries :=
    Table.lookup_append_ne (Ne.symm ne)
  refine ⟨holds.recorded_append, ?_, ?_, ?_, ?_, ?_, ?_⟩
  · refine Table.nodup_append holds.distinct fun pair mem same => absent ?_
    exact List.mem_map.mpr ⟨pair, mem, same⟩
  · intro key
    rw [List.map_append, List.map_append, List.mem_append, List.mem_append, holds.known]
    rfl
  · intro key entry found
    by_cases same : key = call.key
    · subst same
      rw [here] at found
      cases found
      exact ⟨call, List.mem_append_right _ List.mem_cons_self, rfl⟩
    · rw [elsewhere same] at found
      obtain ⟨c, mem, is⟩ := holds.began key entry found
      exact ⟨c, List.mem_append_left _ mem, is⟩
  · intro key entry found r mem is some
    by_cases same : key = call.key
    · subst same
      rw [here] at found
      cases found
      rcases List.mem_append.mp mem with before | now
      · exact absurd is (unheard before)
      · rw [List.mem_singleton.mp now]
    · rw [elsewhere same] at found
      rcases List.mem_append.mp mem with before | now
      · exact holds.written key entry found r before is some
      · rw [List.mem_singleton.mp now] at is
        exact absurd is.symm same
  · intro key
    by_cases same : key = call.key
    · subst same
      have before : Balanced call.key log.records call.full.skipped := by
        have before := holds.balanced call.key
        rw [pending, new] at before
        exact before
      rw [pending, here]
      exact before.reported rfl rfl
    · rw [pending, elsewhere same]
      exact (holds.balanced key).other (Ne.symm same)
  · refine List.pairwise_append.mpr ⟨holds.spaced, List.pairwise_singleton _ _, ?_⟩
    intro r mem r' now same
    rw [List.mem_singleton.mp now] at same
    exact absurd same (unheard mem)

/-- A call of a key that is known, with its entry changed. -/
lemma Remembers.change {entry entry' : Entry} {line : Option Line} (holds : Remembers options calls log)
    (found : Table.lookup Prod.fst call.key log.entries = some (call.key, entry))
    (began : ∃ c ∈ calls ++ [call], c.now = entry'.windowStart)
    (later : entry.windowStart ≤ entry'.windowStart)
    (written : line.isSome → call.now ≤ entry'.windowStart)
    (balanced : Balanced call.key log.records entry.suppressed →
      Balanced call.key (log.records ++ [⟨call, line⟩]) entry'.suppressed)
    (spaced : line.isSome → entry.windowStart + options.intervalMs ≤ call.now) :
    Remembers options (calls ++ [call])
      ⟨log.entries.change call.key entry', log.records ++ [⟨call, line⟩]⟩ := by
  have there : call.key ∈ log.entries.map Prod.fst := by
    by_contra absent
    rw [lookup_eq_none_iff.mpr absent] at found
    cases found
  refine ⟨holds.recorded_append, ?_, ?_, ?_, ?_, ?_, ?_⟩
  · rw [keys_change]
    exact holds.distinct
  · intro key
    rw [keys_change, holds.known, List.map_append, List.mem_append]
    refine ⟨.inl, fun either => either.elim id fun now => ?_⟩
    rw [List.mem_singleton.mp now]
    exact (holds.known _).mp there
  · intro key e lookup
    by_cases here : key = call.key
    · subst here
      rw [lookup_change found] at lookup
      cases lookup
      exact began
    · rw [lookup_change_ne here] at lookup
      obtain ⟨c, mem, is⟩ := holds.began key e lookup
      exact ⟨c, List.mem_append_left _ mem, is⟩
  · intro key e lookup r mem is some
    by_cases here : key = call.key
    · subst here
      rw [lookup_change found] at lookup
      cases lookup
      rcases List.mem_append.mp mem with before | now
      · exact (holds.written _ entry found r before is some).trans later
      · rw [List.mem_singleton.mp now] at some ⊢
        exact written some
    · rw [lookup_change_ne here] at lookup
      rcases List.mem_append.mp mem with before | now
      · exact holds.written key e lookup r before is some
      · rw [List.mem_singleton.mp now] at is
        exact absurd is.symm here
  · intro key
    by_cases here : key = call.key
    · subst here
      have before := holds.balanced call.key
      rw [pending, found] at before
      rw [pending, lookup_change found]
      exact balanced before
    · rw [pending, lookup_change_ne here]
      exact (holds.balanced key).other (Ne.symm here)
  · refine List.pairwise_append.mpr ⟨holds.spaced, List.pairwise_singleton _ _, ?_⟩
    intro r mem r' now same some some'
    rw [List.mem_singleton.mp now] at same some' ⊢
    have before := holds.written _ entry found r mem same some
    have apart := spaced some'
    show r.call.now + options.intervalMs ≤ call.now
    linarith

/-- The step lemma: a call that is not before the others, and for whose key there is room. -/
lemma Remembers.step (holds : Remembers options calls log) (latest : ∀ c ∈ calls, c.now ≤ call.now)
    (room : call.key ∉ calls.map Call.key → (log.entries.length : ℤ) < options.maxKeys) :
    Remembers options (calls ++ [call]) (log.step options call) := by
  rcases logError_cases options log.entries call with
    ⟨new, is⟩ | ⟨entry, found, ⟨-, is⟩ | ⟨ended, line, skipped, is⟩⟩
  · have absent : call.key ∉ calls.map Call.key := fun mem =>
      lookup_eq_none_iff.mp new ((holds.known _).mpr mem)
    rw [Log.step, is, if_neg (not_le.mpr (room absent))]
    exact holds.add new
  · obtain ⟨c, mem, began⟩ := holds.began _ _ found
    rw [Log.step, is]
    refine holds.change found ⟨c, List.mem_append_left _ mem, began⟩ le_rfl ?_ ?_ ?_
    · intro some
      cases some
    · intro before
      exact before.silent rfl rfl
    · intro some
      cases some
  · obtain ⟨c, mem, began⟩ := holds.began _ _ found
    have later : entry.windowStart ≤ call.now := by
      rw [← began]
      exact latest c mem
    rw [Log.step, is]
    refine holds.change found ⟨call, List.mem_append_right _ List.mem_cons_self, rfl⟩ later ?_ ?_ ?_
    · intro _
      exact le_rfl
    · intro before
      rw [← skipped] at before
      exact before.reported rfl rfl
    · intro _
      exact ended

/-- There is room for a new key as long as there are no more keys than the logger may remember. -/
lemma Remembers.room (holds : Remembers options calls log)
    (few : (((calls ++ [call]).map Call.key).toFinset.card : ℤ) ≤ options.maxKeys)
    (new : call.key ∉ calls.map Call.key) : (log.entries.length : ℤ) < options.maxKeys := by
  have same : (log.entries.map Prod.fst).toFinset = (calls.map Call.key).toFinset := by
    ext key
    rw [List.mem_toFinset, List.mem_toFinset]
    exact holds.known key
  have remembered : log.entries.length = (calls.map Call.key).toFinset.card := by
    rw [← same, List.toFinset_card_of_nodup holds.distinct, List.length_map]
  have more : ((calls ++ [call]).map Call.key).toFinset.card = (calls.map Call.key).toFinset.card + 1 := by
    rw [List.map_append, List.map_singleton, List.toFinset_append, Finset.union_comm]
    exact Finset.card_insert_of_notMem fun mem => new (List.mem_toFinset.mp mem)
  omega

lemma logged_append : logged options (calls ++ [call]) = (logged options calls).step options call := by
  rw [logged, List.foldl_append]
  rfl

/-- The run lemma. -/
lemma remembers (clock : calls.Pairwise fun c c' => c.now ≤ c'.now)
    (few : ((calls.map Call.key).toFinset.card : ℤ) ≤ options.maxKeys) :
    Remembers options calls (logged options calls) := by
  induction calls using List.reverseRecOn with
  | nil =>
    have start : Remembers options [] {} := by
      refine ⟨rfl, List.nodup_nil, fun _ => Iff.rfl, ?_, ?_, fun _ => rfl, List.Pairwise.nil⟩
      · intro key entry found
        cases found
      · intro key entry found
        cases found
    exact start
  | append_singleton calls call ih =>
    obtain ⟨before, -, latest⟩ := List.pairwise_append.mp clock
    have fewer : ((calls.map Call.key).toFinset.card : ℤ) ≤ options.maxKeys := by
      refine le_trans ?_ few
      rw [List.map_append, List.toFinset_append]
      exact_mod_cast Finset.card_le_card Finset.subset_union_left
    have holds := ih before fewer
    rw [logged_append]
    exact holds.step (fun c mem => latest c mem call List.mem_cons_self) (holds.room few)

/-- Whatever is called, at whatever times: the number of keys stays within its bound. -/
lemma length_logged : ((logged options calls).entries.length : ℤ) ≤ max options.maxKeys 1 := by
  induction calls using List.reverseRecOn with
  | nil => exact le_max_of_le_right zero_le_one
  | append_singleton calls call ih =>
    rw [logged_append]
    exact length_logError ih

/-- What later calls do is added behind the records of the earlier ones. -/
lemma records_logged (options : ThrottledLoggerOptions) (calls after : List Call) :
    ∃ later, (logged options (calls ++ after)).records = (logged options calls).records ++ later := by
  induction after using List.reverseRecOn with
  | nil => exact ⟨[], by rw [List.append_nil, List.append_nil]⟩
  | append_singleton after call ih =>
    obtain ⟨later, is⟩ := ih
    have next : (logged options (calls ++ after)).step options call =
        logged options (calls ++ (after ++ [call])) := by
      rw [← List.append_assoc, logged_append]
    refine ⟨later ++ [⟨call, (logError options (logged options (calls ++ after)).entries call).2⟩], ?_⟩
    rw [← next, ← List.append_assoc, ← is]
    rfl

/-- No two lines of one key are at times that are less than one window apart. -/
lemma Remembers.linesWithin_le (holds : Remembers options calls log) (key : Utf16) {times : ℚ → Bool}
    (close : ∀ t t', times t = true → times t' = true → t' < t + options.intervalMs) :
    linesWithin key log.records times ≤ 1 := by
  refine countP_le_one holds.spaced fun r r' first second apart => ?_
  simp only [Bool.and_eq_true, decide_eq_true_eq] at first second
  obtain ⟨⟨is, some⟩, time⟩ := first
  obtain ⟨⟨is', some'⟩, time'⟩ := second
  have gap := apart (is.trans is'.symm) some some'
  have near := close _ _ time time'
  linarith

/-- The calls of a key are the records of it. -/
lemma Remembers.countP_calls (holds : Remembers options calls log) (key : Utf16) :
    (calls.countP fun call => call.key = key) = log.records.countP fun r => r.call.key = key := by
  rw [← holds.recorded, List.countP_map]
  rfl

/-- A call whose key nobody remembers is printed in full. -/
lemma Remembers.step_first (holds : Remembers options calls log)
    (new : ∀ earlier ∈ calls, earlier.key ≠ call.key) :
    (log.step options call).records = log.records ++ [⟨call, some call.full⟩] := by
  have unknown : Table.lookup Prod.fst call.key log.entries = none := by
    rw [lookup_eq_none_iff, holds.known, List.mem_map]
    rintro ⟨earlier, mem, same⟩
    exact new earlier mem same
  rcases logError_cases options log.entries call with ⟨-, is⟩ | ⟨entry, found, -⟩
  · rw [Log.step, is]
  · rw [unknown] at found
    cases found

/-- A lease that fails to renew: a repetition inside the window, and one after it. -/
def renewals : List Call :=
  [0, 15000, 61000].map fun now => ⟨Utf16.ofString "lease", .other (Utf16.ofString "redis"), none, now⟩

end Invariant

end AtomsPlatform.Run.Throttled
