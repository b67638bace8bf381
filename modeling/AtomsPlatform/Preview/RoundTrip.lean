import AtomsPlatform.Lib.Sha256
import AtomsPlatform.Preview.Ticket

/-!
# Preview tickets: round trip

The parts of a ticket are numbers in base 36 of a fixed width, so each of them is read back as it was
written, and what is read is written again as it was. A session comes back in lower case: a ticket is
accepted with the session it was issued for exactly if no digit of it is a capital letter. A host that
is accepted is the one that is issued for its session and expiry.
-/

namespace AtomsPlatform.Preview
open Regex
variable {primitives : Primitives} {signer : PreviewTicketSigner}

section Uuids
variable {hex : List Char} {sessionId : String}

/-- A digit of a UUID, and its value. -/
lemma anyHexDigit : ∀ c ∈ Database.anyHexDigits, c ≠ '-' ∧ c.toLower ∈ base16.symbols ∧
    c.toLower ∈ Database.anyHexDigits ∧ (c.toLower = c ↔ c.isUpper = false) :=
  List.all_iff_forall_prop.mp (by decide)

lemma hexDigit : ∀ c ∈ base16.symbols, c ∈ Database.anyHexDigits ∧ c.toLower = c :=
  List.all_iff_forall_prop.mp (by decide)

/-- A group of digits of a UUID. -/
def IsGroup (n : Nat) (group : List Char) : Prop :=
  group.length = n ∧ ∀ c ∈ group, c ∈ Database.anyHexDigits

/-- A group whose first digit is restricted. -/
lemma group_of_mem {first : List Char} {w : List Char} (digits : ∀ c ∈ first, c ∈ Database.anyHexDigits)
    (mem : w ∈ (oneOf first * oneOf Database.anyHexDigits ^ 3 * literal ['-']).matches') :
    ∃ group, IsGroup 4 group ∧ w = group ++ ['-'] := by
  obtain ⟨group, inside, hyphen, ends, rfl⟩ := mem_mul.mp mem
  obtain ⟨x, head, tail, others, rfl⟩ := mem_mul.mp inside
  obtain ⟨c, allowed, rfl⟩ := mem_oneOf.mp head
  obtain ⟨three, all⟩ := mem_oneOf_pow.mp others
  refine ⟨[c] ++ tail, ⟨by simp [three], fun d mem => ?_⟩, by rw [mem_literal.mp ends]⟩
  obtain rfl | mem := List.mem_cons.mp mem
  · exact digits _ allowed
  · exact all d mem

/-- A UUID is five groups with hyphens in between. -/
lemma uuid_groups (valid : isSessionId sessionId = true) : ∃ a b c d e,
    (IsGroup 8 a ∧ IsGroup 4 b ∧ IsGroup 4 c ∧ IsGroup 4 d ∧ IsGroup 12 e) ∧
      sessionId.toList = a ++ '-' :: (b ++ '-' :: (c ++ '-' :: (d ++ '-' :: e))) := by
  have mem := (RegularExpression.rmatch_iff_matches' _ _).mp valid
  rw [Database.uuidPattern, RegularExpression.matches'_add, Language.mem_add] at mem
  obtain mem | mem := mem
  · obtain ⟨a, groupA, x, restA, whole⟩ := mem_mul.mp mem
    obtain ⟨h, hyphenA, x', rest, rfl⟩ := mem_mul.mp restA
    obtain ⟨b, groupB, y, restB, rfl⟩ := mem_mul.mp rest
    obtain ⟨i, hyphenB, y', rest', rfl⟩ := mem_mul.mp restB
    obtain ⟨c', groupC, z, restC, rfl⟩ := mem_mul.mp rest'
    obtain ⟨d', groupD, e, groupE, rfl⟩ := mem_mul.mp restC
    obtain ⟨c, fourC, rfl⟩ := group_of_mem (List.all_iff_forall_prop.mp (by decide)) groupC
    obtain ⟨d, fourD, rfl⟩ := group_of_mem (List.all_iff_forall_prop.mp (by decide)) groupD
    refine ⟨a, b, c, d, e, ⟨mem_oneOf_pow.mp groupA, mem_oneOf_pow.mp groupB, fourC, fourD,
      mem_oneOf_pow.mp groupE⟩, ?_⟩
    rw [← whole, mem_literal.mp hyphenA, mem_literal.mp hyphenB]
    simp
  · -- the nil and the maximal UUID
    have uniform (digit : Char) (n : Nat) (hex : digit ∈ Database.anyHexDigits) :
        IsGroup n (List.replicate n digit) :=
      ⟨List.length_replicate, fun c mem => List.eq_of_mem_replicate mem ▸ hex⟩
    have whole (digit : Char) (hex : digit ∈ Database.anyHexDigits) :=
      And.intro (uniform digit 8 hex) (And.intro (uniform digit 4 hex)
        (And.intro (uniform digit 4 hex) (And.intro (uniform digit 4 hex) (uniform digit 12 hex))))
    rw [RegularExpression.matches'_add, Language.mem_add, mem_literal, mem_literal] at mem
    obtain e | e := mem
    · exact ⟨_, _, _, _, _, whole '0' (by decide), e.trans (by decide)⟩
    · exact ⟨_, _, _, _, _, whole 'f' (by decide), e.trans (by decide)⟩

/-- Five groups with hyphens in between are a UUID, if the first digits of the third and of the fourth
    are those of a version and of a variant. -/
lemma isSessionId_of_groups {a b c d e : List Char} {version variant : Char}
    (versioned : version ∈ "12345678".toList) (varied : variant ∈ "89abAB".toList)
    (groups : IsGroup 8 a ∧ IsGroup 4 b ∧ IsGroup 3 c ∧ IsGroup 3 d ∧ IsGroup 12 e)
    (whole : sessionId.toList =
      a ++ (['-'] ++ (b ++ (['-'] ++ ([version] ++ c ++ ['-'] ++ ([variant] ++ d ++ ['-'] ++ e)))))) :
    isSessionId sessionId = true := by
  obtain ⟨eight, four, three, three', twelve⟩ := groups
  have hyphen : ['-'] ∈ (literal ['-']).matches' := mem_literal.mpr rfl
  rw [isSessionId, RegularExpression.rmatch_iff_matches', whole, Database.uuidPattern,
    RegularExpression.matches'_add, Language.mem_add]
  left
  refine mem_mul.mpr ⟨_, mem_oneOf_pow.mpr eight, _, mem_mul.mpr ⟨_, hyphen, _, ?_, rfl⟩, rfl⟩
  refine mem_mul.mpr ⟨_, mem_oneOf_pow.mpr four, _, mem_mul.mpr ⟨_, hyphen, _, ?_, rfl⟩, rfl⟩
  refine mem_mul.mpr ⟨_, mem_mul.mpr ⟨_, mem_mul.mpr ⟨_, mem_oneOf.mpr ⟨_, versioned, rfl⟩, _,
    mem_oneOf_pow.mpr three, rfl⟩, _, hyphen, rfl⟩, _, ?_, rfl⟩
  exact mem_mul.mpr ⟨_, mem_mul.mpr ⟨_, mem_mul.mpr ⟨_, mem_oneOf.mpr ⟨_, varied, rfl⟩, _,
    mem_oneOf_pow.mpr three', rfl⟩, _, hyphen, rfl⟩, _, mem_oneOf_pow.mpr twelve, rfl⟩

/-- A UUID is 32 digits with hyphens in between. -/
lemma uuid_digits (valid : isSessionId sessionId = true) :
    ∃ hex, IsGroup 32 hex ∧ sessionId.toList = hyphenateUuid hex := by
  obtain ⟨a, b, c, d, e, ⟨⟨eight, hexA⟩, ⟨four, hexB⟩, ⟨four', hexC⟩, ⟨four'', hexD⟩, twelve, hexE⟩,
    whole⟩ := uuid_groups valid
  refine ⟨a ++ (b ++ (c ++ (d ++ e))), ⟨by simp [*], fun x mem => ?_⟩, ?_⟩
  · simp only [List.mem_append] at mem
    obtain mem | mem | mem | mem | mem := mem
    · exact hexA x mem
    · exact hexB x mem
    · exact hexC x mem
    · exact hexD x mem
    · exact hexE x mem
  · have first : (a ++ (b ++ (c ++ (d ++ e)))).drop 8 = b ++ (c ++ (d ++ e)) := List.drop_left' eight
    have second : (a ++ (b ++ (c ++ (d ++ e)))).drop 12 = c ++ (d ++ e) := by
      rw [← List.drop_drop (i := 4) (j := 8), first]
      exact List.drop_left' four
    have third : (a ++ (b ++ (c ++ (d ++ e)))).drop 16 = d ++ e := by
      rw [← List.drop_drop (i := 4) (j := 12), second]
      exact List.drop_left' four'
    have fourth : (a ++ (b ++ (c ++ (d ++ e)))).drop 20 = e := by
      rw [← List.drop_drop (i := 4) (j := 16), third]
      exact List.drop_left' four''
    rw [whole, hyphenateUuid, first, second, third, fourth, List.take_left' eight,
      List.take_left' four, List.take_left' four', List.take_left' four'']
    simp

/-- A UUID in lower case is a UUID. -/
lemma uuid_lower (valid : isSessionId sessionId = true) :
    isSessionId (String.ofList (sessionId.toList.map Char.toLower)) = true := by
  have digits : ∀ c ∈ Database.anyHexDigits, c.toLower ∈ Database.anyHexDigits :=
    fun c mem => (anyHexDigit c mem).2.2.1
  have versions : ∀ c ∈ "12345678".toList, c.toLower ∈ "12345678".toList :=
    List.all_iff_forall_prop.mp (by decide)
  have variants : ∀ c ∈ "89abAB".toList, c.toLower ∈ "89abAB".toList :=
    List.all_iff_forall_prop.mp (by decide)
  have hyphens : ClosedUnder Char.toLower (literal ['-']) := closed_literal rfl
  have closed : ClosedUnder Char.toLower Database.uuidPattern := by
    refine .add ?_ (.add (closed_literal (by decide)) (closed_literal (by decide)))
    refine (closed_oneOf_pow digits).mul (hyphens.mul ((closed_oneOf_pow digits).mul (hyphens.mul ?_)))
    refine (((closed_oneOf versions).mul (closed_oneOf_pow digits)).mul hyphens).mul ?_
    exact (((closed_oneOf variants).mul (closed_oneOf_pow digits)).mul hyphens).mul
      (closed_oneOf_pow digits)
  rw [isSessionId, String.toList_ofList, RegularExpression.rmatch_iff_matches']
  exact closed _ ((RegularExpression.rmatch_iff_matches' _ _).mp valid)

lemma hyphenateUuid_map {f : Char → Char} (fixed : f '-' = '-') :
    hyphenateUuid (hex.map f) = (hyphenateUuid hex).map f := by
  simp [hyphenateUuid, fixed]

/-- Without the hyphens, the digits are left. -/
lemma filter_hyphenateUuid (digits : ∀ c ∈ hex, c ≠ '-') :
    (hyphenateUuid hex).filter (fun c => c ≠ '-') = hex := by
  have kept {l : List Char} (inside : l.Sublist hex) : l.filter (fun c => c ≠ '-') = l :=
    List.filter_eq_self.mpr fun c mem => decide_eq_true (digits c (inside.subset mem))
  have skip {l : List Char} : ('-' :: l).filter (fun c => c ≠ '-') = l.filter fun c => c ≠ '-' :=
    List.filter_cons_of_neg (by simp)
  have middle (i : Nat) : ((hex.drop i).take 4).Sublist hex :=
    (List.take_sublist ..).trans (List.drop_sublist ..)
  rw [hyphenateUuid]
  simp only [List.filter_append, skip, kept (List.take_sublist 8 hex), kept (middle 8),
    kept (middle 12), kept (middle 16), kept (List.drop_sublist 20 hex)]
  have rejoin (i : Nat) : (hex.drop i).take 4 ++ hex.drop (i + 4) = hex.drop i := by
    rw [← List.drop_drop, List.take_append_drop]
  rw [List.append_assoc, List.append_assoc, List.append_assoc, rejoin 16, rejoin 12, rejoin 8,
    List.take_append_drop]

end Uuids

section Encoding
variable {sessionId : String} {label : Utf16}

/-- A UUID is in lower case if none of its digits is a capital letter. -/
lemma lower_iff (valid : isSessionId sessionId = true) :
    sessionId.toList.map Char.toLower = sessionId.toList ↔
      ∀ c ∈ sessionId.toList, c.isUpper = false := by
  have mem := (RegularExpression.rmatch_iff_matches' _ _).mp valid
  have letters : ∀ c ∈ letters Database.uuidPattern, c.toLower = c ↔ c.isUpper = false :=
    List.all_iff_forall_prop.mp (by decide +kernel)
  constructor
  · intro same c inside
    have fixed := List.map_inj_left.mp (same.trans (List.map_id _).symm) c inside
    exact (letters c (mem_letters mem inside)).mp fixed
  · intro lower
    refine (List.map_inj_left.mpr fun c inside => ?_).trans (List.map_id _)
    exact (letters c (mem_letters mem inside)).mpr (lower c inside)

/-- The number of a UUID is below 2 ^ 128. -/
lemma hexToBigInt_lt {hex : List Char} (group : IsGroup 32 hex) : hexToBigInt hex < 2 ^ 128 := by
  have bound := Radix.Alphabet.value_lt (A := base16) (l := hex.map Char.toLower) fun c mem => by
    obtain ⟨d, inside, rfl⟩ := List.mem_map.mp mem
    exact (anyHexDigit d (group.2 d inside)).2.1
  rw [List.length_map, group.1] at bound
  exact bound

/-- A number below 2 ^ 128 has 25 digits in base 36, with zeros in front. -/
lemma length_base36 {n : Nat} (small : n < 2 ^ 128) :
    (base36.padStart 25 (base36.toText n)).length = 25 := by
  rw [Radix.Alphabet.length_padStart_toText (by decide)]
  exact small.trans (by decide)

lemma base36_digits {n w : Nat} : ∀ u ∈ base36.padStart w (base36.toText n), u ∈ base36.symbols :=
  fun _ mem => Radix.Alphabet.padStart_mem (fun _ => Radix.Alphabet.toText_mem) mem

lemma parseBase36_eq (digits : ∀ u ∈ label, u ∈ base36.symbols) :
    parseBase36 label = some (base36.value label) := by
  rw [parseBase36, if_pos]
  exact List.all_eq_true.mpr fun u mem => decide_eq_true (digits u mem)

/-- A session is read back in lower case. -/
lemma decode_encode (valid : isSessionId sessionId = true) :
    decodeUuidBase36 (encodeUuidBase36 sessionId) =
      some (String.ofList (sessionId.toList.map Char.toLower)) := by
  obtain ⟨hex, group, whole⟩ := uuid_digits valid
  have plain : sessionId.toList.filter (fun c => c ≠ '-') = hex := by
    rw [whole]
    exact filter_hyphenateUuid fun c mem => (anyHexDigit c (group.2 c mem)).1
  have small := hexToBigInt_lt group
  have text : base16.padStart 32 (base16.toText (hexToBigInt hex)) = hex.map Char.toLower := by
    refine Radix.Alphabet.padStart_toText_value (fun c mem => ?_) ?_ (by decide)
    · obtain ⟨d, inside, rfl⟩ := List.mem_map.mp mem
      exact (anyHexDigit d (group.2 d inside)).2.1
    · rw [List.length_map, group.1]
  have lower : hyphenateUuid (hex.map Char.toLower) = sessionId.toList.map Char.toLower := by
    rw [hyphenateUuid_map rfl, whole]
  rw [decodeUuidBase36, encodeUuidBase36, plain, parseBase36_eq base36_digits,
    Radix.Alphabet.value_padStart_toText]
  dsimp only
  rw [if_neg (by omega), text, lower, if_pos (uuid_lower valid)]

/-- The session that a label is read as is in lower case, and written as this label. -/
lemma encode_decode (digits : ∀ u ∈ label, u ∈ base36.symbols) (length : label.length = 25)
    (e : decodeUuidBase36 label = some sessionId) :
    isSessionId sessionId = true ∧ encodeUuidBase36 sessionId = label := by
  rw [decodeUuidBase36, parseBase36_eq digits] at e
  dsimp only at e
  split at e
  · cases e
  rename_i small
  split at e
  · rename_i valid
    cases e
    refine ⟨valid, ?_⟩
    have hex : ∀ c ∈ base16.padStart 32 (base16.toText (base36.value label)), c ∈ base16.symbols :=
      fun _ mem => Radix.Alphabet.padStart_mem (fun _ => Radix.Alphabet.toText_mem) mem
    rw [encodeUuidBase36, String.toList_ofList, filter_hyphenateUuid
      (fun c mem => (anyHexDigit c (hexDigit c (hex c mem)).1).1), hexToBigInt,
      List.map_congr_left (g := id) fun c mem => (hexDigit c (hex c mem)).2, List.map_id,
      Radix.Alphabet.value_padStart_toText]
    exact Radix.Alphabet.padStart_toText_value digits length (by decide)
  · cases e

/-- The parts of a ticket are the only ones it consists of. -/
lemma isTicketLabel_iff : isTicketLabel label = true ↔ ∃ sessionLabel expiryLabel signature,
    label = ticketLabel sessionLabel expiryLabel signature ∧
      (sessionLabel.length = 25 ∧ ∀ u ∈ sessionLabel, u ∈ base36.symbols) ∧
      (expiryLabel.length = 9 ∧ ∀ u ∈ expiryLabel, u ∈ base36.symbols) ∧
      (signature.length = 25 ∧ ∀ u ∈ signature, u ∈ base36.symbols) := by
  rw [isTicketLabel, Bool.and_eq_true, decide_eq_true_eq, RegularExpression.rmatch_iff_matches',
    ticketLabelPattern]
  constructor
  · rintro ⟨-, mem⟩
    obtain ⟨x, session, y, rest, rfl⟩ := mem_mul.mp mem
    obtain ⟨h, hyphen, y', rest', rfl⟩ := mem_mul.mp rest
    obtain ⟨e, expiry, z, rest'', rfl⟩ := mem_mul.mp rest'
    obtain ⟨i, hyphen', signature, mac, rfl⟩ := mem_mul.mp rest''
    rw [mem_literal.mp hyphen, mem_literal.mp hyphen']
    exact ⟨x, e, signature, by simp [ticketLabel], mem_oneOf_pow.mp session, mem_oneOf_pow.mp expiry,
      mem_oneOf_pow.mp mac⟩
  · rintro ⟨x, e, signature, rfl, session, expiry, mac⟩
    refine ⟨by simp [ticketLabel, session.1, expiry.1, mac.1], ?_⟩
    refine mem_mul.mpr ⟨x, mem_oneOf_pow.mpr session, hyphen :: e ++ hyphen :: signature, ?_,
      by simp [ticketLabel]⟩
    refine mem_mul.mpr ⟨[hyphen], mem_literal.mpr rfl, e ++ hyphen :: signature, ?_, rfl⟩
    refine mem_mul.mpr ⟨e, mem_oneOf_pow.mpr expiry, hyphen :: signature, ?_, rfl⟩
    exact mem_mul.mpr ⟨[hyphen], mem_literal.mpr rfl, signature, mem_oneOf_pow.mpr mac, rfl⟩

/-- A digit is neither a hyphen nor a space, and in lower case. -/
lemma base36_unit : ∀ u ∈ base36.symbols,
    u ≠ hyphen ∧ u.toNat < 128 ∧ Utf16.asciiLower u = u ∧ Utf16.isSpace u.toNat = false :=
  List.all_iff_forall_prop.mp (by decide)

/-- The parts of a ticket are found again. -/
lemma splitTicket_ticketLabel {sessionLabel expiryLabel signature : Utf16}
    (session : ∀ u ∈ sessionLabel, u ∈ base36.symbols)
    (expiry : ∀ u ∈ expiryLabel, u ∈ base36.symbols)
    (mac : ∀ u ∈ signature, u ∈ base36.symbols) :
    splitTicket (ticketLabel sessionLabel expiryLabel signature) =
      some (sessionLabel, expiryLabel, signature) := by
  have plain {part : Utf16} (digits : ∀ u ∈ part, u ∈ base36.symbols) : hyphen ∉ part :=
    fun mem => (base36_unit hyphen (digits hyphen mem)).1 rfl
  have parts : ticketLabel sessionLabel expiryLabel signature =
      [hyphen].intercalate [sessionLabel, expiryLabel, signature] := by
    simp [ticketLabel, List.intercalate, List.intersperse]
  have split : (ticketLabel sessionLabel expiryLabel signature).splitOn hyphen =
      [sessionLabel, expiryLabel, signature] := by
    rw [parts]
    refine List.splitOn_intercalate hyphen (fun part mem => ?_) (List.cons_ne_nil _ _)
    simp only [List.mem_cons, List.not_mem_nil, or_false] at mem
    obtain rfl | rfl | rfl := mem
    · exact plain session
    · exact plain expiry
    · exact plain mac
  rw [splitTicket, split]

end Encoding

section Hosts

/-- A label of a domain consists of digits, letters in lower case and hyphens. -/
lemma domainLabel_unit : ∀ u ∈ letters domainLabel, u = hyphen ∨ u ∈ base36.symbols := by
  intro u mem
  have classes : u ∈ letters (oneOf base36.symbols) ++ ([] ++
      (letters (optional (oneOf (hyphen :: base36.symbols)) ^ 61) ++ letters (oneOf base36.symbols))) :=
    mem
  simp only [List.mem_append, List.not_mem_nil, false_or, letters_oneOf] at classes
  obtain inside | inside | inside := classes
  · exact .inr inside
  · have once := mem_letters_pow inside
    have once : u ∈ [] ++ letters (oneOf (hyphen :: base36.symbols)) := once
    rw [letters_oneOf] at once
    exact List.mem_cons.mp once
  · exact .inr inside

/-- A domain has no other characters than digits, letters in lower case, hyphens and dots. -/
lemma domain_unit (signer : PreviewTicketSigner) : ∀ u ∈ signer.baseDomain,
    u.toNat < 128 ∧ Utf16.asciiLower u = u ∧ Utf16.isSpace u.toNat = false ∧ u ≠ 58 := by
  have mem := (RegularExpression.rmatch_iff_matches' _ _).mp signer.domain.2.2
  have plain : ∀ u ∈ dot :: hyphen :: base36.symbols,
      u.toNat < 128 ∧ Utf16.asciiLower u = u ∧ Utf16.isSpace u.toNat = false ∧ u ≠ 58 :=
    List.all_iff_forall_prop.mp (by decide)
  have dots : letters (literal [dot]) = [dot] := letters_literal
  intro u inside
  apply plain u
  have classes : u ∈ ((letters domainLabel ++ letters (literal [dot])) ++
      (letters domainLabel ++ letters (literal [dot]))) ++ letters domainLabel :=
    mem_letters mem inside
  rw [dots] at classes
  simp only [List.mem_append, List.mem_singleton] at classes
  have label (there : u ∈ letters domainLabel) : u ∈ dot :: hyphen :: base36.symbols :=
    List.mem_cons_of_mem dot (List.mem_cons.mpr (domainLabel_unit u there))
  obtain ((there | rfl) | there | rfl) | there := classes
  · exact label there
  · exact List.mem_cons_self
  · exact label there
  · exact List.mem_cons_self
  · exact label there

/-- A host without a colon has no port. -/
lemma removePort_of_forall {host : Utf16} (plain : ∀ u ∈ host, u ≠ 58) : removePort host = host := by
  rw [removePort]
  cases e : (host.rdropWhile isDigit).getLast? with
  | none => rfl
  | some last =>
    have mem : last ∈ host :=
      (List.rdropWhile_prefix isDigit host).subset (List.mem_of_getLast? e)
    exact if_neg fun both => plain last mem both.1

/-- The host of a ticket is in normal form. -/
lemma normalizeHost_host {label : Utf16} (ticket : isTicketLabel label = true) :
    normalizeHost primitives (signer.host label) = signer.host label := by
  have plain : ∀ u ∈ signer.host label,
      u.toNat < 128 ∧ Utf16.asciiLower u = u ∧ Utf16.isSpace u.toNat = false ∧ u ≠ 58 := by
    obtain ⟨session, expiry, mac, rfl, ⟨-, hexS⟩, ⟨-, hexE⟩, -, hexM⟩ := isTicketLabel_iff.mp ticket
    have digit {part : Utf16} (digits : ∀ u ∈ part, u ∈ base36.symbols) (u : UInt16) (mem : u ∈ part) :
        u.toNat < 128 ∧ Utf16.asciiLower u = u ∧ Utf16.isSpace u.toNat = false ∧ u ≠ 58 := by
      have colon : ∀ u ∈ base36.symbols, u ≠ 58 := List.all_iff_forall_prop.mp (by decide)
      obtain ⟨-, ascii, lower, space⟩ := base36_unit u (digits u mem)
      exact ⟨ascii, lower, space, colon u (digits u mem)⟩
    intro u mem
    simp only [PreviewTicketSigner.host, ticketLabel, List.mem_append, List.mem_cons] at mem
    obtain ((mem | rfl | mem) | rfl | mem) | rfl | mem := mem
    · exact digit hexS u mem
    · decide
    · exact digit hexE u mem
    · decide
    · exact digit hexM u mem
    · decide
    · exact domain_unit signer u mem
  rw [normalizeHost, Utf16.trim_of_forall fun u mem => (plain u mem).2.2.1,
    primitives.lowerCase.unchanged fun u mem => ⟨(plain u mem).1, (plain u mem).2.1⟩,
    removePort_of_forall fun u mem => (plain u mem).2.2.2]

/-- The label in front of the domain. -/
lemma label_of_host {label : Utf16} :
    (dot :: signer.baseDomain) <:+ signer.host label ∧
      (signer.host label).take
        ((signer.host label).length - (dot :: signer.baseDomain).length) = label := by
  refine ⟨List.suffix_append _ _, ?_⟩
  rw [PreviewTicketSigner.host, List.length_append, Nat.add_sub_cancel]
  exact List.take_left

end Hosts

section Issued
variable {now : Int} {sessionId : String} {expiresAt : Option Int} {label : Utf16}

/-- What is known of a label that was issued. -/
structure IssuedLabel (primitives : Primitives) (signer : PreviewTicketSigner) (now : Int)
    (sessionId : String) (time : Int) (label : Utf16) : Prop where
  session : isSessionId sessionId = true
  future : now < time
  nonneg : 0 ≤ time
  small : time.toNat < 36 ^ 9
  text : label = ticketLabel (encodeUuidBase36 sessionId)
    (base36.padStart 9 (base36.toText time.toNat))
    (signer.signature primitives sessionId (base36.padStart 9 (base36.toText time.toNat)))
  ticket : isTicketLabel label = true

/-- The parts of equal tickets are equal. -/
lemma ticketLabel_injective {x e s x' e' s' : Utf16} (first : x.length = x'.length)
    (second : e.length = e'.length) (same : ticketLabel x e s = ticketLabel x' e' s') :
    x = x' ∧ e = e' ∧ s = s' := by
  rw [ticketLabel, ticketLabel, List.append_assoc, List.append_assoc] at same
  obtain ⟨rfl, rest⟩ := List.append_inj same first
  obtain ⟨rfl, tail⟩ := List.append_inj (List.cons.inj rest).2 second
  exact ⟨rfl, rfl, (List.cons.inj tail).2⟩

lemma length_encodeUuidBase36 (valid : isSessionId sessionId = true) :
    (encodeUuidBase36 sessionId).length = 25 := by
  obtain ⟨hex, group, whole⟩ := uuid_digits valid
  rw [encodeUuidBase36, whole,
    filter_hyphenateUuid fun c mem => (anyHexDigit c (group.2 c mem)).1]
  exact length_base36 (hexToBigInt_lt group)

lemma bytesToBigInt_lt (bytes : List UInt8) : bytesToBigInt bytes < 256 ^ bytes.length := by
  have general : ∀ (bytes : List UInt8) (r k : Nat), r < 256 ^ k →
      bytes.foldl (fun result byte => result * 256 + byte.toNat) r < 256 ^ (k + bytes.length) := by
    intro bytes
    induction bytes with
    | nil => exact fun r k small => small
    | cons byte bytes ih =>
      intro r k small
      rw [List.foldl_cons, List.length_cons, Nat.add_comm bytes.length, ← Nat.add_assoc]
      refine ih _ (k + 1) ?_
      have bound := byte.toNat_lt
      rw [Nat.pow_succ]
      omega
  have bound := general bytes 0 0 (by decide)
  rwa [Nat.zero_add] at bound

lemma length_signature {expiryLabel : Utf16} :
    (signer.signature primitives sessionId expiryLabel).length = 25 := by
  rw [PreviewTicketSigner.signature]
  refine length_base36 ((bytesToBigInt_lt _).trans_le ?_)
  rw [show 2 ^ 128 = 256 ^ 16 by decide]
  exact Nat.pow_le_pow_right (by decide) (List.length_take_le ..)

lemma issueLabel_ok (e : signer.issueLabel primitives now sessionId expiresAt = .ok label) :
    ∃ time, expiresAt = some time ∧ IssuedLabel primitives signer now sessionId time label := by
  unfold PreviewTicketSigner.issueLabel at e
  split at e
  · cases e
  rename_i session
  rw [Bool.not_eq_false] at session
  split at e
  · cases e
  rename_i future
  cases expiresAt with
  | none => cases e
  | some time =>
    rw [Option.any_some, decide_eq_true_eq, not_le] at future
    dsimp only at e
    split at e
    · cases e
    split at e
    · cases e
    rename_i width
    rw [ne_eq, not_not] at width
    split at e
    · rename_i ticket
      cases e
      obtain ⟨x, y, z, whole, ⟨lengthX, -⟩, ⟨lengthY, digitsY⟩, -⟩ := isTicketLabel_iff.mp ticket
      obtain ⟨-, same, -⟩ := ticketLabel_injective
        ((length_encodeUuidBase36 session).trans lengthX.symm) (width.trans lengthY.symm) whole
      have nonneg : 0 ≤ time := by
        by_contra negative
        -- a negative time would have a hyphen in its text
        have mem : hyphen ∈ base36.padStart 9 (expiryText time) := by
          rw [expiryText, if_pos (not_le.mp negative)]
          exact List.mem_append_right _ List.mem_cons_self
        exact (base36_unit hyphen (digitsY hyphen (same ▸ mem))).1 rfl
      have text : expiryText time = base36.toText time.toNat := if_neg (not_lt.mpr nonneg)
      rw [text] at ticket width ⊢
      exact ⟨time, rfl, session, future, nonneg,
        (Radix.Alphabet.length_padStart_toText (by decide)).mp width, rfl, ticket⟩
    · cases e

/-- The ticket of a session that is issued in lower case is accepted until it expires; of any other
    session it is accepted only with another signature, and then for the session in lower case. -/
lemma IssuedLabel.verifyHost {time : Int} (issued : IssuedLabel primitives signer now sessionId time label)
    {now' : Int} (valid : now' < time) :
    signer.verifyHost primitives now' (signer.host label) =
      if signer.signature primitives (String.ofList (sessionId.toList.map Char.toLower))
          (base36.padStart 9 (base36.toText time.toNat)) =
        signer.signature primitives sessionId (base36.padStart 9 (base36.toText time.toNat))
      then .ok ⟨String.ofList (sessionId.toList.map Char.toLower), time⟩
      else .error (.invalidSignature invalidTicket) := by
  obtain ⟨suffix, front⟩ : (dot :: signer.baseDomain) <:+ signer.host label ∧ _ = label :=
    label_of_host
  have split : splitTicket label = some (encodeUuidBase36 sessionId,
      base36.padStart 9 (base36.toText time.toNat),
      signer.signature primitives sessionId (base36.padStart 9 (base36.toText time.toNat))) := by
    rw [issued.text]
    exact splitTicket_ticketLabel base36_digits base36_digits base36_digits
  have expiry : parseBase36 (base36.padStart 9 (base36.toText time.toNat)) = some time.toNat := by
    rw [parseBase36_eq base36_digits, Radix.Alphabet.value_padStart_toText]
  have safe : isSafeInteger (time.toNat : Int) = true := by
    have small := issued.small
    rw [isSafeInteger, decide_eq_true_eq, Int.natAbs_natCast]
    omega
  have back : (time.toNat : Int) = time := Int.toNat_of_nonneg issued.nonneg
  unfold PreviewTicketSigner.verifyHost
  dsimp only
  rw [normalizeHost_host issued.ticket, if_neg (not_not.mpr suffix), front, if_neg (by simp [issued.ticket]), split]
  dsimp only
  rw [decode_encode issued.session, expiry]
  dsimp only
  rw [if_neg (by rw [safe]; decide), back, if_neg (not_le.mpr valid)]
  by_cases same : signer.signature primitives (String.ofList (sessionId.toList.map Char.toLower))
      (base36.padStart 9 (base36.toText time.toNat)) =
    signer.signature primitives sessionId (base36.padStart 9 (base36.toText time.toNat))
  · rw [if_neg (not_not.mpr same), if_pos same]
  · rw [if_pos same, if_neg same]

/-- A label that is made of a session and an expiry of nine digits is issued. -/
lemma issueLabel_of {time : Int} (session : isSessionId sessionId = true) (future : now < time)
    (nonneg : 0 ≤ time) (small : time.toNat < 36 ^ 9) :
    ∃ label, signer.issueLabel primitives now sessionId (some time) = .ok label ∧
      IssuedLabel primitives signer now sessionId time label := by
  have safe : isSafeInteger time = true := by
    rw [isSafeInteger, decide_eq_true_eq]
    omega
  have width : (base36.padStart 9 (base36.toText time.toNat)).length = 9 :=
    (Radix.Alphabet.length_padStart_toText (by decide)).mpr small
  have ticket : isTicketLabel (ticketLabel (encodeUuidBase36 sessionId)
      (base36.padStart 9 (base36.toText time.toNat))
      (signer.signature primitives sessionId (base36.padStart 9 (base36.toText time.toNat)))) = true :=
    isTicketLabel_iff.mpr ⟨_, _, _, rfl, ⟨length_encodeUuidBase36 session, base36_digits⟩,
      ⟨width, base36_digits⟩, length_signature, base36_digits⟩
  have text : expiryText time = base36.toText time.toNat := if_neg (not_lt.mpr nonneg)
  refine ⟨_, ?_, session, future, nonneg, small, rfl, ticket⟩
  unfold PreviewTicketSigner.issueLabel
  dsimp only
  rw [if_neg (by rw [session]; decide), if_neg (by simpa using future), if_neg (by rw [safe]; decide),
    text, if_neg (not_not.mpr width), if_pos ticket]

end Issued

section Accepted
variable {now : Int} {host : Utf16} {ticket : VerifiedPreviewTicket}

/-- A host that is accepted is made of the session and the expiry that are read from it. -/
lemma verifyHost_ok (e : signer.verifyHost primitives now host = .ok ticket) :
    ∃ label, normalizeHost primitives host = signer.host label ∧
      IssuedLabel primitives signer now ticket.sessionId ticket.expiresAt label := by
  unfold PreviewTicketSigner.verifyHost at e
  dsimp only at e
  split at e
  · cases e
  rename_i suffix
  rw [not_not] at suffix
  obtain ⟨label, whole⟩ := suffix
  have front : (normalizeHost primitives host).take
      ((normalizeHost primitives host).length - (dot :: signer.baseDomain).length) = label := by
    rw [← whole, List.length_append, Nat.add_sub_cancel]
    exact List.take_left
  rw [front] at e
  split at e
  · cases e
  rename_i accepted
  rw [Bool.not_eq_false] at accepted
  obtain ⟨x, y, z, rfl, ⟨lengthX, digitsX⟩, ⟨lengthY, digitsY⟩, lengthZ, digitsZ⟩ :=
    isTicketLabel_iff.mp accepted
  rw [splitTicket_ticketLabel digitsX digitsY digitsZ] at e
  dsimp only at e
  rw [parseBase36_eq digitsY] at e
  split at e
  · rename_i sessionId expiresAtMs session expiry
    cases expiry
    split at e
    · cases e
    split at e
    · cases e
    rename_i signed
    rw [ne_eq, not_not] at signed
    split at e
    · cases e
    rename_i future
    cases e
    obtain ⟨valid, encoded⟩ := encode_decode digitsX lengthX session
    have written := Radix.Alphabet.padStart_toText_value digitsY lengthY (by decide)
    refine ⟨_, whole.symm, valid, not_le.mp future, Int.natCast_nonneg _, ?_, ?_, accepted⟩
    · rw [Int.toNat_natCast]
      exact lengthY ▸ Radix.Alphabet.value_lt digitsY
    · rw [Int.toNat_natCast, written, encoded, signed]
  · cases e

end Accepted

/-- The labels of domains: letters, digits and hyphens, not with a hyphen at an end. -/
def IsDnsLabel (label : Utf16) : Prop :=
  (1 ≤ label.length ∧ label.length ≤ 63) ∧ (∀ u ∈ label, u = hyphen ∨ u ∈ base36.symbols) ∧
    label.head? ≠ some hyphen ∧ label.getLast? ≠ some hyphen

lemma IssuedLabel.dnsLabel {now time : Int} {sessionId : String} {label : Utf16}
    (issued : IssuedLabel primitives signer now sessionId time label) : IsDnsLabel label := by
  obtain ⟨x, y, z, rfl, ⟨lengthX, digitsX⟩, ⟨lengthY, digitsY⟩, lengthZ, digitsZ⟩ :=
    isTicketLabel_iff.mp issued.ticket
  refine ⟨by simp [ticketLabel, lengthX, lengthY, lengthZ], ?_, ?_, ?_⟩
  · intro u mem
    simp only [ticketLabel, List.mem_append, List.mem_cons] at mem
    obtain (mem | rfl | mem) | rfl | mem := mem
    · exact .inr (digitsX u mem)
    · exact .inl rfl
    · exact .inr (digitsY u mem)
    · exact .inl rfl
    · exact .inr (digitsZ u mem)
  · cases x with
    | nil => cases lengthX
    | cons u x =>
      intro same
      exact (base36_unit u (digitsX u List.mem_cons_self)).1 (Option.some.inj same)
  · obtain ⟨z, u, rfl⟩ := List.eq_nil_or_concat' z |>.resolve_left (by rintro rfl; cases lengthZ)
    intro same
    have last : (ticketLabel x y (z ++ [u])).getLast? = some u := by
      rw [ticketLabel, ← List.cons_append, ← List.append_assoc, List.getLast?_concat]
    rw [last] at same
    exact (base36_unit u (digitsZ u (List.mem_append_right z List.mem_cons_self))).1
      (Option.some.inj same)

/-- A ticket is a label of a domain, and it is verified for the session and the expiry it was issued
    for, at all times before the expiry, exactly if no digit of the session is a capital letter. -/
theorem issued_ticket_verified_iff {now : Int} {sessionId : String} {expiresAt : Option Int}
    {url : Utf16} (issued : signer.issue primitives now sessionId expiresAt = .ok url) :
    ∃ label time, url = signer.url label ∧ expiresAt = some time ∧ IsDnsLabel label ∧
      ((∀ now' < time, signer.verifyHost primitives now' (signer.host label) =
          .ok ⟨sessionId, time⟩) ↔
        ∀ c ∈ sessionId.toList, c.isUpper = false) := by
  rw [PreviewTicketSigner.issue] at issued
  cases e : signer.issueLabel primitives now sessionId expiresAt with
  | error error =>
    rw [e] at issued
    cases issued
  | ok label =>
    rw [e] at issued
    cases issued
    obtain ⟨time, rfl, issued⟩ := issueLabel_ok e
    refine ⟨label, time, rfl, rfl, issued.dnsLabel, ?_⟩
    rw [← lower_iff issued.session]
    constructor
    · intro verified
      have here := verified now issued.future
      rw [issued.verifyHost issued.future] at here
      split at here
      · have same := congrArg VerifiedPreviewTicket.sessionId (Except.ok.inj here)
        rw [← String.toList_ofList (l := sessionId.toList.map Char.toLower)]
        exact congrArg String.toList same
      · cases here
    · intro lower now' valid
      rw [issued.verifyHost valid, lower, String.ofList_toList, if_pos rfl]

section Scenario

/-- Lower-casing of ASCII, and HMAC with SHA-256 of the bytes of the key and the message. -/
def nodePrimitives : Primitives where
  lowerCase := ⟨fun s => s.map Utf16.asciiLower, fun _ _ => rfl⟩
  hmac key message :=
    let bytes (text : Utf16) : List UInt8 := (Utf16.decode text).flatMap String.utf8EncodeChar
    Sha256.hmac (bytes key) (bytes message)

/-- A signer for the domain `a.b`. -/
def exampleSigner : PreviewTicketSigner where
  secret := List.replicate 32 120
  baseDomain := Utf16.ofString "a.b"
  longSecret := by decide
  domain := by decide +kernel

/-- A session in lower case. -/
def exampleSession : String :=
  "3f2b8c1e-9d4a-4b6f-8a17-5c0d2e9f7b31"

/-- The same session in capital letters. -/
def capitalSession : String :=
  "3F2B8C1E-9D4A-4B6F-8A17-5C0D2E9F7B31"

lemma exampleSession_valid : isSessionId exampleSession = true :=
  Database.lowerCaseOperation_uuid

lemma capitalSession_valid : isSessionId capitalSession = true := by
  have group {n : Nat} {digits : List Char} (length : digits.length = n)
      (hex : (digits.all fun c => c ∈ Database.anyHexDigits) = true) : IsGroup n digits :=
    ⟨length, List.all_iff_forall_prop.mp hex⟩
  have first : IsGroup 8 "3F2B8C1E".toList := group rfl (by decide)
  have second : IsGroup 4 "9D4A".toList := group rfl (by decide)
  have third : IsGroup 3 "B6F".toList := group rfl (by decide)
  have fourth : IsGroup 3 "A17".toList := group rfl (by decide)
  have fifth : IsGroup 12 "5C0D2E9F7B31".toList := group rfl (by decide)
  have version : '4' ∈ "12345678".toList := by decide
  have variant : '8' ∈ "89abAB".toList := by decide
  exact isSessionId_of_groups version variant ⟨first, second, third, fourth, fifth⟩ (by decide)

lemma exampleSession_issued : ∃ label,
    exampleSigner.issueLabel nodePrimitives 0 exampleSession (some 1000) = .ok label ∧
      IssuedLabel nodePrimitives exampleSigner 0 exampleSession 1000 label :=
  issueLabel_of exampleSession_valid (by decide) (by decide) (by decide)

/-- A ticket for the session in lower case. -/
theorem issued_ticket_verified_example : ∃ label,
    exampleSigner.issue nodePrimitives 0 exampleSession (some 1000) = .ok (exampleSigner.url label) ∧
    ∃ label' time, exampleSigner.url label = exampleSigner.url label' ∧ some 1000 = some time ∧
      IsDnsLabel label' ∧
      ((∀ now' < time, exampleSigner.verifyHost nodePrimitives now' (exampleSigner.host label') =
          .ok ⟨exampleSession, time⟩) ↔
        ∀ c ∈ exampleSession.toList, c.isUpper = false) := by
  obtain ⟨label, e, -⟩ := exampleSession_issued
  have issued : exampleSigner.issue nodePrimitives 0 exampleSession (some 1000) =
      .ok (exampleSigner.url label) := by
    rw [PreviewTicketSigner.issue, e]
    rfl
  exact ⟨label, issued, issued_ticket_verified_iff issued⟩

/-- The ticket that is issued for the session in capital letters is not accepted for it. -/
theorem capitalSession_not_verified : ∃ label,
    exampleSigner.issue nodePrimitives 0 capitalSession (some 1000) = .ok (exampleSigner.url label) ∧
      exampleSigner.verifyHost nodePrimitives 500 (exampleSigner.host label) ≠
        .ok ⟨capitalSession, 1000⟩ := by
  obtain ⟨label, e, issued⟩ : ∃ label,
      exampleSigner.issueLabel nodePrimitives 0 capitalSession (some 1000) = .ok label ∧
        IssuedLabel nodePrimitives exampleSigner 0 capitalSession 1000 label :=
    issueLabel_of capitalSession_valid (by decide) (by decide) (by decide)
  refine ⟨label, by rw [PreviewTicketSigner.issue, e]; rfl, ?_⟩
  rw [issued.verifyHost (by decide)]
  split
  · intro same
    have lower := congrArg VerifiedPreviewTicket.sessionId (Except.ok.inj same)
    revert lower
    decide
  · intro same
    cases same

end Scenario

/-- A host that is accepted has not expired, it is the one that is issued for its session and expiry,
    and no other host is accepted for them. -/
theorem accepted_host_issued {now : Int} {host : Utf16} {ticket : VerifiedPreviewTicket}
    (accepted : signer.verifyHost primitives now host = .ok ticket) :
    now < ticket.expiresAt ∧
    (∃ label, normalizeHost primitives host = signer.host label ∧
      ∀ now' < ticket.expiresAt,
        signer.issue primitives now' ticket.sessionId (some ticket.expiresAt) =
          .ok (signer.url label)) ∧
    ∀ now' host', signer.verifyHost primitives now' host' = .ok ticket →
      normalizeHost primitives host' = normalizeHost primitives host := by
  obtain ⟨label, whole, issued⟩ := verifyHost_ok accepted
  refine ⟨issued.future, ⟨label, whole, fun now' future => ?_⟩, fun now' host' accepted' => ?_⟩
  · obtain ⟨label', e, issued'⟩ : ∃ label',
        signer.issueLabel primitives now' ticket.sessionId (some ticket.expiresAt) = .ok label' ∧
          IssuedLabel primitives signer now' ticket.sessionId ticket.expiresAt label' :=
      issueLabel_of issued.session future issued.nonneg issued.small
    rw [PreviewTicketSigner.issue, e, issued'.text, ← issued.text]
    rfl
  · obtain ⟨label', whole', issued'⟩ := verifyHost_ok accepted'
    rw [whole, whole', issued'.text, ← issued.text]

/-- The host with the ticket of the example. -/
theorem accepted_host_issued_example : ∃ label,
    exampleSigner.verifyHost nodePrimitives 500 (exampleSigner.host label) = .ok ⟨exampleSession, 1000⟩ ∧
    500 < (1000 : Int) ∧
    (∃ label', normalizeHost nodePrimitives (exampleSigner.host label) = exampleSigner.host label' ∧
      ∀ now' < 1000, exampleSigner.issue nodePrimitives now' exampleSession (some 1000) =
        .ok (exampleSigner.url label')) ∧
    ∀ now' host', exampleSigner.verifyHost nodePrimitives now' host' = .ok ⟨exampleSession, 1000⟩ →
      normalizeHost nodePrimitives host' =
        normalizeHost nodePrimitives (exampleSigner.host label) := by
  obtain ⟨label, -, issued⟩ := exampleSession_issued
  have lower : exampleSession.toList.map Char.toLower = exampleSession.toList := by decide
  have accepted : exampleSigner.verifyHost nodePrimitives 500 (exampleSigner.host label) =
      .ok ⟨exampleSession, 1000⟩ := by
    rw [issued.verifyHost (by decide), lower, String.ofList_toList, if_pos rfl]
  exact ⟨label, accepted, accepted_host_issued accepted⟩

end AtomsPlatform.Preview
