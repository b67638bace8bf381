import AtomsPlatform.Lib.Utf16

/-!
# Plain objects of arrays

An object as a JavaScript literal makes it, used as a map from names to arrays. Reading a name that
was never assigned is not always `undefined`: the object inherits the properties of
`Object.prototype`, and assigning to `__proto__` gives it the array as its prototype instead of an
entry. `get_assignAll` says what reading finds in an object that was built by assignments.
-/

/-- A plain object whose properties are arrays, the latest assignment first. -/
structure PlainObject (α : Type) where
  entries : List (Utf16 × List α) := []
  prototype : Option (List α) := none
deriving DecidableEq, Repr

namespace PlainObject
variable {α : Type}

/-- What reading a property finds, other than nothing. -/
inductive Property (α : Type) where
  | array :
    List α → Property α
  | element :
    α → Property α
  | function (length : Nat) :
    Property α
  | other
deriving DecidableEq, Repr

/-- The name under which a prototype is read and assigned. -/
def protoName : Utf16 :=
  Utf16.ofString "__proto__"

/-- The functions of `Object.prototype`, with the number of their parameters. -/
def objectFunctions : List (String × Nat) :=
  [("constructor", 1), ("hasOwnProperty", 1), ("isPrototypeOf", 1), ("propertyIsEnumerable", 1),
    ("toString", 0), ("toLocaleString", 0), ("valueOf", 0), ("__defineGetter__", 2),
    ("__defineSetter__", 2), ("__lookupGetter__", 1), ("__lookupSetter__", 1)]

/-- The functions of `Array.prototype`, with the number of their parameters. -/
def arrayFunctions : List (String × Nat) :=
  [("at", 1), ("concat", 1), ("constructor", 1), ("copyWithin", 2), ("entries", 0), ("every", 1),
    ("fill", 1), ("filter", 1), ("find", 1), ("findIndex", 1), ("findLast", 1),
    ("findLastIndex", 1), ("flat", 0), ("flatMap", 1), ("forEach", 1), ("includes", 1),
    ("indexOf", 1), ("join", 1), ("keys", 0), ("lastIndexOf", 1), ("map", 1), ("pop", 0),
    ("push", 1), ("reduce", 1), ("reduceRight", 1), ("reverse", 0), ("shift", 0), ("slice", 2),
    ("some", 1), ("sort", 1), ("splice", 2), ("toLocaleString", 0), ("toReversed", 0),
    ("toSorted", 1), ("toSpliced", 2), ("toString", 0), ("unshift", 1), ("values", 0), ("with", 2)]

/-- The function with a name. -/
def functionOf (functions : List (String × Nat)) (name : Utf16) : Option (Property α) :=
  (functions.find? fun f => Utf16.ofString f.1 = name).map fun f => .function f.2

/-- What an array has under a name itself: its elements and its length. -/
def ofArray (elements : List α) (name : Utf16) : Option (Property α) :=
  if name = Utf16.ofString "length" then some .other
  else ((elements.zipIdx.find? fun e => Utf16.ofString (Nat.repr e.2) = name).map
    fun e => .element e.1)

/-- What an object inherits under a name. -/
def inherited (prototype : Option (List α)) (name : Utf16) : Option (Property α) :=
  if name = protoName then some (prototype.elim .other .array)
  else
    (prototype.bind fun elements =>
      (ofArray elements name).or (functionOf arrayFunctions name)).or
      (functionOf objectFunctions name)

/-- `object[name]`, unless it is `undefined`. -/
def get (object : PlainObject α) (name : Utf16) : Option (Property α) :=
  match object.entries.lookup name with
  | some elements => some (.array elements)
  | none => inherited object.prototype name

/-- `object[name] = elements` -/
def assign (object : PlainObject α) (name : Utf16) (elements : List α) : PlainObject α :=
  if name = protoName then { object with prototype := some elements }
  else { object with entries := (name, elements) :: object.entries }

/-- An object after assignments, in order. -/
def assignAll (object : PlainObject α) (assignments : List (Utf16 × List α)) : PlainObject α :=
  assignments.foldl (fun object assignment => object.assign assignment.1 assignment.2) object

variable {object : PlainObject α} {assignments : List (Utf16 × List α)} {name : Utf16}

/-- An array is inherited only as the prototype itself. -/
lemma inherited_array {prototype : Option (List α)} {elements : List α}
    (found : inherited prototype name = some (.array elements)) :
    name = protoName ∧ prototype = some elements := by
  have no_array (functions : List (String × Nat)) :
      functionOf functions name ≠ some (Property.array elements) := by
    intro e
    obtain ⟨f, -, same⟩ := Option.map_eq_some_iff.mp e
    cases same
  unfold inherited at found
  split at found
  · rename_i proto
    cases prototype with
    | none => cases found
    | some own => cases found; exact ⟨proto, rfl⟩
  · rcases Option.or_eq_some_iff.mp found with found | ⟨-, found⟩
    · obtain ⟨own, -, found⟩ := Option.bind_eq_some_iff.mp found
      rcases Option.or_eq_some_iff.mp found with found | ⟨-, found⟩
      · unfold ofArray at found
        split at found
        · cases found
        · obtain ⟨e, -, same⟩ := Option.map_eq_some_iff.mp found
          cases same
      · exact absurd found (no_array arrayFunctions)
    · exact absurd found (no_array objectFunctions)

/-- An element is inherited only from the prototype. -/
lemma inherited_element {prototype : Option (List α)} {element : α}
    (found : inherited prototype name = some (.element element)) :
    ∃ elements, prototype = some elements ∧ element ∈ elements := by
  have no_element (functions : List (String × Nat)) :
      functionOf functions name ≠ some (Property.element element) := by
    intro e
    obtain ⟨f, -, same⟩ := Option.map_eq_some_iff.mp e
    cases same
  unfold inherited at found
  split at found
  · cases prototype <;> cases found
  · rcases Option.or_eq_some_iff.mp found with found | ⟨-, found⟩
    · obtain ⟨elements, own, found⟩ := Option.bind_eq_some_iff.mp found
      rcases Option.or_eq_some_iff.mp found with found | ⟨-, found⟩
      · unfold ofArray at found
        split at found
        · cases found
        · obtain ⟨e, at_index, same⟩ := Option.map_eq_some_iff.mp found
          cases same
          have mem := List.mem_of_find?_eq_some at_index
          exact ⟨elements, own, List.fst_mem_of_mem_zipIdx mem⟩
      · exact absurd found (no_element arrayFunctions)
    · exact absurd found (no_element objectFunctions)

/-- The name of the prototype is never an entry. -/
def Proper (object : PlainObject α) : Prop :=
  object.entries.lookup protoName = none

lemma Proper.assign (proper : object.Proper) {elements : List α} :
    (object.assign name elements).Proper := by
  unfold PlainObject.assign
  split
  · exact proper
  · rename_i other
    show List.lookup protoName ((name, elements) :: object.entries) = none
    rw [List.lookup_cons, beq_false_of_ne (Ne.symm other)]
    exact proper

lemma lookup_eq_none (absent : name ∉ assignments.map Prod.fst) : assignments.lookup name = none := by
  rw [List.lookup_eq_none_iff]
  intro assignment mem
  have other : name ≠ assignment.1 := fun e => absent (e ▸ List.mem_map.mpr ⟨assignment, mem, rfl⟩)
  simpa using other

/-- Entries after assignments under different names: the ones assigned, and the earlier ones under
    names that were not. -/
lemma lookup_assignAll (distinct : (assignments.map Prod.fst).Nodup) (other : name ≠ protoName) :
    (object.assignAll assignments).entries.lookup name =
      (assignments.lookup name).or (object.entries.lookup name) := by
  induction assignments generalizing object with
  | nil => rfl
  | cons assignment assignments ih =>
    obtain ⟨assigned, elements⟩ := assignment
    rw [List.map_cons, List.nodup_cons] at distinct
    show ((object.assign assigned elements).assignAll assignments).entries.lookup name = _
    rw [ih distinct.2, List.lookup_cons]
    unfold assign
    by_cases same : name = assigned
    · subst same
      rw [lookup_eq_none distinct.1, if_neg other, beq_self_eq_true]
      simp
    · rw [beq_false_of_ne same]
      split
      · rfl
      · show (assignments.lookup name).or (List.lookup name ((assigned, elements) :: object.entries)) = _
        rw [List.lookup_cons, beq_false_of_ne same]

/-- The prototype after assignments under different names. -/
lemma prototype_assignAll (distinct : (assignments.map Prod.fst).Nodup) :
    (object.assignAll assignments).prototype =
      (assignments.lookup protoName).or object.prototype := by
  induction assignments generalizing object with
  | nil => rfl
  | cons assignment assignments ih =>
    obtain ⟨assigned, elements⟩ := assignment
    rw [List.map_cons, List.nodup_cons] at distinct
    show ((object.assign assigned elements).assignAll assignments).prototype = _
    rw [ih distinct.2, List.lookup_cons]
    unfold assign
    by_cases same : assigned = protoName
    · subst same
      rw [lookup_eq_none distinct.1, if_pos rfl, beq_self_eq_true]
      rfl
    · rw [if_neg same, beq_false_of_ne (Ne.symm same)]

lemma Proper.assignAll (proper : object.Proper) : (object.assignAll assignments).Proper := by
  induction assignments generalizing object with
  | nil => exact proper
  | cons assignment assignments ih => exact ih proper.assign

/-- Reading a name of an object that was built by assignments under different names: what was
    assigned, or what is inherited. -/
theorem get_assignAll (distinct : (assignments.map Prod.fst).Nodup) :
    (({} : PlainObject α).assignAll assignments).get name =
      match assignments.lookup name with
      | some elements => some (.array elements)
      | none => inherited (assignments.lookup protoName) name := by
  have prototype : (({} : PlainObject α).assignAll assignments).prototype =
      assignments.lookup protoName := by
    rw [prototype_assignAll distinct]
    exact Option.or_none
  unfold get
  rw [prototype]
  by_cases proto : name = protoName
  · subst proto
    have proper : (({} : PlainObject α).assignAll assignments).entries.lookup protoName = none :=
      Proper.assignAll (show ({} : PlainObject α).Proper from rfl)
    rw [proper]
    show inherited _ protoName = _
    unfold inherited
    rw [if_pos rfl]
    cases assignments.lookup protoName <;> rfl
  · have entries : (({} : PlainObject α).assignAll assignments).entries.lookup name =
        assignments.lookup name := by
      rw [lookup_assignAll distinct proto]
      exact Option.or_none
    rw [entries]

end PlainObject
