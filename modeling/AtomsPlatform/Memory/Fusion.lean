import AtomsPlatform.Lib.Table
import Mathlib.Data.List.Sort
import Mathlib.Data.Prod.Lex
import Mathlib.Algebra.Order.BigOperators.Group.List
import Mathlib.Algebra.Order.Field.Rat
import Mathlib.Order.WithBot
import Mathlib.Tactic.Linarith
import Mathlib.Tactic.Positivity
import Mathlib.Order.Lattice.Nat

/-!
# Reciprocal rank fusion

How the memory package merges ranked lists. Numbers are rationals, and the result of every operation on
scores is rounded; where nothing is rounded, the fusion obeys the laws of `fusion_laws`: its result has
every hit once, a limit cuts it off, it does not depend on the order of the lists, and a hit that is
ahead of another in every list is ahead of it in the result.
-/

namespace AtomsPlatform.Memory
variable {ι : Type} [LinearOrder ι]

/-- Source `RankedHit`. -/
structure RankedHit (ι : Type) where
  id : ι
deriving DecidableEq, Repr

/-- Source `FusedHit`. -/
structure FusedHit (ι : Type) where
  id : ι
  score : ℚ
  ranks : List (Option Nat)
deriving DecidableEq

/-- The options of source `reciprocalRankFusion`. -/
structure FusionOptions where
  k : Option ℚ := none
  limit : Option Int := none
  weights : Option (List ℚ) := none

/-- Source `RRF_K`. -/
def rrfK : ℚ := 60

section Source

/-- What is known of an id: the value of the source's `byId`. -/
structure Entry where
  score : ℚ := 0
  ranks : List (Option Nat)

/-- The entries, in the order in which their ids were met. -/
abbrev Entries (ι : Type) : Type :=
  List (ι × Entry)

/-- `byId.set(id, entry)` -/
def Entries.set (byId : Entries ι) (id : ι) (entry : Entry) : Entries ι :=
  if id ∈ byId.map Prod.fst then
    Table.update Prod.fst id (fun _ => true) (fun _ => (id, entry)) byId
  else byId ++ [(id, entry)]

/-- `byId.get(id) ?? { score: 0, ranks: lists.map(() => null) }` -/
def Entries.get (byId : Entries ι) (id : ι) (lists : Nat) : Entry :=
  ((Table.lookup Prod.fst id byId).map Prod.snd).getD { ranks := List.replicate lists none }

variable (round : ℚ → ℚ) (k : ℚ)

/-- An entry with one more hit. -/
def Entry.add (entry : Entry) (weight : ℚ) (listIndex rank : Nat) : Entry where
  score := round (entry.score + round (weight / round (k + rank)))
  ranks := entry.ranks.set listIndex (some rank)

/-- The loop over the hits of one list, of `lists`. -/
def addHits (lists : Nat) (weight : ℚ) (listIndex index : Nat) (seenInList : List ι) :
    List (RankedHit ι) → Entries ι → Entries ι
  | [], byId => byId
  | hit :: hits, byId =>
    if hit.id ∈ seenInList then addHits lists weight listIndex (index + 1) seenInList hits byId
    else
      let entry := (byId.get hit.id lists).add round k weight listIndex (index + 1)
      addHits lists weight listIndex (index + 1) (hit.id :: seenInList) hits (byId.set hit.id entry)

/-- The loop over the lists. -/
def addLists (lists : Nat) (weights : List ℚ) (listIndex : Nat) :
    List (List (RankedHit ι)) → Entries ι → Entries ι
  | [], byId => byId
  | list :: rest, byId =>
    addLists lists weights (listIndex + 1) rest
      (addHits round k lists ((weights[listIndex]?).getD 1) listIndex 0 [] list byId)

/-- Source `best`: the smallest rank. -/
def best (ranks : List (Option Nat)) : WithTop Nat :=
  ranks.foldr (fun rank least => min (rank.elim ⊤ fun r => (r : WithTop Nat)) least) ⊤

/-- The comparison of `fused.sort`: whether a hit need not be behind another. -/
def FusedHit.before (a b : FusedHit ι) : Prop :=
  b.score < a.score ∨ b.score = a.score ∧
    (best a.ranks < best b.ranks ∨ best a.ranks = best b.ranks ∧ a.id ≤ b.id)

instance (a b : FusedHit ι) : Decidable (a.before b) :=
  inferInstanceAs (Decidable (_ ∨ _))

/-- `list.slice(0, limit)` -/
def sliceTo {α : Type} (limit : Int) (list : List α) : List α :=
  list.take (if limit < 0 then (list.length + limit).toNat else limit.toNat)

/-- The hits in the order of the result. -/
def fuse (weights : List ℚ) (lists : List (List (RankedHit ι))) : List (FusedHit ι) :=
  let fused := (addLists round k lists.length weights 0 lists []).map fun e =>
    { id := e.1, score := e.2.score, ranks := e.2.ranks : FusedHit ι }
  fused.insertionSort FusedHit.before

/-- Source `reciprocalRankFusion`; the error is the text of a `RangeError`. -/
def reciprocalRankFusion (round : ℚ → ℚ) (lists : List (List (RankedHit ι))) (options : FusionOptions) :
    Except String (List (FusedHit ι)) :=
  let k := options.k.getD rrfK
  if ¬ k > 0 then .error "k must be positive"
  else
    let weights := options.weights.getD (lists.map fun _ => 1)
    if weights.length ≠ lists.length ∨ weights.any (fun w => ¬ w ≥ 0) then
      .error "weights must be one finite, non-negative number per list"
    else
      let fused := fuse round k weights lists
      .ok (options.limit.elim fused fun limit => sliceTo limit fused)

end Source

section Entries
variable {byId : Entries ι} {id id' : ι} {entry : Entry} {lists : Nat}

/-- The ids of the entries. -/
abbrev Entries.ids (byId : Entries ι) : List ι :=
  byId.map Prod.fst

lemma Entries.get_set : (byId.set id entry).get id lists = entry := by
  rw [Entries.set, Entries.get]
  split
  · rename_i mem
    obtain ⟨e, held, rfl⟩ := List.mem_map.mp mem
    have keeps (r : ι × Entry) (_ : r.1 = e.1) : (e.1, entry).1 = e.1 := rfl
    rw [Table.lookup_update (f := fun _ => (e.1, entry)) keeps]
    cases found : Table.lookup Prod.fst e.1 byId with
    | none => exact absurd (decide_eq_true rfl) (List.find?_eq_none.mp found e held)
    | some _ => rfl
  · rename_i new
    have absent : Table.lookup Prod.fst id byId = none := by
      refine List.find?_eq_none.mpr fun e mem is => new ?_
      exact List.mem_map.mpr ⟨e, mem, of_decide_eq_true is⟩
    have named : (id, entry).1 = id := rfl
    rw [Table.lookup_append_new absent named]
    rfl

lemma Entries.get_set_ne (ne : id' ≠ id) : (byId.set id entry).get id' lists = byId.get id' lists := by
  rw [Entries.set, Entries.get, Entries.get]
  split
  · have keeps (r : ι × Entry) (_ : r.1 = id) : (id, entry).1 = id := rfl
    rw [Table.lookup_update_ne (f := fun _ => (id, entry)) keeps ne]
  · have other : (id, entry).1 ≠ id' := ne.symm
    rw [Table.lookup_append_ne other]

lemma Entries.ids_set :
    (byId.set id entry).ids = if id ∈ byId.ids then byId.ids else byId.ids ++ [id] := by
  rw [Entries.set]
  split
  · refine Table.keys_update fun r same => ?_
    exact same.symm
  · exact List.map_append

lemma Entries.nodup_set (distinct : byId.ids.Nodup) : (byId.set id entry).ids.Nodup := by
  rw [Entries.ids_set]
  split
  · exact distinct
  · rename_i new
    exact List.nodup_append.mpr ⟨distinct, List.nodup_singleton _, fun a mem b one => by
      rw [List.mem_singleton.mp one]
      rintro rfl
      exact new mem⟩

lemma Entries.mem_ids_set : id' ∈ (byId.set id entry).ids ↔ id' ∈ byId.ids ∨ id' = id := by
  rw [Entries.ids_set]
  split
  · rename_i mem
    constructor
    · exact .inl
    · rintro (mem' | rfl)
      · exact mem'
      · exact mem
  · rw [List.mem_append, List.mem_singleton]

/-- With distinct ids the entries are what is found of them. -/
lemma Entries.eq_map_get (lists : Nat) (distinct : byId.ids.Nodup) :
    byId = byId.ids.map fun id => (id, byId.get id lists) := by
  rw [Entries.ids, List.map_map]
  symm
  refine (List.map_congr_left fun e mem => ?_).trans (List.map_id _)
  show (e.1, byId.get e.1 lists) = e
  rw [Entries.get, Table.lookup_of_mem distinct mem]
  rfl

end Entries

section Counting
variable {round : ℚ → ℚ} {k : ℚ} {id : ι}

/-- The rank of an id in a list: that of its first hit. -/
def rankIn (id : ι) (list : List (RankedHit ι)) : Option Nat :=
  if id ∈ list.map RankedHit.id then some ((list.map RankedHit.id).idxOf id + 1) else none

/-- The score of an id: the sum over the lists that contain it, in their order. -/
def scoreOf (round : ℚ → ℚ) (k : ℚ) (id : ι) (score : ℚ) : List (List (RankedHit ι) × ℚ) → ℚ
  | [] => score
  | (list, weight) :: rest =>
    match rankIn id list with
    | none => scoreOf round k id score rest
    | some rank => scoreOf round k id (round (score + round (weight / round (k + rank)))) rest

/-- The hit of an id in the result. -/
def hitOf (round : ℚ → ℚ) (k : ℚ) (weights : List ℚ) (lists : List (List (RankedHit ι))) (id : ι) :
    FusedHit ι where
  id
  score := scoreOf round k id 0 (lists.zip weights)
  ranks := lists.map (rankIn id)

/-- The induction is on the hits that are left; only the first one of an id counts. -/
lemma get_addHits {lists listIndex index : Nat} {weight : ℚ} {seen : List ι} {hits : List (RankedHit ι)}
    {byId : Entries ι} :
    (addHits round k lists weight listIndex index seen hits byId).get id lists =
      if id ∈ seen ∨ id ∉ hits.map RankedHit.id then byId.get id lists
      else (byId.get id lists).add round k weight listIndex
        (index + (hits.map RankedHit.id).idxOf id + 1) := by
  induction hits generalizing index seen byId with
  | nil => rw [addHits, if_pos (.inr List.not_mem_nil)]
  | cons hit hits ih =>
    rw [addHits, List.map_cons]
    by_cases same : id = hit.id
    · subst same
      split
      · rename_i before
        rw [ih, if_pos (.inl before), if_pos (.inl before)]
      · rename_i new
        have first : ¬ (hit.id ∈ seen ∨ hit.id ∉ hit.id :: hits.map RankedHit.id) := by
          rintro (before | absent)
          · exact new before
          · exact absent List.mem_cons_self
        rw [if_neg first, ih, if_pos (.inl List.mem_cons_self), Entries.get_set, List.idxOf_cons_self]
    · have member : id ∉ hit.id :: hits.map RankedHit.id ↔ id ∉ hits.map RankedHit.id := by
        rw [List.mem_cons, or_iff_right same]
      have next : index + (hit.id :: hits.map RankedHit.id).idxOf id + 1 =
          index + 1 + (hits.map RankedHit.id).idxOf id + 1 := by
        rw [List.idxOf_cons_ne _ fun e => same e.symm]
        omega
      rw [next]
      split
      · exact ih.trans (if_congr (or_congr_right member.symm) rfl rfl)
      · rw [ih, Entries.get_set_ne same]
        refine if_congr (or_congr ?_ member.symm) rfl rfl
        rw [List.mem_cons, or_iff_right same]

lemma mem_ids_addHits {lists listIndex index : Nat} {weight : ℚ} {seen : List ι}
    {hits : List (RankedHit ι)} {byId : Entries ι} (known : ∀ x ∈ seen, x ∈ byId.ids) :
    id ∈ (addHits round k lists weight listIndex index seen hits byId).ids ↔
      id ∈ byId.ids ∨ id ∈ hits.map RankedHit.id := by
  induction hits generalizing index seen byId with
  | nil =>
    rw [addHits, List.map_nil]
    exact ⟨.inl, fun mem => mem.resolve_right List.not_mem_nil⟩
  | cons hit hits ih =>
    rw [addHits, List.map_cons, List.mem_cons]
    split
    · rename_i before
      rw [ih known]
      constructor
      · rintro (mem | mem)
        · exact .inl mem
        · exact .inr (.inr mem)
      · rintro (mem | rfl | mem)
        · exact .inl mem
        · exact .inl (known _ before)
        · exact .inr mem
    · rw [ih, Entries.mem_ids_set, or_assoc]
      intro x mem
      rw [Entries.mem_ids_set]
      rcases List.mem_cons.mp mem with rfl | mem
      · exact .inr rfl
      · exact .inl (known x mem)

lemma nodup_addHits {lists listIndex index : Nat} {weight : ℚ} {seen : List ι}
    {hits : List (RankedHit ι)} {byId : Entries ι} (distinct : byId.ids.Nodup) :
    (addHits round k lists weight listIndex index seen hits byId).ids.Nodup := by
  induction hits generalizing index seen byId with
  | nil => exact distinct
  | cons hit hits ih =>
    rw [addHits]
    split
    · exact ih distinct
    · exact ih (Entries.nodup_set distinct)

lemma mem_ids_addLists {lists listIndex : Nat} {weights : List ℚ} {rest : List (List (RankedHit ι))}
    {byId : Entries ι} :
    id ∈ (addLists round k lists weights listIndex rest byId).ids ↔
      id ∈ byId.ids ∨ ∃ list ∈ rest, id ∈ list.map RankedHit.id := by
  induction rest generalizing listIndex byId with
  | nil =>
    rw [addLists]
    exact ⟨.inl, fun mem => mem.resolve_right fun ⟨_, mem, _⟩ => absurd mem List.not_mem_nil⟩
  | cons list rest ih =>
    rw [addLists, ih, mem_ids_addHits (fun _ mem => absurd mem List.not_mem_nil), or_assoc]
    refine or_congr_right ?_
    constructor
    · rintro (mem | ⟨other, held, mem⟩)
      · exact ⟨list, List.mem_cons_self, mem⟩
      · exact ⟨other, List.mem_cons_of_mem _ held, mem⟩
    · rintro ⟨other, held, mem⟩
      rcases List.mem_cons.mp held with rfl | held
      · exact .inl mem
      · exact .inr ⟨other, held, mem⟩

lemma nodup_addLists {lists listIndex : Nat} {weights : List ℚ} {rest : List (List (RankedHit ι))}
    {byId : Entries ι} (distinct : byId.ids.Nodup) :
    (addLists round k lists weights listIndex rest byId).ids.Nodup := by
  induction rest generalizing listIndex byId with
  | nil => exact distinct
  | cons list rest ih => exact ih (nodup_addHits distinct)

/-- The ranks of the lists that are left are still missing. -/
lemma get_addLists {lists : Nat} {weights rest' : List ℚ} {rest : List (List (RankedHit ι))}
    {byId : Entries ι} {score : ℚ} {ranks : List (Option Nat)}
    (left : weights.drop ranks.length = rest') (lengths : rest'.length = rest.length)
    (entry : byId.get id lists = ⟨score, ranks ++ List.replicate rest.length none⟩) :
    (addLists round k lists weights ranks.length rest byId).get id lists =
      ⟨scoreOf round k id score (rest.zip rest'), ranks ++ rest.map (rankIn id)⟩ := by
  induction rest generalizing rest' ranks byId score with
  | nil => exact entry
  | cons list rest ih =>
    obtain ⟨weight, rest', rfl⟩ : ∃ w ws, rest' = w :: ws := by
      cases rest' with
      | nil => cases lengths
      | cons w ws => exact ⟨w, ws, rfl⟩
    have here : weights[ranks.length]? = some weight := by
      rw [← List.head?_drop, left]
      rfl
    have next : weights.drop (ranks.length + 1) = rest' := by
      rw [← List.tail_drop, left]
      rfl
    rw [addLists, here, List.zip_cons_cons, List.map_cons, scoreOf, List.append_cons]
    have counted : (addHits round k lists weight ranks.length 0 [] list byId).get id lists =
        match rankIn id list with
        | none => ⟨score, ranks ++ [none] ++ List.replicate rest.length none⟩
        | some rank => ⟨round (score + round (weight / round (k + rank))),
          ranks ++ [some rank] ++ List.replicate rest.length none⟩ := by
      rw [get_addHits, entry, rankIn, List.length_cons, List.replicate_succ]
      by_cases mem : id ∈ list.map RankedHit.id
      · rw [if_neg (not_or.mpr ⟨List.not_mem_nil, not_not.mpr mem⟩), if_pos mem, Entry.add]
        dsimp only
        rw [Nat.zero_add, List.set_append_right _ _ (Nat.le_refl _), Nat.sub_self, List.set_cons_zero,
          List.append_cons]
      · rw [if_pos (.inr mem), if_neg mem]
        dsimp only
        rw [List.append_cons]
    have length (rank : Option Nat) : (ranks ++ [rank]).length = ranks.length + 1 :=
      List.length_append
    rw [← length (rankIn id list)]
    cases found : rankIn id list with
    | none =>
      rw [found] at counted
      refine ih ?_ (Nat.succ.inj lengths) counted
      rw [length, next]
    | some rank =>
      rw [found] at counted
      refine ih ?_ (Nat.succ.inj lengths) counted
      rw [length, next]

/-- The hits are sorted that occur in some list, each once. -/
lemma fuse_eq (round : ℚ → ℚ) (k : ℚ) {weights : List ℚ} {lists : List (List (RankedHit ι))}
    (lengths : weights.length = lists.length) :
    ∃ ids : List ι, ids.Nodup ∧ (∀ id, id ∈ ids ↔ ∃ list ∈ lists, id ∈ list.map RankedHit.id) ∧
      fuse round k weights lists =
        (ids.map (hitOf round k weights lists)).insertionSort FusedHit.before := by
  let byId := addLists round k lists.length weights 0 lists []
  have distinct : byId.ids.Nodup := nodup_addLists List.nodup_nil
  refine ⟨byId.ids, distinct, fun id => ?_, ?_⟩
  · rw [mem_ids_addLists]
    exact or_iff_right List.not_mem_nil
  · have entry (id : ι) : byId.get id lists.length =
        ⟨scoreOf round k id 0 (lists.zip weights), lists.map (rankIn id)⟩ := by
      have start : Entries.get [] id lists.length = ⟨0, [] ++ List.replicate lists.length none⟩ := rfl
      exact get_addLists (by rfl) lengths start
    rw [fuse]
    refine congrArg (List.insertionSort _) ?_
    show byId.map _ = byId.ids.map _
    refine (congrArg (List.map _) (Entries.eq_map_get lists.length distinct)).trans ?_
    rw [List.map_map]
    refine List.map_congr_left fun id _ => ?_
    show FusedHit.mk id (byId.get id lists.length).score (byId.get id lists.length).ranks = _
    rw [entry]
    rfl

end Counting

section Order
variable {a b c : FusedHit ι}

/-- What hits are ordered by. -/
def FusedHit.key (a : FusedHit ι) : ℚᵒᵈ ×ₗ WithTop Nat ×ₗ ι :=
  toLex (OrderDual.toDual a.score, toLex (best a.ranks, a.id))

lemma before_iff : a.before b ↔ a.key ≤ b.key := by
  rw [FusedHit.key, FusedHit.key, Prod.Lex.toLex_le_toLex, Prod.Lex.toLex_le_toLex]
  refine or_congr OrderDual.toDual_lt_toDual.symm (and_congr ?_ Iff.rfl)
  show b.score = a.score ↔ OrderDual.toDual a.score = OrderDual.toDual b.score
  rw [OrderDual.toDual_inj]
  exact eq_comm

omit [LinearOrder ι] in
lemma key_id (same : a.key = b.key) : a.id = b.id := by
  have pairs := congrArg (fun key : ℚᵒᵈ ×ₗ WithTop Nat ×ₗ ι => (ofLex (ofLex key).2).2) same
  exact pairs

instance : Std.Total (FusedHit.before : FusedHit ι → FusedHit ι → Prop) where
  total a b := by
    rw [before_iff, before_iff]
    exact le_total a.key b.key

instance : IsTrans (FusedHit ι) FusedHit.before where
  trans a b c first second := by
    rw [before_iff] at first second ⊢
    exact first.trans second

end Order

section Laws
variable {k : ℚ} {lists : List (List (RankedHit ι))} {weights : List ℚ} {a b : ι}

/-- A list in another order, given by the places of its elements. -/
def reorder {α : Type} (order : List Nat) (xs : List α) : List α :=
  order.filterMap fun n => xs[n]?

/-- A hit with its ranks in another order. -/
def FusedHit.reorder (order : List Nat) (hit : FusedHit ι) : FusedHit ι :=
  { hit with ranks := Memory.reorder order hit.ranks }

/-- What a list adds to the score of an id. -/
def share (k : ℚ) (id : ι) (list : List (RankedHit ι) × ℚ) : ℚ :=
  match rankIn id list.1 with
  | none => 0
  | some rank => list.2 / (k + rank)

lemma reorder_perm {α : Type} {order : List Nat} {xs : List α}
    (perm : order.Perm (List.range xs.length)) : (reorder order xs).Perm xs := by
  have whole : (List.range xs.length).filterMap (fun n => xs[n]?) = xs := by
    clear perm
    induction xs with
    | nil => rfl
    | cons x xs ih =>
      rw [List.length_cons, List.range_succ_eq_map]
      have first : List.filterMap (fun n => (x :: xs)[n]?) (0 :: (List.range xs.length).map Nat.succ) =
          x :: ((List.range xs.length).map Nat.succ).filterMap fun n => (x :: xs)[n]? :=
        List.filterMap_cons_some rfl
      rw [first, List.filterMap_map]
      exact congrArg (x :: ·) ih
  have moved : (reorder order xs).Perm ((List.range xs.length).filterMap fun n => xs[n]?) := perm.filterMap _
  rwa [whole] at moved

lemma reorder_map {α β : Type} {order : List Nat} {xs : List α} {f : α → β} :
    reorder order (xs.map f) = (reorder order xs).map f := by
  rw [reorder, reorder, List.map_filterMap]
  refine congrArg (List.filterMap · order) (funext fun n => ?_)
  exact List.getElem?_map

lemma reorder_cons {α : Type} {n : Nat} {order : List Nat} {xs : List α} :
    reorder (n :: order) xs = (xs[n]?).toList ++ reorder order xs := by
  rw [reorder, List.filterMap_cons, reorder]
  cases xs[n]? with
  | none => rfl
  | some x => rfl

lemma reorder_zip {α β : Type} {order : List Nat} {xs : List α} {ys : List β}
    (same : xs.length = ys.length) :
    (reorder order xs).zip (reorder order ys) = reorder order (xs.zip ys) := by
  induction order with
  | nil => rfl
  | cons n order ih =>
    rw [reorder_cons, reorder_cons, reorder_cons, ← ih]
    rcases Nat.lt_or_ge n xs.length with inside | outside
    · have inside' : n < ys.length := same ▸ inside
      have both : n < (xs.zip ys).length := by
        rw [List.length_zip]
        exact lt_min inside inside'
      rw [List.getElem?_eq_getElem inside, List.getElem?_eq_getElem inside',
        List.getElem?_eq_getElem both, List.getElem_zip]
      rfl
    · have outside' : ys.length ≤ n := same ▸ outside
      have both : (xs.zip ys).length ≤ n := by
        rw [List.length_zip]
        exact (min_le_left _ _).trans outside
      rw [List.getElem?_eq_none outside, List.getElem?_eq_none outside', List.getElem?_eq_none both]
      rfl

/-- Where nothing is rounded, scores are sums. -/
lemma scoreOf_id {score : ℚ} {pairs : List (List (RankedHit ι) × ℚ)} :
    scoreOf id k a score pairs = score + (pairs.map (share k a)).sum := by
  induction pairs generalizing score with
  | nil => exact (add_zero score).symm
  | cons pair pairs ih =>
    obtain ⟨list, weight⟩ := pair
    rw [scoreOf, List.map_cons, List.sum_cons, share]
    cases rankIn a list with
    | none =>
      dsimp only
      rw [ih, zero_add]
    | some rank =>
      dsimp only [id]
      rw [ih, add_assoc]

lemma best_perm {ranks ranks' : List (Option Nat)} (perm : ranks.Perm ranks') :
    best ranks = best ranks' := by
  induction perm with
  | nil => rfl
  | cons rank _ ih => exact congrArg (min _) ih
  | swap rank rank' ranks => exact min_left_comm _ _ _
  | trans _ _ first second => exact first.trans second

lemma best_le {ranks : List (Option Nat)} {rank : Nat} (mem : some rank ∈ ranks) : best ranks ≤ rank := by
  induction ranks with
  | nil => cases mem
  | cons first ranks ih =>
    rcases List.mem_cons.mp mem with rfl | mem
    · exact min_le_left _ _
    · exact (min_le_right _ _).trans (ih mem)

/-- The best rank is one of the ranks, if there is any. -/
lemma best_mem {ranks : List (Option Nat)} :
    best ranks = ⊤ ∨ ∃ rank : Nat, some rank ∈ ranks ∧ best ranks = rank := by
  induction ranks with
  | nil => exact .inl rfl
  | cons first ranks ih =>
    have step : best (first :: ranks) = min (first.elim ⊤ fun r => (r : WithTop Nat)) (best ranks) := rfl
    rcases min_choice (first.elim ⊤ fun r => (r : WithTop Nat)) (best ranks) with least | least
    · rw [step, least]
      cases first with
      | none => exact .inl rfl
      | some rank => exact .inr ⟨rank, List.mem_cons_self, rfl⟩
    · rw [step, least]
      rcases ih with all | ⟨rank, mem, is⟩
      · exact .inl all
      · exact .inr ⟨rank, List.mem_cons_of_mem _ mem, is⟩

lemma mem_of_rankIn {list : List (RankedHit ι)} {rank : Nat} (ranked : rankIn a list = some rank) :
    a ∈ list.map RankedHit.id ∧ rank = (list.map RankedHit.id).idxOf a + 1 := by
  rw [rankIn] at ranked
  split at ranked
  · rename_i mem
    exact ⟨mem, (Option.some.inj ranked).symm⟩
  · cases ranked

/-- A hit that is ahead of another one in every list with the other one. -/
def Dominates (lists : List (List (RankedHit ι))) (a b : ι) : Prop :=
  ∀ list ∈ lists, b ∈ list.map RankedHit.id →
    a ∈ list.map RankedHit.id ∧ (list.map RankedHit.id).idxOf a < (list.map RankedHit.id).idxOf b

/-- It gets at least as much from every list. -/
lemma share_le {list : List (RankedHit ι)} {weight : ℚ} (positive : 0 < k) (nonneg : 0 ≤ weight)
    (ahead : b ∈ list.map RankedHit.id → a ∈ list.map RankedHit.id ∧
      (list.map RankedHit.id).idxOf a < (list.map RankedHit.id).idxOf b) :
    share k b (list, weight) ≤ share k a (list, weight) := by
  have share_nonneg (id : ι) : 0 ≤ share k id (list, weight) := by
    rw [share]
    cases rankIn id list with
    | none => exact le_refl 0
    | some rank => exact div_nonneg nonneg (by positivity)
  by_cases mem : b ∈ list.map RankedHit.id
  · obtain ⟨mem', less⟩ := ahead mem
    rw [share, share, rankIn, rankIn, if_pos mem, if_pos mem']
    refine div_le_div_of_nonneg_left nonneg (by positivity) ?_
    have ranks : ((list.map RankedHit.id).idxOf a : ℚ) < (list.map RankedHit.id).idxOf b :=
      Nat.cast_lt.mpr less
    push_cast
    linarith
  · have none : share k b (list, weight) = 0 := by
      rw [share, rankIn, if_neg mem]
    rw [none]
    exact share_nonneg a

/-- Its score is no less and its best rank is better, so it comes before. -/
lemma key_lt (positive : 0 < k) (nonneg : ∀ w ∈ weights, 0 ≤ w) (dominates : Dominates lists a b)
    (listed : ∃ list ∈ lists, b ∈ list.map RankedHit.id) :
    (hitOf id k weights lists a).key < (hitOf id k weights lists b).key := by
  have score : (hitOf id k weights lists b).score ≤ (hitOf id k weights lists a).score := by
    rw [hitOf, hitOf]
    dsimp only
    rw [scoreOf_id, scoreOf_id]
    refine add_le_add_right (List.sum_le_sum fun pair mem => ?_) 0
    obtain ⟨list, weight⟩ := pair
    have parts := List.of_mem_zip mem
    exact share_le positive (nonneg weight parts.2) (dominates list parts.1)
  have rank : best (hitOf id k weights lists a).ranks < best (hitOf id k weights lists b).ranks := by
    obtain ⟨list, held, mem⟩ := listed
    have some_rank : best (lists.map (rankIn b)) ≠ ⊤ := by
      have ranked : some ((list.map RankedHit.id).idxOf b + 1) ∈ lists.map (rankIn b) :=
        List.mem_map.mpr ⟨list, held, if_pos mem⟩
      exact ne_top_of_le_ne_top (WithTop.coe_ne_top) (best_le ranked)
    obtain ⟨r, ranked, is⟩ := best_mem.resolve_left some_rank
    obtain ⟨list, held, ranked⟩ := List.mem_map.mp ranked
    obtain ⟨mem, rfl⟩ := mem_of_rankIn ranked
    obtain ⟨mem', less⟩ := dominates list held mem
    have ranked' : some ((list.map RankedHit.id).idxOf a + 1) ∈ lists.map (rankIn a) :=
      List.mem_map.mpr ⟨list, held, if_pos mem'⟩
    show best (lists.map (rankIn a)) < best (lists.map (rankIn b))
    rw [is]
    refine (best_le ranked').trans_lt ?_
    exact WithTop.coe_lt_coe.mpr (Nat.succ_lt_succ less)
  rw [FusedHit.key, FusedHit.key, Prod.Lex.toLex_lt_toLex, Prod.Lex.toLex_lt_toLex]
  rcases score.lt_or_eq with less | same
  · exact .inl (OrderDual.toDual_lt_toDual.mpr less)
  · exact .inr ⟨congrArg OrderDual.toDual same.symm, .inl rank⟩

/-- Hits in the order of the result are determined by their set. -/
lemma sorted_eq {xs ys : List (FusedHit ι)} (perm : xs.Perm ys) (distinct : (xs.map FusedHit.id).Nodup)
    (sorted : xs.Pairwise FusedHit.before) (sorted' : ys.Pairwise FusedHit.before) : xs = ys := by
  refine List.Perm.eq_of_pairwise ?_ sorted sorted' perm
  intro a b mem mem' first second
  rw [before_iff] at first second
  have same : a.id = b.id := key_id (first.antisymm second)
  exact List.inj_on_of_nodup_map distinct mem (perm.symm.subset mem') same

omit [LinearOrder ι] in
lemma key_reorder {order : List Nat} {hit : FusedHit ι}
    (perm : order.Perm (List.range hit.ranks.length)) : (hit.reorder order).key = hit.key := by
  rw [FusedHit.key, FusedHit.key, FusedHit.reorder]
  dsimp only
  rw [best_perm (reorder_perm perm)]

/-- The hits of the reordered lists. -/
lemma hitOf_reorder {order : List Nat} (perm : order.Perm (List.range lists.length))
    (lengths : weights.length = lists.length) :
    hitOf id k (reorder order weights) (reorder order lists) a =
      (hitOf id k weights lists a).reorder order := by
  rw [hitOf, hitOf, FusedHit.reorder]
  dsimp only
  rw [reorder_map, scoreOf_id, scoreOf_id, reorder_zip lengths.symm]
  have pairs : (reorder order (lists.zip weights)).Perm (lists.zip weights) := by
    refine reorder_perm ?_
    rw [List.length_zip, lengths, min_self]
    exact perm
  rw [(pairs.map (share k a)).sum_eq]

/-- The hits of the reordered lists are in the same order. -/
lemma fuse_reorder {order : List Nat} (perm : order.Perm (List.range lists.length))
    (lengths : weights.length = lists.length) :
    fuse id k (reorder order weights) (reorder order lists) =
      (fuse id k weights lists).map (FusedHit.reorder order) := by
  have lists' : (reorder order lists).Perm lists := reorder_perm perm
  have weights' : (reorder order weights).Perm weights := by
    apply reorder_perm
    rwa [lengths]
  have lengths' : (reorder order weights).length = (reorder order lists).length := by
    rw [weights'.length_eq, lists'.length_eq, lengths]
  obtain ⟨ids, distinct, members, is⟩ := fuse_eq id k lengths
  obtain ⟨ids', distinct', members', is'⟩ := fuse_eq id k lengths'
  have same : ids'.Perm ids := by
    refine (List.perm_ext_iff_of_nodup distinct' distinct).mpr fun id => ?_
    rw [members, members']
    exact exists_congr fun list => and_congr_left fun _ => lists'.mem_iff
  have moved : ids'.map (hitOf id k (reorder order weights) (reorder order lists)) =
      (ids'.map (hitOf id k weights lists)).map (FusedHit.reorder order) := by
    rw [List.map_map]
    exact List.map_congr_left fun id _ => hitOf_reorder perm lengths
  rw [is, is', moved]
  have reached : ((ids.map (hitOf id k weights lists)).insertionSort FusedHit.before).Perm
      (ids'.map (hitOf id k weights lists)) :=
    (List.perm_insertionSort _ _).trans (same.symm.map _)
  refine sorted_eq ((List.perm_insertionSort _ _).trans (reached.symm.map _)) ?_
    (List.pairwise_insertionSort _ _) ?_
  · have sorted := (List.perm_insertionSort (FusedHit.before : FusedHit ι → FusedHit ι → Prop) ((ids'.map (hitOf id k weights lists)).map
      (FusedHit.reorder order))).map FusedHit.id
    rw [sorted.nodup_iff, List.map_map, List.map_map]
    exact (congrArg List.Nodup (List.map_id ids')).mpr distinct'
  · refine List.pairwise_map.mpr ?_
    refine (List.pairwise_insertionSort FusedHit.before _).imp_of_mem ?_
    intro a b mem mem' before
    have all {hit : FusedHit ι}
        (mem : hit ∈ (ids.map (hitOf id k weights lists)).insertionSort FusedHit.before) :
        (hit.reorder order).key = hit.key := by
      obtain ⟨id, _, rfl⟩ := List.mem_map.mp ((List.perm_insertionSort _ _).subset mem)
      apply key_reorder
      rwa [hitOf, List.length_map]
    rw [before_iff, all mem, all mem']
    exact before_iff.mp before

lemma idxOf_lt {xs : List (FusedHit ι)} {x y : FusedHit ι} (distinct : (xs.map FusedHit.id).Nodup)
    (sorted : xs.Pairwise FusedHit.before) (mem : x ∈ xs) (mem' : y ∈ xs) (less : x.key < y.key) :
    (xs.map FusedHit.id).idxOf x.id < (xs.map FusedHit.id).idxOf y.id := by
  induction xs with
  | nil => cases mem
  | cons z xs ih =>
    rw [List.map_cons] at distinct ⊢
    obtain ⟨new, distinct⟩ := List.nodup_cons.mp distinct
    obtain ⟨first, sorted⟩ := List.pairwise_cons.mp sorted
    have other {hit : FusedHit ι} (mem : hit ∈ xs) : z.id ≠ hit.id := fun same =>
      new (same ▸ List.mem_map_of_mem mem)
    rcases List.mem_cons.mp mem' with rfl | mem'
    · rcases List.mem_cons.mp mem with rfl | mem
      · exact absurd less (lt_irrefl _)
      · exact absurd (before_iff.mp (first x mem)) less.not_ge
    · rw [List.idxOf_cons_ne _ (other mem')]
      rcases List.mem_cons.mp mem with rfl | mem
      · rw [List.idxOf_cons_self]
        exact Nat.succ_pos _
      · rw [List.idxOf_cons_ne _ (other mem)]
        exact Nat.succ_lt_succ (ih distinct sorted mem mem')

/-- The result for options that are accepted. -/
lemma reciprocalRankFusion_ok {round : ℚ → ℚ} {limit : Option Int} (positive : 0 < k)
    (lengths : weights.length = lists.length) (nonneg : ∀ w ∈ weights, 0 ≤ w) :
    reciprocalRankFusion round lists { k := some k, weights := some weights, limit } =
      .ok (limit.elim (fuse round k weights lists) fun limit =>
        sliceTo limit (fuse round k weights lists)) := by
  have accepted : ¬ (weights.length ≠ lists.length ∨ weights.any fun w => ¬ w ≥ 0) := by
    rintro (other | some_neg)
    · exact other lengths
    · obtain ⟨w, mem, neg⟩ := List.any_eq_true.mp some_neg
      exact of_decide_eq_true neg (nonneg w mem)
  rw [reciprocalRankFusion]
  dsimp only [Option.getD]
  rw [if_neg (not_not.mpr positive), if_neg accepted]

/-- Reciprocal rank fusion in exact arithmetic. -/
theorem fusion_laws (lists : List (List (RankedHit ι))) (weights : List ℚ) (positive : 0 < k) (lengths : weights.length = lists.length)
    (nonneg : ∀ w ∈ weights, 0 ≤ w) :
    ∃ fused, reciprocalRankFusion id lists { k := some k, weights := some weights } = .ok fused ∧
      (fused.map FusedHit.id).Nodup ∧
      (∀ a, a ∈ fused.map FusedHit.id ↔ ∃ list ∈ lists, a ∈ list.map RankedHit.id) ∧
      (∀ n : Nat, reciprocalRankFusion id lists { k := some k, weights := some weights, limit := some n } =
        .ok (fused.take n)) ∧
      (∀ order : List Nat, order.Perm (List.range lists.length) →
        reciprocalRankFusion id (reorder order lists)
            { k := some k, weights := some (reorder order weights) } =
          .ok (fused.map (FusedHit.reorder order))) ∧
      ∀ a b, Dominates lists a b → (∃ list ∈ lists, b ∈ list.map RankedHit.id) →
        (fused.map FusedHit.id).idxOf a < (fused.map FusedHit.id).idxOf b := by
  obtain ⟨ids, distinct, members, is⟩ := fuse_eq id k lengths
  have moved : (fuse id k weights lists).Perm (ids.map (hitOf id k weights lists)) :=
    is ▸ List.perm_insertionSort _ _
  have ids' : ((fuse id k weights lists).map FusedHit.id).Perm ids := by
    have moved := moved.map FusedHit.id
    rw [List.map_map] at moved
    exact moved.trans (List.Perm.of_eq (List.map_id ids))
  have once : ((fuse id k weights lists).map FusedHit.id).Nodup := ids'.nodup_iff.mpr distinct
  refine ⟨fuse id k weights lists, reciprocalRankFusion_ok positive lengths nonneg, once, fun a => ?_,
    fun n => ?_, fun order perm => ?_, fun a b dominates listed => ?_⟩
  · rw [ids'.mem_iff]
    exact members a
  · rw [reciprocalRankFusion_ok positive lengths nonneg]
    have natural : ¬ (n : Int) < 0 := Int.not_lt.mpr (Int.natCast_nonneg n)
    show Except.ok (sliceTo _ _) = _
    rw [sliceTo, if_neg natural, Int.toNat_natCast]
  · have weights' : (reorder order weights).Perm weights := by
      apply reorder_perm
      rwa [lengths]
    rw [reciprocalRankFusion_ok positive]
    · exact congrArg Except.ok (fuse_reorder perm lengths)
    · rw [weights'.length_eq, (reorder_perm perm).length_eq, lengths]
    · exact fun w mem => nonneg w (weights'.subset mem)
  · have listed' : ∃ list ∈ lists, a ∈ list.map RankedHit.id :=
      listed.imp fun list both => ⟨both.1, (dominates list both.1 both.2).1⟩
    have held {x : ι} (listed : ∃ list ∈ lists, x ∈ list.map RankedHit.id) :
        hitOf id k weights lists x ∈ fuse id k weights lists :=
      moved.symm.subset (List.mem_map_of_mem ((members x).mpr listed))
    have sorted : (fuse id k weights lists).Pairwise FusedHit.before :=
      is ▸ List.pairwise_insertionSort _ _
    exact idxOf_lt once sorted (held listed') (held listed) (key_lt positive nonneg dominates listed)

/-- The laws for the results of two searches. -/
theorem fusion_laws_searches :
    ∃ fused, reciprocalRankFusion id [[⟨3⟩, ⟨1⟩, ⟨3⟩], [⟨3⟩, ⟨2⟩, ⟨1⟩]]
        { k := some 3, weights := some [1, 1 / 20] } = .ok fused ∧
      (fused.map FusedHit.id).idxOf 3 < (fused.map FusedHit.id).idxOf 1 := by
  have nonneg : ∀ w ∈ [(1 : ℚ), 1 / 20], 0 ≤ w := by
    intro w mem
    rcases List.mem_pair.mp mem with rfl | rfl <;> norm_num
  obtain ⟨fused, is, _, _, _, _, ahead⟩ :=
    fusion_laws [[⟨3⟩, ⟨1⟩, ⟨3⟩], [⟨3⟩, ⟨2⟩, ⟨1⟩]] [1, 1 / 20] (k := 3) (by decide) rfl nonneg
  refine ⟨fused, is, ahead 3 1 ?_ ?_⟩
  · unfold Dominates
    decide
  · decide

end Laws
end AtomsPlatform.Memory
