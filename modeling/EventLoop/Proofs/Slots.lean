import EventLoop.Proofs.Live
import Mathlib.Data.Finmap
import Mathlib.Data.Finset.Sort

/-!
# Slabs as finite maps

Whatever is put into a slab, taken out of it and looked up in it, the slab answers as a finite map
from numbers to values that chooses the number of a new value itself. What carries this is that the
numbers given up are those of the empty slots, all of them and each listed once.
-/
namespace EventLoop.Slab

variable {α : Type} {slab : Slab α}

/-! ### What is asked of a slab -/

/-- What can be asked of a slab. -/
inductive Request (α : Type)
  /-- To keep a value under a number that the slab chooses. -/
  | insert (value : α)
  /-- To take out the value under a number. -/
  | erase (index : Nat)
  /-- To look up the value under a number. -/
  | get (index : Nat)
  /-- To count the values. -/
  | size
  /-- To take out all values. -/
  | drain

/-- What a slab answers. -/
inductive Reply (α : Type)
  /-- The number that was chosen. -/
  | index (index : Nat)
  /-- The value under the number, if there is one. -/
  | value (value : Option α)
  /-- How many values there are. -/
  | count (count : Nat)
  /-- The values in their order. -/
  | values (values : List α)

/-- Does what is asked of a slab. -/
def serve (slab : Slab α) : Request α → Reply α × Slab α
  | .insert value => (.index (slab.insert value).1, (slab.insert value).2)
  | .erase index => (.value (slab.erase index).1, (slab.erase index).2)
  | .get index => (.value (slab.get? index), slab)
  | .size => (.count slab.size, slab)
  | .drain => (.values slab.drain.1, slab.drain.2)

/-- What a slab is after some requests. -/
def after (slab : Slab α) (requests : List (Request α)) : Slab α :=
  requests.foldl (fun slab request => (slab.serve request).2) slab

/-- Requests to a slab, each with what was answered. -/
def record (slab : Slab α) : List (Request α) → List (Request α × Reply α)
  | [] => []
  | request :: requests =>
    (request, (slab.serve request).1) :: (slab.serve request).2.record requests

/-- A request that comes last is served by the slab that the others leave. -/
theorem after_concat (slab : Slab α) (requests : List (Request α)) (request : Request α) :
    slab.after (requests ++ [request]) = ((slab.after requests).serve request).2 :=
  List.foldl_concat ..

/-! ### The numbers of the empty slots -/

/-- A slab in which the numbers of the empty slots, and no others, were given up, each listed
once. -/
structure Packed (slab : Slab α) : Prop extends slab.Tidy where
  /-- Every empty slot is listed. -/
  listed : ∀ index, slab.slots[index]? = some none → index ∈ slab.free

/-- An empty slab is packed. -/
theorem packed_empty : (∅ : Slab α).Packed :=
  ⟨tidy_empty, fun _ empty => nomatch empty⟩

/-- The free numbers of a packed slab are those of its empty slots. -/
theorem Packed.mem_free (packed : slab.Packed) (index : Nat) :
    index ∈ slab.free ↔ slab.slots[index]? = some none :=
  ⟨packed.empty index, packed.listed index⟩

/-- A packed slab stays packed when a value is inserted. -/
theorem Packed.insert (packed : slab.Packed) (value : α) : (slab.insert value).2.Packed := by
  refine ⟨packed.toTidy.insert value, fun index empty => ?_⟩
  unfold Slab.insert at empty ⊢
  cases given : slab.free with
  | nil =>
    -- Without a number to reuse every slot is in use, and the new one is as well.
    rw [given] at empty
    dsimp only at empty
    rw [List.getElem?_append] at empty
    by_cases below : index < slab.slots.length
    · rw [if_pos below] at empty
      exact absurd (packed.listed index empty) (given ▸ List.not_mem_nil)
    · rw [if_neg below, List.getElem?_singleton] at empty
      split at empty <;> nomatch empty
  | cons first others =>
    rw [given] at empty
    dsimp only at empty ⊢
    have there := packed.empty first (given ▸ List.mem_cons_self)
    obtain ⟨below, -⟩ := List.getElem?_eq_some_iff.mp there
    by_cases same : index = first
    · subst same
      rw [List.getElem?_set_self below] at empty
      nomatch empty
    · rw [List.getElem?_set_ne (fun other => same other.symm)] at empty
      have known := packed.listed index empty
      rw [given] at known
      exact (List.mem_cons.mp known).resolve_left same

/-- A packed slab stays packed when a value is removed. -/
theorem Packed.erase (packed : slab.Packed) (index : Nat) : (slab.erase index).2.Packed := by
  refine ⟨packed.toTidy.erase index, fun other empty => ?_⟩
  unfold Slab.erase at empty ⊢
  cases found : slab.get? index with
  | none =>
    rw [found] at empty
    exact packed.listed other empty
  | some value =>
    rw [found] at empty
    dsimp only at empty ⊢
    by_cases same : other = index
    · exact same ▸ List.mem_cons_self
    · rw [List.getElem?_set_ne (fun here => same here.symm)] at empty
      exact List.mem_cons_of_mem index (packed.listed other empty)

/-- A packed slab stays packed, whatever is asked of it. -/
theorem Packed.serve (packed : slab.Packed) (request : Request α) :
    (slab.serve request).2.Packed := by
  cases request with
  | insert value => exact packed.insert value
  | erase index => exact packed.erase index
  | get index => exact packed
  | size => exact packed
  | drain => exact packed_empty

/-- A packed slab stays packed through a list of requests. -/
theorem Packed.after (packed : slab.Packed) (requests : List (Request α)) :
    (slab.after requests).Packed := by
  induction requests generalizing slab with
  | nil => exact packed
  | cons request requests ih => exact ih (packed.serve request)

/-- Every slot is empty and listed once, or holds one of the values. -/
theorem Packed.length_slots (packed : slab.Packed) :
    slab.slots.length = slab.toList.length + slab.free.length := by
  have same : slab.free.Perm (slab.slots.findIdxs fun slot => !slot.isSome) := by
    refine (List.perm_ext_iff_of_nodup packed.nodup List.nodup_findIdxs).mpr fun index => ?_
    rw [packed.mem_free, List.mem_findIdxs_iff_exists_getElem_pos, List.getElem?_eq_some_iff]
    simp
  calc
    slab.slots.length = slab.slots.countP Option.isSome +
        slab.slots.countP fun slot => !slot.isSome := by
      rw [slab.slots.length_eq_countP_add_countP Option.isSome]
      simp only [Bool.not_eq_true, Bool.decide_eq_false]
    _ = slab.toList.length + slab.free.length := by
      rw [same.length_eq, List.length_findIdxs, toList, List.length_filterMap_eq_countP]
      rfl

/-- A packed slab counts its values. -/
theorem Packed.size_eq (packed : slab.Packed) : slab.size = slab.toList.length := by
  have split := packed.length_slots
  unfold size
  omega

/-! ### The values under their numbers -/

/-- The numbers of the slots in use, in their order. -/
def used (slab : Slab α) : List Nat := slab.slots.findIdxs Option.isSome

/-- A number is in use if it has a value. -/
theorem mem_used {index : Nat} : index ∈ slab.used ↔ (slab.get? index).isSome := by
  unfold used get?
  rw [List.mem_findIdxs_iff_exists_getElem_pos]
  by_cases below : index < slab.slots.length
  · simp [below]
  · simp [below]

/-- The values are those under the numbers in use, number by number. -/
theorem filterMap_used (slab : Slab α) : slab.used.filterMap slab.get? = slab.toList := by
  have there : ∀ slot ∈ slab.slots.zipIdx, slab.slots[slot.2]? = some slot.1 :=
    fun slot member => List.mk_mem_zipIdx_iff_getElem?.mp member
  calc
    slab.used.filterMap slab.get? = slab.slots.zipIdx.filterMap fun slot => slot.1 := by
      unfold used
      rw [List.findIdxs_eq_filterMap_zipIdx, List.filterMap_filterMap]
      refine List.filterMap_congr fun slot member => ?_
      have found : slab.get? slot.2 = slot.1 := by rw [get?, there slot member]; rfl
      cases held : slot.1 with
      | none => rfl
      | some value => exact found.trans held
    _ = (slab.slots.zipIdx.map Prod.fst).filterMap id := by rw [List.filterMap_map]; rfl
    _ = slab.toList := by rw [List.zipIdx_map_fst]; rfl

/-- The finite map of the values under their numbers. -/
def toMap (slab : Slab α) : Finmap fun _ : Nat => α :=
  Finmap.keysLookupEquiv.symm ⟨(slab.used.toFinset, slab.get?), fun _ => by
    rw [List.mem_toFinset, mem_used]⟩

/-- The map of a slab finds what the slab finds. -/
@[simp] theorem lookup_toMap (slab : Slab α) (index : Nat) :
    slab.toMap.lookup index = slab.get? index :=
  Finmap.keysLookupEquiv_symm_apply_lookup ..

/-- The keys of the map are the numbers in use. -/
@[simp] theorem keys_toMap (slab : Slab α) : slab.toMap.keys = slab.used.toFinset :=
  Finmap.keysLookupEquiv_symm_apply_keys ..

/-- A number has no entry in the map if it has no value. -/
theorem notMem_toMap {index : Nat} : index ∉ slab.toMap ↔ slab.get? index = none := by
  rw [← Finmap.lookup_eq_none, lookup_toMap]

/-- The map of an empty slab is empty. -/
theorem toMap_empty : (∅ : Slab α).toMap = ∅ :=
  Finmap.ext_lookup fun index => by rw [lookup_toMap, Finmap.lookup_empty]; rfl

/-- Inserting a value inserts an entry under the number that is answered. -/
theorem Tidy.toMap_insert (tidy : slab.Tidy) (value : α) :
    (slab.insert value).2.toMap = slab.toMap.insert (slab.insert value).1 value := by
  refine Finmap.ext_lookup fun index => ?_
  rw [lookup_toMap, tidy.get?_insert]
  by_cases same : index = (slab.insert value).1
  · rw [if_pos same, same, Finmap.lookup_insert]
  · rw [if_neg same, Finmap.lookup_insert_of_ne _ same, lookup_toMap]

/-- Removing a value removes its entry. -/
theorem toMap_erase (slab : Slab α) (index : Nat) :
    (slab.erase index).2.toMap = slab.toMap.erase index := by
  refine Finmap.ext_lookup fun other => ?_
  rw [lookup_toMap, get?_erase]
  by_cases same : other = index
  · rw [if_pos same, same, Finmap.lookup_erase]
  · rw [if_neg same, Finmap.lookup_erase_ne same, lookup_toMap]

/-- What is taken out is what was found under the number. -/
theorem fst_erase (slab : Slab α) (index : Nat) : (slab.erase index).1 = slab.get? index := by
  unfold erase
  cases found : slab.get? index with
  | none => rfl
  | some value => rfl

/-- The numbers in use are the keys of the map in their order. -/
theorem sort_keys_toMap (slab : Slab α) : slab.toMap.keys.sort = slab.used := by
  have ordered : slab.used.Pairwise (· < ·) := List.pairwise_findIdxs
  rw [keys_toMap, List.toFinset_sort _ (ordered.imp Nat.ne_of_lt)]
  exact ordered.imp Nat.le_of_lt

/-- A packed slab is as long as its map has keys. -/
theorem Packed.card_keys_toMap (packed : slab.Packed) : slab.toMap.keys.card = slab.size := by
  have distinct : slab.used.Nodup := List.nodup_findIdxs
  rw [keys_toMap, List.toFinset_card_of_nodup distinct, packed.size_eq]
  exact (List.length_findIdxs).trans (List.length_filterMap_eq_countP ..).symm

/-! ### The answers of a finite map -/

/-- What a finite map that chooses the number of a new value answers, and what it is then. -/
inductive Answers : Finmap (fun _ : Nat => α) → Request α → Reply α →
    Finmap (fun _ : Nat => α) → Prop
  /-- A new value is kept under a number that is not in use. -/
  | insert (map value index) (unused : index ∉ map) :
    Answers map (.insert value) (.index index) (map.insert index value)
  /-- The value under a number is taken out, and no other. -/
  | erase (map index) : Answers map (.erase index) (.value (map.lookup index)) (map.erase index)
  /-- The value under a number is looked up, and the map stays as it is. -/
  | get (map index) : Answers map (.get index) (.value (map.lookup index)) map
  /-- The values are counted, and the map stays as it is. -/
  | size (map) : Answers map .size (.count map.keys.card) map
  /-- All values are taken out in the order of their numbers. -/
  | drain (map) : Answers map .drain (.values (map.keys.sort.filterMap map.lookup)) ∅

/-- What a finite map answers to requests one after another, and what it is in the end. -/
inductive AnswersAll :
    Finmap (fun _ : Nat => α) → List (Request α × Reply α) → Finmap (fun _ : Nat => α) → Prop
  /-- Nothing was asked. -/
  | nil (map) : AnswersAll map [] map
  /-- The first request is answered, and the others after it. -/
  | cons {map next last request reply record} (first : Answers map request reply next)
    (others : AnswersAll next record last) : AnswersAll map ((request, reply) :: record) last

/-- One request is answered as by the finite map. -/
theorem Packed.answers (packed : slab.Packed) (request : Request α) :
    Answers slab.toMap request (slab.serve request).1 (slab.serve request).2.toMap := by
  cases request with
  | insert value =>
    have unused := notMem_toMap.mpr (packed.get?_new value)
    have kept := Answers.insert slab.toMap value _ unused
    rwa [← packed.toMap_insert value] at kept
  | erase index =>
    have taken := Answers.erase slab.toMap index
    rwa [lookup_toMap, ← fst_erase, ← toMap_erase] at taken
  | get index =>
    have found := Answers.get slab.toMap index
    rwa [lookup_toMap] at found
  | size =>
    have counted := Answers.size slab.toMap
    rwa [packed.card_keys_toMap] at counted
  | drain =>
    have all := Answers.drain slab.toMap
    have lookup : slab.toMap.lookup = slab.get? := funext slab.lookup_toMap
    rwa [sort_keys_toMap, lookup, filterMap_used, ← toMap_empty] at all

/-- All requests are answered as by the finite map. -/
theorem Packed.answersAll (packed : slab.Packed) (requests : List (Request α)) :
    AnswersAll slab.toMap (slab.record requests) (slab.after requests).toMap := by
  induction requests generalizing slab with
  | nil => exact .nil _
  | cons request requests ih => exact .cons (packed.answers request) (ih (packed.serve request))

/-! ### Where a value comes from -/

/-- Among requests to an empty slab, a value was put in under a number, and nothing was asked since
that takes it out. -/
def Keeps (requests : List (Request α)) (index : Nat) (value : α) : Prop :=
  ∃ earlier later, requests = earlier ++ .insert value :: later ∧
    (((∅ : Slab α).after earlier).insert value).1 = index ∧
    ∀ request ∈ later, request ≠ .erase index ∧ request ≠ .drain

/-- Nothing is kept before anything was asked. -/
theorem not_keeps_nil (index : Nat) (value : α) : ¬ Keeps [] index value := by
  rintro ⟨earlier, later, split, -⟩
  simp at split

/-- One more request puts the value in, or leaves it in. -/
theorem keeps_concat {requests : List (Request α)} {request : Request α} {index : Nat} {value : α} :
    Keeps (requests ++ [request]) index value ↔
      (request = .insert value ∧ (((∅ : Slab α).after requests).insert value).1 = index) ∨
      (Keeps requests index value ∧ request ≠ .erase index ∧ request ≠ .drain) := by
  constructor
  · rintro ⟨earlier, later, split, chosen, since⟩
    rcases List.eq_nil_or_concat' later with rfl | ⟨rest, last, rfl⟩
    · obtain ⟨rfl, same⟩ := List.append_inj' split rfl
      exact .inl ⟨List.head_eq_of_cons_eq same, chosen⟩
    · rw [← List.cons_append, ← List.append_assoc] at split
      obtain ⟨rfl, same⟩ := List.append_inj' split rfl
      have last_eq := List.head_eq_of_cons_eq same
      subst last_eq
      have kept : Keeps (earlier ++ .insert value :: rest) index value :=
        ⟨earlier, rest, rfl, chosen, fun asked member => since asked (List.mem_append_left _ member)⟩
      exact .inr ⟨kept, since request (List.mem_append_right rest List.mem_cons_self)⟩
  · rintro (⟨rfl, chosen⟩ | ⟨⟨earlier, later, rfl, chosen, since⟩, leaves⟩)
    · exact ⟨requests, [], rfl, chosen, fun _ member => nomatch member⟩
    · refine ⟨earlier, later ++ [request], by simp, chosen, fun asked member => ?_⟩
      rcases List.mem_append.mp member with member | member
      · exact since asked member
      · rwa [List.mem_singleton.mp member]

/-- A request puts a value in where none was, or leaves it where it was unless it takes it out. -/
theorem Tidy.get?_serve (tidy : slab.Tidy) (request : Request α) (index : Nat) (value : α) :
    (slab.serve request).2.get? index = some value ↔
      (request = .insert value ∧ (slab.insert value).1 = index) ∨
      (slab.get? index = some value ∧ request ≠ .erase index ∧ request ≠ .drain) := by
  cases request with
  | insert other =>
    change (slab.insert other).2.get? index = some value ↔ _
    rw [tidy.get?_insert]
    by_cases chosen : index = (slab.insert other).1
    · -- The slot was empty, so that nothing is lost.
      subst chosen
      have unused := tidy.get?_new other
      constructor
      · intro found
        rw [if_pos rfl] at found
        cases found
        exact .inl ⟨rfl, rfl⟩
      · rintro (⟨same, -⟩ | ⟨found, -⟩)
        · cases same
          rw [if_pos rfl]
        · rw [unused] at found
          nomatch found
    · rw [if_neg chosen]
      constructor
      · intro found
        exact .inr ⟨found, nofun, nofun⟩
      · rintro (⟨same, here⟩ | ⟨found, -⟩)
        · cases same
          exact absurd here.symm chosen
        · exact found
  | erase other =>
    change (slab.erase other).2.get? index = some value ↔ _
    rw [get?_erase]
    by_cases same : index = other
    · simp [same]
    · simp [same, Ne.symm same]
  | get other => simp [serve]
  | size => simp [serve]
  | drain =>
    constructor
    · intro found
      nomatch found
    · rintro (⟨same, -⟩ | ⟨-, -, drains⟩)
      · nomatch same
      · exact absurd rfl drains

/-- A number has a value under it exactly if the value was put in under that number and not taken
out since. -/
theorem get?_after (requests : List (Request α)) (index : Nat) (value : α) :
    ((∅ : Slab α).after requests).get? index = some value ↔ Keeps requests index value := by
  induction requests using List.reverseRecOn with
  | nil =>
    constructor
    · intro found
      nomatch found
    · intro keeps
      exact absurd keeps (not_keeps_nil index value)
  | append_singleton requests request ih =>
    have tidy := (packed_empty.after requests).toTidy
    rw [after_concat, tidy.get?_serve, keeps_concat, ih]

/-- Whatever is asked of an empty slab, it answers as a finite map that starts out empty. Its numbers
given up are then those of its empty slots, each listed once, so that the count of the values is not
cut off; and a number has exactly that value under it which was put in under the number and has not
been taken out since. -/
theorem answers_as_map (requests : List (Request α)) :
    let slab := (∅ : Slab α).after requests
    AnswersAll ∅ ((∅ : Slab α).record requests) slab.toMap ∧
    (slab.free.Nodup ∧ ∀ index, index ∈ slab.free ↔ slab.slots[index]? = some none) ∧
    (slab.free.length ≤ slab.slots.length ∧ slab.size = slab.toList.length) ∧
    ∀ index value, slab.get? index = some value ↔ Keeps requests index value := by
  intro slab
  have packed : slab.Packed := packed_empty.after requests
  have answered := packed_empty.answersAll requests
  rw [toMap_empty] at answered
  have room : slab.free.length ≤ slab.slots.length := by
    have split := packed.length_slots
    omega
  exact ⟨answered, ⟨packed.nodup, packed.mem_free⟩, ⟨room, packed.size_eq⟩, get?_after requests⟩

/-- A number that was given up goes to the next value, and giving it up twice changes nothing. -/
example : ((∅ : Slab Nat).record [.insert 5, .insert 6, .erase 0, .erase 0, .erase 9, .insert 7,
    .get 1, .size, .drain, .size]).map Prod.snd =
    [.index 0, .index 1, .value (some 5), .value none, .value none, .index 0, .value (some 6),
      .count 2, .values [7, 6], .count 0] := rfl

end EventLoop.Slab
