import GrammarTables.OrderedMap
import Mathlib.Data.List.Nodup

/-!
# Laws of insertion-ordered maps

After any insertions the keys are in the order of their first insertions, and each has the
value of its last one.  Keys can be the same without being equal, and the laws are stated
for keys among which this does not happen.
-/

namespace GrammarTables.OrderedMap

variable {Key Value : Type}

theorem keysHave_empty {property : Key → Prop} :
    ∀ key ∈ (empty : OrderedMap Key Value).keys, property key := nofun

variable [BEq Key]

/-- Among the keys with a property, being the same is being equal. -/
def IsExact (property : Key → Prop) : Prop :=
  ∀ left right, property left → property right → ((left == right) = true ↔ left = right)

variable {property : Key → Prop}

theorem IsExact.beq_comm (exact : IsExact property) {left right : Key}
    (leftHas : property left) (rightHas : property right) :
    (left == right) = (right == left) := by
  rw [Bool.eq_iff_iff, exact left right leftHas rightHas, exact right left rightHas leftHas,
    eq_comm]

theorem IsExact.any_beq_iff_mem (exact : IsExact property) {keys : List Key}
    (keysHave : ∀ key ∈ keys, property key) {key : Key} (has : property key) :
    (keys.any (· == key)) = true ↔ key ∈ keys := by
  rw [List.any_eq_true]
  constructor
  · rintro ⟨other, member, same⟩
    rwa [← (exact other key (keysHave other member) has).mp same]
  · intro member
    exact ⟨key, member, (exact key key has has).mpr rfl⟩

/-! ## Keys -/

theorem contains_eq_any_keys (map : OrderedMap Key Value) (key : Key) :
    map.contains key = map.keys.any (· == key) := by
  simp [contains, keys, List.any_map, Function.comp_def]

/-- A new key comes last, and a key that is there keeps its place. -/
theorem keys_insert (map : OrderedMap Key Value) (key : Key) (value : Value) :
    (map.insert key value).keys =
      if map.contains key then map.keys else map.keys ++ [key] := by
  obtain ⟨entries⟩ := map
  simp only [insert, keys, contains]
  induction entries with
  | nil => simp [insertEntry]
  | cons entry rest ih =>
      by_cases same : (entry.1 == key) = true
      · simp [insertEntry, same]
      · simp only [insertEntry, same, Bool.false_eq_true, if_false, List.map_cons, ih,
          List.any_cons, Bool.false_or]
        by_cases known : (rest.any fun entry => entry.1 == key) = true <;> simp [known]

/-- A map grows by the keys that are new to it. -/
theorem size_insert (map : OrderedMap Key Value) (key : Key) (value : Value) :
    (map.insert key value).size = if map.contains key then map.size else map.size + 1 := by
  have count (other : OrderedMap Key Value) : other.size = other.keys.length := by
    simp [size, keys]
  rw [count, count, keys_insert]
  split <;> simp

theorem keysHave_insert {map : OrderedMap Key Value} (mapHas : ∀ key ∈ map.keys, property key)
    {key : Key} (has : property key) (value : Value) :
    ∀ other ∈ (map.insert key value).keys, property other := by
  intro other member
  rw [keys_insert] at member
  split at member
  · exact mapHas other member
  · rcases List.mem_append.mp member with inMap | isKey
    · exact mapHas other inMap
    · rwa [List.mem_singleton.mp isKey]

/-- The keys after insertions: those that were there, and the others in the order of their
first insertions. -/
theorem keys_insertAll (exact : IsExact property) {map : OrderedMap Key Value}
    (mapHas : ∀ key ∈ map.keys, property key) {entries : List (Key × Value)}
    (entriesHave : ∀ key ∈ entries.map Prod.fst, property key) :
    (map.insertAll entries).keys =
      map.keys ++
        ((entries.map Prod.fst).filter fun key => !map.keys.any (· == key)).eraseDups := by
  induction entries generalizing map with
  | nil => simp
  | cons entry rest ih =>
      have has : property entry.1 := entriesHave entry.1 (by simp)
      have restHave : ∀ key ∈ rest.map Prod.fst, property key :=
        fun key member => entriesHave key (by simp [member])
      rw [insertAll_cons, ih (keysHave_insert mapHas has entry.2) restHave, keys_insert,
        contains_eq_any_keys, List.map_cons, List.filter_cons]
      by_cases known : map.keys.any (· == entry.1) = true
      · simp [known]
      · simp only [known, Bool.false_eq_true, if_false, Bool.not_false, if_true,
          List.eraseDups_cons, List.filter_filter, List.append_assoc, List.singleton_append]
        congr 3
        apply List.filter_congr
        intro key member
        simp only [List.any_append, List.any_cons, List.any_nil, Bool.or_false, Bool.not_or,
          exact.beq_comm has (restHave key member), Bool.and_comm]

/-- The keys that entries make are their own, each where it first occurs. -/
theorem keys_ofList (exact : IsExact property) {entries : List (Key × Value)}
    (entriesHave : ∀ key ∈ entries.map Prod.fst, property key) :
    (ofList entries).keys = (entries.map Prod.fst).eraseDups := by
  rw [ofList, keys_insertAll exact keysHave_empty entriesHave]
  simp [empty, keys]

theorem IsExact.eraseDups_eq_self (exact : IsExact property) {keys : List Key}
    (keysHave : ∀ key ∈ keys, property key) (nodup : keys.Nodup) : keys.eraseDups = keys := by
  induction keys with
  | nil => rfl
  | cons key rest ih =>
      obtain ⟨fresh, restNodup⟩ := List.nodup_cons.mp nodup
      obtain ⟨has, restHave⟩ := List.forall_mem_cons.mp keysHave
      have others : rest.filter (fun other => !other == key) = rest := by
        rw [List.filter_eq_self]
        intro other member
        rw [Bool.not_eq_true', Bool.eq_false_iff, ne_eq,
          exact other key (restHave other member) has]
        rintro rfl
        exact fresh member
      rw [List.eraseDups_cons, others, ih restHave restNodup]

theorem nodup_keys_insert (exact : IsExact property) {map : OrderedMap Key Value}
    (mapHas : ∀ key ∈ map.keys, property key) (nodup : map.keys.Nodup) {key : Key}
    (has : property key) (value : Value) : (map.insert key value).keys.Nodup := by
  rw [keys_insert, contains_eq_any_keys]
  split
  · exact nodup
  · next new =>
      rw [exact.any_beq_iff_mem mapHas has] at new
      refine List.nodup_append.mpr ⟨nodup, List.nodup_singleton key, ?_⟩
      rintro other inMap _ isKey rfl
      exact new (List.mem_singleton.mp isKey ▸ inMap)

theorem mem_keys_insert (exact : IsExact property) {map : OrderedMap Key Value}
    (mapHas : ∀ key ∈ map.keys, property key) {key : Key} (has : property key)
    (value : Value) (other : Key) :
    other ∈ (map.insert key value).keys ↔ other ∈ map.keys ∨ other = key := by
  rw [keys_insert, contains_eq_any_keys]
  split
  · next known =>
      rw [exact.any_beq_iff_mem mapHas has] at known
      constructor
      · exact .inl
      · rintro (inMap | rfl)
        · exact inMap
        · exact known
  · simp

/-- Insertions keep keys distinct, and no key goes missing. -/
theorem nodup_and_mem_keys_insertAll (exact : IsExact property)
    {map : OrderedMap Key Value} (mapHas : ∀ key ∈ map.keys, property key)
    (nodup : map.keys.Nodup) {entries : List (Key × Value)}
    (entriesHave : ∀ key ∈ entries.map Prod.fst, property key) :
    (map.insertAll entries).keys.Nodup ∧
      ∀ key, key ∈ (map.insertAll entries).keys ↔
        key ∈ map.keys ∨ key ∈ entries.map Prod.fst := by
  induction entries generalizing map with
  | nil => simp [nodup]
  | cons entry rest ih =>
      have has : property entry.1 := entriesHave entry.1 (by simp)
      have restHave : ∀ key ∈ rest.map Prod.fst, property key :=
        fun key member => entriesHave key (by simp [member])
      obtain ⟨restNodup, restMem⟩ := ih (keysHave_insert mapHas has entry.2)
        (nodup_keys_insert exact mapHas nodup has entry.2) restHave
      refine ⟨restNodup, fun key => ?_⟩
      rw [insertAll_cons, restMem, mem_keys_insert exact mapHas has, List.map_cons,
        List.mem_cons, or_assoc]

/-! ## Values -/

theorem insertAll_append (map : OrderedMap Key Value) (left right : List (Key × Value)) :
    map.insertAll (left ++ right) = (map.insertAll left).insertAll right := by
  simp [insertAll]

theorem valuesHave_insert (holds : Value → Prop) {map : OrderedMap Key Value}
    (mapHas : ∀ entry ∈ map.toList, holds entry.2) (key : Key) {value : Value}
    (has : holds value) : ∀ entry ∈ (map.insert key value).toList, holds entry.2 := by
  obtain ⟨entries⟩ := map
  simp only [toList, insert] at mapHas ⊢
  induction entries with
  | nil => exact List.forall_mem_singleton.mpr has
  | cons first rest ih =>
      obtain ⟨firstHas, restHave⟩ := List.forall_mem_cons.mp mapHas
      rw [insertEntry]
      split
      · exact List.forall_mem_cons.mpr ⟨has, restHave⟩
      · exact List.forall_mem_cons.mpr ⟨firstHas, ih restHave⟩

theorem valuesHave_insertAll (holds : Value → Prop) {map : OrderedMap Key Value}
    (mapHas : ∀ entry ∈ map.toList, holds entry.2) {entries : List (Key × Value)}
    (entriesHave : ∀ entry ∈ entries, holds entry.2) :
    ∀ entry ∈ (map.insertAll entries).toList, holds entry.2 := by
  induction entries generalizing map with
  | nil => exact mapHas
  | cons entry rest ih =>
      obtain ⟨has, restHave⟩ := List.forall_mem_cons.mp entriesHave
      rw [insertAll_cons]
      exact ih (valuesHave_insert holds mapHas entry.1 has) restHave

theorem get?_insert_self (exact : IsExact property) {map : OrderedMap Key Value} {key : Key}
    (has : property key) (value : Value) : (map.insert key value).get? key = some value := by
  obtain ⟨entries⟩ := map
  have same : (key == key) = true := (exact key key has has).mpr rfl
  simp only [insert, get?]
  induction entries with
  | nil => simp [insertEntry, same]
  | cons entry rest ih =>
      by_cases found : (entry.1 == key) = true
      · simp [insertEntry, found]
      · simpa [insertEntry, found] using ih

theorem get?_insert_of_ne (exact : IsExact property) {map : OrderedMap Key Value}
    (mapHas : ∀ key ∈ map.keys, property key) {key other : Key} (has : property key)
    (otherHas : property other) (different : key ≠ other) (value : Value) :
    (map.insert key value).get? other = map.get? other := by
  obtain ⟨entries⟩ := map
  have notSame : (key == other) = false := by
    rw [Bool.eq_false_iff, ne_eq, exact key other has otherHas]
    exact different
  simp only [insert, get?, keys] at mapHas ⊢
  induction entries with
  | nil => simp [insertEntry, notSame]
  | cons entry rest ih =>
      have entryHas : property entry.1 := mapHas entry.1 (by simp)
      have restHas : ∀ key ∈ rest.map Prod.fst, property key :=
        fun key member => mapHas key (by simp [member])
      by_cases found : (entry.1 == key) = true
      · have isKey := (exact entry.1 key entryHas has).mp found
        rw [insertEntry, if_pos found]
        simp [isKey, notSame]
      · simp only [insertEntry, found, Bool.false_eq_true, if_false, List.find?_cons]
        cases (entry.1 == other) with
        | true => rfl
        | false => exact ih restHas

theorem keysHave_insertAll {map : OrderedMap Key Value}
    (mapHas : ∀ key ∈ map.keys, property key) {entries : List (Key × Value)}
    (entriesHave : ∀ key ∈ entries.map Prod.fst, property key) :
    ∀ key ∈ (map.insertAll entries).keys, property key := by
  induction entries generalizing map with
  | nil => exact mapHas
  | cons entry rest ih =>
      rw [insertAll_cons]
      exact ih (keysHave_insert mapHas (entriesHave entry.1 (by simp)) entry.2)
        fun key member => entriesHave key (by simp [member])

theorem get?_insertAll_of_notMem (exact : IsExact property) {map : OrderedMap Key Value}
    (mapHas : ∀ key ∈ map.keys, property key) {entries : List (Key × Value)}
    (entriesHave : ∀ key ∈ entries.map Prod.fst, property key) {key : Key}
    (has : property key) (absent : key ∉ entries.map Prod.fst) :
    (map.insertAll entries).get? key = map.get? key := by
  induction entries generalizing map with
  | nil => rfl
  | cons entry rest ih =>
      have entryHas : property entry.1 := entriesHave entry.1 (by simp)
      have restHave : ∀ key ∈ rest.map Prod.fst, property key :=
        fun key member => entriesHave key (by simp [member])
      have different : entry.1 ≠ key := by
        rintro rfl
        exact absent (by simp)
      rw [insertAll_cons, ih (keysHave_insert mapHas entryHas entry.2) restHave
        fun member => absent (by simp [member])]
      exact get?_insert_of_ne exact mapHas entryHas has different entry.2

/-- The last of the entries with a key decides what is at the key. -/
theorem get?_insertAll_of_last (exact : IsExact property) {map : OrderedMap Key Value}
    (mapHas : ∀ key ∈ map.keys, property key) {earlier later : List (Key × Value)}
    {key : Key} {value : Value}
    (entriesHave : ∀ other ∈ (earlier ++ (key, value) :: later).map Prod.fst, property other)
    (last : key ∉ later.map Prod.fst) :
    (map.insertAll (earlier ++ (key, value) :: later)).get? key = some value := by
  have has : property key := entriesHave key (by simp)
  have earlierHave : ∀ key ∈ earlier.map Prod.fst, property key :=
    fun key member => entriesHave key (by simp [member])
  have laterHave : ∀ key ∈ later.map Prod.fst, property key :=
    fun key member => entriesHave key (by simp [member])
  have earlierKeys := keysHave_insertAll mapHas earlierHave
  rw [insertAll_append, insertAll_cons,
    get?_insertAll_of_notMem exact (keysHave_insert earlierKeys has value) laterHave has last]
  exact get?_insert_self exact has value

/-- A map is fixed by its keys in order and by what is at each of them. -/
theorem eq_of_get?_eq (exact : IsExact property) {left right : OrderedMap Key Value}
    (has : ∀ key ∈ left.keys, property key) (nodup : left.keys.Nodup)
    (keysEq : left.keys = right.keys)
    (valuesEq : ∀ key ∈ left.keys, left.get? key = right.get? key) : left = right := by
  obtain ⟨entries⟩ := left
  obtain ⟨others⟩ := right
  congr 1
  simp only [keys, get?] at has nodup keysEq valuesEq
  induction entries generalizing others with
  | nil => exact (List.map_eq_nil_iff.mp keysEq.symm).symm
  | cons entry rest ih =>
      obtain ⟨key, value⟩ := entry
      cases others with
      | nil => simp at keysEq
      | cons other otherRest =>
          obtain ⟨otherKey, otherValue⟩ := other
          simp only [List.map_cons, List.cons.injEq] at keysEq
          obtain ⟨rfl, restEq⟩ := keysEq
          have keyHas : property key := has key (by simp)
          have same : (key == key) = true := (exact key key keyHas keyHas).mpr rfl
          have valueEq : value = otherValue := by simpa [same] using valuesEq key (by simp)
          obtain ⟨fresh, restNodup⟩ := List.nodup_cons.mp nodup
          have restHas : ∀ next ∈ rest.map Prod.fst, property next :=
            fun next isIn => has next (by simp [isIn])
          rw [valueEq, ih restHas restNodup otherRest restEq]
          intro next isIn
          have different : (key == next) = false := by
            rw [Bool.eq_false_iff, ne_eq, exact key next keyHas (restHas next isIn)]
            rintro rfl
            exact fresh isIn
          simpa [different] using valuesEq next (by simp [isIn])

end GrammarTables.OrderedMap
