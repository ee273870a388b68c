import Mathlib.Data.List.Induction
import VectorIcon.Proofs.OrderedMap

/-!
Looking up keys: a map is given by its keys in order and the value of each. So adding the entries of a
map that was made of other entries is adding these one after the other.
-/

namespace VectorIcon.OrderedMap

variable {α : Type}

theorem lookup_entry (entry : String × α) (rest : List (String × α)) (key : String) :
    (entry :: rest).lookup key = if key = entry.1 then some entry.2 else rest.lookup key := by
  obtain ⟨name, value⟩ := entry
  by_cases same : key = name
  · simp [same]
  · have other : (key == name) = false := by simpa using same
    rw [List.lookup_cons, other, if_neg same]

theorem lookup_eq_some_iff {entries : List (String × α)}
    (distinct : (entries.map Prod.fst).Nodup) {key : String} {value : α} :
    entries.lookup key = some value ↔ (key, value) ∈ entries := by
  induction entries with
  | nil => simp
  | cons entry rest ih =>
      obtain ⟨name, old⟩ := entry
      rw [List.map_cons, List.nodup_cons] at distinct
      rw [lookup_entry, List.mem_cons, Prod.mk.injEq]
      by_cases same : key = name
      · subst key
        have alone : (name, value) ∉ rest := fun member =>
          distinct.1 (List.mem_map.mpr ⟨(name, value), member, rfl⟩)
        simp [alone, eq_comm]
      · rw [if_neg same, ih distinct.2]
        simp [same]

theorem get?_eq_some_iff {map : OrderedMap α} {key : String} {value : α} :
    map.get? key = some value ↔ (key, value) ∈ map.entries :=
  lookup_eq_some_iff map.distinct

theorem lookup_insertEntry (key : String) (value : α) (entries : List (String × α))
    (name : String) :
    (insertEntry key value entries).lookup name =
      if name = key then some value else entries.lookup name := by
  induction entries with
  | nil => rw [insertEntry, lookup_entry]
  | cons entry rest ih =>
      obtain ⟨first, old⟩ := entry
      rw [insertEntry]
      by_cases same : first = key
      · subst first
        rw [if_pos rfl, lookup_entry, lookup_entry]
        split <;> rfl
      · rw [if_neg same, lookup_entry, lookup_entry, ih]
        by_cases asked : name = first
        · have known : ¬name = key := fun equal => same (asked.symm.trans equal)
          rw [if_pos asked, if_neg known, if_pos asked]
        · rw [if_neg asked, if_neg asked]

theorem get?_insert (map : OrderedMap α) (key : String) (value : α) (name : String) :
    (map.insert key value).get? name = if name = key then some value else map.get? name :=
  lookup_insertEntry key value map.entries name

theorem get?_insertAll (map : OrderedMap α) (added : List (String × α)) (name : String) :
    (map.insertAll added).get? name = (added.reverse.lookup name).or (map.get? name) := by
  induction added generalizing map with
  | nil => rfl
  | cons entry added ih =>
      rw [insertAll_cons, ih, get?_insert, List.reverse_cons, List.lookup_append, Option.or_assoc,
        lookup_entry]
      split <;> rfl

theorem get?_ofList (entries : List (String × α)) (name : String) :
    (ofList entries).get? name = entries.reverse.lookup name := by
  rw [ofList, get?_insertAll]
  exact Option.or_none

/-- Maps with the same keys in the same order are equal when one has the values of the other. -/
theorem eq_of_get? {left right : OrderedMap α} (keys : left.keys = right.keys)
    (values : ∀ entry ∈ left.entries, right.get? entry.1 = some entry.2) : left = right := by
  apply ext_entries
  have length : left.entries.length = right.entries.length := by
    have same := congrArg List.length keys
    rwa [OrderedMap.keys, OrderedMap.keys, List.length_map, List.length_map] at same
  apply List.ext_getElem length
  intro index below otherBelow
  have name : left.entries[index].1 = right.entries[index].1 := by
    have same := congrArg (·[index]?) keys
    simpa [OrderedMap.keys, below, otherBelow] using same
  have found := values _ (List.getElem_mem below)
  have own : right.get? right.entries[index].1 = some right.entries[index].2 :=
    get?_eq_some_iff.mpr (List.getElem_mem otherBelow)
  rw [name, own, Option.some.injEq] at found
  exact Prod.ext name found.symm

theorem ext_get? {left right : OrderedMap α} (keys : left.keys = right.keys)
    (values : ∀ name, left.get? name = right.get? name) : left = right := by
  apply eq_of_get? keys
  intro entry member
  rw [← values]
  exact get?_eq_some_iff.mpr member

theorem mem_keys_iff {map : OrderedMap α} {name : String} :
    name ∈ map.keys ↔ ∃ value, map.get? name = some value := by
  simp [keys, get?_eq_some_iff]

theorem keys_insert (map : OrderedMap α) (key : String) (value : α) :
    (map.insert key value).keys = if key ∈ map.keys then map.keys else map.keys ++ [key] :=
  keys_insertEntry key value map.entries

theorem insertAll_append (map : OrderedMap α) (added more : List (String × α)) :
    map.insertAll (added ++ more) = (map.insertAll added).insertAll more :=
  List.foldl_append

theorem ofList_append (entries more : List (String × α)) :
    ofList (entries ++ more) = (ofList entries).insertAll more :=
  insertAll_append empty entries more

theorem keys_insertAll_of_nodup (map : OrderedMap α) {added : List (String × α)}
    (distinct : (added.map Prod.fst).Nodup) :
    (map.insertAll added).keys =
      map.keys ++ (added.map Prod.fst).filter fun name => decide (name ∉ map.keys) := by
  induction added generalizing map with
  | nil => simp [insertAll]
  | cons entry added ih =>
      rw [List.map_cons, List.nodup_cons] at distinct
      rw [insertAll_cons, ih _ distinct.2, keys_insert]
      by_cases known : entry.1 ∈ map.keys
      · simp [known]
      · -- The new key is not among the other ones, so they are as new as they were.
        have others : ∀ name ∈ added.map Prod.fst, name ≠ entry.1 := by
          intro name member same
          exact distinct.1 (same ▸ member)
        have rest : ((added.map Prod.fst).filter fun name =>
            decide (name ∉ map.keys ++ [entry.1])) =
              (added.map Prod.fst).filter fun name => decide (name ∉ map.keys) := by
          apply List.filter_congr
          intro name member
          simp [others name member]
        rw [if_neg known, rest]
        simp [known]

theorem keys_insertAll_entries (map other : OrderedMap α) :
    (map.insertAll other.entries).keys =
      map.keys ++ other.keys.filter fun name => decide (name ∉ map.keys) :=
  keys_insertAll_of_nodup map other.distinct

theorem get?_insertAll_entries (map other : OrderedMap α) (name : String) :
    (map.insertAll other.entries).get? name = (other.get? name).or (map.get? name) := by
  rw [get?_insertAll, ← get?_ofList, ofList_entries]

theorem insertAll_insert (map other : OrderedMap α) (key : String) (value : α) :
    map.insertAll (other.insert key value).entries =
      (map.insertAll other.entries).insert key value := by
  apply ext_get?
  · rw [keys_insert, keys_insertAll_entries, keys_insertAll_entries, keys_insert]
    by_cases known : key ∈ other.keys <;> by_cases old : key ∈ map.keys <;> simp [known, old]
  · intro name
    rw [get?_insert, get?_insertAll_entries, get?_insertAll_entries, get?_insert]
    split <;> rfl

theorem insertAll_ofList (map : OrderedMap α) (added : List (String × α)) :
    map.insertAll (ofList added).entries = map.insertAll added := by
  induction added using List.reverseRecOn with
  | nil => rfl
  | append_singleton added entry ih =>
      rw [ofList_append, insertAll_append, ← ih]
      exact insertAll_insert map (ofList added) entry.1 entry.2

end VectorIcon.OrderedMap
