import Mathlib.Data.Finset.Card
import VectorIcon.Proofs.OrderedMap.Lookup

/-!
Maps by their insertions. The keys of a map stand in the order of their first insertions, each with the
value of its last one, and nothing else of the insertions is left in the map.
-/

namespace VectorIcon.OrderedMap

variable {α : Type}

/-- Maps that insertions lead to: some are collected at once, others follow one by one. -/
inductive IsBuilt : List (String × α) → OrderedMap α → Prop
  | collect (insertions : List (String × α)) : IsBuilt insertions (ofList insertions)
  | insert {insertions : List (String × α)} {map : OrderedMap α} (built : IsBuilt insertions map)
      (key : String) (value : α) : IsBuilt (insertions ++ [(key, value)]) (map.insert key value)

def firstKeys (insertions : List (String × α)) : List String :=
  (insertions.map Prod.fst).eraseDups

def IsLastInsertion (insertions : List (String × α)) (key : String) (value : α) : Prop :=
  ∃ before after, insertions = before ++ (key, value) :: after ∧ key ∉ after.map Prod.fst

structure Records (insertions : List (String × α)) (map : OrderedMap α) : Prop where
  keys : map.keys = firstKeys insertions
  last : ∀ key value, map.get? key = some value ↔ IsLastInsertion insertions key value

section

variable {insertions : List (String × α)} {key other : String} {value given : α}

theorem mem_firstKeys_iff : key ∈ firstKeys insertions ↔ key ∈ insertions.map Prod.fst :=
  List.mem_eraseDups

theorem firstKeys_concat (insertions : List (String × α)) (entry : String × α) :
    firstKeys (insertions ++ [entry]) =
      if entry.1 ∈ firstKeys insertions then firstKeys insertions
      else firstKeys insertions ++ [entry.1] := by
  simp only [firstKeys, List.map_append, List.eraseDups_append, List.map_cons, List.map_nil]
  by_cases known : entry.1 ∈ insertions.map Prod.fst
  · simp [List.removeAll, known]
  · simp [List.removeAll, known, List.eraseDups_cons]

theorem isLastInsertion_concat_iff :
    IsLastInsertion (insertions ++ [(key, value)]) other given ↔
      if other = key then given = value else IsLastInsertion insertions other given := by
  constructor
  · rintro ⟨before, after, split, last⟩
    rcases List.eq_nil_or_concat after with rfl | ⟨after, final, rfl⟩
    · obtain ⟨_, same⟩ := List.append_inj' split rfl
      cases same
      simp
    · rw [List.concat_eq_append, ← List.cons_append, ← List.append_assoc] at split
      obtain ⟨rfl, same⟩ := List.append_inj' split rfl
      cases same
      simp only [List.concat_eq_append, List.map_append, List.mem_append, not_or] at last
      have differs : other ≠ key := by simpa using last.2
      rw [if_neg differs]
      exact ⟨before, after, rfl, last.1⟩
  · intro found
    split at found
    · subst other given
      exact ⟨insertions, [], rfl, by simp⟩
    · rename_i differs
      obtain ⟨before, after, rfl, last⟩ := found
      refine ⟨before, after ++ [(key, value)], by simp, ?_⟩
      simp only [List.map_append, List.mem_append, not_or]
      exact ⟨last, by simpa using differs⟩

end

namespace Records

variable {insertions others : List (String × α)} {map other : OrderedMap α}

theorem empty : Records [] (empty : OrderedMap α) where
  keys := rfl
  last key value := by
    constructor
    · intro found
      cases found
    · rintro ⟨before, after, split, _⟩
      simp at split

variable (recorded : Records insertions map)

include recorded

theorem insert (key : String) (value : α) :
    Records (insertions ++ [(key, value)]) (map.insert key value) where
  keys := by rw [keys_insert, firstKeys_concat, recorded.keys]
  last name given := by
    rw [get?_insert, isLastInsertion_concat_iff, ← recorded.last]
    split
    · rw [Option.some.injEq, eq_comm]
    · rfl

theorem mem_keys_iff {key : String} : key ∈ map.keys ↔ key ∈ insertions.map Prod.fst := by
  rw [recorded.keys, mem_firstKeys_iff]

theorem size_eq : map.size = (insertions.map Prod.fst).toFinset.card := by
  have members : map.keys.toFinset = (insertions.map Prod.fst).toFinset := by
    ext key
    rw [List.mem_toFinset, List.mem_toFinset, recorded.mem_keys_iff]
  have distinct : map.keys.Nodup := map.distinct
  rw [← members, List.toFinset_card_of_nodup distinct, OrderedMap.keys, List.length_map, size]

theorem get?_eq_none_iff {key : String} :
    map.get? key = none ↔ key ∉ insertions.map Prod.fst := by
  rw [← recorded.mem_keys_iff, OrderedMap.mem_keys_iff, Option.eq_none_iff_forall_ne_some,
    not_exists]

theorem eq_iff (again : Records others other) :
    map = other ↔ firstKeys insertions = firstKeys others ∧
      ∀ key value, IsLastInsertion insertions key value ↔ IsLastInsertion others key value := by
  constructor
  · rintro rfl
    refine ⟨recorded.keys.symm.trans again.keys, ?_⟩
    intro key value
    rw [← recorded.last, again.last]
  · rintro ⟨keys, values⟩
    apply ext_get?
    · rw [recorded.keys, keys, again.keys]
    · intro key
      apply Option.ext
      intro value
      rw [recorded.last, values, again.last]

end Records

theorem records_ofList (insertions : List (String × α)) : Records insertions (ofList insertions) := by
  induction insertions using List.reverseRecOn with
  | nil => exact .empty
  | append_singleton insertions entry ih =>
      rw [ofList_append]
      exact ih.insert entry.1 entry.2

theorem IsBuilt.records {insertions : List (String × α)} {map : OrderedMap α}
    (built : IsBuilt insertions map) : Records insertions map := by
  induction built with
  | collect insertions => exact records_ofList insertions
  | insert _ key value ih => exact ih.insert key value

/-- However a map is built, it has the inserted keys in the order of their first insertions, each with
the value of its last one, and is determined by these. -/
theorem recorded_insertions {insertions : List (String × α)} {map : OrderedMap α}
    (built : IsBuilt insertions map) :
    map.keys.Nodup ∧ map.keys = firstKeys insertions ∧
      map.size = (insertions.map Prod.fst).toFinset.card ∧
      (∀ key value, map.get? key = some value ↔ IsLastInsertion insertions key value) ∧
      (∀ key, map.get? key = none ↔ key ∉ insertions.map Prod.fst) ∧
      (∀ key, map.contains key = true ↔ ∃ value, map.get? key = some value) ∧
      ∀ (others : List (String × α)) (other : OrderedMap α), IsBuilt others other →
        (map = other ↔ firstKeys insertions = firstKeys others ∧
          ∀ key value, IsLastInsertion insertions key value ↔ IsLastInsertion others key value) := by
  have recorded := built.records
  refine ⟨map.distinct, recorded.keys, recorded.size_eq, recorded.last, ?_, ?_, ?_⟩
  · intro key
    exact recorded.get?_eq_none_iff
  · intro key
    exact Option.isSome_iff_exists
  · intro others other builtAgain
    exact recorded.eq_iff builtAgain.records

def repainted : OrderedMap String :=
  (ofList [("fill", "red"), ("stroke", "blue")]).insert "fill" "green"

theorem recorded_insertions_repainted :
    IsBuilt [("fill", "red"), ("stroke", "blue"), ("fill", "green")] repainted ∧
      repainted.keys = ["fill", "stroke"] ∧ repainted.size = 2 ∧
      repainted.get? "fill" = some "green" ∧ repainted.get? "d" = none ∧
      ∀ key value, IsLastInsertion [("fill", "red"), ("stroke", "blue"), ("fill", "green")] key value ↔
        IsLastInsertion [("fill", "green"), ("stroke", "blue")] key value := by
  have built : IsBuilt [("fill", "red"), ("stroke", "blue"), ("fill", "green")] repainted :=
    (IsBuilt.collect [("fill", "red"), ("stroke", "blue")]).insert "fill" "green"
  obtain ⟨_, keys, size, last, absent, _, same⟩ := recorded_insertions built
  refine ⟨built, keys, size, (last _ _).mpr ?_, (absent _).mpr (by decide), ?_⟩
  · exact ⟨[("fill", "red"), ("stroke", "blue")], [], rfl, by simp⟩
  · exact ((same _ _ (.collect [("fill", "green"), ("stroke", "blue")])).mp rfl).2

end VectorIcon.OrderedMap
