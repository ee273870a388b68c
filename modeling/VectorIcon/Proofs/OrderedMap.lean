import VectorIcon.OrderedMap

/-! Insertion into ordered maps: entries with new keys are appended, and no entry is made up. -/

namespace VectorIcon.OrderedMap

variable {α : Type}

theorem ext_entries {left right : OrderedMap α} (same : left.entries = right.entries) :
    left = right := by
  cases left
  cases right
  simpa using same

theorem insertEntry_of_not_mem {key : String} {value : α} {entries : List (String × α)}
    (fresh : key ∉ entries.map Prod.fst) :
    insertEntry key value entries = entries ++ [(key, value)] := by
  induction entries with
  | nil => rfl
  | cons entry rest ih =>
      obtain ⟨name, old⟩ := entry
      simp only [List.map_cons, List.mem_cons, not_or] at fresh
      have other : ¬ name = key := fun same => fresh.1 same.symm
      simp [insertEntry, other, ih fresh.2]

theorem mem_insertEntry {key : String} {value : α} {entries : List (String × α)}
    {entry : String × α} (member : entry ∈ insertEntry key value entries) :
    entry = (key, value) ∨ entry ∈ entries := by
  induction entries with
  | nil => simpa [insertEntry] using member
  | cons first rest ih =>
      obtain ⟨name, old⟩ := first
      by_cases same : name = key
      · subst name
        simp only [insertEntry, if_true, List.mem_cons] at member
        rcases member with found | found
        · exact Or.inl found
        · exact Or.inr (List.mem_cons_of_mem _ found)
      · simp only [insertEntry, same, if_false, List.mem_cons] at member
        rcases member with found | found
        · exact Or.inr (by simp [found])
        · exact (ih found).imp_right (List.mem_cons_of_mem _)

theorem insertAll_cons (map : OrderedMap α) (entry : String × α) (added : List (String × α)) :
    map.insertAll (entry :: added) = (map.insert entry.1 entry.2).insertAll added := rfl

theorem entries_insertAll_of_nodup (map : OrderedMap α) (added : List (String × α))
    (distinct : ((map.entries ++ added).map Prod.fst).Nodup) :
    (map.insertAll added).entries = map.entries ++ added := by
  induction added generalizing map with
  | nil => simp [insertAll]
  | cons entry added ih =>
      have fresh : entry.1 ∉ map.entries.map Prod.fst := by
        simp only [List.map_append, List.map_cons] at distinct
        intro known
        exact (List.nodup_append.mp distinct).2.2 _ known _ (by simp) rfl
      have inserted : (map.insert entry.1 entry.2).entries = map.entries ++ [entry] :=
        insertEntry_of_not_mem fresh
      rw [insertAll_cons, ih _ (by simpa [inserted] using distinct), inserted]
      simp

theorem entries_ofList_of_nodup {entries : List (String × α)}
    (distinct : (entries.map Prod.fst).Nodup) : (ofList entries).entries = entries := by
  simpa [ofList, empty] using entries_insertAll_of_nodup empty entries (by simpa [empty])

theorem ofList_entries (map : OrderedMap α) : ofList map.entries = map :=
  ext_entries (entries_ofList_of_nodup map.distinct)

theorem mem_insertAll {map : OrderedMap α} {added : List (String × α)} {entry : String × α}
    (member : entry ∈ (map.insertAll added).entries) : entry ∈ map.entries ∨ entry ∈ added := by
  induction added generalizing map with
  | nil => exact Or.inl member
  | cons first added ih =>
      rw [insertAll_cons] at member
      rcases ih member with known | found
      · rcases mem_insertEntry known with same | old
        · exact Or.inr (by simp [same])
        · exact Or.inl old
      · exact Or.inr (List.mem_cons_of_mem _ found)

theorem mem_ofList {entries : List (String × α)} {entry : String × α}
    (member : entry ∈ (ofList entries).entries) : entry ∈ entries := by
  rcases mem_insertAll member with known | found
  · simp [empty] at known
  · exact found

end VectorIcon.OrderedMap
