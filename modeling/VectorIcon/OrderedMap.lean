/-!
Insertion-ordered maps with text keys. Inserting a key again replaces its value and keeps its
place, so the keys stay distinct and stand in the order of their first insertion.
-/

namespace VectorIcon

namespace OrderedMap

def insertEntry {α : Type} (key : String) (value : α) :
    List (String × α) → List (String × α)
  | [] => [(key, value)]
  | (name, old) :: rest =>
      if name = key then (name, value) :: rest
      else (name, old) :: insertEntry key value rest

theorem keys_insertEntry {α : Type} (key : String) (value : α) (entries : List (String × α)) :
    (insertEntry key value entries).map Prod.fst =
      if key ∈ entries.map Prod.fst then entries.map Prod.fst
      else entries.map Prod.fst ++ [key] := by
  induction entries with
  | nil => simp [insertEntry]
  | cons entry rest ih =>
      obtain ⟨name, old⟩ := entry
      by_cases same : name = key
      · simp [insertEntry, same]
      · have other : ¬ key = name := fun equal => same equal.symm
        simp only [insertEntry, same, if_false, List.map_cons, ih, List.mem_cons, other, false_or]
        split <;> simp

theorem nodup_insertEntry {α : Type} (key : String) (value : α) (entries : List (String × α))
    (distinct : (entries.map Prod.fst).Nodup) :
    ((insertEntry key value entries).map Prod.fst).Nodup := by
  rw [keys_insertEntry]
  split
  · exact distinct
  · rename_i missing
    rw [List.nodup_append]
    refine ⟨distinct, by simp, ?_⟩
    intro name member other otherMember
    simp only [List.mem_singleton] at otherMember
    subst otherMember
    intro same
    exact missing (same ▸ member)

end OrderedMap

structure OrderedMap (α : Type) where
  entries : List (String × α)
  distinct : (entries.map Prod.fst).Nodup
  deriving DecidableEq

namespace OrderedMap

variable {α : Type}

def empty : OrderedMap α :=
  ⟨[], by simp⟩

instance : Inhabited (OrderedMap α) := ⟨empty⟩

def insert (map : OrderedMap α) (key : String) (value : α) : OrderedMap α :=
  ⟨insertEntry key value map.entries, nodup_insertEntry key value map.entries map.distinct⟩

def insertAll (map : OrderedMap α) (entries : List (String × α)) : OrderedMap α :=
  entries.foldl (fun map entry => map.insert entry.1 entry.2) map

def ofList (entries : List (String × α)) : OrderedMap α :=
  empty.insertAll entries

def get? (map : OrderedMap α) (key : String) : Option α :=
  map.entries.lookup key

def contains (map : OrderedMap α) (key : String) : Bool :=
  (map.get? key).isSome

def keys (map : OrderedMap α) : List String :=
  map.entries.map Prod.fst

def size (map : OrderedMap α) : Nat :=
  map.entries.length

def isEmpty (map : OrderedMap α) : Bool :=
  map.entries.isEmpty

end OrderedMap

end VectorIcon
