/-!
Dictionaries from text to values: lists of entries in strictly ascending order of their keys.

The order is part of the type, so two dictionaries with the same entries are equal, and the entries
come out in the order in which they are written down. Keys are compared by code point.
-/

namespace Routing

/-- Entries in strictly ascending order of their keys. -/
abbrev Ascending {β : Type} (entries : List (String × β)) : Prop :=
  entries.Pairwise (·.1 < ·.1)

/-- A dictionary. -/
structure Dict (β : Type) where
  entries : List (String × β)
  ascending : Ascending entries
  deriving DecidableEq, Repr

namespace Dict

variable {β : Type}

/-- Puts an entry where it belongs; it replaces an entry of the same key. -/
def insertEntry (key : String) (value : β) : List (String × β) → List (String × β)
  | [] => [(key, value)]
  | (k, v) :: rest =>
    if key < k then (key, value) :: (k, v) :: rest
    else if key = k then (key, value) :: rest
    else (k, v) :: insertEntry key value rest

/-- A key of the longer list is the new key or was there before. -/
theorem mem_insertEntry {key : String} {value : β} {e : String × β} :
    ∀ {entries : List (String × β)}, e ∈ insertEntry key value entries →
      e = (key, value) ∨ e ∈ entries
  | [], h => by simpa [insertEntry] using h
  | (k, v) :: rest, h => by
    unfold insertEntry at h
    split at h
    · simpa using h
    · split at h
      · rcases List.mem_cons.1 h with h | h
        · exact .inl h
        · exact .inr (List.mem_cons_of_mem _ h)
      · rcases List.mem_cons.1 h with h | h
        · exact .inr (h ▸ List.mem_cons_self)
        · rcases mem_insertEntry h with h | h
          · exact .inl h
          · exact .inr (List.mem_cons_of_mem _ h)

theorem ascending_insertEntry (key : String) (value : β) :
    ∀ {entries : List (String × β)}, Ascending entries → Ascending (insertEntry key value entries)
  | [], _ => by simp [insertEntry, Ascending]
  | (k, v) :: rest, h => by
    have hk : ∀ e ∈ rest, k < e.1 := (List.pairwise_cons.1 h).1
    have hrest : Ascending rest := (List.pairwise_cons.1 h).2
    unfold insertEntry
    split
    next hlt =>
      refine List.pairwise_cons.2 ⟨fun e he => ?_, h⟩
      rcases List.mem_cons.1 he with rfl | he
      · exact hlt
      · exact String.lt_trans hlt (hk e he)
    next hlt =>
      split
      next heq => exact List.pairwise_cons.2 ⟨fun e he => heq ▸ hk e he, hrest⟩
      next hne =>
        refine List.pairwise_cons.2 ⟨fun e he => ?_, ascending_insertEntry key value hrest⟩
        rcases mem_insertEntry he with rfl | he
        · exact Std.lt_of_le_of_ne (String.not_lt.1 hlt) (Ne.symm hne)
        · exact hk e he

/-- The dictionary without entries. -/
def empty : Dict β := ⟨[], .nil⟩

instance : Inhabited (Dict β) := ⟨empty⟩

instance : EmptyCollection (Dict β) := ⟨empty⟩

/-- Sets the value of a key. -/
def insert (d : Dict β) (key : String) (value : β) : Dict β :=
  ⟨insertEntry key value d.entries, ascending_insertEntry key value d.ascending⟩

/-- The value of a key. -/
def get? (d : Dict β) (key : String) : Option β :=
  (d.entries.find? (·.1 == key)).map (·.2)

/-- Does the key have a value? -/
def contains (d : Dict β) (key : String) : Bool := d.entries.any (·.1 == key)

/-- Removes a key. -/
def erase (d : Dict β) (key : String) : Dict β :=
  ⟨d.entries.filter (·.1 != key), d.ascending.filter _⟩

/-- The entries that are inserted one after another; the last one of a key stays. -/
def ofList (entries : List (String × β)) : Dict β :=
  entries.foldl (fun d e => d.insert e.1 e.2) empty

/-- The keys in ascending order. -/
def keys (d : Dict β) : List String := d.entries.map (·.1)

/-- Is there no entry? -/
def isEmpty (d : Dict β) : Bool := d.entries.isEmpty

/-- The number of entries. -/
def size (d : Dict β) : Nat := d.entries.length

end Dict

end Routing
