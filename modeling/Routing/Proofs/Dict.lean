import Mathlib.Data.List.Nodup
import Routing.Dict

/-!
The values of a dictionary after entries have been put into it, and dictionaries that are put
together from their entries.
-/

namespace Routing.Dict

variable {β : Type}

/-- The entries put over those of a dictionary, one after another. -/
def putAll (d : Dict β) (entries : List (String × β)) : Dict β :=
  entries.foldl (fun d e => d.insert e.1 e.2) d

theorem find?_insertEntry (key name : String) (value : β) : ∀ entries : List (String × β),
    (insertEntry key value entries).find? (·.1 == name) =
      if key = name then some (key, value) else entries.find? (·.1 == name)
  | [] => by by_cases h : key = name <;> simp [insertEntry, h]
  | (k, v) :: entries => by
    have ih := find?_insertEntry key name value entries
    unfold insertEntry
    split
    · by_cases h : key = name <;> simp [h]
    · split
      next heq => by_cases h : key = name <;> simp [← heq, h]
      next hne =>
        by_cases hk : k = name
        · have hkey : key ≠ name := fun h => hne (h.trans hk.symm)
          simp [hk, hkey]
        · simp [hk, ih]

/-- A key has the value that was set last. -/
theorem get?_insert (d : Dict β) (key name : String) (value : β) :
    (d.insert key value).get? name = if key = name then some value else d.get? name := by
  rw [get?, insert, find?_insertEntry]
  split
  · rfl
  · rfl

theorem get?_erase (d : Dict β) (key name : String) :
    (d.erase key).get? name = if key = name then none else d.get? name := by
  rw [get?, erase, List.find?_filter]
  split
  next heq =>
    subst heq
    simp
  next hne =>
    have hsame : ∀ e : String × β, decide (e.1 != key ∧ e.1 == name) = (e.1 == name) := by
      intro e
      by_cases h : e.1 = name
      · simp [h, Ne.symm hne]
      · simp [h]
    simp only [hsame]
    rfl

/-- A key has the value that was put in, or else the one from before. -/
theorem get?_putAll (name : String) : ∀ (entries : List (String × β)) (d : Dict β),
    (entries.map (·.1)).Nodup →
      (d.putAll entries).get? name = (entries.lookup name).or (d.get? name)
  | [], _, _ => rfl
  | (key, value) :: entries, d, hnodup => by
    obtain ⟨hkey, hnodup⟩ := List.nodup_cons.1 hnodup
    have hput : d.putAll ((key, value) :: entries) = (d.insert key value).putAll entries := rfl
    rw [hput, get?_putAll name entries _ hnodup, get?_insert, List.lookup_cons]
    by_cases h : name = key
    · subst h
      have hnone : entries.lookup name = none := by
        rw [List.lookup_eq_none_iff]
        intro e he
        rw [bne_iff_ne]
        exact fun heq => hkey (List.mem_map.2 ⟨e, he, heq.symm⟩)
      simp [hnone]
    · simp [Ne.symm h, beq_eq_false_iff_ne.2 h]

theorem lookup_eq_map_find? (key : String) : ∀ entries : List (String × β),
    entries.lookup key = (entries.find? (·.1 == key)).map (·.2)
  | [] => rfl
  | (k, v) :: entries => by
    rw [List.lookup_cons, List.find?_cons, lookup_eq_map_find? key entries,
      Bool.beq_comm (a := key)]
    cases k == key <;> rfl

theorem entries_putAll_eq_foldl (d : Dict β) (entries : List (String × β)) :
    (d.putAll entries).entries =
      entries.foldl (fun es e => insertEntry e.1 e.2 es) d.entries :=
  (List.foldl_hom Dict.entries fun _ _ => rfl).symm

/-! ### Entries in their order -/

theorem eq_of_entries {d e : Dict β} (h : d.entries = e.entries) : d = e := by
  cases d
  cases e
  exact (mk.injEq ..).mpr h

/-- An entry whose key comes after all others stands at the end. -/
theorem insertEntry_of_lt {key : String} {value : β} : ∀ {entries : List (String × β)},
    (∀ e ∈ entries, e.1 < key) → insertEntry key value entries = entries ++ [(key, value)]
  | [], _ => rfl
  | (k, v) :: entries, h => by
    obtain ⟨hk, hentries⟩ := List.forall_mem_cons.1 h
    have hne : key ≠ k := fun heq => String.lt_irrefl k (heq ▸ hk)
    rw [insertEntry, if_neg (String.lt_asymm hk), if_neg hne, insertEntry_of_lt hentries]
    rfl

/-- Entries that come in their order are put behind those that are there. -/
theorem entries_putAll : ∀ {entries : List (String × β)} {d : Dict β},
    Ascending (d.entries ++ entries) → (d.putAll entries).entries = d.entries ++ entries
  | [], d, _ => (List.append_nil _).symm
  | (key, value) :: entries, d, h => by
    have hbefore : ∀ e ∈ d.entries, e.1 < key := fun e he =>
      (List.pairwise_append.1 h).2.2 e he (key, value) (.head _)
    have hinsert : (d.insert key value).entries = d.entries ++ [(key, value)] :=
      insertEntry_of_lt hbefore
    have hput : d.putAll ((key, value) :: entries) = (d.insert key value).putAll entries := rfl
    have hall : (d.insert key value).entries ++ entries = d.entries ++ (key, value) :: entries := by
      rw [hinsert, List.append_assoc]
      rfl
    rw [hput, entries_putAll (hall ▸ h), hall]

/-- A dictionary is put together from its entries. -/
theorem putAll_entries (d : Dict β) : empty.putAll d.entries = d :=
  eq_of_entries (entries_putAll d.ascending)

/-! ### Entries in any order -/

theorem nodup_keys (d : Dict β) : (d.entries.map (·.1)).Nodup := by
  refine List.pairwise_map.2 (d.ascending.imp ?_)
  intro e e' hlt heq
  rw [heq] at hlt
  exact String.lt_irrefl _ hlt

theorem get?_eq_some_iff {d : Dict β} {key : String} {value : β} :
    d.get? key = some value ↔ (key, value) ∈ d.entries := by
  rw [get?, Option.map_eq_some_iff]
  constructor
  · rintro ⟨e, he, rfl⟩
    have hkey : e.1 = key := by simpa using List.find?_some he
    exact hkey ▸ List.mem_of_find?_eq_some he
  · intro hmem
    cases hfind : d.entries.find? (·.1 == key) with
    | none => simpa using List.find?_eq_none.1 hfind _ hmem
    | some e =>
      have hkey : e.1 = key := by simpa using List.find?_some hfind
      have heq := List.inj_on_of_nodup_map d.nodup_keys (List.mem_of_find?_eq_some hfind) hmem hkey
      exact ⟨e, rfl, congrArg Prod.snd heq⟩

/-- Dictionaries in which every key has the same value are the same. -/
theorem ext_get? {d e : Dict β} (h : ∀ key, d.get? key = e.get? key) : d = e := by
  have hnodup : ∀ d : Dict β, d.entries.Nodup := fun d => d.nodup_keys.of_map
  have hmem : ∀ entry, entry ∈ d.entries ↔ entry ∈ e.entries := fun ⟨key, value⟩ => by
    rw [← get?_eq_some_iff, h, get?_eq_some_iff]
  have hperm := (List.perm_ext_iff_of_nodup (hnodup d) (hnodup e)).2 hmem
  refine eq_of_entries (hperm.eq_of_pairwise (fun a b _ _ hab hba => ?_) d.ascending e.ascending)
  exact absurd hba (String.lt_asymm hab)

theorem contains_eq_isSome (d : Dict β) (key : String) :
    d.contains key = (d.get? key).isSome := by
  rw [contains, get?, Option.isSome_map, List.isSome_find?]

/-- Up to their order, the entries after an insertion are the new one and those of other keys. -/
theorem insertEntry_perm (key : String) (value : β) : ∀ {entries : List (String × β)},
    Ascending entries →
      (insertEntry key value entries).Perm (entries.filter (·.1 != key) ++ [(key, value)])
  | [], _ => .refl _
  | (k, v) :: rest, h => by
    obtain ⟨hk, hrest⟩ := List.pairwise_cons.1 h
    have hkeep : (∀ e ∈ rest, key < e.1) → rest.filter (·.1 != key) = rest := by
      intro hlt
      refine List.filter_eq_self.2 fun e he => bne_iff_ne.2 fun heq => ?_
      exact String.lt_irrefl key (heq ▸ hlt e he)
    have hend : ∀ es : List (String × β), ((key, value) :: es).Perm (es ++ [(key, value)]) :=
      fun es => (List.perm_append_singleton _ _).symm
    rw [insertEntry]
    split
    next hlt =>
      have hne : k ≠ key := fun heq => String.lt_irrefl key (heq ▸ hlt)
      rw [List.filter_cons_of_pos (by simpa using hne),
        hkeep fun e he => String.lt_trans hlt (hk e he)]
      exact hend _
    next hlt =>
      split
      next heq =>
        subst heq
        rw [List.filter_cons_of_neg (by simp), hkeep hk]
        exact hend _
      next hne =>
        rw [List.filter_cons_of_pos (by simpa using Ne.symm hne), List.cons_append]
        exact (insertEntry_perm key value hrest).cons _

end Routing.Dict
