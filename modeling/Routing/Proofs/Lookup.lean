import Routing.Proofs.Table

/-!
What is seen of a table: its names in their order, and the route under each name. Everything else
that a table gives comes from these two, and putting a route into a table changes them in one way.

    put r under "blog"        names: as before, or blog at the end
                              lookup: r for blog, as before for the others
-/

namespace Routing.RouteTable

variable {t : RouteTable}

/-! ### The entries of a table -/

/-- A name has the place at which it stands among the names. -/
theorem Sound.get?_index_iff (h : t.Sound) {name : String} {i : Nat} :
    t.index.get? name = some i ↔ t.names[i]? = some name := by
  rw [h.get?_index]
  constructor
  · intro hi
    obtain ⟨hlt, hname, -⟩ := List.idxOf?_eq_some_iff.1 hi
    exact List.getElem?_eq_some_iff.2 ⟨hlt, hname⟩
  · intro hi
    obtain ⟨hlt, hname⟩ := List.getElem?_eq_some_iff.1 hi
    refine List.idxOf?_eq_some_iff.2 ⟨hlt, hname, fun j hj heq => ?_⟩
    have hsame : j = i := h.nodup.getElem_inj_iff.1 (heq.trans hname.symm)
    omega

theorem getElem?_names (t : RouteTable) (i : Nat) : t.names[i]? = (t.entries[i]?).map (·.1) :=
  List.getElem?_map

/-- The route under a name is that of the entry with this name. -/
theorem Sound.lookup_eq_some_iff (h : t.Sound) {name : String} {handle : Handle} :
    t.lookup name = some handle ↔ (name, handle) ∈ t.entries := by
  have hplace : t.lookup name = some handle ↔
      ∃ i, t.index.get? name = some i ∧ (t.entries[i]?).map (·.2) = some handle := by
    rw [lookup]
    cases t.index.get? name with
    | none => simp
    | some i => simp
  rw [hplace, List.mem_iff_getElem?]
  refine exists_congr fun i => ?_
  rw [h.get?_index_iff, getElem?_names]
  cases t.entries[i]? with
  | none => simp
  | some e => simp [Prod.ext_iff]

/-- There is a route under exactly the names of the table. -/
theorem Sound.isSome_lookup (h : t.Sound) (name : String) :
    (t.lookup name).isSome ↔ name ∈ t.names := by
  rw [Option.isSome_iff_exists, names, List.mem_map]
  constructor
  · rintro ⟨handle, hlookup⟩
    exact ⟨_, h.lookup_eq_some_iff.1 hlookup, rfl⟩
  · rintro ⟨⟨_, handle⟩, he, rfl⟩
    exact ⟨handle, h.lookup_eq_some_iff.2 he⟩

/-- The entries are the names in their order, each with the route under it. -/
theorem Sound.entries_eq (h : t.Sound) :
    t.entries = t.names.filterMap fun name => (t.lookup name).map (name, ·) := by
  have hentry : ∀ e ∈ t.entries, (t.lookup e.1).map (e.1, ·) = some e := by
    intro e he
    rw [h.lookup_eq_some_iff.2 he]
    rfl
  rw [names, List.filterMap_map]
  calc t.entries
    _ = t.entries.filterMap some := List.filterMap_some.symm
    _ = t.entries.filterMap _ := List.filterMap_congr fun e he => (hentry e he).symm

/-- The first route that matches a path is the first one in the order of the names. -/
theorem Sound.firstMatch_eq (h : t.Sound) (path : String) :
    t.firstMatch path = t.names.findSome? fun name => (t.lookup name).bind fun handle =>
      (handle.route.matchPath path).map fun params => ⟨name, handle, params⟩ := by
  rw [firstMatch, h.entries_eq, ← List.head?_filterMap, List.filterMap_filterMap,
    List.head?_filterMap]
  congr 1
  funext name
  cases t.lookup name <;> rfl

/-- What matches a path is an entry of the table. -/
theorem Sound.lookup_of_firstMatch (h : t.Sound) {path : String} {m : RouteMatch}
    (hm : t.firstMatch path = some m) : t.lookup m.name = some m.handle := by
  obtain ⟨e, he, hmatch⟩ := List.exists_of_findSome?_eq_some hm
  obtain ⟨params, -, rfl⟩ := Option.map_eq_some_iff.1 hmatch
  exact h.lookup_eq_some_iff.2 he

/-! ### Putting a route into a table -/

/-- A name that is in use stays where it is, and a new one comes to the end. -/
theorem Sound.names_insert (h : t.Sound) (name : String) (handle : Handle) :
    (t.insert name handle).names = if name ∈ t.names then t.names else t.names ++ [name] := by
  unfold RouteTable.insert
  split
  next i hi =>
    have hname := h.get?_index_iff.1 hi
    obtain ⟨hlt, hat⟩ := List.getElem?_eq_some_iff.1 hname
    have hset : (t.entries.set i (name, handle)).map (·.1) = t.names.set i t.names[i] := by
      rw [List.map_set, hat, names]
    rw [if_pos (List.mem_of_getElem? hname), names, hset, List.set_getElem_self]
  next hnone =>
    rw [h.get?_index, List.idxOf?_eq_none_iff] at hnone
    rw [if_neg hnone]
    simp [names]

/-- The route is found under its name, and the others under theirs. -/
theorem Sound.lookup_insert (h : t.Sound) (name : String) (handle : Handle) (other : String) :
    (t.insert name handle).lookup other = if name = other then some handle else t.lookup other := by
  unfold RouteTable.insert
  split
  next i hi =>
    obtain ⟨hlt, hat⟩ := List.getElem?_eq_some_iff.1 (h.get?_index_iff.1 hi)
    rw [names, List.length_map] at hlt
    split
    next heq => simp [lookup, ← heq, hi, hlt]
    next hne =>
      rw [lookup, lookup]
      cases hother : t.index.get? other with
      | none => rfl
      | some j =>
        have hij : i ≠ j := by
          rintro rfl
          have hsame := (h.get?_index_iff.1 hi).symm.trans (h.get?_index_iff.1 hother)
          exact hne (Option.some.inj hsame)
        simp [List.getElem?_set_ne hij]
  next hnone =>
    by_cases heq : name = other
    · simp [lookup, Dict.get?_insert, heq]
    · rw [lookup, Dict.get?_insert, if_neg heq, if_neg heq, lookup]
      cases hother : t.index.get? other with
      | none => rfl
      | some j =>
        obtain ⟨hlt, -⟩ := List.getElem?_eq_some_iff.1 (h.get?_index_iff.1 hother)
        rw [names, List.length_map] at hlt
        simp [List.getElem?_append_left hlt]

end Routing.RouteTable
