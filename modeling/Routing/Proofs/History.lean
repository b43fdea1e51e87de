import Routing.Proofs.Changes

/-!
What a table is after calls, told by what has been called. The first call under a name decides where
its route stands, and the last one decides which route that is.

    register "a" r      names a         a ↦ r
    register "b" s      names a, b      a ↦ r, b ↦ s
    insert "a" q        names a, b      a ↦ q, b ↦ s      r is in no entry any more
    register "c" (      fails           as before

So the order of matching is that of the first uses, and a route that has been replaced matches
nothing.
-/

namespace Routing

open RouteTable

/-- A table, and how it came about. -/
structure History where
  table : RouteTable
  /-- The routes that were put into the table, each under its name, the first one first. The
  identity of a route is its place here. -/
  log : List (String × Handle)

namespace History

/-- The history before the first call. -/
def start : History := ⟨.empty, []⟩

/-- The history after one more call. -/
def call (h : History) (c : Call) : History where
  table := h.table.call h.log.length c
  log :=
    match c.route with
    | .ok route => h.log ++ [(h.table.nameFor c.name?, ⟨h.log.length, route⟩)]
    | .error _ => h.log

/-- The history of calls on an empty table. -/
def ofCalls (calls : List Call) : History := calls.foldl call start

/-- The names, each at its first use. -/
def firstUses (h : History) : List String := (h.log.map (·.1)).eraseDups

/-- The route that was put under a name last. -/
def lastUse (h : History) (name : String) : Option Handle := h.log.reverse.lookup name

/-! ### One call -/

/-- A call that has no route leaves no trace. -/
theorem call_of_error {h : History} {c : Call} {fault : Fault} (hc : c.route = .error fault) :
    h.call c = h := by
  rw [call, call_eq, hc]

theorem table_call {h : History} {c : Call} {route : Route} (hc : c.route = .ok route) :
    (h.call c).table = h.table.insert (h.table.nameFor c.name?) ⟨h.log.length, route⟩ := by
  rw [call, call_eq, hc]

theorem log_call {h : History} {c : Call} {route : Route} (hc : c.route = .ok route) :
    (h.call c).log = h.log ++ [(h.table.nameFor c.name?, ⟨h.log.length, route⟩)] := by
  rw [call, hc]

theorem firstUses_call {h : History} {c : Call} {route : Route} (hc : c.route = .ok route) :
    (h.call c).firstUses =
      if h.table.nameFor c.name? ∈ h.firstUses then h.firstUses
      else h.firstUses ++ [h.table.nameFor c.name?] := by
  simp only [firstUses, log_call hc, List.map_append, List.map_singleton, List.eraseDups_append,
    List.mem_eraseDups]
  split
  next hused => simp [List.removeAll, hused]
  next hnew => simp [List.removeAll, hnew, List.eraseDups_cons]

theorem lastUse_call {h : History} {c : Call} {route : Route} (hc : c.route = .ok route)
    (name : String) : (h.call c).lastUse name =
      if h.table.nameFor c.name? = name then some ⟨h.log.length, route⟩ else h.lastUse name := by
  rw [lastUse, log_call hc, List.reverse_append, List.reverse_singleton, List.singleton_append,
    List.lookup_cons]
  by_cases heq : h.table.nameFor c.name? = name
  · simp [heq]
  · simp [heq, beq_eq_false_iff_ne.2 (Ne.symm heq), lastUse]

/-! ### Any number of calls -/

/-- The table is the one that its log tells of. -/
structure Told (h : History) : Prop where
  made : h.table.Made
  names : h.table.names = h.firstUses
  lookup : ∀ name, h.table.lookup name = h.lastUse name
  id : ∀ (i : Nat) (e : String × Handle), h.log[i]? = some e → e.2.id = i

theorem told_start : start.Told where
  made := .empty
  names := rfl
  lookup _ := rfl
  id := by simp [start]

/-- A call keeps to it. -/
theorem Told.call {h : History} (ht : h.Told) (c : Call) : (h.call c).Told := by
  cases hc : c.route with
  | error fault => rwa [call_of_error hc]
  | ok route =>
    have hsound := ht.made.sound
    refine ⟨ht.made.call _ c, ?_, fun name => ?_, fun i e he => ?_⟩
    · rw [table_call hc, hsound.names_insert, firstUses_call hc, ht.names]
    · rw [table_call hc, hsound.lookup_insert, lastUse_call hc, ht.lookup]
    · rw [log_call hc, List.getElem?_append] at he
      split at he
      · exact ht.id i e he
      · obtain ⟨hlt, rfl⟩ := List.getElem?_eq_some_iff.1 he
        have hi : i - h.log.length < 1 := hlt
        simp only [List.getElem_singleton]
        omega

theorem told_foldl : ∀ (calls : List Call) {h : History}, h.Told → (calls.foldl call h).Told
  | [], _, ht => ht
  | c :: calls, _, ht => told_foldl calls (ht.call c)

/-- Names keep their places, whatever is called. -/
theorem firstUses_foldl : ∀ (calls : List Call) (h : History),
    h.firstUses <+: (calls.foldl call h).firstUses
  | [], h => List.prefix_rfl
  | c :: calls, h => by
    refine List.IsPrefix.trans ?_ (firstUses_foldl calls (h.call c))
    cases hc : c.route with
    | error fault => rw [call_of_error hc]
    | ok route =>
      rw [firstUses_call hc]
      split
      · exact List.prefix_rfl
      · exact List.prefix_append _ _

/-- The routes in a log are those of the calls that have one. -/
theorem routes_foldl : ∀ (calls : List Call) (h : History),
    (calls.foldl call h).log.map (·.2.route) =
      h.log.map (·.2.route) ++ calls.filterMap (·.route.toOption)
  | [], h => (List.append_nil _).symm
  | c :: calls, h => by
    rw [List.foldl_cons, routes_foldl calls]
    cases hc : c.route with
    | error fault => simp [call_of_error hc, hc, Except.toOption]
    | ok route => simp [log_call hc, hc, Except.toOption]

/-- The last use of a name is in the log, and no other use of the name comes after it. -/
theorem Told.lastUse_spec {h : History} (ht : h.Told) {name : String} {last : Handle}
    (hlast : h.lastUse name = some last) : h.log[last.id]? = some (name, last) ∧
      ∀ (j : Nat) (handle : Handle), h.log[j]? = some (name, handle) → j ≤ last.id := by
  obtain ⟨newer, older, hsplit, hnewer⟩ := List.lookup_eq_some_iff.1 hlast
  have hlog : h.log = older.reverse ++ (name, last) :: newer.reverse := by
    rw [← List.reverse_reverse h.log, hsplit]
    simp
  have hat : h.log[older.length]? = some (name, last) := by simp [hlog]
  obtain hid : last.id = older.length := ht.id _ _ hat
  rw [hid]
  refine ⟨hat, fun j handle hj => ?_⟩
  by_contra hlt
  have hmem : (name, handle) ∈ newer.reverse := by
    rw [hlog, List.getElem?_append_right (by simp; omega), List.length_reverse] at hj
    obtain ⟨k, hk⟩ : ∃ k, j - older.length = k + 1 := ⟨j - older.length - 1, by omega⟩
    rw [hk, List.getElem?_cons_succ] at hj
    exact List.mem_of_getElem? hj
  simpa using hnewer _ (List.mem_reverse.1 hmem)

/-- A table that is only given routes by calls has the names in the order of their first use, each
with the route of its last use, and a path belongs to the first of these routes that matches it. A
route that has been replaced matches nothing, its name stays in its place, and a call that fails
does not matter for anything that follows. -/
theorem table_ofCalls (calls : List Call) :
    let h := ofCalls calls
    let t := h.table
    h.log.map (·.2.route) = calls.filterMap (·.route.toOption) ∧
    t.names = h.firstUses ∧
    (∀ name, t.lookup name = h.lastUse name) ∧
    (∀ path, t.firstMatch path = h.firstUses.findSome? fun name =>
      (h.lastUse name).bind fun handle =>
        (handle.route.matchPath path).map fun params => ⟨name, handle, params⟩) ∧
    (∀ path, t.firstMatch path = none ↔
      ∀ name handle, h.lastUse name = some handle → handle.route.matchPath path = none) ∧
    (∀ (i j : Nat) (name : String) (old new : Handle), i < j →
      h.log[i]? = some (name, old) → h.log[j]? = some (name, new) →
      ∀ path m, t.firstMatch path = some m → m.handle.id ≠ old.id) ∧
    (∀ more, t.names <+: (ofCalls (calls ++ more)).table.names) ∧
    ∀ c fault, c.route = .error fault → ∀ more,
      ofCalls (calls ++ c :: more) = ofCalls (calls ++ more) := by
  intro h t
  have ht : h.Told := told_foldl calls told_start
  have hmatch := fun path => ht.made.sound.firstMatch_eq path
  simp only [ht.names, ht.lookup] at hmatch
  have hnone : ∀ path, t.firstMatch path = none ↔
      ∀ name handle, h.lastUse name = some handle → handle.route.matchPath path = none := by
    intro path
    rw [hmatch, List.findSome?_eq_none_iff]
    constructor
    · intro hall name handle hlast
      have hname : name ∈ h.firstUses := by
        rw [← ht.names, ← ht.made.sound.isSome_lookup, ht.lookup, hlast]
        rfl
      simpa [hlast] using hall name hname
    · intro hall name _
      cases hlast : h.lastUse name with
      | none => rfl
      | some handle => simp [hall name handle hlast]
  refine ⟨routes_foldl calls start, ht.names, ht.lookup, hmatch, hnone, ?_,
    fun more => ?_, fun c fault hc more => ?_⟩
  · intro i j name old new hij hi hj path m hm heq
    have hlast : h.lastUse m.name = some m.handle := by
      rw [← ht.lookup]
      exact ht.made.sound.lookup_of_firstMatch hm
    obtain ⟨hat, hnewest⟩ := ht.lastUse_spec hlast
    have hid : old.id = i := ht.id i _ hi
    rw [heq, hid, hi] at hat
    obtain ⟨rfl, -⟩ := Prod.mk.inj (Option.some.inj hat)
    have hle := hnewest j new hj
    omega
  · have hlater : (ofCalls (calls ++ more)).Told := told_foldl _ told_start
    rw [ht.names, hlater.names, ofCalls, List.foldl_append]
    exact firstUses_foldl more h
  · rw [ofCalls, ofCalls, List.foldl_append, List.foldl_append, List.foldl_cons, call_of_error hc]

end History

end Routing
