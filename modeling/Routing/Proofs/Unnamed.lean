import Routing.Proofs.Naming

/-!
Routes that are registered without a name. The table tries one number after another, from its size
on, and takes the first one whose name is not in use. A table of n routes has n names, so one of the
first n + 1 numbers is free.

    table        #1, a, #4, #5          4 routes
    tries        #4, #5, #6             two are in use, the third one is free
    register     #1, a, #4, #5, #6

The name is new to the table. So the route comes to the end, and no other route gives way to it.
-/

namespace Routing.RouteTable

/-! ### The search for a number -/

/-- The search for a number from `k` on has tried so many numbers when it stops at the one that it
has found. It goes on as long as names are in use; nothing else stops it. -/
inductive Search (t : RouteTable) : (k tries found : Nat) → Prop
  | free {k : Nat} : t.index.contains (ordinalName k) = false → Search t k 1 k
  | used {k tries found : Nat} : t.index.contains (ordinalName k) = true →
      Search t (k + 1) tries found → Search t k (tries + 1) found

/-- The first number from the size of the table on whose name is not in use. -/
structure FirstFree (t : RouteTable) (k : Nat) : Prop where
  size_le : t.size ≤ k
  free : ordinalName k ∉ t.names
  used : ∀ j, t.size ≤ j → j < k → ordinalName j ∈ t.names

section
variable {t : RouteTable} {k tries found : Nat}

theorem Search.tries_pos (h : t.Search k tries found) : 0 < tries := by
  cases h with
  | free _ => exact Nat.one_pos
  | used _ _ => exact Nat.succ_pos _

/-- There is one way to search. -/
theorem Search.unique (h : t.Search k tries found) : ∀ {tries' found' : Nat},
    t.Search k tries' found' → tries' = tries ∧ found' = found := by
  induction h with
  | free hfree =>
    intro tries' found' h'
    cases h' with
    | free _ => exact ⟨rfl, rfl⟩
    | used hused _ => exact absurd (hfree.symm.trans hused) Bool.false_ne_true
  | used hused _ ih =>
    intro tries' found' h'
    cases h' with
    | free hfree => exact absurd (hfree.symm.trans hused) Bool.false_ne_true
    | used _ h' =>
      obtain ⟨rfl, rfl⟩ := ih h'
      exact ⟨rfl, rfl⟩

/-- Numbers that are in use are stepped over. -/
theorem search_of_used : ∀ {steps k : Nat},
    (∀ j, k ≤ j → j < k + steps → t.index.contains (ordinalName j) = true) →
    t.index.contains (ordinalName (k + steps)) = false → t.Search k (steps + 1) (k + steps)
  | 0, _, _, hfree => .free hfree
  | steps + 1, k, hused, hfree => by
    have hnext : k + 1 + steps = k + (steps + 1) := by omega
    have hrest : t.Search (k + 1) (steps + 1) (k + 1 + steps) :=
      search_of_used (fun j hkj hj => hused j (by omega) (by omega)) (hnext ▸ hfree)
    rw [hnext] at hrest
    exact .used (hused k (Nat.le_refl k) (by omega)) hrest

/-- A bound on the steps does not show if it allows for the search. -/
theorem Search.freeOrdinal_eq (h : t.Search k tries found) : ∀ {fuel : Nat}, tries ≤ fuel + 1 →
    t.freeOrdinal fuel k = found := by
  induction h with
  | free hfree =>
    intro fuel _
    cases fuel with
    | zero => rfl
    | succ fuel => rw [freeOrdinal, hfree]; rfl
  | used hused hrest ih =>
    intro fuel hfuel
    have hpos := hrest.tries_pos
    cases fuel with
    | zero => omega
    | succ fuel =>
      rw [freeOrdinal, if_pos hused]
      exact ih (by omega)

theorem FirstFree.unique {j : Nat} (hj : t.FirstFree j) (hk : t.FirstFree k) : j = k := by
  rcases Nat.lt_trichotomy j k with hlt | heq | hlt
  · exact absurd (hk.used j hj.size_le hlt) hj.free
  · exact heq
  · exact absurd (hj.used k hk.size_le hlt) hk.free

/-- There are too few names for all the numbers up to twice the size of the table. -/
theorem FirstFree.le (h : t.FirstFree k) : k ≤ t.size + t.size := by
  obtain ⟨j, hj, hbound, hfree⟩ := exists_free_ordinal t.names t.size
  have hlength : t.names.length = t.size := by rw [names, List.length_map, size]
  by_contra hlt
  exact hfree (h.used j hj (by omega))

theorem Sound.exists_firstFree (h : t.Sound) :
    ∃ k, t.freshName = ordinalName k ∧ t.FirstFree k := by
  obtain ⟨k, hname, hle, hfree, hused⟩ := h.freshName_spec
  exact ⟨k, hname, hle, hfree, hused⟩

/-- The search finds the first free number. -/
theorem Sound.search (h : t.Sound) (hk : t.FirstFree k) :
    t.Search t.size (k - t.size + 1) k := by
  have hend : t.size + (k - t.size) = k := Nat.add_sub_cancel' hk.size_le
  have hsearch : t.Search t.size (k - t.size + 1) (t.size + (k - t.size)) := by
    refine search_of_used (fun j hle hlt => ?_) ?_
    · exact (h.contains_iff _).2 (hk.used j hle (by omega))
    · rw [hend, Bool.eq_false_iff, ne_eq, h.contains_iff]
      exact hk.free
  rwa [hend] at hsearch

end

/-! ### Names that are given -/

/-- The name that a table has for a route: the one that is asked for, or else that of the first free
number. -/
def Gives (t : RouteTable) : (asked : Option String) → (name : String) → Prop
  | some asked, name => name = asked
  | none, name => ∃ k, name = ordinalName k ∧ t.FirstFree k

theorem Sound.gives_iff {t : RouteTable} (h : t.Sound) {asked : Option String} {name : String} :
    t.Gives asked name ↔ name = t.nameFor asked := by
  cases asked with
  | some asked => rfl
  | none =>
    obtain ⟨k, hk, hfirst⟩ := h.exists_firstFree
    constructor
    · rintro ⟨j, rfl, hj⟩
      rw [hj.unique hfirst]
      exact hk.symm
    · rintro rfl
      exact ⟨k, hk, hfirst⟩

/-! ### Routes at the end -/

section
variable {t u : RouteTable} {name : String}

/-- A route with a new name comes to the end. -/
theorem Sound.entries_insert (h : t.Sound) (hnew : name ∉ t.names) (handle : Handle) :
    (t.insert name handle).entries = t.entries ++ [(name, handle)] := by
  have hnone : t.index.get? name = none := by
    rw [h.get?_index, List.idxOf?_eq_none_iff]
    exact hnew
  rw [RouteTable.insert, hnone]

/-- What comes to the end does not matter for a path that belongs to a route before. -/
theorem firstMatch_append {more : List (String × Handle)} (h : u.entries = t.entries ++ more)
    {path : String} {m : RouteMatch} (hm : t.firstMatch path = some m) :
    u.firstMatch path = some m := by
  rw [firstMatch] at hm
  rw [firstMatch, h, List.findSome?_append, hm, Option.some_or]

/-- What is registered is the route of the pattern, under the name that the table has for it. -/
theorem register_eq_ok {id : Nat} {asked : Option String} {pattern : String}
    {options : RouteOptions} {handle : Handle} :
    t.register id asked pattern options = .ok (u, handle) ↔
      ∃ r, Route.compile pattern options = .ok r ∧ handle = ⟨id, r⟩ ∧
        u = t.insert (t.nameFor asked) handle := by
  rw [register]
  cases Route.compile pattern options with
  | error cause => simp
  | ok r =>
    constructor
    · intro h
      obtain ⟨rfl, rfl⟩ := Prod.mk.inj (Except.ok.inj h)
      exact ⟨r, rfl, rfl, rfl⟩
    · rintro ⟨r', hr', rfl, rfl⟩
      obtain rfl := Except.ok.inj hr'
      rfl

/-- What is reported is the fault of the pattern, with the name that the route would have had. -/
theorem register_eq_error {id : Nat} {asked : Option String} {pattern : String}
    {options : RouteOptions} {fault : Fault} :
    t.register id asked pattern options = .error fault ↔
      ∃ cause, Route.compile pattern options = .error cause ∧
        fault = .registration (t.nameFor asked) cause := by
  rw [register]
  cases Route.compile pattern options <;> simp [eq_comm]

end

/-- In whatever way a table has come about, the search for a name ends: one of the first n + 1
numbers from the size n of the table on is free, and the first free one is found. The bound that the
search is given does not show. A route that is registered without a name comes to the end under the
name of that number; all other names keep their routes, in the same order, and a path that belonged
to a route still belongs to it, with the same parameters. -/
theorem register_unnamed (changes : List Change) :
    let t := after changes
    ∃ k tries, t.FirstFree k ∧ t.Search t.size tries k ∧ tries ≤ t.size + 1 ∧
      (∀ tries' found, t.Search t.size tries' found → tries' = tries ∧ found = k) ∧
      (∀ fuel, t.size ≤ fuel → t.freeOrdinal fuel t.size = k) ∧
      t.freshName = ordinalName k ∧
      ∀ id pattern options u handle,
        t.register id none pattern options = .ok (u, handle) →
          Route.compile pattern options = .ok handle.route ∧
          u.entries = t.entries ++ [(ordinalName k, handle)] ∧
          u.lookup (ordinalName k) = some handle ∧
          (∀ name, name ≠ ordinalName k → u.lookup name = t.lookup name) ∧
          ∀ path m, t.firstMatch path = some m → u.firstMatch path = some m := by
  intro t
  have h : t.Sound := (made_after changes).sound
  obtain ⟨k, hname, hfirst⟩ := h.exists_firstFree
  have hsearch := h.search hfirst
  have hbound := hfirst.le
  refine ⟨k, k - t.size + 1, hfirst, hsearch, by omega, fun _ _ => hsearch.unique,
    fun fuel hfuel => hsearch.freeOrdinal_eq (by omega), hname, ?_⟩
  intro id pattern options u handle hu
  obtain ⟨r, hr, rfl, rfl⟩ := register_eq_ok.1 hu
  have hgiven : t.nameFor none = ordinalName k := hname
  rw [hgiven]
  have hentries := h.entries_insert hfirst.free ⟨id, r⟩
  refine ⟨hr, hentries, ?_, fun name hother => ?_, fun path m => firstMatch_append hentries⟩
  · rw [h.lookup_insert, if_pos rfl]
  · rw [h.lookup_insert, if_neg (Ne.symm hother)]

/-- Two of the numbers are in use, and the path of the new route belongs to an older one. -/
theorem register_unnamed_sixth :
    let changes : List Change := [.build 0 [⟨some "#4", "a", .empty, .empty⟩,
      ⟨some "blog", "b(/<id>)", .empty, .empty⟩, ⟨some "#5", "c", .empty, .empty⟩,
      ⟨some "a", "<x>", .empty, .empty⟩]]
    let t := after changes
    (∃ tries, t.Search 4 tries 6 ∧ tries ≤ 5) ∧
    ∃ made, t.register 4 none "d" ⟨.empty, .empty⟩ = .ok made ∧
      made.1.names = ["#4", "blog", "#5", "a", "#6"] ∧
      ∃ m, t.firstMatch "d" = some m ∧ m.name = "a" ∧ made.1.firstMatch "d" = some m := by
  intro changes t
  obtain ⟨hnames, hfresh, ⟨made, hmade⟩, hmatches⟩ : t.names = ["#4", "blog", "#5", "a"] ∧
      t.freshName = ordinalName 6 ∧
      (∃ made, t.register 4 none "d" ⟨.empty, .empty⟩ = .ok made) ∧
      (t.firstMatch "d").map (·.name) = some "a" := by
    decide +kernel
  obtain ⟨m, hm, hname⟩ := Option.map_eq_some_iff.1 hmatches
  obtain ⟨k, tries, -, hsearch, hbound, -, -, hgiven, hregister⟩ := register_unnamed changes
  obtain rfl : k = 6 := ordinalName_injective (hgiven.symm.trans hfresh)
  have hsize : t.size = 4 := by
    simpa [names, size] using congrArg List.length hnames
  obtain ⟨-, hentries, -, -, hmatch⟩ := hregister 4 "d" ⟨.empty, .empty⟩ made.1 made.2 hmade
  rw [hsize] at hsearch hbound
  refine ⟨⟨tries, hsearch, hbound⟩, made, hmade, ?_, m, hm, hname, hmatch "d" m hm⟩
  calc made.1.names
    _ = t.names ++ [ordinalName 6] := by rw [names, hentries, List.map_append]; rfl
    _ = ["#4", "blog", "#5", "a", "#6"] := by rw [hnames]; decide

end Routing.RouteTable
