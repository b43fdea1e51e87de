import Mathlib.Data.List.Nodup
import Routing.Definition
import Routing.Proofs.Dict
import Routing.Proofs.Json.Keeping
import Routing.Proofs.Made
import Routing.Table.Json

/-!
How tables come to be, and what holds of all of them. No name stands twice in a table, and the index
of a table is that of its names: whatever is done with a table, a route stays where its name was
first used.

    names:    admin      blog      #2
    index:    admin ↦ 0, blog ↦ 1, #2 ↦ 2

The identities of its routes say nothing about what a table does. Two tables are alike if they
differ in nothing else; then they find and build the same, and stay alike.
-/

namespace Routing.RouteTable

open Json

/-! ### The index -/

/-- The places of names in a list. -/
def places (names : List String) : Dict Nat := Dict.empty.putAll names.zipIdx

theorem places_append (names : List String) (name : String) :
    places (names ++ [name]) = (places names).insert name names.length := by
  simp [places, Dict.putAll, List.zipIdx_append]

theorem lookup_zipIdx (name : String) : ∀ (names : List String) (k : Nat),
    (names.zipIdx k).lookup name = (names.idxOf? name).map (· + k)
  | [], _ => rfl
  | n :: names, k => by
    rw [List.zipIdx_cons, List.lookup_cons, List.idxOf?_cons, lookup_zipIdx name names]
    by_cases h : n = name
    · simp [h]
    · have hne : (name == n) = false := beq_eq_false_iff_ne.2 (Ne.symm h)
      simp [h, hne, Option.map_map, Function.comp_def, Nat.add_assoc, Nat.add_comm 1]

/-- A name has the place at which it stands. -/
theorem get?_places {names : List String} (h : names.Nodup) (name : String) :
    (places names).get? name = names.idxOf? name := by
  rw [places, Dict.get?_putAll _ _ _ (by simpa using h), lookup_zipIdx]
  simp [Dict.get?, Dict.empty]

/-! ### Tables -/

/-- The ways in which tables are made. -/
inductive Made : RouteTable → Prop
  | empty : Made empty
  | registered {t u id name pattern options handle} : Made t →
      t.register id name pattern options = .ok (u, handle) → Made u
  | inserted {t} (name : String) {handle} : Made t → handle.route.Made → Made (t.insert name handle)
  | decoded {id depth tree t} : decode id depth tree = .ok t → Made t

/-- No name stands twice, the index is that of the names, and every route is sound. -/
structure Sound (t : RouteTable) : Prop where
  nodup : t.names.Nodup
  index : t.index = places t.names
  route : ∀ e ∈ t.entries, e.2.route.Sound

namespace Sound

variable {t : RouteTable}

theorem empty : RouteTable.empty.Sound := ⟨.nil, rfl, by simp [RouteTable.empty]⟩

theorem get?_index (h : t.Sound) (name : String) : t.index.get? name = t.names.idxOf? name := by
  rw [h.index, get?_places h.nodup]

/-- A route that takes the place of another one. -/
theorem replace (h : t.Sound) {name : String} {handle : Handle} (hroute : handle.route.Sound)
    {i : Nat} (hi : t.index.get? name = some i) :
    ({ t with entries := t.entries.set i (name, handle) } : RouteTable).Sound := by
  rw [h.get?_index, List.idxOf?_eq_some_iff] at hi
  obtain ⟨hlt, hname, -⟩ := hi
  have hnames : (t.entries.set i (name, handle)).map (·.1) = t.names := by
    calc (t.entries.set i (name, handle)).map (·.1)
      _ = t.names.set i t.names[i] := by rw [List.map_set, hname, names]
      _ = t.names := List.set_getElem_self hlt
  refine ⟨?_, ?_, fun e he => ?_⟩
  · rw [names, hnames]
    exact h.nodup
  · rw [names, hnames]
    exact h.index
  · rcases List.mem_or_eq_of_mem_set he with he | rfl
    · exact h.route e he
    · exact hroute

/-- A route that is added at the end. -/
theorem add (h : t.Sound) {name : String} {handle : Handle} (hroute : handle.route.Sound)
    (hnew : name ∉ t.names) :
    (⟨t.entries ++ [(name, handle)], t.index.insert name t.entries.length⟩ : RouteTable).Sound := by
  have hnames : (t.entries ++ [(name, handle)]).map (·.1) = t.names ++ [name] := by simp [names]
  refine ⟨?_, ?_, fun e he => ?_⟩
  · rw [names, hnames]
    exact List.nodup_append.2 ⟨h.nodup, List.pairwise_singleton _ _, fun a ha b hb heq =>
      hnew (List.mem_singleton.1 hb ▸ heq ▸ ha)⟩
  · rw [names, hnames, places_append, ← h.index, names, List.length_map]
  · rcases List.mem_append.1 he with he | he
    · exact h.route e he
    · exact List.mem_singleton.1 he ▸ hroute

theorem insert (h : t.Sound) (name : String) {handle : Handle} (hroute : handle.route.Sound) :
    (t.insert name handle).Sound := by
  unfold RouteTable.insert
  split
  next i hi => exact h.replace hroute hi
  next hnone =>
    rw [h.get?_index, List.idxOf?_eq_none_iff] at hnone
    exact h.add hroute hnone

/-- Named routes with new names are all added. -/
theorem ofNamed : ∀ {ns : List NamedRoute} {t : RouteTable} (id : Nat), t.Sound →
    (t.names ++ ns.map (·.name)).Nodup → (∀ n ∈ ns, n.route.Sound) →
    ∃ u, RouteTable.ofNamed t id ns = .ok u ∧ u.Sound ∧
      u.routes = t.routes ++ ns.map fun n => (n.name, n.route)
  | [], t, _, h, _, _ => ⟨t, rfl, h, by simp⟩
  | n :: ns, t, id, h, hnodup, hroutes => by
    obtain ⟨hroute, hroutes⟩ := List.forall_mem_cons.1 hroutes
    have hnew : n.name ∉ t.names := fun hmem =>
      (List.nodup_append.1 hnodup).2.2 _ hmem _ List.mem_cons_self rfl
    have hnone : t.index.get? n.name = none := by
      rw [h.get?_index, List.idxOf?_eq_none_iff]
      exact hnew
    have hcontains : t.index.contains n.name = false := by
      simpa [Dict.get?, Dict.contains] using hnone
    have hinsert : t.insert n.name ⟨id, n.route⟩ =
        ⟨t.entries ++ [(n.name, ⟨id, n.route⟩)], t.index.insert n.name t.entries.length⟩ := by
      rw [RouteTable.insert, hnone]
    have hsound : (t.insert n.name ⟨id, n.route⟩).Sound := by
      rw [hinsert]
      exact h.add hroute hnew
    have hnames : (t.insert n.name ⟨id, n.route⟩).names = t.names ++ [n.name] := by
      simp [hinsert, names]
    obtain ⟨u, hu, husound, huroutes⟩ := ofNamed (id + 1) hsound
      (by rw [hnames, ← List.append_cons]; exact hnodup) hroutes
    refine ⟨u, ?_, husound, ?_⟩
    · rw [RouteTable.ofNamed, hcontains]
      exact hu
    · rw [huroutes, hinsert]
      simp [routes]

theorem register (h : t.Sound) {id : Nat} {name : Option String} {pattern : String}
    {options : RouteOptions} {u : RouteTable} {handle : Handle}
    (hu : t.register id name pattern options = .ok (u, handle)) : u.Sound := by
  unfold RouteTable.register at hu
  split at hu
  next route hroute =>
    obtain ⟨rfl, rfl⟩ := Prod.mk.inj (Except.ok.inj hu)
    exact h.insert _ (Route.Made.compiled hroute).sound
  · simp at hu

theorem of_ofNamed : ∀ {ns : List NamedRoute} {t u : RouteTable} {id : Nat}, t.Sound →
    (∀ n ∈ ns, n.route.Sound) → RouteTable.ofNamed t id ns = .ok u → u.Sound
  | [], _, _, _, h, _, hu => Except.ok.inj hu ▸ h
  | n :: ns, t, u, id, h, hroutes, hu => by
    obtain ⟨hroute, hroutes⟩ := List.forall_mem_cons.1 hroutes
    rw [RouteTable.ofNamed] at hu
    split at hu
    · simp at hu
    · exact of_ofNamed (h.insert n.name hroute) hroutes hu

end Sound

/-- The routes that are read have been made. -/
theorem made_of_decode {depth : Nat} {t : Tree} {n : NamedRoute}
    (h : NamedRoute.decode depth t = .ok n) : n.route.Made := by
  obtain ⟨d, hd, h⟩ := bind_eq_ok.1 h
  obtain ⟨name, -, h⟩ := bind_eq_ok.1 h
  obtain ⟨route, hroute, h⟩ := bind_eq_ok.1 h
  obtain rfl := Except.ok.inj h
  refine toRecord_keeps (P := fun d => ∀ r, d.route = some r → r.Made) ?_ (by simp) hd _
    (needed_eq_ok.1 hroute)
  intro depth name t d d' hd h r hr
  unfold NamedRoute.Draft.read at h
  split at h
  · obtain ⟨_, -, h⟩ := bind_eq_ok.1 h
    obtain rfl := Except.ok.inj h
    exact hd r hr
  · obtain ⟨_, hread, h⟩ := bind_eq_ok.1 h
    obtain rfl := Except.ok.inj h
    obtain ⟨r', hr', rfl⟩ := once_eq_ok hread
    obtain rfl := Option.some.inj hr
    exact .decoded hr'

theorem made_of_decoded {depth : Nat} {t : Tree} {routes : Option (List NamedRoute)}
    (h : t.toRecord ["routes"] (fun depth (old : Option (List NamedRoute)) _ t =>
      Tree.once old (t.toList depth NamedRoute.decode)) none depth = .ok routes)
    {ns : List NamedRoute} (hns : Tree.needed routes = .ok ns) :
    ∀ n ∈ ns, n.route.Made := by
  refine toRecord_keeps
    (P := fun ns : Option (List NamedRoute) => ∀ l, ns = some l → ∀ n ∈ l, n.route.Made)
    ?_ (by simp) h _ (needed_eq_ok.1 hns)
  intro depth name t old new hold hread l hl n hn
  obtain ⟨as, has, rfl⟩ := once_eq_ok hread
  obtain rfl := Option.some.inj hl
  obtain ⟨_, _, hdecode⟩ := exists_of_toList has hn
  exact made_of_decode hdecode

/-- Every table is sound. -/
theorem Made.sound {t : RouteTable} (h : t.Made) : t.Sound := by
  induction h with
  | empty => exact .empty
  | registered _ hu ih => exact ih.register hu
  | inserted name _ hroute ih => exact ih.insert name hroute.sound
  | decoded h =>
    obtain ⟨routes, hroutes, h⟩ := bind_eq_ok.1 h
    obtain ⟨ns, hns, h⟩ := bind_eq_ok.1 h
    split at h
    next hnamed =>
      obtain rfl := Except.ok.inj h
      exact .of_ofNamed .empty (fun n hn => (made_of_decoded hroutes hns n hn).sound) hnamed
    · simp at h

/-! ### Alike tables -/

/-- Two tables that differ in nothing but the identities of their routes. -/
structure Alike (t u : RouteTable) : Prop where
  routes : t.routes = u.routes
  index : t.index = u.index

theorem names_eq_map_routes (t : RouteTable) : t.names = t.routes.map (·.1) := by
  simp [names, routes]

theorem Sound.alike {t u : RouteTable} (ht : t.Sound) (hu : u.Sound) (h : t.routes = u.routes) :
    t.Alike u where
  routes := h
  index := by rw [ht.index, hu.index, names_eq_map_routes, names_eq_map_routes, h]

theorem lookup_route (t : RouteTable) (name : String) : (t.lookup name).map (·.route) =
    (t.index.get? name).bind fun i => (t.routes[i]?).map (·.2) := by
  rw [lookup, routes]
  cases t.index.get? name with
  | none => rfl
  | some i => simp [Option.map_map, Function.comp_def]

theorem demand_eq (t : RouteTable) (name : String) : t.demand name =
    match (t.lookup name).map (·.route) with
    | some route => .ok route
    | none => .error (.routeNotFound name) := by
  rw [demand]
  cases t.lookup name <;> rfl

theorem firstMatch_params (t : RouteTable) (path : String) :
    (t.firstMatch path).map (fun m => (m.name, m.params)) =
      t.routes.findSome? fun (name, route) => (route.matchPath path).map fun params =>
        (name, params) := by
  rw [firstMatch, routes, List.findSome?_map, List.map_findSome?]
  simp [Function.comp_def, Option.map_map]

namespace Alike

variable {t u : RouteTable}

theorem refl (t : RouteTable) : t.Alike t := ⟨rfl, rfl⟩

theorem symm (h : t.Alike u) : u.Alike t := ⟨h.routes.symm, h.index.symm⟩

theorem trans {v : RouteTable} (h : t.Alike u) (h' : u.Alike v) : t.Alike v :=
  ⟨h.routes.trans h'.routes, h.index.trans h'.index⟩

/-! What alike tables do. -/

theorem names_eq (h : t.Alike u) : t.names = u.names := by
  rw [names_eq_map_routes, names_eq_map_routes, h.routes]

theorem size_eq (h : t.Alike u) : t.size = u.size := by
  simpa [names, size] using congrArg List.length h.names_eq

theorem lookup_eq (h : t.Alike u) (name : String) :
    (t.lookup name).map (·.route) = (u.lookup name).map (·.route) := by
  rw [lookup_route, lookup_route, h.routes, h.index]

theorem demand_eq (h : t.Alike u) (name : String) : t.demand name = u.demand name := by
  rw [RouteTable.demand_eq, RouteTable.demand_eq, h.lookup_eq]

theorem uri_eq (h : t.Alike u) (name : String) (params : Params) :
    t.uri name params = u.uri name params := by
  rw [uri, uri, h.demand_eq]

theorem url_eq (h : t.Alike u) (name : String) (params : Params) (base : String)
    (origin : Option Origin) : t.url name params base origin = u.url name params base origin := by
  rw [url, url, h.demand_eq]

theorem firstMatch_eq (h : t.Alike u) (path : String) :
    (t.firstMatch path).map (fun m => (m.name, m.params)) =
      (u.firstMatch path).map fun m => (m.name, m.params) := by
  rw [firstMatch_params, firstMatch_params, h.routes]

theorem nameFor_eq (h : t.Alike u) (name : Option String) : t.nameFor name = u.nameFor name := by
  have hfree : ∀ fuel k, t.freeOrdinal fuel k = u.freeOrdinal fuel k := by
    intro fuel
    induction fuel with
    | zero => exact fun _ => rfl
    | succ fuel ih => exact fun k => by rw [freeOrdinal, freeOrdinal, h.index, ih]
  rw [nameFor, nameFor, freshName, freshName, hfree, h.size_eq]

/-! What is done to alike tables leaves them alike. -/

theorem insert (h : t.Alike u) (name : String) (id id' : Nat) (route : Route) :
    (t.insert name ⟨id, route⟩).Alike (u.insert name ⟨id', route⟩) := by
  have hroutes := h.routes
  have hsize := h.size_eq
  unfold RouteTable.insert
  rw [h.index]
  split
  next i _ =>
    exact ⟨by simpa [RouteTable.routes] using congrArg (·.set i (name, route)) hroutes, rfl⟩
  next =>
    refine ⟨by simpa [RouteTable.routes] using hroutes, ?_⟩
    rw [size, size] at hsize
    rw [hsize]

theorem register (h : t.Alike u) (id id' : Nat) (name : Option String) (pattern : String)
    (options : RouteOptions) : Both (fun a b : RouteTable × Handle => a.1.Alike b.1)
      (t.register id name pattern options) (u.register id' name pattern options) := by
  unfold RouteTable.register
  rw [h.nameFor_eq]
  split
  · exact .ok (h.insert _ id id' _)
  · exact .error _

theorem ofNamed : ∀ (ns : List NamedRoute) {t u : RouteTable} (id id' : Nat), t.Alike u →
    Both Alike (RouteTable.ofNamed t id ns) (RouteTable.ofNamed u id' ns)
  | [], _, _, _, _, h => .ok h
  | n :: ns, t, u, id, id', h => by
    rw [RouteTable.ofNamed, RouteTable.ofNamed, h.index]
    split
    · exact .error _
    · exact ofNamed ns (id + 1) (id' + 1) (h.insert _ id id' _)

end Alike

/-- A table that is read is the same whatever the identities of its routes. -/
theorem decode_alike (id id' depth : Nat) (t : Tree) :
    Both Alike (decode id depth t) (decode id' depth t) := by
  refine .bind_self fun routes => .bind_self fun ns => ?_
  have h := Alike.ofNamed ns id id' (.refl .empty)
  revert h
  generalize RouteTable.ofNamed .empty id ns = x
  generalize RouteTable.ofNamed .empty id' ns = y
  rintro (h | _)
  · exact .ok h
  · exact .error _

/-! ### Tables of definitions -/

namespace Built

theorem made_addAll : ∀ (ds : List RouteDefinition) {b : Built} (id : Nat), b.table.Made →
    (b.addAll id ds).table.Made
  | [], _, _, h => h
  | d :: ds, b, id, h => by
    refine made_addAll ds (id + 1) ?_
    unfold add
    split
    next table _ hregister => exact .registered h hregister
    · exact h

/-- The identities that are given to routes do not matter, neither for tables nor for faults. -/
theorem addAll_alike : ∀ (ds : List RouteDefinition) {b b' : Built} (id id' : Nat),
    b.table.Alike b'.table → b.faults = b'.faults →
      (b.addAll id ds).table.Alike (b'.addAll id' ds).table ∧
        (b.addAll id ds).faults = (b'.addAll id' ds).faults
  | [], _, _, _, _, htable, hfaults => ⟨htable, hfaults⟩
  | d :: ds, b, b', id, id', htable, hfaults => by
    have hadd : (b.add id d).table.Alike (b'.add id' d).table ∧
        (b.add id d).faults = (b'.add id' d).faults := by
      have hregister := htable.register id id' d.name d.pattern d.options
      unfold add
      revert hregister
      generalize b.table.register id d.name d.pattern d.options = x
      generalize b'.table.register id' d.name d.pattern d.options = y
      rintro (halike | fault)
      · exact ⟨halike, hfaults⟩
      · exact ⟨htable, by rw [hfaults]⟩
    exact addAll_alike ds (id + 1) (id' + 1) hadd.1 hadd.2

end Built

theorem made_build (id : Nat) (ds : List RouteDefinition) : (build id ds).table.Made :=
  Built.made_addAll ds id .empty

theorem build_alike (id id' : Nat) (ds : List RouteDefinition) :
    (build id ds).table.Alike (build id' ds).table ∧ (build id ds).faults = (build id' ds).faults :=
  Built.addAll_alike ds id id' (.refl .empty) rfl

end Routing.RouteTable
