import Mathlib.Data.List.Perm.Subperm
import Routing.Proofs.History

/-!
The names that definitions are registered under. A definition without a name gets the first free
number from the size of the table on. Only the names before it count as taken, so a later definition
may ask for the very name that was given, and then its route stands in the place of the other one.

    definitions     a, b, "#1" c       names   #0, #1         c in the place of b
    definitions     "#1" c, a, b       names   #1, #2, #3

Where no definition asks for a name that was given before, each has an entry of its own.
-/

namespace Routing

namespace RouteTable

/-! ### Free numbers -/

theorem ordinalName_injective : Function.Injective ordinalName := by
  intro j k h
  have hdigits : Nat.toDigits 10 j = Nat.toDigits 10 k := by
    simpa [ordinalName, Nat.toString_eq_ofList_toDigits] using congrArg String.toList h
  calc j
    _ = Nat.ofDigitChars 10 (Nat.toDigits 10 j) 0 := Nat.ofDigitChars_ten_toDigits.symm
    _ = Nat.ofDigitChars 10 (Nat.toDigits 10 k) 0 := by rw [hdigits]
    _ = k := Nat.ofDigitChars_ten_toDigits

/-- The search steps over names that are in use, and stops at the first one that is not, unless it
has taken all its steps. -/
theorem freeOrdinal_spec (t : RouteTable) : ∀ fuel k : Nat,
    k ≤ t.freeOrdinal fuel k ∧ t.freeOrdinal fuel k ≤ k + fuel ∧
    (∀ j, k ≤ j → j < t.freeOrdinal fuel k → t.index.contains (ordinalName j)) ∧
    (t.freeOrdinal fuel k < k + fuel →
      t.index.contains (ordinalName (t.freeOrdinal fuel k)) = false)
  | 0, k => ⟨Nat.le_refl k, Nat.le_refl k, fun j hkj hj => absurd hj (Nat.not_lt.2 hkj),
      fun hlt => absurd hlt (Nat.lt_irrefl k)⟩
  | fuel + 1, k => by
    obtain ⟨hle, hbound, hused, hfree⟩ := freeOrdinal_spec t fuel (k + 1)
    rw [freeOrdinal]
    split
    next htaken =>
      refine ⟨by omega, by omega, fun j hkj hj => ?_, fun hlt => hfree (by omega)⟩
      rcases Nat.eq_or_lt_of_le hkj with rfl | hkj
      · exact htaken
      · exact hused j hkj hj
    next htaken => exact ⟨by omega, by omega, fun j hkj hj => absurd hj (by omega), fun _ => by
        simpa using htaken⟩

theorem Sound.contains_iff {t : RouteTable} (h : t.Sound) (name : String) :
    t.index.contains name = true ↔ name ∈ t.names := by
  rw [Dict.contains_eq_isSome, h.get?_index, List.isSome_idxOf?]

/-- A table of so many routes does not use one number more than it has routes. -/
theorem exists_free_ordinal (names : List String) (k : Nat) :
    ∃ j, k ≤ j ∧ j ≤ k + names.length ∧ ordinalName j ∉ names := by
  by_contra hnone
  have hall : ∀ j, k ≤ j → j ≤ k + names.length → ordinalName j ∈ names := by
    intro j hj hbound
    by_contra hfree
    exact hnone ⟨j, hj, hbound, hfree⟩
  have hsub : (List.range' k (names.length + 1)).map ordinalName ⊆ names := by
    intro name hname
    obtain ⟨j, hj, rfl⟩ := List.mem_map.1 hname
    have hrange := List.mem_range'_1.1 hj
    exact hall j hrange.1 (by omega)
  have hnodup : ((List.range' k (names.length + 1)).map ordinalName).Nodup :=
    List.Nodup.map ordinalName_injective List.nodup_range'
  have hlength := (hnodup.subperm hsub).length_le
  rw [List.length_map, List.length_range'] at hlength
  omega

/-- The name of a route that is registered without one is that of the first free number from the
size of the table on. -/
theorem Sound.freshName_spec {t : RouteTable} (h : t.Sound) : ∃ k, t.freshName = ordinalName k ∧
    t.size ≤ k ∧ ordinalName k ∉ t.names ∧
      ∀ j, t.size ≤ j → j < k → ordinalName j ∈ t.names := by
  obtain ⟨hle, hbound, hused, hfree⟩ := freeOrdinal_spec t t.size t.size
  have hsize : t.names.length = t.size := by rw [names, List.length_map, size]
  simp only [h.contains_iff] at hused
  refine ⟨t.freeOrdinal t.size t.size, rfl, hle, fun hmem => ?_, hused⟩
  -- The search cannot have run out: there are more numbers in its range than names.
  obtain ⟨j, hj, hjbound, hjfree⟩ := exists_free_ordinal t.names t.size
  have hjbeyond : t.freeOrdinal t.size t.size ≤ j := by
    by_contra hlt
    exact hjfree (hused j hj (by omega))
  have hend : ¬ t.freeOrdinal t.size t.size < t.size + t.size := by
    intro hlt
    have htaken := (h.contains_iff _).2 hmem
    rw [hfree hlt] at htaken
    exact Bool.noConfusion htaken
  have heq : j = t.freeOrdinal t.size t.size := by omega
  exact hjfree (heq ▸ hmem)

end RouteTable

/-! ### Calls that all have a route -/

namespace History

open RouteTable

variable {calls : List Call}

theorem told_ofCalls (calls : List Call) : (ofCalls calls).Told := told_foldl calls told_start

theorem ofCalls_concat (calls : List Call) (c : Call) :
    ofCalls (calls ++ [c]) = (ofCalls calls).call c := by
  rw [ofCalls, List.foldl_append]
  rfl

/-- Every call is in the log, in its place, under the name that the table had for it. -/
theorem log_ofCalls (hroutes : ∀ c ∈ calls, ∃ r, c.route = .ok r) :
    (ofCalls calls).log.length = calls.length ∧
    ∀ i c r, calls[i]? = some c → c.route = .ok r →
      (ofCalls calls).log[i]? = some ((ofCalls (calls.take i)).table.nameFor c.name?, ⟨i, r⟩) := by
  induction calls using List.reverseRecOn with
  | nil => simp [ofCalls, start]
  | append_singleton calls last ih =>
    obtain ⟨hlength, hlog⟩ := ih fun c hc => hroutes c (by simp [hc])
    obtain ⟨r', hr'⟩ := hroutes last (by simp)
    rw [ofCalls_concat, log_call hr']
    refine ⟨by simp [hlength], fun i c r hc hr => ?_⟩
    rcases Nat.lt_or_ge i calls.length with hlt | hge
    · rw [List.getElem?_append_left hlt] at hc
      rw [List.getElem?_append_left (by omega), hlog i c r hc hr,
        List.take_append_of_le_length (by omega)]
    · have hi : i = calls.length := by
        obtain ⟨hlt, -⟩ := List.getElem?_eq_some_iff.1 hc
        simp at hlt
        omega
      subst hi
      obtain rfl : last = c := by simpa using hc
      obtain rfl := Except.ok.inj (hr'.symm.trans hr)
      rw [List.getElem?_append_right (by omega), hlength]
      simp

theorem eraseDups_of_nodup : ∀ {names : List String}, names.Nodup → names.eraseDups = names
  | [], _ => rfl
  | name :: names, h => by
    obtain ⟨hname, h⟩ := List.nodup_cons.1 h
    have hfilter : names.filter (fun other => !other == name) = names :=
      List.filter_eq_self.2 fun other hother => by
        simpa using fun heq : other = name => hname (heq ▸ hother)
    rw [List.eraseDups_cons, hfilter, eraseDups_of_nodup h]

/-- Entries under the same names, one by one, are the same if they are among each other. -/
theorem eq_of_map_fst {β : Type} {as bs : List (String × β)} (h : as.map (·.1) = bs.map (·.1))
    (hnodup : (bs.map (·.1)).Nodup) (hsub : ∀ e ∈ as, e ∈ bs) : as = bs := by
  have hlength : as.length = bs.length := by simpa using congrArg List.length h
  refine List.ext_getElem hlength fun i hi hi' => ?_
  obtain ⟨j, hj, heq⟩ := List.getElem_of_mem (hsub as[i] (List.getElem_mem hi))
  have hname : (bs.map (·.1))[j]? = (bs.map (·.1))[i]? := by
    rw [← h, h, List.getElem?_map, List.getElem?_eq_getElem hj, heq, ← h, List.getElem?_map,
      List.getElem?_eq_getElem hi]
  obtain rfl := (List.getElem?_inj (by simpa using hj) hnodup).1 hname
  exact heq.symm

/-- If no name is used twice, the log is the table. -/
theorem Told.entries_eq_log {h : History} (ht : h.Told) (hnodup : (h.log.map (·.1)).Nodup) :
    h.table.entries = h.log := by
  refine eq_of_map_fst ?_ hnodup fun e he => ?_
  · calc h.table.entries.map (·.1)
      _ = h.firstUses := ht.names
      _ = h.log.map (·.1) := eraseDups_of_nodup hnodup
  · have hlast : h.lastUse e.1 = some e.2 := by
      rw [← ht.lookup]
      exact ht.made.sound.lookup_eq_some_iff.2 he
    exact List.mem_of_getElem? (ht.lastUse_spec hlast).1

/-- A table with as many entries as its log has none of its names used twice. -/
theorem Told.nodup_of_size {h : History} (ht : h.Told) (hsize : h.log.length ≤ h.table.size) :
    (h.log.map (·.1)).Nodup := by
  have hsub : h.table.names ⊆ h.log.map (·.1) := by
    intro name hname
    rw [ht.names] at hname
    exact List.mem_eraseDups.1 hname
  have hlength : (h.log.map (·.1)).length ≤ h.table.names.length := by
    rwa [List.length_map, RouteTable.names, List.length_map]
  have hperm := (ht.made.sound.nodup.subperm hsub).perm_of_length_le hlength
  exact hperm.nodup_iff.1 ht.made.sound.nodup

end History

/-! ### Definitions -/

open RouteTable

/-- The call that registers a definition. -/
def RouteDefinition.call (d : RouteDefinition) : Call := .register d.name d.pattern d.options

namespace RouteTable

/-- A call leaves alike tables alike. -/
theorem Alike.call {t u : RouteTable} (h : t.Alike u) (id id' : Nat) (c : Call) :
    (t.call id c).Alike (u.call id' c) := by
  rw [call_eq, call_eq, h.nameFor_eq]
  split
  · exact h.insert _ id id' _
  · exact h

theorem Built.table_add (b : Built) (id : Nat) (d : RouteDefinition) :
    (b.add id d).table = b.table.call id d.call := by
  rw [add, RouteDefinition.call, RouteTable.call]
  cases b.table.register id d.name d.pattern d.options <;> rfl

/-- The table of definitions is that of their calls. -/
theorem Built.addAll_alike_calls : ∀ (ds : List RouteDefinition) {b : Built} {h : History}
    (id : Nat), b.table.Alike h.table →
    (b.addAll id ds).table.Alike ((ds.map (·.call)).foldl History.call h).table
  | [], _, _, _, halike => halike
  | d :: ds, b, h, id, halike => by
    refine addAll_alike_calls ds (id + 1) ?_
    rw [table_add]
    exact halike.call id h.log.length d.call

theorem build_alike_calls (id : Nat) (ds : List RouteDefinition) :
    (build id ds).table.Alike (History.ofCalls (ds.map (·.call))).table :=
  Built.addAll_alike_calls ds id (.refl .empty)

theorem Built.faults_add {b : Built} {id : Nat} {d : RouteDefinition}
    (h : ∃ r, Route.compile d.pattern d.options = .ok r) : (b.add id d).faults = b.faults := by
  obtain ⟨r, hr⟩ := h
  rw [add, register, hr]

/-- Definitions that compile leave no fault behind. -/
theorem Built.faults_addAll : ∀ {ds : List RouteDefinition} {b : Built} (id : Nat),
    (∀ d ∈ ds, ∃ r, Route.compile d.pattern d.options = .ok r) →
      (b.addAll id ds).faults = b.faults
  | [], _, _, _ => rfl
  | d :: ds, b, id, hcompile => by
    obtain ⟨hd, hcompile⟩ := List.forall_mem_cons.1 hcompile
    rw [addAll, faults_addAll (id + 1) hcompile, faults_add hd]

/-- Every definition has an entry of its own, in the order of the definitions: the route compiled
from it, under its name, or under a number if it has none. -/
def Complete (ds : List RouteDefinition) (t : RouteTable) : Prop :=
  List.Forall₂ (fun d e => Route.compile d.pattern d.options = .ok e.2 ∧
    match d.name with
    | some name => e.1 = name
    | none => ∃ k, e.1 = ordinalName k) ds t.routes

/-- A definition asks for the name that a definition before it was given for want of one. -/
def Collides (id : Nat) (ds : List RouteDefinition) : Prop :=
  ∃ (i j : Nat) (d e : RouteDefinition), i < j ∧ ds[i]? = some d ∧ ds[j]? = some e ∧
    d.name = none ∧ e.name = some (build id (ds.take i)).table.freshName

section
variable {ds : List RouteDefinition}

theorem exists_route_call (hcompile : ∀ d ∈ ds, ∃ r, Route.compile d.pattern d.options = .ok r) :
    ∀ c ∈ ds.map (·.call), ∃ r, c.route = .ok r := by
  intro c hc
  obtain ⟨d, hd, rfl⟩ := List.mem_map.1 hc
  exact hcompile d hd

/-- The log of definitions that compile. -/
theorem getElem?_log (id : Nat)
    (hcompile : ∀ d ∈ ds, ∃ r, Route.compile d.pattern d.options = .ok r) {i : Nat}
    {d : RouteDefinition} {r : Route} (hd : ds[i]? = some d)
    (hr : Route.compile d.pattern d.options = .ok r) :
    (History.ofCalls (ds.map (·.call))).log[i]? =
      some ((build id (ds.take i)).table.nameFor d.name, ⟨i, r⟩) := by
  have hcall : (ds.map (·.call))[i]? = some d.call := by rw [List.getElem?_map, hd, Option.map_some]
  have hlog := (History.log_ofCalls (exists_route_call hcompile)).2 i d.call r hcall hr
  rw [hlog, ← List.map_take, (build_alike_calls id (ds.take i)).nameFor_eq]
  rfl

/-- There are as many entries as definitions exactly if no name has been used twice. -/
theorem size_build_iff_nodup (id : Nat)
    (hcompile : ∀ d ∈ ds, ∃ r, Route.compile d.pattern d.options = .ok r) :
    (build id ds).table.size = ds.length ↔
      ((History.ofCalls (ds.map (·.call))).log.map (·.1)).Nodup := by
  have ht := History.told_ofCalls (ds.map (·.call))
  have hlength := (History.log_ofCalls (exists_route_call hcompile)).1
  rw [List.length_map] at hlength
  rw [(build_alike_calls id ds).size_eq, ← hlength]
  constructor
  · exact fun hsize => ht.nodup_of_size (Nat.le_of_eq hsize.symm)
  · intro hnodup
    rw [size, ht.entries_eq_log hnodup]

/-- Then each definition has its own entry. -/
theorem complete_of_nodup (id : Nat)
    (hcompile : ∀ d ∈ ds, ∃ r, Route.compile d.pattern d.options = .ok r)
    (hnodup : ((History.ofCalls (ds.map (·.call))).log.map (·.1)).Nodup) :
    Complete ds (build id ds).table := by
  have ht := History.told_ofCalls (ds.map (·.call))
  have hlength := (History.log_ofCalls (exists_route_call hcompile)).1
  rw [List.length_map] at hlength
  rw [Complete, (build_alike_calls id ds).routes, routes, ht.entries_eq_log hnodup]
  refine List.forall₂_iff_get.2 ⟨by simp [hlength], fun i hi hi' => ?_⟩
  obtain ⟨r, hr⟩ := hcompile ds[i] (List.getElem_mem hi)
  have hat := getElem?_log id hcompile (List.getElem?_eq_getElem hi) hr
  obtain ⟨hlt, hentry⟩ := List.getElem?_eq_some_iff.1 hat
  rw [List.get_eq_getElem, List.get_eq_getElem, List.getElem_map, hentry]
  refine ⟨hr, ?_⟩
  cases hname : ds[i].name with
  | some name => rfl
  | none =>
    obtain ⟨k, hk, -⟩ := (made_build id (ds.take i)).sound.freshName_spec
    exact ⟨k, hk⟩

/-- What a definition is registered under is a name of the table from then on. -/
theorem nameFor_mem_names (id : Nat)
    (hcompile : ∀ d ∈ ds, ∃ r, Route.compile d.pattern d.options = .ok r) {i j : Nat}
    {d : RouteDefinition} (hd : ds[i]? = some d) (hij : i < j) :
    (build id (ds.take i)).table.nameFor d.name ∈ (build id (ds.take j)).table.names := by
  obtain ⟨r, hr⟩ := hcompile d (List.mem_of_getElem? hd)
  have hat : (ds.take j)[i]? = some d := by rw [List.getElem?_take_of_lt hij, hd]
  have hlog := getElem?_log id (fun d hd => hcompile d (List.mem_of_mem_take hd)) hat hr
  rw [List.take_take, Nat.min_eq_left (Nat.le_of_lt hij)] at hlog
  rw [(build_alike_calls id (ds.take j)).names_eq, (History.told_ofCalls _).names,
    History.firstUses, List.mem_eraseDups]
  exact List.mem_map.2 ⟨_, List.mem_of_getElem? hlog, rfl⟩

/-- If no two definitions ask for the same name, a name is used twice exactly if a definition asks
for one that was given before. -/
theorem nodup_iff_not_collides (id : Nat)
    (hcompile : ∀ d ∈ ds, ∃ r, Route.compile d.pattern d.options = .ok r)
    (hnames : (ds.filterMap (·.name)).Nodup) :
    ((History.ofCalls (ds.map (·.call))).log.map (·.1)).Nodup ↔ ¬ Collides id ds := by
  have hname : ∀ {i d}, ds[i]? = some d →
      ((History.ofCalls (ds.map (·.call))).log.map (·.1))[i]? =
        some ((build id (ds.take i)).table.nameFor d.name) := by
    intro i d hd
    obtain ⟨r, hr⟩ := hcompile d (List.mem_of_getElem? hd)
    rw [List.getElem?_map, getElem?_log id hcompile hd hr, Option.map_some]
  have hlength := (History.log_ofCalls (exists_route_call hcompile)).1
  rw [List.nodup_iff_getElem?_ne_getElem?, List.length_map, hlength, List.length_map]
  constructor
  · rintro hdistinct ⟨i, j, d, e, hij, hd, he, hunnamed, hasks⟩
    refine hdistinct i j hij (List.getElem?_eq_some_iff.1 he).1 ?_
    rw [hname hd, hname he, hunnamed, hasks]
    rfl
  · intro hno i j hij hj heq
    have he := List.getElem?_eq_getElem hj
    have hd := List.getElem?_eq_getElem (Nat.lt_trans hij hj)
    rw [hname hd, hname he, Option.some_inj] at heq
    cases hasked : ds[j].name with
    | none =>
      -- A name that is given is new, so it is none of those before.
      obtain ⟨k, hk, -, hnew, -⟩ := (made_build id (ds.take j)).sound.freshName_spec
      have hmem := nameFor_mem_names id hcompile hd hij
      rw [heq, hasked] at hmem
      exact hnew (hk ▸ hmem)
    | some name =>
      rw [hasked] at heq
      cases hbefore : ds[i].name with
      | none =>
        rw [hbefore] at heq
        exact hno ⟨i, j, _, _, hij, hd, he, hbefore, hasked.trans (congrArg some heq.symm)⟩
      | some name' =>
        rw [hbefore] at heq
        have hpairs := List.pairwise_iff_getElem.1 (List.pairwise_filterMap.1 hnames)
        exact hpairs i j _ hj hij name' hbefore name hasked heq

/-- Definitions that all compile, no two of which ask for the same name, leave no fault behind.
Each has an entry of its own, with its own route, exactly if none of them asks for the number that
an unnamed one before it was given; and then the table has as many entries as there are definitions.
So no route is lost where no definition after an unnamed one asks for a number. -/
theorem complete_build (id : Nat)
    (hcompile : ∀ d ∈ ds, ∃ r, Route.compile d.pattern d.options = .ok r)
    (hnames : (ds.filterMap (·.name)).Nodup) :
    (build id ds).faults = [] ∧
    (Complete ds (build id ds).table ↔ ¬ Collides id ds) ∧
    ((build id ds).table.size = ds.length ↔ ¬ Collides id ds) ∧
    ((∀ (i j : Nat) (d e : RouteDefinition), i < j → ds[i]? = some d → ds[j]? = some e →
        d.name = none → ∀ k, e.name ≠ some (ordinalName k)) →
      Complete ds (build id ds).table) := by
  have hnodup := nodup_iff_not_collides id hcompile hnames
  have hsize := (size_build_iff_nodup id hcompile).trans hnodup
  have hcomplete : Complete ds (build id ds).table ↔ ¬ Collides id ds := by
    constructor
    · intro h
      have hlength := h.length_eq
      rw [routes, List.length_map] at hlength
      exact hsize.1 hlength.symm
    · exact fun hno => complete_of_nodup id hcompile (hnodup.2 hno)
  refine ⟨Built.faults_addAll id hcompile, hcomplete, hsize, fun hplain => hcomplete.2 ?_⟩
  rintro ⟨i, j, d, e, hij, hd, he, hunnamed, hasks⟩
  obtain ⟨k, hk, -⟩ := (made_build id (ds.take i)).sound.freshName_spec
  exact hplain i j d e hij hd he hunnamed k (hk ▸ hasks)

/-- Unnamed definitions step over the number that the first one asks for. -/
theorem complete_build_numbers :
    let ds : List RouteDefinition := [⟨some "#1", "c", .empty, .empty⟩,
      ⟨none, "a(/<id>)", .empty, .empty⟩, ⟨none, "b", .empty, .empty⟩]
    (∀ d ∈ ds, ∃ r, Route.compile d.pattern d.options = .ok r) ∧
      (ds.filterMap (·.name)).Nodup ∧ (build 0 ds).faults = [] ∧
      (build 0 ds).table.names = ["#1", "#2", "#3"] ∧ Complete ds (build 0 ds).table := by
  intro ds
  obtain ⟨hcompile, hnames, hlisted⟩ :
      (∀ d ∈ ds, ∃ r, Route.compile d.pattern d.options = .ok r) ∧
        (ds.filterMap (·.name)).Nodup ∧ (build 0 ds).table.names = ["#1", "#2", "#3"] := by
    decide +kernel
  have hsize : (build 0 ds).table.size = ds.length := by
    rw [size, ← List.length_map (·.1), ← names, hlisted]
    rfl
  obtain ⟨hfaults, hcomplete, hsizes, -⟩ := complete_build 0 hcompile hnames
  exact ⟨hcompile, hnames, hfaults, hlisted, hcomplete.2 (hsizes.1 hsize)⟩

/-- The second definition asks for the number that the first one was given, and the route of the
first one is lost without a fault. -/
theorem not_complete_build_asked :
    let ds : List RouteDefinition := [⟨none, "a", .empty, .empty⟩, ⟨some "#0", "b", .empty, .empty⟩]
    (∀ d ∈ ds, ∃ r, Route.compile d.pattern d.options = .ok r) ∧
      (ds.filterMap (·.name)).Nodup ∧ (build 0 ds).faults = [] ∧
      (build 0 ds).table.names = ["#0"] ∧ (build 0 ds).table.firstMatch "a" = none ∧
      ¬ Complete ds (build 0 ds).table := by
  intro ds
  obtain ⟨hcompile, hnames, hfaults, hlisted, hlost⟩ :
      (∀ d ∈ ds, ∃ r, Route.compile d.pattern d.options = .ok r) ∧
        (ds.filterMap (·.name)).Nodup ∧ (build 0 ds).faults = [] ∧
        (build 0 ds).table.names = ["#0"] ∧ (build 0 ds).table.firstMatch "a" = none := by
    decide +kernel
  refine ⟨hcompile, hnames, hfaults, hlisted, hlost, fun hcomplete => ?_⟩
  have hone : (build 0 ds).table.routes.length = 1 := by
    simpa [names_eq_map_routes] using congrArg List.length hlisted
  exact absurd (hcomplete.length_eq.trans hone) (by decide)

end

end RouteTable

end Routing
