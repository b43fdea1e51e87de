import Routing.Proofs.Cache
import Routing.Proofs.Lookup

/-!
The ways to a table, one change after another. A table is given routes by calls, or it is built of
definitions, or read from a text or from an entry of a cache. Whatever is done, the index goes with
the entries.

    register, insert ──▶ table ◀── build, read, load

A copy of a table is the table itself, and a change that fails leaves it as it is.
-/

namespace Routing.RouteTable

open Json

/-! ### Calls -/

/-- A call by which a table is given a route. -/
inductive Call where
  | register (name : Option String) (pattern : String) (options : RouteOptions)
  /-- The route has been made before. -/
  | insert (name : String) (route : Route) (made : route.Made)

namespace Call

/-- The name that a call asks for. -/
def name? : Call → Option String
  | register name _ _ => name
  | insert name _ _ => some name

/-- The route of a call, or why there is none. -/
def route : Call → Except Fault Route
  | register _ pattern options => Route.compile pattern options
  | insert _ route _ => .ok route

theorem made_route {c : Call} {r : Route} (h : c.route = .ok r) : r.Made := by
  cases c with
  | register name pattern options => exact .compiled h
  | insert name route made => exact Except.ok.inj h ▸ made

end Call

/-- The table after a call. The route gets the identity `id`. -/
def call (t : RouteTable) (id : Nat) : Call → RouteTable
  | .register name pattern options =>
    match t.register id name pattern options with
    | .ok (u, _) => u
    | .error _ => t
  | .insert name route _ => t.insert name ⟨id, route⟩

/-- A call puts its route under its name, and without a route it does nothing. -/
theorem call_eq (t : RouteTable) (id : Nat) (c : Call) : t.call id c =
    match c.route with
    | .ok route => t.insert (t.nameFor c.name?) ⟨id, route⟩
    | .error _ => t := by
  cases c with
  | register name pattern options =>
    rw [call, register, Call.route]
    cases Route.compile pattern options <;> rfl
  | insert name route made => rfl

theorem Made.call {t : RouteTable} (h : t.Made) (id : Nat) (c : Call) : (t.call id c).Made := by
  rw [call_eq]
  split
  next route hroute => exact h.inserted _ (Call.made_route hroute)
  · exact h

/-! ### Changes -/

/-- What may be done on the way to a table. -/
inductive Change where
  | call (id : Nat) (c : Call)
  | build (id : Nat) (definitions : List RouteDefinition)
  | read (id : Nat) (text : String)
  | load (id : Nat) (cache : RouteCache) (files : Files.Tree) (key : String)
  /-- The entry of a cache is read from some tree, whatever the bytes are that it stands for. -/
  | entry (id depth : Nat) (tree : Tree)

/-- The table after a change. -/
def change (t : RouteTable) : Change → RouteTable
  | .call id c => t.call id c
  | .build id definitions => (build id definitions).table
  | .read id text =>
    match Json.decode (decode id) text with
    | .ok u => u
    | .error _ => t
  | .load id cache files key => (cache.load files id key).getD t
  | .entry id depth tree =>
    match CacheEntry.decode id depth tree with
    | .ok e => e.table
    | .error _ => t

/-- The table after changes. At first it is empty. -/
def after (changes : List Change) : RouteTable := changes.foldl change .empty

theorem Made.change {t : RouteTable} (h : t.Made) (c : Change) : (t.change c).Made := by
  cases c with
  | call id c => exact h.call id c
  | build id definitions => exact made_build id definitions
  | read id text =>
    rw [RouteTable.change]
    split
    next u hu => exact .decoded (of_decode hu)
    · exact h
  | load id cache files key =>
    rw [RouteTable.change]
    cases hload : cache.load files id key with
    | none => exact h
    | some u => exact RouteCache.made_of_load hload
  | entry id depth tree =>
    rw [RouteTable.change]
    split
    next e he => exact CacheEntry.made_of_decode he
    · exact h

theorem made_after (changes : List Change) : (after changes).Made := by
  have hfold : ∀ (changes : List Change) (t : RouteTable), t.Made →
      (changes.foldl change t).Made := by
    intro changes
    induction changes with
    | nil => exact fun _ h => h
    | cons c changes ih => exact fun _ h => ih _ (h.change c)
  exact hfold changes .empty .empty

/-- Whatever has been done, no name stands twice in the table, and the index has for each name the
place of its entry. So a look-up never goes beyond the entries, and it finds the one entry of the
name. -/
theorem indexed_after (changes : List Change) :
    let t := after changes
    t.names.Nodup ∧
    (∀ name i, t.index.get? name = some i ↔ (t.entries[i]?).map (·.1) = some name) ∧
    (∀ name i, t.index.get? name = some i → i < t.entries.length) ∧
    (∀ name handle, t.lookup name = some handle ↔ (name, handle) ∈ t.entries) ∧
    (∀ name, (t.lookup name).isSome ↔ name ∈ t.names) ∧
    (∀ name handle, (name, handle) ∈ t.entries → ∀ params,
      t.uri name params = handle.route.uri params ∧
      ∀ base origin, t.url name params base origin = handle.route.url params base origin) ∧
    (∀ name, name ∉ t.names → ∀ params,
      t.uri name params = .error (.routeNotFound name) ∧
      ∀ base origin, t.url name params base origin = .error (.routeNotFound name)) := by
  intro t
  have h : t.Sound := (made_after changes).sound
  refine ⟨h.nodup, fun name i => ?_, fun name i hi => ?_, fun _ _ => h.lookup_eq_some_iff,
    h.isSome_lookup, fun name handle he params => ?_, fun name hname params => ?_⟩
  · rw [h.get?_index_iff, getElem?_names]
  · obtain ⟨hlt, -⟩ := List.getElem?_eq_some_iff.1 (h.get?_index_iff.1 hi)
    rwa [names, List.length_map] at hlt
  · have hdemand : t.demand name = .ok handle.route := by
      rw [demand, h.lookup_eq_some_iff.2 he]
    simp [uri, url, hdemand, bind, Except.bind]
  · have hdemand : t.demand name = .error (.routeNotFound name) := by
      have hnone : t.lookup name = none := by
        rw [← Option.not_isSome_iff_eq_none, h.isSome_lookup]
        exact hname
      rw [demand, hnone]
    simp [uri, url, hdemand, bind, Except.bind]

end Routing.RouteTable
