import Routing.Proofs.Lookup
import Routing.Proofs.Startup

/-!
The identities of routes. Every call that makes a route gives it an identity that no route had
before, and whatever is copied keeps the identities of its routes. So a route that was handed out
has the name of the one entry that holds it, and no name if there is none, be other routes equal to
it or not.

    register "a"     table a ↦ 0           0 has the name a
    insert "b" (0)   table a ↦ 0, b ↦ 1    a copy of 0; 1 has the name b, and 0 still a
    snapshot s       s     a ↦ 0, b ↦ 1
    register "a"     table a ↦ 2, b ↦ 1    0 has no name
    use s            table a ↦ 0, b ↦ 1    0 has the name a, 2 has none
    read the text    table a ↦ 3, b ↦ 4    none of 0, 1, 2 has a name
-/

namespace Routing

open Json

namespace RouteTable

/-! ### The identities in a table -/

/-- No two entries hold a route of the same identity. -/
def Distinct (t : RouteTable) : Prop := ∀ e ∈ t.entries, ∀ f ∈ t.entries, e.2.id = f.2.id → e = f

/-- A table in order, whose routes have got identities of their own, from `low` up to `high`. -/
structure Numbered (t : RouteTable) (low high : Nat) : Prop where
  sound : t.Sound
  distinct : t.Distinct
  range : ∀ e ∈ t.entries, low ≤ e.2.id ∧ e.2.id < high

variable {t : RouteTable}

/-- A route has the name of the entry that holds it. -/
theorem nameOf_eq_some_iff (hs : t.Sound) (hd : t.Distinct) {id : Nat} {name : String} :
    t.nameOf id = some name ↔ ∃ handle, t.lookup name = some handle ∧ handle.id = id := by
  simp only [hs.lookup_eq_some_iff]
  rw [nameOf, Option.map_eq_some_iff]
  constructor
  · rintro ⟨e, he, rfl⟩
    exact ⟨e.2, List.mem_of_find?_eq_some he, by simpa using List.find?_some he⟩
  · rintro ⟨handle, hmem, rfl⟩
    cases hfind : t.entries.find? (·.2.id == handle.id) with
    | none => simpa using List.find?_eq_none.1 hfind _ hmem
    | some e =>
      have hid : e.2.id = handle.id := by simpa using List.find?_some hfind
      have heq : e = (name, handle) := hd e (List.mem_of_find?_eq_some hfind) _ hmem hid
      exact ⟨e, rfl, by rw [heq]⟩

theorem nameOf_eq_none_iff {id : Nat} : t.nameOf id = none ↔ ∀ e ∈ t.entries, e.2.id ≠ id := by
  simp [nameOf]

theorem Sound.mem_entries_insert (hs : t.Sound) (name : String) {handle : Handle}
    (hroute : handle.route.Sound) {e : String × Handle} :
    e ∈ (t.insert name handle).entries ↔
      e = (name, handle) ∨ e.1 ≠ name ∧ e ∈ t.entries := by
  obtain ⟨other, handle'⟩ := e
  rw [← (hs.insert name hroute).lookup_eq_some_iff, hs.lookup_insert, ← hs.lookup_eq_some_iff]
  by_cases h : name = other
  · subst h
    simp [eq_comm]
  · simp [h, Ne.symm h]

theorem numbered_empty (low high : Nat) : empty.Numbered low high where
  sound := .empty
  distinct := by simp [Distinct, empty]
  range := by simp [empty]

theorem Numbered.mono {low high high' : Nat} (h : t.Numbered low high) (hle : high ≤ high') :
    t.Numbered low high' :=
  ⟨h.sound, h.distinct, fun e he => ⟨(h.range e he).1, Nat.lt_of_lt_of_le (h.range e he).2 hle⟩⟩

/-- A route of a new identity is put into a table. -/
theorem Distinct.insert (hd : t.Distinct) (hs : t.Sound) (name : String) {handle : Handle}
    (hroute : handle.route.Sound) (hnew : ∀ e ∈ t.entries, e.2.id ≠ handle.id) :
    (t.insert name handle).Distinct := by
  intro e he f hf hid
  rw [hs.mem_entries_insert name hroute] at he hf
  rcases he with rfl | ⟨-, he⟩ <;> rcases hf with rfl | ⟨-, hf⟩
  · rfl
  · exact absurd hid.symm (hnew f hf)
  · exact absurd hid (hnew e he)
  · exact hd e he f hf hid

theorem Numbered.insert {low id : Nat} (h : t.Numbered low id) (hle : low ≤ id) (name : String)
    {route : Route} (hroute : route.Sound) :
    (t.insert name ⟨id, route⟩).Numbered low (id + 1) where
  sound := h.sound.insert name hroute
  distinct := h.distinct.insert h.sound name hroute fun e he => Nat.ne_of_lt (h.range e he).2
  range := by
    intro e he
    rcases (h.sound.mem_entries_insert name hroute).1 he with rfl | ⟨-, he⟩
    · exact ⟨hle, Nat.lt_succ_self id⟩
    · exact ⟨(h.range e he).1, Nat.lt_succ_of_lt (h.range e he).2⟩

/-! ### New tables -/

/-- Named routes that are read get one identity after another. -/
theorem Numbered.ofNamed : ∀ {ns : List NamedRoute} {t u : RouteTable} {low id : Nat},
    t.Numbered low id → low ≤ id → (∀ n ∈ ns, n.route.Sound) →
    RouteTable.ofNamed t id ns = .ok u →
      u.Numbered low (id + ns.length) ∧ u.size = t.size + ns.length
  | [], _, _, _, _, h, _, _, hu => Except.ok.inj hu ▸ ⟨h, rfl⟩
  | n :: ns, t, u, low, id, h, hle, hroutes, hu => by
    obtain ⟨hroute, hroutes⟩ := List.forall_mem_cons.1 hroutes
    rw [RouteTable.ofNamed] at hu
    split at hu
    · simp at hu
    next hfree =>
      have hnone : t.index.get? n.name = none := by
        rw [Dict.contains_eq_isSome] at hfree
        simpa using hfree
      have hsize : (t.insert n.name ⟨id, n.route⟩).size = t.size + 1 := by
        simp [RouteTable.insert, hnone, size]
      obtain ⟨hnumbered, hall⟩ :=
        (h.insert hle n.name hroute).ofNamed (Nat.le_succ_of_le hle) hroutes hu
      rw [List.length_cons]
      exact ⟨hnumbered.mono (by omega), by omega⟩

/-- The routes of a table that is read are numbered from the given identity on. -/
theorem numbered_of_decode {id depth : Nat} {tree : Tree} (h : decode id depth tree = .ok t) :
    t.Numbered id (id + t.size) := by
  obtain ⟨routes, hroutes, h⟩ := bind_eq_ok.1 h
  obtain ⟨ns, hns, h⟩ := bind_eq_ok.1 h
  split at h
  next hnamed =>
    obtain rfl := Except.ok.inj h
    have hmade := made_of_decoded hroutes hns
    obtain ⟨hnumbered, hsize⟩ := (numbered_empty id id).ofNamed (Nat.le_refl id)
      (fun n hn => (hmade n hn).sound) hnamed
    rw [hsize]
    exact hnumbered.mono (by simp [empty, size])
  · simp at h

theorem Built.numbered_addAll : ∀ (ds : List RouteDefinition) {b : Built} {low id : Nat},
    b.table.Numbered low id → low ≤ id → (b.addAll id ds).table.Numbered low (id + ds.length)
  | [], _, _, _, h, _ => h
  | d :: ds, b, low, id, h, hle => by
    have hadd : (b.add id d).table.Numbered low (id + 1) := by
      unfold add RouteTable.register
      cases hroute : Route.compile d.pattern d.options with
      | ok route => exact h.insert hle _ (Route.Made.compiled hroute).sound
      | error cause => exact h.mono (Nat.le_succ id)
    rw [List.length_cons]
    exact (numbered_addAll ds hadd (Nat.le_succ_of_le hle)).mono (by omega)

/-- The routes of a table that is built are numbered from the given identity on. -/
theorem numbered_build (id : Nat) (ds : List RouteDefinition) :
    (build id ds).table.Numbered id (id + ds.length) :=
  Built.numbered_addAll ds (numbered_empty id id) (Nat.le_refl id)

end RouteTable

/-- The routes of a table that is loaded are numbered from the given identity on. -/
theorem RouteCache.numbered_of_load {c : RouteCache} {files : Files.Tree} {id : Nat} {key : String}
    {t : RouteTable} (h : c.load files id key = some t) : t.Numbered id (id + t.size) := by
  obtain ⟨depth, tree, hdecode⟩ := exists_decode_of_load h
  exact RouteTable.numbered_of_decode hdecode

namespace Workspace

/-! ### Steps -/

/-- What may be done to a workspace. -/
inductive Step where
  | register (name : Option String) (pattern : String) (options : RouteOptions)
  /-- The route has been made before. -/
  | insert (name : String) (route : Route) (made : route.Made)
  /-- A copy of a route that was handed out is put under a name. -/
  | insertCopy (name : String) (place : Nat)
  | build (definitions : List RouteDefinition)
  | read (text : String)
  /-- The table that is loaded is taken for the table, or only looked at. -/
  | load (cache : RouteCache) (key : String) (use : Bool)
  | reset
  | install
  | snapshot
  /-- A table that was set aside is taken for the table. -/
  | use (place : Nat)
  | bootstrap (settings : Settings) (definitions : List RouteDefinition)
  /-- A new registry, in which nothing is installed. -/
  | uninstall
  /-- Anything may happen to the files. -/
  | disturb (files : Files.Tree)

/-- The workspace after a step. A step that fails changes nothing. -/
def step (w : Workspace) : Step → Workspace
  | .register name pattern options =>
    ((w.register name pattern options).toOption.map (·.1)).getD w
  | .insert name route _ => (w.insert name route).1
  | .insertCopy name place => (w.held[place]?.map fun h => (w.insert name h.route).1).getD w
  | .build definitions => (w.build definitions).1
  | .read text => (w.read text).toOption.getD w
  | .load cache key use =>
    ((w.load cache key).map fun loaded => if use then loaded.1.use loaded.2 else loaded.1).getD w
  | .reset => w.reset
  | .install => w.install
  | .snapshot => w.snapshot
  | .use place => (w.snapshots[place]?.map w.use).getD w
  | .bootstrap settings definitions => (w.bootstrap settings definitions).1
  | .uninstall => { w with installed := .empty }
  | .disturb files => { w with files }

/-- The route that a step hands out. -/
def handedOut (w : Workspace) : Step → Option Handle
  | .register name pattern options => (w.register name pattern options).toOption.map (·.2)
  | .insert name route _ => some (w.insert name route).2
  | .insertCopy name place => w.held[place]?.map fun h => (w.insert name h.route).2
  | _ => none

/-- Does a step replace the table by one that is read? -/
def reads (w : Workspace) : Step → Bool
  | .read text => (w.read text).toOption.isSome
  | .load cache key use => use && (w.load cache key).isSome
  | _ => false

/-- The workspace after steps. -/
def run (w : Workspace) (steps : List Step) : Workspace := steps.foldl step w

/-- All tables of a workspace. -/
def tables (w : Workspace) : List RouteTable := w.table :: w.installed :: w.snapshots

/-- The route has been handed out, or a table holds it. -/
def InReach (w : Workspace) (handle : Handle) : Prop :=
  handle ∈ w.held ∨ ∃ t ∈ w.tables, ∃ name, (name, handle) ∈ t.entries

variable {w w' : Workspace}

theorem mem_tables {t : RouteTable} :
    t ∈ w.tables ↔ t = w.table ∨ t = w.installed ∨ t ∈ w.snapshots := by
  simp [tables]

theorem step_read {text : String} (h : w.read text = .ok w') : w.step (.read text) = w' := by
  rw [step, h]
  rfl

theorem step_load {cache : RouteCache} {key : String} {t : RouteTable} (use : Bool)
    (h : w.load cache key = some (w', t)) :
    w.step (.load cache key use) = if use then w'.use t else w' := by
  rw [step, h]
  rfl

theorem toOption_register (w : Workspace) (name : Option String) (pattern : String)
    (options : RouteOptions) : (w.register name pattern options).toOption =
      (Route.compile pattern options).toOption.map (w.insert (w.table.nameFor name)) := by
  rw [register, RouteTable.register]
  cases Route.compile pattern options <;> rfl

/-- A route that is handed out has a new identity and has been put into the table. -/
theorem handedOut_eq_some {s : Step} {handle : Handle}
    (hsound : ∀ h ∈ w.held, h.route.Sound) (h : w.handedOut s = some handle) :
    ∃ (name : String) (route : Route), route.Sound ∧ handle = ⟨w.nextId, route⟩ ∧
      w.step s = (w.insert name route).1 := by
  cases s with
  | register name pattern options =>
    rw [handedOut, toOption_register, Option.map_map] at h
    obtain ⟨route, hroute, rfl⟩ := Option.map_eq_some_iff.1 h
    have hcompile : Route.compile pattern options = .ok route := by
      cases hresult : Route.compile pattern options with
      | ok route' => simpa [hresult, Except.toOption] using hroute
      | error cause => simp [hresult, Except.toOption] at hroute
    refine ⟨w.table.nameFor name, route, (Route.Made.compiled hcompile).sound, rfl, ?_⟩
    rw [step, toOption_register, hroute]
    rfl
  | insert name route made =>
    rw [handedOut, Option.some_inj] at h
    exact ⟨name, route, made.sound, h.symm, rfl⟩
  | insertCopy name place =>
    rw [handedOut] at h
    obtain ⟨original, hplace, rfl⟩ := Option.map_eq_some_iff.1 h
    refine ⟨name, original.route, hsound _ (List.mem_of_getElem? hplace), rfl, ?_⟩
    rw [step, hplace]
    rfl
  | _ => simp [handedOut] at h

/-! ### What a step does -/

/-- A step puts a new route into the table and hands it out, or it moves tables about, among which
there may be a new one, or it takes up a table that was set aside. -/
inductive Does (w : Workspace) : Step → Workspace → Prop
  | puts {s} (name : String) {route : Route} : route.Sound → Does w s (w.insert name route).1
  | moves {s} {w' : Workspace} (new : RouteTable) : new.Numbered w.nextId w'.nextId →
      w.nextId ≤ w'.nextId → w'.held = w.held → w'.table = new ∨ w'.table = w.table →
      (∀ t ∈ w'.tables, t = new ∨ t ∈ w.tables) → Does w s w'
  | takesUp {t} (place : Nat) : t ∈ w.snapshots → Does w (.use place) (w.use t)

/-- What holds of every workspace: its tables are in order, and an identity belongs to one route. -/
structure Apart (w : Workspace) : Prop where
  sound : ∀ t ∈ w.tables, t.Sound
  distinct : ∀ t ∈ w.tables, t.Distinct
  held : ∀ h ∈ w.held, h.route.Sound
  below : ∀ g, w.InReach g → g.id < w.nextId
  same : ∀ g g', w.InReach g → w.InReach g' → g.id = g'.id → g = g'

/-- Tables are copied or dropped, and none of them is new. -/
theorem Does.copies {s : Step} (hle : w.nextId ≤ w'.nextId) (hheld : w'.held = w.held)
    (htable : w'.table = .empty ∨ w'.table = w.table)
    (htables : ∀ t ∈ w'.tables, t = .empty ∨ t ∈ w.tables) : Does w s w' :=
  .moves .empty (RouteTable.numbered_empty _ _) hle hheld htable htables

theorem Does.stays (s : Step) : Does w s w :=
  .copies (Nat.le_refl _) rfl (.inr rfl) fun _ ht => .inr ht

/-- The table is replaced by a new one. -/
theorem Does.replaces {s : Step} (hnew : w'.table.Numbered w.nextId w'.nextId)
    (hle : w.nextId ≤ w'.nextId) (hrest : w' = { w with table := w'.table, nextId := w'.nextId }) :
    Does w s w' := by
  refine .moves w'.table hnew hle (by rw [hrest]) (.inl rfl) fun t ht => ?_
  rcases mem_tables.1 ht with rfl | ht
  · exact .inl rfl
  · rw [hrest] at ht
    exact .inr (mem_tables.2 (.inr ht))

/-- A table that is read is new. -/
theorem numbered_of_read {text : String} (h : w.read text = .ok w') :
    w'.table.Numbered w.nextId w'.nextId ∧ w.nextId ≤ w'.nextId ∧
      w' = { w with table := w'.table, nextId := w'.nextId } := by
  obtain ⟨t, ht, h⟩ := bind_eq_ok.1 h
  obtain rfl := Except.ok.inj h
  exact ⟨RouteTable.numbered_of_decode (of_decode ht), Nat.le_add_right _ _, rfl⟩

/-- A table that is loaded is new. -/
theorem numbered_of_load {cache : RouteCache} {key : String} {t : RouteTable}
    (h : w.load cache key = some (w', t)) : t.Numbered w.nextId w'.nextId ∧
      w.nextId ≤ w'.nextId ∧ w' = { w with nextId := w'.nextId } := by
  obtain ⟨u, hu, heq⟩ := Option.map_eq_some_iff.1 h
  obtain ⟨rfl, rfl⟩ := Prod.mk.inj heq
  exact ⟨RouteCache.numbered_of_load hu, Nat.le_add_right _ _, rfl⟩

theorem does_load {cache : RouteCache} {key : String} {t : RouteTable} (s : Step)
    (h : w.load cache key = some (w', t)) (use : Bool) :
    Does w s (if use then w'.use t else w') := by
  obtain ⟨hnew, hle, hrest⟩ := numbered_of_load h
  rw [hrest]
  cases use with
  | true => exact .replaces hnew hle rfl
  | false => exact .copies hle rfl (.inr rfl) fun _ ht => .inr ht

theorem does_bootstrap (w : Workspace) (s : Step) (settings : Settings)
    (definitions : List RouteDefinition) : Does w s (w.bootstrap settings definitions).1 := by
  have hnext : (w.bootstrap settings definitions).1.nextId = w.nextId + definitions.length +
      (Bootstrap.start w.files w.nextId settings definitions).table.size := rfl
  have hnew : (Bootstrap.start w.files w.nextId settings definitions).table.Numbered w.nextId
      (w.bootstrap settings definitions).1.nextId := by
    rw [hnext]
    cases hcached : Bootstrap.cached? w.files w.nextId settings definitions with
    | some t =>
      obtain ⟨cache, -, hload⟩ := Option.bind_eq_some_iff.1 hcached
      rw [Bootstrap.start_of_some hcached]
      exact (RouteCache.numbered_of_load hload).mono (by dsimp only; omega)
    | none =>
      rw [Bootstrap.start_of_none hcached]
      exact (RouteTable.numbered_build w.nextId definitions).mono (by omega)
  refine .moves _ hnew (by rw [hnext]; omega) rfl (.inr rfl) fun t ht => ?_
  rcases mem_tables.1 ht with ht | ht | ht
  · exact .inr (mem_tables.2 (.inl ht))
  · exact .inl ht
  · rcases List.mem_append.1 ht with ht | ht
    · exact .inr (mem_tables.2 (.inr (.inr ht)))
    · exact .inl (List.mem_singleton.1 ht)

/-- A table of the workspace is set aside. -/
theorem Does.setsAside {s : Step} (hle : w.nextId ≤ w'.nextId) (hheld : w'.held = w.held)
    (htable : w'.table = w.table) (hinstalled : w'.installed ∈ w.tables) {t : RouteTable}
    (hsnapshots : w'.snapshots = w.snapshots ++ [t]) (ht : t ∈ w.tables) : Does w s w' := by
  refine .copies hle hheld (.inr htable) fun u hu => .inr ?_
  rcases mem_tables.1 hu with rfl | rfl | hu
  · exact mem_tables.2 (.inl htable)
  · exact hinstalled
  · rw [hsnapshots] at hu
    rcases List.mem_append.1 hu with hu | hu
    · exact mem_tables.2 (.inr (.inr hu))
    · exact List.mem_singleton.1 hu ▸ ht

theorem Apart.does (h : w.Apart) (s : Step) : Does w s (w.step s) := by
  cases hgiven : w.handedOut s with
  | some handle =>
    obtain ⟨name, route, hroute, -, hstep⟩ := handedOut_eq_some h.held hgiven
    exact hstep ▸ .puts name hroute
  | none =>
    cases s with
    | register name pattern options =>
      rw [handedOut, Option.map_eq_none_iff] at hgiven
      rw [step, hgiven]
      exact .stays _
    | insert name route made => simp [handedOut] at hgiven
    | insertCopy name place =>
      rw [handedOut, Option.map_eq_none_iff] at hgiven
      rw [step, hgiven]
      exact .stays _
    | build definitions =>
      exact .replaces (RouteTable.numbered_build w.nextId definitions) (Nat.le_add_right _ _) rfl
    | read text =>
      cases hread : w.read text with
      | ok w' =>
        obtain ⟨hnew, hle, hrest⟩ := numbered_of_read hread
        exact step_read hread ▸ .replaces hnew hle hrest
      | error fault =>
        rw [step, hread]
        exact .stays _
    | load cache key use =>
      cases hload : w.load cache key with
      | some loaded => exact step_load use hload ▸ does_load _ hload use
      | none =>
        rw [step, hload]
        exact .stays _
    | reset =>
      refine .copies (Nat.le_refl _) rfl (.inl rfl) fun t ht => ?_
      exact (mem_tables.1 ht).imp_right fun ht => mem_tables.2 (.inr ht)
    | install =>
      exact .setsAside (Nat.le_refl _) rfl rfl (mem_tables.2 (.inl rfl)) rfl
        (mem_tables.2 (.inl rfl))
    | snapshot =>
      exact .setsAside (Nat.le_refl _) rfl rfl (mem_tables.2 (.inr (.inl rfl))) rfl
        (mem_tables.2 (.inr (.inl rfl)))
    | use place =>
      cases hplace : w.snapshots[place]? with
      | some t =>
        rw [step, hplace]
        exact .takesUp place (List.mem_of_getElem? hplace)
      | none =>
        rw [step, hplace]
        exact .stays _
    | bootstrap settings definitions => exact does_bootstrap w _ settings definitions
    | uninstall =>
      refine .copies (Nat.le_refl _) rfl (.inr rfl) fun t ht => ?_
      rcases mem_tables.1 ht with ht | ht | ht
      · exact .inr (mem_tables.2 (.inl ht))
      · exact .inl ht
      · exact .inr (mem_tables.2 (.inr (.inr ht)))
    | disturb files => exact .copies (Nat.le_refl _) rfl (.inr rfl) fun _ ht => .inr ht

/-! ### What every step keeps -/

variable {s : Step}

/-- What was handed out is kept, and what comes into reach is new, each route with an identity of
its own. -/
theorem Does.fresh (hdoes : Does w s w') (h : w.Apart) :
    w.nextId ≤ w'.nextId ∧ w.held <+: w'.held ∧
    ∃ fresh : List Handle, (∀ g ∈ fresh, w.nextId ≤ g.id ∧ g.id < w'.nextId) ∧
      (∀ g ∈ fresh, ∀ g' ∈ fresh, g.id = g'.id → g = g') ∧
      ∀ g, w'.InReach g → w.InReach g ∨ g ∈ fresh := by
  cases hdoes with
  | @puts _ name route hroute =>
    refine ⟨Nat.le_succ _, List.prefix_append _ _, [⟨w.nextId, route⟩], ?_, by simp, ?_⟩
    · simp only [List.mem_singleton, forall_eq]
      exact ⟨Nat.le_refl _, Nat.lt_succ_self _⟩
    · have hsound := h.sound w.table (mem_tables.2 (.inl rfl))
      rintro g (hg | ⟨t, ht, name', hmem⟩)
      · exact (List.mem_append.1 hg).imp_left .inl
      · rcases mem_tables.1 ht with rfl | ht
        · rcases (hsound.mem_entries_insert name hroute).1 hmem with heq | ⟨-, hmem⟩
          · exact .inr (List.mem_singleton.2 (Prod.mk.inj heq).2)
          · exact .inl (.inr ⟨_, mem_tables.2 (.inl rfl), name', hmem⟩)
        · exact .inl (.inr ⟨t, mem_tables.2 (.inr ht), name', hmem⟩)
  | moves new hnew hle hheld _ htables =>
    refine ⟨hle, hheld ▸ List.prefix_rfl, new.entries.map (·.2), ?_, ?_, ?_⟩
    · intro g hg
      obtain ⟨e, he, rfl⟩ := List.mem_map.1 hg
      exact hnew.range e he
    · intro g hg g' hg' hid
      obtain ⟨e, he, rfl⟩ := List.mem_map.1 hg
      obtain ⟨e', he', rfl⟩ := List.mem_map.1 hg'
      rw [hnew.distinct e he e' he' hid]
    · rintro g (hg | ⟨t, ht, name, hmem⟩)
      · exact .inl (.inl (hheld ▸ hg))
      · rcases htables t ht with rfl | ht
        · exact .inr (List.mem_map.2 ⟨_, hmem, rfl⟩)
        · exact .inl (.inr ⟨t, ht, name, hmem⟩)
  | takesUp place hplace =>
    refine ⟨Nat.le_refl _, List.prefix_rfl, [], by simp, by simp, ?_⟩
    rintro g (hg | ⟨t, ht, name, hmem⟩)
    · exact .inl (.inl hg)
    · rcases mem_tables.1 ht with rfl | ht
      · exact .inl (.inr ⟨_, mem_tables.2 (.inr (.inr hplace)), name, hmem⟩)
      · exact .inl (.inr ⟨t, mem_tables.2 (.inr ht), name, hmem⟩)

/-- The tables after a step are from before or made by it; whichever way, they are in order. -/
theorem Does.inOrder (hdoes : Does w s w') (h : w.Apart) :
    ∀ t ∈ w'.tables, t.Sound ∧ t.Distinct := by
  have hold : ∀ t ∈ w.tables, t.Sound ∧ t.Distinct := fun t ht => ⟨h.sound t ht, h.distinct t ht⟩
  intro t ht
  cases hdoes with
  | @puts _ name route hroute =>
    rcases mem_tables.1 ht with rfl | ht
    · obtain ⟨hsound, hdistinct⟩ := hold w.table (mem_tables.2 (.inl rfl))
      refine ⟨hsound.insert name hroute, hdistinct.insert hsound name hroute fun e he => ?_⟩
      exact Nat.ne_of_lt (h.below e.2 (.inr ⟨_, mem_tables.2 (.inl rfl), e.1, he⟩))
    · exact hold t (mem_tables.2 (.inr ht))
  | moves new hnew _ _ _ htables =>
    rcases htables t ht with rfl | ht
    · exact ⟨hnew.sound, hnew.distinct⟩
    · exact hold t ht
  | takesUp place hplace =>
    rcases mem_tables.1 ht with rfl | ht
    · exact hold _ (mem_tables.2 (.inr (.inr hplace)))
    · exact hold t (mem_tables.2 (.inr ht))

theorem Does.apart (hdoes : Does w s w') (h : w.Apart) : w'.Apart := by
  obtain ⟨hle, -, fresh, hrange, hapart, hreach⟩ := hdoes.fresh h
  refine ⟨fun t ht => (hdoes.inOrder h t ht).1, fun t ht => (hdoes.inOrder h t ht).2, ?_,
    fun g hg => ?_, fun g g' hg hg' hid => ?_⟩
  · cases hdoes with
    | @puts _ name route hroute =>
      intro g hg
      rcases List.mem_append.1 hg with hg | hg
      · exact h.held g hg
      · exact List.mem_singleton.1 hg ▸ hroute
    | moves new _ _ hheld => exact hheld ▸ h.held
    | takesUp => exact h.held
  · rcases hreach g hg with hg | hg
    · exact Nat.lt_of_lt_of_le (h.below g hg) hle
    · exact (hrange g hg).2
  · rcases hreach g hg with hg | hg <;> rcases hreach g' hg' with hg' | hg'
    · exact h.same g g' hg hg' hid
    · have hold := h.below g hg
      have hnew := (hrange g' hg').1
      omega
    · have hold := h.below g' hg'
      have hnew := (hrange g hg).1
      omega
    · exact hapart g hg g' hg' hid

/-- Unless a table is taken up again, the routes of the table are those from before or new. -/
theorem Does.entries (hdoes : Does w s w') (h : w.Apart) (hs : ∀ place, s ≠ .use place) :
    ∀ e ∈ w'.table.entries, e ∈ w.table.entries ∨ w.nextId ≤ e.2.id := by
  intro e he
  cases hdoes with
  | @puts _ name route hroute =>
    have hsound := h.sound w.table (mem_tables.2 (.inl rfl))
    rcases (hsound.mem_entries_insert name hroute).1 he with rfl | ⟨-, he⟩
    · exact .inr (Nat.le_refl _)
    · exact .inl he
  | moves new hnew _ _ htable =>
    rcases htable with htable | htable
    · exact .inr (hnew.range e (htable ▸ he)).1
    · exact .inl (htable ▸ he)
  | takesUp place => exact absurd rfl (hs place)

theorem apart_ofFiles (files : Files.Tree) : (ofFiles files).Apart where
  sound := by simp [ofFiles, tables, RouteTable.Sound.empty]
  distinct := by simp [ofFiles, tables, RouteTable.Distinct, RouteTable.empty]
  held := by simp [ofFiles]
  below := by simp [ofFiles, InReach, tables, RouteTable.empty]
  same := by simp [ofFiles, InReach, tables, RouteTable.empty]

theorem Apart.step (h : w.Apart) (s : Step) : (w.step s).Apart := (h.does s).apart h

theorem Apart.run : ∀ (steps : List Step) {w : Workspace}, w.Apart → (w.run steps).Apart
  | [], _, h => h
  | s :: steps, _, h => run steps (h.step s)

/-- What was handed out is kept by all steps. -/
theorem Apart.held_run : ∀ (steps : List Step) {w : Workspace}, w.Apart →
    w.held <+: (w.run steps).held
  | [], _, _ => List.prefix_rfl
  | s :: steps, _, h => ((h.does s).fresh h).2.1.trans (held_run steps (h.step s))

/-! ### Names -/

/-- A route whose identity no entry has any more gets its name back only if a table is taken up. -/
theorem Apart.nameOf_run_eq_none : ∀ (steps : List Step) {w : Workspace} {g : Handle}, w.Apart →
    (∀ place, .use place ∉ steps) → g.id < w.nextId → w.nameOf g = none →
      (w.run steps).nameOf g = none
  | [], _, _, _, _, _, hnone => hnone
  | s :: steps, w, g, h, hsteps, hold, hnone => by
    have hs : ∀ place, s ≠ .use place := fun place heq => hsteps place (heq ▸ List.mem_cons_self)
    refine nameOf_run_eq_none steps (h.step s)
      (fun place hmem => hsteps place (List.mem_cons_of_mem _ hmem))
      (Nat.lt_of_lt_of_le hold ((h.does s).fresh h).1) ?_
    refine RouteTable.nameOf_eq_none_iff.2 fun e he hid => ?_
    rcases (h.does s).entries h hs e he with he | hnew
    · exact RouteTable.nameOf_eq_none_iff.1 hnone e he hid
    · omega

/-- A route in reach has the name of the entry that holds it. -/
theorem Apart.nameOf_eq_some_iff (h : w.Apart) {g : Handle} (hg : w.InReach g) {name : String} :
    w.nameOf g = some name ↔ w.table.lookup name = some g := by
  have htable : w.table ∈ w.tables := mem_tables.2 (.inl rfl)
  rw [nameOf, RouteTable.nameOf_eq_some_iff (h.sound _ htable) (h.distinct _ htable)]
  constructor
  · rintro ⟨r, hr, hid⟩
    have hreach : w.InReach r :=
      .inr ⟨_, htable, name, (h.sound _ htable).lookup_eq_some_iff.1 hr⟩
    rwa [← h.same r g hreach hg hid]
  · exact fun hlookup => ⟨g, hlookup, rfl⟩

/-- A route that is handed out is new, and it takes the name from the route that had it. -/
theorem Apart.handedOut (h : w.Apart) {handle : Handle} (hgiven : w.handedOut s = some handle) :
    (∀ g, w.InReach g → g.id ≠ handle.id) ∧ handle ∈ (w.step s).held ∧
      ∀ name old, w.table.lookup name = some old → (w.step s).table.lookup name = some handle →
        (w.step s).nameOf old = none := by
  obtain ⟨name, route, hroute, rfl, hstep⟩ := handedOut_eq_some h.held hgiven
  have hnew : ∀ g, w.InReach g → g.id ≠ w.nextId := fun g hg => Nat.ne_of_lt (h.below g hg)
  refine ⟨hnew, by simp [hstep, insert], fun name' old hold hlookup => ?_⟩
  have htable : w.table ∈ w.tables := mem_tables.2 (.inl rfl)
  have hsound := h.sound _ htable
  rw [hsound.lookup_eq_some_iff] at hold
  have hreach : w.InReach old := .inr ⟨_, htable, name', hold⟩
  rw [hstep] at hlookup ⊢
  obtain rfl : name = name' := by
    by_contra hne
    rw [show (w.insert name route).1.table = w.table.insert name ⟨w.nextId, route⟩ from rfl,
      hsound.lookup_insert, if_neg hne, hsound.lookup_eq_some_iff] at hlookup
    exact hnew _ (.inr ⟨_, htable, name', hlookup⟩) rfl
  refine RouteTable.nameOf_eq_none_iff.2 fun e he hid => ?_
  rcases (hsound.mem_entries_insert name hroute).1 he with rfl | ⟨hne, he⟩
  · exact hnew old hreach hid.symm
  · exact hne (congrArg Prod.fst (h.distinct _ htable e he _ hold hid))

/-- No route from before has a name in a table that was read since. -/
theorem Apart.nameOf_eq_none_of_reads (h : w.Apart) (hreads : w.reads s) {g : Handle}
    (hg : w.InReach g) : (w.step s).nameOf g = none := by
  have hrange : ∀ e ∈ (w.step s).table.entries, w.nextId ≤ e.2.id := by
    intro e he
    cases s with
    | read text =>
      cases hread : w.read text with
      | ok w' =>
        rw [step_read hread] at he
        exact ((numbered_of_read hread).1.range e he).1
      | error fault => simp [reads, hread, Except.toOption] at hreads
    | load cache key use =>
      rw [reads, Bool.and_eq_true] at hreads
      obtain ⟨⟨w', t⟩, hload⟩ := Option.isSome_iff_exists.1 hreads.2
      rw [step_load use hload, if_pos hreads.1] at he
      exact ((numbered_of_load hload).1.range e he).1
    | _ => simp [reads] at hreads
  refine RouteTable.nameOf_eq_none_iff.2 fun e he hid => ?_
  exact absurd (h.below g hg) (Nat.not_lt.2 (hid ▸ hrange e he))

/-- In every table, the route of an entry has the name of the entry, and so the route of a match has
the name that the match says. -/
theorem Apart.nameOf_entry (h : w.Apart) {t : RouteTable} (ht : t ∈ w.tables) :
    (∀ name g, (name, g) ∈ t.entries → t.nameOf g.id = some name) ∧
      ∀ path m, t.firstMatch path = some m → t.nameOf m.handle.id = some m.name := by
  have hname : ∀ name g, t.lookup name = some g → t.nameOf g.id = some name := fun name g hg =>
    (RouteTable.nameOf_eq_some_iff (h.sound t ht) (h.distinct t ht)).2 ⟨g, hg, rfl⟩
  constructor
  · exact fun name g hmem => hname name g ((h.sound t ht).lookup_eq_some_iff.2 hmem)
  · exact fun path m hm => hname m.name m.handle ((h.sound t ht).lookup_of_firstMatch hm)

/-- What is in reach of a workspace, an identity belongs to one route of it. A route that a step
hands out has an identity that none had before. After any other steps, it has exactly the name of
the one entry that holds it; equal routes do not count. The route that it replaced has no name, and
no route from before a table was read has one, until a table is taken up that holds it. In all
tables, the routes of the entries have their names, and so have the routes of matches. -/
theorem nameOf_run (files : Files.Tree) (before : List Step) (s : Step) (after : List Step) :
    let w₀ := (ofFiles files).run before
    let w₁ := w₀.step s
    let w := w₁.run after
    (∀ handle, w₀.handedOut s = some handle →
      (∀ g, w₀.InReach g → g.id ≠ handle.id) ∧
      (∀ g, w.InReach g → g.id = handle.id → g = handle) ∧
      (∀ name, w.nameOf handle = some name ↔ w.table.lookup name = some handle) ∧
      (∀ name name', w.table.lookup name = some handle → w.table.lookup name' = some handle →
        name = name') ∧
      ∀ name old, w₀.table.lookup name = some old → w₁.table.lookup name = some handle →
        w₁.nameOf old = none) ∧
    (∀ t ∈ w.tables,
      (∀ name g, (name, g) ∈ t.entries → t.nameOf g.id = some name) ∧
      ∀ path m, t.firstMatch path = some m → t.nameOf m.handle.id = some m.name) ∧
    (w₀.reads s = true → ∀ g, w₀.InReach g → w₁.nameOf g = none) ∧
    ((∀ place, .use place ∉ after) → ∀ g, w₀.InReach g → w₁.nameOf g = none →
      w.nameOf g = none) := by
  intro w₀ w₁ w
  have h₀ : w₀.Apart := (apart_ofFiles files).run before
  have h₁ : w₁.Apart := h₀.step s
  have h : w.Apart := h₁.run after
  refine ⟨fun handle hgiven => ?_, fun t ht => h.nameOf_entry ht, fun hreads g hg => ?_, ?_⟩
  · obtain ⟨hnew, hheld, hreplaced⟩ := h₀.handedOut hgiven
    have hreach : w.InReach handle := .inl ((h₁.held_run after).subset hheld)
    have hname : ∀ name, w.nameOf handle = some name ↔ w.table.lookup name = some handle :=
      fun name => h.nameOf_eq_some_iff hreach
    refine ⟨hnew, fun g hg hid => h.same g handle hg hreach hid, hname, ?_, hreplaced⟩
    intro name name' hlookup hlookup'
    exact Option.some_inj.1 (((hname name).2 hlookup).symm.trans ((hname name').2 hlookup'))
  · exact h₀.nameOf_eq_none_of_reads hreads hg
  · intro hafter g hg hnone
    exact h₁.nameOf_run_eq_none after hafter
      (Nat.lt_of_lt_of_le (h₀.below g hg) ((h₀.does s).fresh h₀).1) hnone

end Workspace

end Routing
