import Routing.Proofs.Building
import Routing.Proofs.Cache

/-!
What every route keeps to. A route has a list of names, a list of groups and a list of checks, and
they go along with the parameters of its tree:

    users/<id:\d+>(/<action>)     names      id             action
                                  slots      __p0           __p1
                                  checks     ^(?:\d+)$      ^(?:[^/]+)$

So the place of a name is a place in the other lists as well. A written route that does not keep to
this is refused, and so is the entry of a cache that holds one.
-/

namespace Routing

open Json

/-! ### Groups and checks -/

/-- The groups that are found are those of the names with the numbers from `index` on. -/
theorem findSlots_spec {rx : Regex} : ∀ {names : List String} {index : Nat} {slots : List Nat},
    Route.findSlots rx index names = .ok slots → slots.length = names.length ∧
      ∀ j slot, slots[j]? = some slot → rx.group? (Segment.groupName (index + j)) = some slot
  | [], index, slots, h => by
    obtain rfl := Except.ok.inj h
    simp
  | name :: names, index, slots, h => by
    rw [Route.findSlots] at h
    split at h
    · simp at h
    next first hfirst =>
      obtain ⟨rest, hrest, h⟩ := bind_eq_ok.1 h
      obtain rfl := Except.ok.inj h
      obtain ⟨hlen, hfound⟩ := findSlots_spec hrest
      refine ⟨by simp [hlen], fun j slot hj => ?_⟩
      cases j with
      | zero => exact hfirst.trans hj
      | succ j =>
        rw [Nat.add_comm j 1, ← Nat.add_assoc]
        exact hfound j slot hj

/-- There is a slot for every name, and it is the group with the number of the name's place. -/
theorem exists_slot_of_findSlots {rx : Regex} {names : List String} {slots : List Nat}
    (h : Route.findSlots rx 0 names = .ok slots) {i : Nat} (hi : i < names.length) :
    ∃ slot, slots[i]? = some slot ∧ rx.group? (Segment.groupName i) = some slot := by
  obtain ⟨hlen, hfound⟩ := findSlots_spec h
  rw [← hlen] at hi
  have hgroup := hfound i _ (List.getElem?_eq_getElem hi)
  rw [Nat.zero_add] at hgroup
  exact ⟨_, List.getElem?_eq_getElem hi, hgroup⟩

/-- If there is a group for every name, they are found. -/
theorem exists_findSlots {rx : Regex} {names : List String}
    (h : ∀ i < names.length, (rx.group? (Segment.groupName i)).isSome) :
    ∃ slots, Route.findSlots rx 0 names = .ok slots := by
  let group i := rx.group? (Segment.groupName i)
  refine ⟨(List.range names.length).map fun i => (group i).getD 0,
    findSlots_eq (by simp) fun i slot hi => ?_⟩
  obtain ⟨hlt, heq⟩ := List.getElem?_eq_some_iff.1 hi
  obtain ⟨slot', hslot'⟩ := Option.isSome_iff_exists.1 (h i (by simpa using hlt))
  rw [List.getElem_map, List.getElem_range] at heq
  rw [Nat.zero_add, ← heq]
  simp [group, hslot']

/-- If every constraint can be read, there are checks for all of them. -/
theorem exists_checks : ∀ {ps : List (String × String)},
    (∀ p ∈ ps, ∃ check, Regex.ofString (anchored p.2) = .ok check) →
    ∃ checks, ps.mapM (fun p => readConstraint p.1 p.2) = .ok checks
  | [], _ => ⟨[], rfl⟩
  | p :: ps, h => by
    obtain ⟨⟨check, hcheck⟩, hps⟩ := List.forall_mem_cons.1 h
    obtain ⟨checks, hchecks⟩ := exists_checks hps
    have hread : readConstraint p.1 p.2 = .ok check := by rw [readConstraint, hcheck]
    exact ⟨check :: checks, by rw [List.mapM_cons, hread, hchecks]; rfl⟩

/-- Where the constraints can be read, a route is made of segments exactly if their expression can
be read, too, and has a group for each name. -/
theorem Route.exists_assemble_iff {pattern : String} {segments : List Segment} {defaults : Params}
    {names : List String} (hchecks : ∀ p ∈ Segment.allParameters segments,
      ∃ check, Regex.ofString (anchored p.2) = .ok check) :
    (∃ r, assemble pattern segments (Segment.expression segments) defaults names = .ok r) ↔
      ∃ rx, Regex.ofString (Segment.expression segments) = .ok rx ∧
        ∀ i < names.length, (rx.group? (Segment.groupName i)).isSome := by
  constructor
  · rintro ⟨r, hr⟩
    obtain ⟨rx, slots, -, -, hrx, hslots, -⟩ := assemble_spec hr
    refine ⟨rx, hrx, fun i hi => ?_⟩
    obtain ⟨slot, -, hgroup⟩ := exists_slot_of_findSlots hslots hi
    exact Option.isSome_iff_exists.2 ⟨slot, hgroup⟩
  · rintro ⟨rx, hrx, hgroups⟩
    obtain ⟨slots, hslots⟩ := exists_findSlots hgroups
    obtain ⟨checks, hread⟩ := exists_checks hchecks
    refine ⟨⟨pattern, segments, rx, slots, checks, defaults, names⟩, ?_⟩
    rw [assemble, hrx]
    exact bind_eq_ok.2 ⟨_, rfl, bind_eq_ok.2 ⟨_, hslots, bind_eq_ok.2 ⟨_, hread, rfl⟩⟩⟩

/-! ### Written routes -/

namespace RouteRecord

/-- What is written of a route goes together, and its expressions can be read. -/
structure Coherent (record : RouteRecord) : Prop where
  names : record.names = (Segment.allParameters record.segments).map (·.1)
  nodup : record.names.Nodup
  source : record.expression = Segment.expression record.segments
  expression : ∃ rx, Regex.ofString record.expression = .ok rx ∧
    ∀ i < record.names.length, (rx.group? (Segment.groupName i)).isSome
  checks : ∀ p ∈ Segment.allParameters record.segments,
    ∃ check, Regex.ofString (anchored p.2) = .ok check

/-- No route can be made out of the tree: whatever record it is read as, that does not go
together. -/
def Misfit (t : Tree) : Prop :=
  ∀ depth record, decode depth t = .ok record → ¬ record.Coherent

theorem misfit_of_not_coherent {record : RouteRecord} (h : ¬ record.Coherent) :
    Misfit (Tree.ofValue record.toJson) := by
  intro depth record' hread
  rw [record.recalls_decode depth, within] at hread
  split at hread
  · exact Except.ok.inj hread ▸ h
  · simp at hread

end RouteRecord

namespace Route

/-- The slot in the place of a name is the group with the number of that place. -/
theorem Sound.exists_slot {r : Route} (h : r.Sound) {i : Nat} (hi : i < r.names.length) :
    ∃ slot, r.slots[i]? = some slot ∧
      r.expression.group? (Segment.groupName i) = some slot :=
  exists_slot_of_findSlots h.slots hi

theorem Sound.coherent {r : Route} (h : r.Sound) : r.toRecord.Coherent where
  names := h.names
  nodup := h.nodup
  source := source_of_ofString h.expression
  expression := by
    refine ⟨r.expression, ?_, fun i hi => ?_⟩
    · rw [toRecord, source_of_ofString h.expression]
      exact h.expression
    · obtain ⟨slot, -, hgroup⟩ := h.exists_slot hi
      rw [hgroup]
      rfl
  checks p hp := by
    obtain ⟨check, hcheck⟩ := exists_of_forall₂ h.checks hp
    exact ⟨check, readConstraint_spec hcheck⟩

theorem toRecord_of_ofRecord {record : RouteRecord} {r : Route} (h : ofRecord record = .ok r) :
    r.toRecord = record := by
  obtain ⟨hassemble, -, -, hsource⟩ := ofRecord_spec h
  obtain ⟨rx, slots, checks, rfl, hrx, -, -⟩ := assemble_spec hassemble
  rw [toRecord, source_of_ofString hrx, ← hsource]

/-- A route is made of exactly the records that go together. -/
theorem exists_ofRecord_iff {record : RouteRecord} :
    (∃ r, ofRecord record = .ok r) ↔ record.Coherent := by
  constructor
  · rintro ⟨r, hr⟩
    obtain ⟨hassemble, hnames, hnodup, -⟩ := ofRecord_spec hr
    rw [← toRecord_of_ofRecord hr]
    exact (Sound.of_assemble hassemble hnames hnodup).coherent
  · intro h
    have hexpression := h.source ▸ h.expression
    obtain ⟨r, hassemble⟩ : ∃ r, assemble record.pattern record.segments
        (Segment.expression record.segments) record.defaults record.names = .ok r :=
      (exists_assemble_iff h.checks).2 hexpression
    have hrecord : r.toRecord = record := by
      obtain ⟨rx, slots, checks, rfl, hrx, -, -⟩ := assemble_spec hassemble
      rw [toRecord, source_of_ofString hrx, ← h.source]
    have hsound := (Sound.of_assemble hassemble h.names h.nodup).ofRecord_toRecord
    exact ⟨r, hrecord ▸ hsound⟩

/-- A route is read of exactly the trees of such records. -/
theorem exists_decode_iff {depth : Nat} {t : Tree} :
    (∃ r, decode depth t = .ok r) ↔
      ∃ record, RouteRecord.decode depth t = .ok record ∧ record.Coherent := by
  constructor
  · rintro ⟨r, hr⟩
    obtain ⟨record, hrecord, hr⟩ := bind_eq_ok.1 hr
    refine ⟨record, hrecord, exists_ofRecord_iff.1 ?_⟩
    split at hr
    next r' hr' => exact ⟨r', hr'⟩
    · simp at hr
  · rintro ⟨record, hrecord, hcoherent⟩
    obtain ⟨r, hr⟩ := exists_ofRecord_iff.2 hcoherent
    exact ⟨r, bind_eq_ok.2 ⟨record, hrecord, by rw [hr]⟩⟩

theorem not_misfit_of_decode {depth : Nat} {t : Tree} {r : Route} (h : decode depth t = .ok r) :
    ¬ RouteRecord.Misfit t := by
  obtain ⟨record, hrecord, hcoherent⟩ := exists_decode_iff.1 ⟨r, h⟩
  exact fun hmisfit => hmisfit depth record hrecord hcoherent

end Route

theorem mem_ofMembers {name : String} {v : Value} : ∀ {members : List (String × Value)},
    (name, v) ∈ members → (some name, Tree.ofValue v) ∈ Tree.ofMembers members
  | _ :: _, .head _ => .head _
  | _ :: _, .tail _ h => .tail _ (mem_ofMembers h)

theorem mem_ofValues {v : Value} : ∀ {values : List Value},
    v ∈ values → Tree.ofValue v ∈ Tree.ofValues values
  | _ :: _, .head _ => .head _
  | _ :: _, .tail _ h => .tail _ (mem_ofValues h)

/-- The tree of a route in the tree of an entry. -/
def CacheEntry.Holds (entry route : Tree) : Prop :=
  ∃ table items item, Tree.Field ["format", "key", "table"] "table" entry table ∧
    Tree.Field ["routes"] "routes" table (.array items) ∧ item ∈ items ∧
    Tree.Field ["name", "route"] "route" item route

/-- A route that is written in an entry is held by it. -/
theorem CacheEntry.holds_ofValue {entry table named : List (String × Value)} {items : List Value}
    {route : Value} (htable : ("table", .object table) ∈ entry)
    (hitems : ("routes", .array items) ∈ table) (hnamed : .object named ∈ items)
    (hroute : ("route", route) ∈ named) :
    Holds (Tree.ofValue (.object entry)) (Tree.ofValue route) :=
  ⟨_, _, _, .member (mem_ofMembers htable), .member (mem_ofMembers hitems), mem_ofValues hnamed,
    .member (mem_ofMembers hroute)⟩

/-- If an entry is read, so are all the routes in it. -/
theorem CacheEntry.Holds.exists_decode {entry route : Tree} (h : Holds entry route) {id depth : Nat}
    {e : CacheEntry} (he : decode id depth entry = .ok e) :
    ∃ depth r, Route.decode depth route = .ok r := by
  obtain ⟨table, items, item, htable, hitems, hmem, hroute⟩ := h
  obtain ⟨_, hread, -⟩ := bind_eq_ok.1 he
  obtain ⟨_, _, _, hread⟩ := htable.exists_of_toRecord (by simp) hread
  obtain ⟨_, hread, -⟩ := bind_eq_ok.1 hread
  obtain ⟨_, hread, -⟩ := once_eq_ok hread
  obtain ⟨_, hread, -⟩ := bind_eq_ok.1 hread
  obtain ⟨_, _, _, hread⟩ := hitems.exists_of_toRecord (by simp) hread
  obtain ⟨_, hread, -⟩ := once_eq_ok hread
  obtain ⟨_, _, hread⟩ := exists_of_mem_items hread hmem
  obtain ⟨_, hread, -⟩ := bind_eq_ok.1 hread
  obtain ⟨depth, _, _, hread⟩ := hroute.exists_of_toRecord (by simp) hread
  obtain ⟨_, hread, -⟩ := bind_eq_ok.1 hread
  obtain ⟨r, hread, -⟩ := once_eq_ok hread
  exact ⟨depth, r, hread⟩

/-! ### All routes -/

namespace Route

/-- The ways to a route: it is compiled, it gets other defaults, or it is read from a text or with a
table of a cache. -/
inductive Obtained : Route → Prop
  | compiled {pattern options r} : compile pattern options = .ok r → Obtained r
  | withDefaults {r} (defaults : Params) : Obtained r → Obtained (r.withDefaults defaults)
  | read {text r} : Json.decode decode text = .ok r → Obtained r
  | readTable {id text t e} : Json.decode (RouteTable.decode id) text = .ok t →
      e ∈ t.entries → Obtained e.2.route
  | loaded {cache : RouteCache} {files id key t e} : cache.load files id key = some t →
      e ∈ t.entries → Obtained e.2.route
  /-- The entry of a cache is read from some tree, whatever the bytes are that it stands for. -/
  | entry {id depth tree e entry} : CacheEntry.decode id depth tree = .ok entry →
      e ∈ entry.table.entries → Obtained e.2.route

theorem Obtained.sound {r : Route} (h : r.Obtained) : r.Sound := by
  induction h with
  | compiled h => exact (Made.compiled h).sound
  | withDefaults _ _ ih => exact ⟨ih.names, ih.nodup, ih.expression, ih.slots, ih.checks⟩
  | read h => exact (Made.decoded (of_decode h)).sound
  | readTable h he => exact (RouteTable.Made.decoded (of_decode h)).sound.route _ he
  | loaded h he => exact (RouteCache.made_of_load h).sound.route _ he
  | entry h he => exact (CacheEntry.made_of_decode h).sound.route _ he

/-- The lists of a route go along with the parameters of its tree. -/
structure Aligned (r : Route) : Prop where
  names : r.names = (Segment.allParameters r.segments).map (·.1)
  nodup : r.names.Nodup
  source : r.expression.source = Segment.expression r.segments
  expression : Regex.ofString r.expression.source = .ok r.expression
  checks_length : r.checks.length = r.names.length
  slots_length : r.slots.length = r.names.length
  check : ∀ (i : Nat) (p : String × String), (Segment.allParameters r.segments)[i]? = some p →
    ∃ check, r.checks[i]? = some check ∧ Regex.ofString (anchored p.2) = .ok check
  slot : ∀ i < r.names.length, ∃ slot, r.slots[i]? = some slot ∧
    r.expression.group? (Segment.groupName i) = some slot

theorem Sound.aligned {r : Route} (h : r.Sound) : r.Aligned := by
  have hsource := source_of_ofString h.expression
  obtain ⟨hlen, -⟩ := findSlots_spec h.slots
  refine ⟨h.names, h.nodup, hsource, ?_, ?_, hlen, fun i p hp => ?_, fun i => h.exists_slot⟩
  · rw [hsource]
    exact h.expression
  · rw [h.names, List.length_map, h.checks.length_eq]
  · obtain ⟨check, hcheck, hread⟩ := getElem?_of_forall₂ h.checks.flip hp
    exact ⟨check, hcheck, readConstraint_spec hread⟩

/-- A value is tested against the constraint of its own parameter. -/
theorem Sound.accepts_eq {r : Route} (h : r.Sound) {p : String × String}
    (hp : p ∈ Segment.allParameters r.segments) :
    ∃ check, Regex.ofString (anchored p.2) = .ok check ∧
      ∀ value, r.accepts p.1 value = (value != "" && check.isMatch value) := by
  obtain ⟨i, check, hi, hcheck, hread⟩ := h.exists_check hp
  exact ⟨check, readConstraint_spec hread, fun value => by simp [accepts, hi, hcheck]⟩

/-- However a route has been obtained, its lists go along with the parameters of its tree. So the
place of a name is a place among the checks, and a value is tested against the constraint of its
parameter. What does not keep to this is refused: a route is read of exactly the records that go
together, and the entry of a cache that holds another one is a miss. -/
theorem aligned_of_obtained :
    (∀ r : Route, r.Obtained → r.Aligned ∧
      (∀ name i, r.names.idxOf? name = some i → i < r.checks.length) ∧
      (∀ p ∈ Segment.allParameters r.segments, ∃ check, Regex.ofString (anchored p.2) = .ok check ∧
        ∀ value, r.accepts p.1 value = (value != "" && check.isMatch value)) ∧
      ∀ name ∉ r.names, ∀ value, r.accepts name value = false) ∧
    (∀ depth t, (∃ r, decode depth t = .ok r) ↔
      ∃ record, RouteRecord.decode depth t = .ok record ∧ record.Coherent) ∧
    (∀ text, RouteRecord.Misfit (Tree.ofText text).1 →
      ∃ fault, Json.decode decode text = .error fault) ∧
    (∀ entry route, CacheEntry.Holds entry route → RouteRecord.Misfit route →
      ∀ id depth, ∃ fault, CacheEntry.decode id depth entry = .error fault) ∧
    ∀ (cache : RouteCache) files key text, files.read (cache.entryPath key) = .ok text →
      (∃ route, CacheEntry.Holds (Tree.ofText text).1 route ∧ RouteRecord.Misfit route) →
      ∀ id, cache.load files id key = none := by
  refine ⟨fun r hr => ?_, fun _ _ => exists_decode_iff, ?_, ?_, ?_⟩
  · have h := hr.sound
    refine ⟨h.aligned, fun name i hi => ?_, fun p => h.accepts_eq, fun name hname value => ?_⟩
    · obtain ⟨hlt, -⟩ := List.idxOf?_eq_some_iff.1 hi
      rwa [h.aligned.checks_length]
    · simp [accepts, List.idxOf?_eq_none_iff.2 hname]
  · intro text hmisfit
    cases hread : Json.decode decode text with
    | error fault => exact ⟨fault, rfl⟩
    | ok r => exact absurd hmisfit (not_misfit_of_decode (of_decode hread))
  · intro entry route hholds hmisfit id depth
    cases hread : CacheEntry.decode id depth entry with
    | error fault => exact ⟨fault, rfl⟩
    | ok e =>
      obtain ⟨_, _, hroute⟩ := hholds.exists_decode hread
      exact absurd hmisfit (not_misfit_of_decode hroute)
  · rintro cache files key text hread ⟨route, hholds, hmisfit⟩ id
    rw [Option.eq_none_iff_forall_ne_some]
    intro t ht
    obtain ⟨text', hread', hdecode⟩ := RouteCache.load_eq_some.1 ht
    obtain rfl := Except.ok.inj (hread.symm.trans hread')
    obtain ⟨_, _, hroute⟩ := hholds.exists_decode (of_decode hdecode)
    exact not_misfit_of_decode hroute hmisfit

/-- The names of a written route have been exchanged. -/
theorem aligned_of_obtained_exchanged : ∃ r : Route,
    compile "<id:[0-9]+>/<action>" ⟨.empty, .empty⟩ = .ok r ∧ r.Aligned ∧
      let record := { r.toRecord with names := ["action", "id"] }
      let entry : Value := .object [("format", .nat 1), ("key", .text "site"), ("table", .object
        [("routes", .array [.object [("name", .text "users"), ("route", record.toJson)]])])]
      (∃ fault, Json.decode decode record.toJson.write = .error fault) ∧
        ∀ files, files.read (RouteCache.entryPath ⟨"cache"⟩ "site") = .ok entry.write →
          ∀ id, RouteCache.load ⟨"cache"⟩ files id "site" = none := by
  obtain ⟨r, hr, hnames⟩ : ∃ r, compile "<id:[0-9]+>/<action>" ⟨.empty, .empty⟩ = .ok r ∧
      (Segment.allParameters r.segments).map (·.1) ≠ ["action", "id"] := by decide +kernel
  obtain ⟨haligned, -, hread, -, hload⟩ := aligned_of_obtained
  refine ⟨r, hr, (haligned r (.compiled hr)).1, ?_⟩
  intro record entry
  have hmisfit : RouteRecord.Misfit (Tree.ofValue record.toJson) :=
    RouteRecord.misfit_of_not_coherent fun h => hnames h.names.symm
  have hexact : entry.exact := by
    simp [entry, Value.nat, Value.exact, Value.membersExact, Value.allExact, record.exact_toJson]
  have hholds : CacheEntry.Holds (Tree.ofValue entry) (Tree.ofValue record.toJson) :=
    CacheEntry.holds_ofValue (.tail _ (.tail _ (.head _))) (.head _) (.head _) (.tail _ (.head _))
  refine ⟨hread _ ?_, fun files hfile id => hload _ files _ _ hfile ⟨_, ?_, hmisfit⟩ id⟩
  · rwa [Tree.ofText_write record.exact_toJson]
  · rwa [Tree.ofText_write hexact]

end Route

end Routing
