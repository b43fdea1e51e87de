import Routing.Proofs.Table
import Routing.Proofs.Written

/-!
Written tables are read back. The table that is read has routes of its own, and does what the table
does that was written: it matches the same paths with the same values, and builds the same paths
and URLs.

    table ──toJson──▶ names with their routes ──decode──▶ table with an index of its own

It is read unless its text nests more containers than may be nested. A table nests three of them,
a route in it at least two, and each optional part two more.
-/

namespace Routing.RouteTable

open Json

/-- The routes with their names, as they are written. -/
def named (t : RouteTable) : List NamedRoute := t.routes.map fun r => ⟨r.1, r.2⟩

theorem toJson_eq (t : RouteTable) :
    t.toJson = .object [("routes", .array (t.named.map NamedRoute.toJson))] := by
  rw [toJson, named, List.map_map]
  rfl

theorem routes_eq_map_named (t : RouteTable) :
    t.routes = t.named.map fun n => (n.name, n.route) := by
  simp [named, Function.comp_def]

theorem names_eq_map_named (t : RouteTable) : t.names = t.named.map (·.name) := by
  simp [names_eq_map_routes, named]

theorem Sound.route_named {t : RouteTable} (h : t.Sound) : ∀ n ∈ t.named, n.route.Sound := by
  intro n hn
  obtain ⟨r, hr, rfl⟩ := List.mem_map.1 hn
  obtain ⟨e, he, rfl⟩ := List.mem_map.1 hr
  exact h.route e he

theorem exact_toJson (t : RouteTable) : t.toJson.exact := by
  have hall : Value.allExact (t.named.map NamedRoute.toJson) := by
    refine Value.allExact_iff.2 fun v hv => ?_
    obtain ⟨n, -, rfl⟩ := List.mem_map.1 hv
    exact n.exact_toJson
  simp [toJson_eq, Value.exact, Value.membersExact, hall]

/-- The routes of a sound table are read back, under their names. -/
theorem Sound.recalls_named {t : RouteTable} (h : t.Sound) :
    Recalls (fun depth t => t.toList depth NamedRoute.decode)
      (.array (t.named.map NamedRoute.toJson)) t.named := by
  refine recalls_toList ?_
  rw [List.forall₂_map_left_iff, List.forall₂_same]
  exact fun n hn => NamedRoute.recalls_decode (h.route_named n hn)

/-- A sound table is read back, with other identities for its routes. -/
theorem Sound.recalls_decode {t : RouteTable} (h : t.Sound) (id : Nat) :
    ∃ u : RouteTable, u.Sound ∧ u.Alike t ∧ Recalls (decode id) t.toJson u := by
  have hnodup := h.nodup
  rw [names_eq_map_named] at hnodup
  obtain ⟨u, hu, husound, hroutes⟩ := Sound.ofNamed id .empty hnodup h.route_named
  rw [← routes_eq_map_named] at hroutes
  refine ⟨u, husound, husound.alike h hroutes, ?_⟩
  rw [toJson_eq]
  refine Recalls.bind (a := some t.named)
    (recalls_toRecord (.cons h.recalls_named.once .nil) (by simp)) ?_
  simp only [Tree.needed, bind, Except.bind, hu]

/-- A table whose text nests no more containers than may be nested is read back from it, and the
copy does not differ from it in what it finds and builds. -/
theorem decode_written {t : RouteTable} (h : t.Made) (hnesting : t.toJson.nesting ≤ maxDepth)
    (id : Nat) : ∃ u : RouteTable,
      Json.decode (decode id) t.toJson.write = .ok u ∧ u.agrees t ∧ u.index = t.index ∧
      (∀ path, (u.firstMatch path).map (fun m => (m.name, m.params)) =
        (t.firstMatch path).map fun m => (m.name, m.params)) ∧
      ∀ name, (∀ params, u.uri name params = t.uri name params) ∧
        (∀ params base origin, u.url name params base origin = t.url name params base origin) ∧
        ∀ parameter value, (u.lookup name).map (·.route.accepts parameter value) =
          (t.lookup name).map (·.route.accepts parameter value) := by
  obtain ⟨u, -, halike, hrecalls⟩ := h.sound.recalls_decode id
  refine ⟨u, ?_, by simpa [agrees] using halike.routes, halike.index, halike.firstMatch_eq,
    fun name => ⟨halike.uri_eq name, halike.url_eq name, fun parameter value => ?_⟩⟩
  · rw [hrecalls.decode_write t.exact_toJson, within, if_pos hnesting]
  · simpa [Option.map_map, Function.comp_def] using
      congrArg (Option.map (·.accepts parameter value)) (halike.lookup_eq name)

/-- An admin route with a default and a route without a name are read back. -/
theorem decode_written_admin : ∃ t u : RouteTable,
    t.Made ∧ t.names = ["admin", "#1"] ∧ t.toJson.nesting ≤ maxDepth ∧
      Json.decode (decode 2) t.toJson.write = .ok u ∧ u.agrees t ∧
      (u.firstMatch "admin").map (fun m => (m.name, m.params)) =
        some ("admin", .ofList [("controller", "home")]) ∧
      u.uri "#1" (.ofList [("id", "42")]) = .ok "blog/42" := by
  obtain ⟨route, hroute, t, ht, hnames, hnesting, hmatch, huri⟩ : ∃ route : Route,
      Route.compile "admin(/<controller>)" default = .ok route ∧
        ∃ t, (empty.insert "admin"
            ⟨0, route.withDefaults (.ofList [("controller", "home")])⟩).register
              1 none "blog/<id:[0-9]+>" default = .ok t ∧
          t.1.names = ["admin", "#1"] ∧ t.1.toJson.nesting ≤ maxDepth ∧
          (t.1.firstMatch "admin").map (fun m => (m.name, m.params)) =
            some ("admin", .ofList [("controller", "home")]) ∧
          t.1.uri "#1" (.ofList [("id", "42")]) = .ok "blog/42" := by
    decide +kernel
  have hadmin : (route.withDefaults (.ofList [("controller", "home")])).Made :=
    .withDefaults _ (.compiled hroute)
  have hmade : t.1.Made := .registered (.inserted "admin" .empty hadmin) ht
  obtain ⟨u, hread, hagrees, -, hmatches, hbuilds⟩ := decode_written hmade hnesting 2
  exact ⟨t.1, u, hmade, hnames, hnesting, hread, hagrees, (hmatches _).trans hmatch,
    ((hbuilds _).1 _).trans huri⟩

end Routing.RouteTable
