import Routing.Proofs.Spelling
import Routing.Route.Building

/-!
Built paths. What is built of segments is spelled by them, with values that the constraints take. So
a built path is matched by its route again, unless the slashes at its ends are of importance: they
are dropped before a path is matched.

    about           builds  about      matched again
    /about          builds  /about     is matched as  about  ✗
-/

namespace Routing

namespace Segment

mutual

/-- The values that are written when a segment is built. -/
def written (resolve : String → Option String) : Segment → List (String × String)
  | literal _ => []
  | parameter name _ => ((resolve name).map (name, ·)).toList
  | optional children =>
    match Route.buildSegments resolve children with
    | .ok _ => allWritten resolve children
    | .error _ => []

/-- The values that are written when segments are built. -/
def allWritten (resolve : String → Option String) : List Segment → List (String × String)
  | [] => []
  | s :: ss => s.written resolve ++ allWritten resolve ss

end

end Segment

section
variable {P : String → String → Prop} {resolve : String → Option String}

mutual

/-- What is built of a segment is spelled by it. -/
theorem spells_of_buildSegment : ∀ (s : Segment) {text : String},
    (∀ e ∈ s.parameters, ∀ value, resolve e.1 = some value → P e.2 value) →
    Route.buildSegment resolve s = .ok text → Spells P [s] (s.written resolve) text.toList
  | .literal str, text, _, h => by
    rw [Route.buildSegment] at h
    obtain rfl := Except.ok.inj h
    simpa [Segment.written] using Spells.literal (P := P) .nil
  | .parameter name c, text, hvalues, h => by
    rw [Route.buildSegment] at h
    split at h
    next value hvalue =>
      obtain rfl := Except.ok.inj h
      have hP : P c value := hvalues (name, c) (.head _) value hvalue
      have hspells : Spells P [.parameter name c] [(name, value)] (value.toList ++ []) :=
        .parameter hP .nil
      simpa [Segment.written, hvalue] using hspells
    · simp at h
  | .optional children, text, hvalues, h => by
    rw [Route.buildSegment] at h
    rw [Segment.written]
    split at h
    next str hstr =>
      obtain rfl := Except.ok.inj h
      simpa [hstr] using (spells_of_buildSegments children hvalues hstr).present .nil
    next hnone =>
      obtain rfl := Except.ok.inj h
      have hspells : Spells P [.optional children] [] [] := .absent .nil
      simpa [hnone] using hspells

/-- What is built of segments is spelled by them. -/
theorem spells_of_buildSegments : ∀ (ss : List Segment) {text : String},
    (∀ e ∈ Segment.allParameters ss, ∀ value, resolve e.1 = some value → P e.2 value) →
    Route.buildSegments resolve ss = .ok text →
    Spells P ss (Segment.allWritten resolve ss) text.toList
  | [], text, _, h => by
    obtain rfl := Except.ok.inj h
    exact .nil
  | s :: ss, text, hvalues, h => by
    obtain ⟨hs, hss⟩ := List.forall_mem_append.1 hvalues
    rw [Route.buildSegments] at h
    obtain ⟨str, hstr, h⟩ := bind_eq_ok.1 h
    obtain ⟨rest, hrest, h⟩ := bind_eq_ok.1 h
    obtain rfl := Except.ok.inj h
    rw [String.toList_append, Segment.allWritten]
    exact (spells_of_buildSegment s hs hstr).append (spells_of_buildSegments ss hss hrest)

end

/-- Fixed text is built of itself. -/
theorem buildSegments_static : ∀ {ss : List Segment}, ss.all Segment.isLiteral →
    Route.buildSegments resolve ss = .ok (String.ofList (ss.flatMap Segment.fixedText))
  | [], _ => rfl
  | .literal text :: ss, h => by
    have hss : ss.all Segment.isLiteral := by simpa [Segment.isLiteral] using h
    rw [Route.buildSegments, Route.buildSegment, buildSegments_static hss]
    simp [bind, Except.bind, pure, Except.pure, Segment.fixedText]
  | .parameter _ _ :: _, h => by simp [Segment.isLiteral] at h
  | .optional _ :: _, h => by simp [Segment.isLiteral] at h

end

namespace Route

/-! ### The values of parameters -/

/-- A parameter is known by its name. -/
theorem Sound.eq_of_name {r : Route} (h : r.Sound) {e e' : String × String}
    (he : e ∈ Segment.allParameters r.segments) (he' : e' ∈ Segment.allParameters r.segments)
    (hname : e.1 = e'.1) : e = e' := by
  have hnodup := h.nodup
  rw [h.names] at hnodup
  exact List.inj_on_of_nodup_map hnodup he he' hname

/-- The check that stands in the place of a parameter's name is that of its constraint. -/
theorem Sound.exists_check {r : Route} (h : r.Sound) {e : String × String}
    (he : e ∈ Segment.allParameters r.segments) : ∃ i check,
      r.names.idxOf? e.1 = some i ∧ r.checks[i]? = some check ∧
        readConstraint e.1 e.2 = .ok check := by
  have hmem : e.1 ∈ r.names := by
    rw [h.names]
    exact List.mem_map_of_mem he
  obtain ⟨i, hi⟩ := Option.isSome_iff_exists.1 (List.isSome_idxOf?.2 hmem)
  obtain ⟨hlt, hname, -⟩ := List.idxOf?_eq_some_iff.1 hi
  have hlen := h.checks.length_eq
  rw [h.names, List.length_map, hlen] at hlt
  have hcheck := List.getElem?_eq_getElem hlt
  obtain ⟨e', he', hread⟩ := getElem?_of_forall₂ h.checks hcheck
  have hname' : e'.1 = e.1 := by
    have hat : r.names[i]? = some e'.1 := by rw [h.names, List.getElem?_map, he']; rfl
    rw [← hname]
    exact (Option.some.inj ((List.getElem?_eq_getElem _).symm.trans hat)).symm
  obtain rfl := h.eq_of_name (List.mem_of_getElem? he') he hname'
  exact ⟨i, _, hi, hcheck, hread⟩

/-- The values that a route accepts for a parameter are those that its constraint takes, apart from
the empty one. -/
theorem Sound.accepts_iff {r : Route} (h : r.Sound) (hr : r.Standalone) {e : String × String}
    (he : e ∈ Segment.allParameters r.segments) {value : String} :
    r.accepts e.1 value = true ↔ value ≠ "" ∧ Takes e.2 value := by
  obtain ⟨i, check, hi, hcheck, hread⟩ := h.exists_check he
  have hmatch := (h.fragment hr e he).isMatch_checked (readConstraint_spec hread) value
  rw [accepts, Bool.and_eq_true, bne_iff_ne, hi, Takes, constraintEnds_eq (hr e he)]
  simp only [hcheck, Option.any_some]
  exact and_congr_right fun _ => hmatch

theorem Sound.takes_of_resolve {r : Route} (h : r.Sound) (hr : r.Standalone) {params : Params} :
    ∀ e ∈ Segment.allParameters r.segments, ∀ value, r.resolve params e.1 = some value →
      value ≠ "" ∧ Takes e.2 value := by
  intro e he value hvalue
  rw [resolve, Option.filter_eq_some_iff] at hvalue
  exact (h.accepts_iff hr he).1 hvalue.2

/-! ### Paths -/

theorem pattern_of_compile {pattern : String} {options : RouteOptions} {r : Route}
    (h : compile pattern options = .ok r) : r.pattern = pattern := by
  obtain ⟨_, _, _, hr, -⟩ := assemble_spec (compile_spec h).2
  rw [hr]

/-- The path of a compiled route is what is built of its segments, also if they are fixed text. -/
theorem buildSegments_of_uri {pattern : String} {options : RouteOptions} {r : Route}
    (h : compile pattern options = .ok r) {params : Params} {u : String}
    (hu : r.uri params = .ok u) : buildSegments (r.resolve params) r.segments = .ok u := by
  obtain ⟨-, -, hplain⟩ := Pattern.read_spec (compile_spec h).1
  unfold uri at hu
  split at hu
  next hstatic =>
    obtain rfl := Except.ok.inj hu
    rw [buildSegments_static hstatic, pattern_of_compile h, ← hplain hstatic, String.ofList_toList]
  · split at hu
    next text htext => rw [htext, Except.ok.inj hu]
    · simp at hu

/-- A built path is spelled by the segments of its route, with the values that were written. -/
theorem spells_of_uri {pattern : String} {options : RouteOptions} {r : Route}
    (h : compile pattern options = .ok r) (hr : r.Standalone) {params : Params} {u : String}
    (hu : r.uri params = .ok u) :
    Spells Takes r.segments (Segment.allWritten (r.resolve params) r.segments) u.toList :=
  spells_of_buildSegments r.segments
    (fun e he value hvalue => ((Made.compiled h).sound.takes_of_resolve hr e he value hvalue).2)
    (buildSegments_of_uri h hu)

/-- A path matches exactly if some way through the segments takes the whole of it, without the
slashes at its ends. -/
theorem isSome_matchPath_iff {r : Route} (h : r.Made) (hr : r.Standalone) (path : String) :
    (r.matchPath path).isSome ↔
      let text := (normalizePath path).toList.toArray
      ∃ w ∈ Segment.allWays text r.segments 0, w.stop = text.size := by
  simp only [matchPath_eq_walk h hr, walk, Option.isSome_map, List.find?_isSome, decide_eq_true_eq]

/-- If constraints test no places, some way takes the whole of a text exactly if it is spelled. -/
theorem exists_way_iff_spells {ss : List Segment} (hfree : TestFree (Segment.allParameters ss))
    (path : String) :
    (let text := path.toList.toArray
      ∃ w ∈ Segment.allWays text ss 0, w.stop = text.size) ↔
      ∃ values, Spells Takes ss values path.toList := by
  constructor
  · rintro ⟨w, hw, hstop⟩
    exact ⟨_, spells_of_whole (allows_takes hfree) hw hstop⟩
  · rintro ⟨values, hspells⟩
    obtain ⟨w, hw, hstop, -⟩ := mem_allWays_of_spells hspells (admits_takes hfree) 0 (Nat.zero_le _)
      (List.prefix_refl _)
    exact ⟨w, hw, by simpa using hstop⟩

/-- When a built path is matched by its route again, for constraints that are expressions by
themselves: if the segments can be walked over the path without the slashes at its ends. If the
constraints test no places, that is if the segments spell it, which they do unless a slash was
dropped. -/
theorem isSome_matchPath_uri {pattern : String} {options : RouteOptions} {r : Route}
    (h : compile pattern options = .ok r) (hr : r.Standalone) {params : Params} {u : String}
    (hu : r.uri params = .ok u) :
    ((r.matchPath u).isSome ↔
      let text := (normalizePath u).toList.toArray
      ∃ w ∈ Segment.allWays text r.segments 0, w.stop = text.size) ∧
    (TestFree (Segment.allParameters r.segments) →
      ((r.matchPath u).isSome ↔
        ∃ values, Spells Takes r.segments values (normalizePath u).toList) ∧
      (normalizePath u = u → (r.matchPath u).isSome)) := by
  have hways := isSome_matchPath_iff (.compiled h) hr u
  refine ⟨hways, fun hfree => ?_⟩
  have hspells := hways.trans (exists_way_iff_spells hfree _)
  refine ⟨hspells, fun hnormal => hspells.2 ?_⟩
  rw [hnormal]
  exact ⟨_, spells_of_uri h hr hu⟩

/-- The parts that are left out of a path are left out of what it matches. -/
theorem isSome_matchPath_uri_news : ∃ r : Route,
    compile "(<controller>(/<action>(/<id>)))" ⟨.empty, .empty⟩ = .ok r ∧ r.Standalone ∧
      TestFree (Segment.allParameters r.segments) ∧
      r.uri (.ofList [("controller", "news"), ("id", "42")]) = .ok "news" ∧
      normalizePath "news" = "news" ∧ (r.matchPath "news").isSome := by
  obtain ⟨r, hr, halone, hfree, hu⟩ : ∃ r : Route,
      compile "(<controller>(/<action>(/<id>)))" ⟨.empty, .empty⟩ = .ok r ∧ r.Standalone ∧
        TestFree (Segment.allParameters r.segments) ∧
        r.uri (.ofList [("controller", "news"), ("id", "42")]) = .ok "news" := by
    decide +kernel
  have hnormal : normalizePath "news" = "news" := by decide +kernel
  exact ⟨r, hr, halone, hfree, hu, hnormal,
    ((isSome_matchPath_uri hr halone hu).2 hfree).2 hnormal⟩

/-- A slash at the start of a pattern is built, and is not there any more when the path is
matched. -/
theorem matchPath_uri_slash : ∃ r : Route,
    compile "/about" ⟨.empty, .empty⟩ = .ok r ∧ r.uri .empty = .ok "/about" ∧
      r.matchPath "/about" = none := by
  decide +kernel

end Route

end Routing
