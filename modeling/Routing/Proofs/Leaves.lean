import Routing.Proofs.Rebuilding

/-!
What a path is built of, leaf by leaf. The leaves of a tree are its literals and its parameters,
from left to right. Each of them stands in some optional parts, and it is written exactly if all of
these are complete, that is if the parameters that stand in them directly resolve.

    blog(/<year>(-<month>))/<slug>      with  year = 2024, slug = lean

    blog      in no part                                          blog
    /         in (/<year>…)                  complete             /
    year      in (/<year>…)                  complete             2024
    -         in (-<month>), (/<year>…)      month is missing
    month     in (-<month>), (/<year>…)      month is missing
    /         in no part                                          /
    slug      in no part                                          lean

The builder knows none of this: it builds the text of a part for itself, and drops it when it comes
to a parameter that does not resolve. So a part that fails takes with it what is within it, and
nothing else.
-/

namespace Routing

/-- A leaf of a tree of segments. -/
inductive Leaf where
  | literal (text : String)
  | parameter (name : String)
  deriving DecidableEq, Repr

/-- The text of a leaf, if there is one. -/
def Leaf.text? (resolve : String → Option String) : Leaf → Option String
  | literal text => some text
  | parameter name => resolve name

namespace Segment

mutual

/-- The leaves of a segment from left to right, each with the optional parts that it stands in, from
the inside out. Those in `around` are the parts that the segment stands in. -/
def leaves (around : List (List Segment)) : Segment → List (Leaf × List (List Segment))
  | literal text => [(.literal text, around)]
  | parameter name _ => [(.parameter name, around)]
  | optional children => allLeaves (children :: around) children

/-- The leaves of some segments. -/
def allLeaves (around : List (List Segment)) : List Segment → List (Leaf × List (List Segment))
  | [] => []
  | s :: ss => s.leaves around ++ allLeaves around ss

end

/-- The name of a parameter. -/
def parameterName? : Segment → Option String
  | parameter name _ => some name
  | literal _ | optional _ => none

/-- The parameters that stand among the segments themselves, and not in an optional part. -/
def ownNames (ss : List Segment) : List String := ss.filterMap parameterName?

end Segment

open Segment

section
variable (resolve : String → Option String)

/-- The first parameter among the segments themselves that does not resolve. -/
def firstMissing (ss : List Segment) : Option String :=
  (ownNames ss).find? fun name => (resolve name).isNone

/-- All parameters among the segments themselves resolve. -/
def Complete (ss : List Segment) : Prop := ∀ name ∈ ownNames ss, (resolve name).isSome

instance (ss : List Segment) : Decidable (Complete resolve ss) :=
  inferInstanceAs (Decidable (∀ _ ∈ _, _))

/-- The leaves whose parts are all complete. -/
def writtenLeaves (leaves : List (Leaf × List (List Segment))) : List Leaf :=
  (leaves.filter fun l => ∀ part ∈ l.2, Complete resolve part).map (·.1)

/-- The texts of leaves one after another, if all of them have one. -/
def leafText (leaves : List Leaf) : Option String :=
  (leaves.mapM (Leaf.text? resolve)).map String.join

end

section
variable {resolve : String → Option String}

theorem complete_iff {ss : List Segment} :
    Complete resolve ss ↔ firstMissing resolve ss = none := by
  simp [Complete, firstMissing, ← Option.ne_none_iff_isSome]

theorem writtenLeaves_append (ls ls' : List (Leaf × List (List Segment))) :
    writtenLeaves resolve (ls ++ ls') = writtenLeaves resolve ls ++ writtenLeaves resolve ls' := by
  rw [writtenLeaves, List.filter_append, List.map_append]
  rfl

theorem leafText_append {ls ls' : List Leaf} {text text' : String}
    (h : leafText resolve ls = some text) (h' : leafText resolve ls' = some text') :
    leafText resolve (ls ++ ls') = some (text ++ text') := by
  obtain ⟨texts, htexts, rfl⟩ := Option.map_eq_some_iff.1 h
  obtain ⟨texts', htexts', rfl⟩ := Option.map_eq_some_iff.1 h'
  rw [leafText, List.mapM_append, htexts, htexts', ← String.join_append]
  rfl

/-- A leaf that stands in no further part is written. -/
theorem leafText_singleton {l : Leaf} {around : List (List Segment)} {text : String}
    (haround : ∀ part ∈ around, Complete resolve part) (htext : l.text? resolve = some text) :
    leafText resolve (writtenLeaves resolve [(l, around)]) = some text := by
  have hwritten : writtenLeaves resolve [(l, around)] = [l] := by
    rw [writtenLeaves, List.filter_cons_of_pos (by simpa using haround)]
    rfl
  rw [hwritten, leafText, List.mapM_cons, htext]
  simp [String.join]

mutual

/-- A leaf of a segment stands in the parts that the segment stands in. -/
theorem around_of_mem_leaves : ∀ {s : Segment} {around : List (List Segment)},
    ∀ l ∈ s.leaves around, ∀ part ∈ around, part ∈ l.2
  | .literal _, _, l, hl, part, hpart => by
    obtain rfl := List.mem_singleton.1 hl
    exact hpart
  | .parameter _ _, _, l, hl, part, hpart => by
    obtain rfl := List.mem_singleton.1 hl
    exact hpart
  | .optional children, _, l, hl, part, hpart =>
    around_of_mem_allLeaves l hl part (List.mem_cons_of_mem _ hpart)

theorem around_of_mem_allLeaves : ∀ {ss : List Segment} {around : List (List Segment)},
    ∀ l ∈ allLeaves around ss, ∀ part ∈ around, part ∈ l.2
  | [], _, l, hl, _, _ => absurd hl List.not_mem_nil
  | s :: ss, _, l, hl, part, hpart => by
    rw [allLeaves, List.mem_append] at hl
    exact hl.elim (around_of_mem_leaves l · part hpart) (around_of_mem_allLeaves l · part hpart)

end

/-- Of an incomplete part no leaf is written, be it in a complete part within it. -/
theorem writtenLeaves_eq_nil {ss : List Segment} {around : List (List Segment)}
    {part : List Segment} (hpart : part ∈ around) (h : ¬ Complete resolve part) :
    writtenLeaves resolve (allLeaves around ss) = [] := by
  rw [writtenLeaves, List.map_eq_nil_iff, List.filter_eq_nil_iff]
  intro l hl hall
  exact h (of_decide_eq_true hall part (around_of_mem_allLeaves l hl part hpart))

/-! ### What is built -/

/-- Building stops at the first parameter among the segments themselves that does not resolve: all
that stands before it can be built, and so can every optional part. -/
theorem buildSegments_of_firstMissing : ∀ {ss : List Segment} {name : String},
    firstMissing resolve ss = some name → Route.buildSegments resolve ss = .error name
  | .literal text :: ss, name, h => by
    have hrest : firstMissing resolve ss = some name := h
    rw [Route.buildSegments, Route.buildSegment, buildSegments_of_firstMissing hrest]
    rfl
  | .parameter other c :: ss, name, h => by
    rw [Route.buildSegments, Route.buildSegment]
    have hfind : ((other :: ownNames ss).find? fun name => (resolve name).isNone) = some name := h
    cases hother : resolve other with
    | none =>
      rw [List.find?_cons_of_pos (by simp [hother])] at hfind
      rw [Option.some.inj hfind]
      rfl
    | some value =>
      rw [List.find?_cons_of_neg (by simp [hother])] at hfind
      rw [buildSegments_of_firstMissing hfind]
      rfl
  | .optional children :: ss, name, h => by
    have hrest : firstMissing resolve ss = some name := h
    obtain ⟨text, htext⟩ : ∃ text, Route.buildSegment resolve (.optional children) = .ok text := by
      rw [Route.buildSegment]
      split
      · exact ⟨_, rfl⟩
      · exact ⟨_, rfl⟩
    rw [Route.buildSegments, htext, buildSegments_of_firstMissing hrest]
    rfl

mutual

/-- Where all parts around it are complete, a segment is built of its written leaves, unless it is
itself a parameter that does not resolve. -/
theorem buildSegment_eq_leafText : ∀ {s : Segment} {around : List (List Segment)},
    (∀ part ∈ around, Complete resolve part) →
    (∀ name, s.parameterName? = some name → (resolve name).isSome) →
    ∃ text, leafText resolve (writtenLeaves resolve (s.leaves around)) = some text ∧
      Route.buildSegment resolve s = .ok text
  | .literal text, _, haround, _ => ⟨text, leafText_singleton haround rfl, rfl⟩
  | .parameter name c, _, haround, hown => by
    obtain ⟨value, hvalue⟩ := Option.isSome_iff_exists.1 (hown name rfl)
    exact ⟨value, leafText_singleton haround hvalue, by rw [Route.buildSegment, hvalue]⟩
  | .optional children, around, haround, _ => by
    by_cases hcomplete : Complete resolve children
    · have hinside : ∀ part ∈ children :: around, Complete resolve part :=
        List.forall_mem_cons.2 ⟨hcomplete, haround⟩
      obtain ⟨text, htext, hbuild⟩ := buildSegments_eq_leafText hinside hcomplete
      exact ⟨text, htext, by rw [Route.buildSegment, hbuild]⟩
    · -- The part is dropped, and so are all leaves within it.
      obtain ⟨name, hname⟩ := Option.ne_none_iff_exists'.1 (complete_iff.not.1 hcomplete)
      refine ⟨"", ?_, by rw [Route.buildSegment, buildSegments_of_firstMissing hname]⟩
      rw [leaves, writtenLeaves_eq_nil List.mem_cons_self hcomplete]
      rfl

/-- Segments that are complete are built of their written leaves. -/
theorem buildSegments_eq_leafText : ∀ {ss : List Segment} {around : List (List Segment)},
    (∀ part ∈ around, Complete resolve part) → Complete resolve ss →
    ∃ text, leafText resolve (writtenLeaves resolve (allLeaves around ss)) = some text ∧
      Route.buildSegments resolve ss = .ok text
  | [], _, _, _ => ⟨"", rfl, rfl⟩
  | s :: ss, _, haround, hcomplete => by
    have hown : ∀ name, s.parameterName? = some name → (resolve name).isSome := fun name hname =>
      hcomplete name (List.mem_filterMap.2 ⟨s, List.mem_cons_self, hname⟩)
    have hothers : Complete resolve ss := fun name hname => by
      obtain ⟨t, ht, hname⟩ := List.mem_filterMap.1 hname
      exact hcomplete name (List.mem_filterMap.2 ⟨t, List.mem_cons_of_mem _ ht, hname⟩)
    obtain ⟨text, htext, hbuild⟩ := buildSegment_eq_leafText haround hown
    obtain ⟨rest, hrest, hbuild'⟩ := buildSegments_eq_leafText haround hothers
    refine ⟨text ++ rest, ?_, by rw [Route.buildSegments, hbuild, hbuild']; rfl⟩
    rw [allLeaves, writtenLeaves_append]
    exact leafText_append htext hrest

end

end

/-! ### Paths -/

namespace Route

theorem resolve_eq_some_iff {r : Route} {params : Params} {name value : String} :
    r.resolve params name = some value ↔
      (params.get? name = some value ∨
        params.get? name = none ∧ r.defaults.get? name = some value) ∧
      r.accepts name value = true := by
  rw [resolve, Option.filter_eq_some_iff, Option.or_eq_some_iff]

/-- A route has no use for a value under a name that it does not declare. -/
theorem resolve_congr {r : Route} {params params' : Params}
    (h : ∀ name ∈ r.names, params.get? name = params'.get? name) :
    r.resolve params = r.resolve params' := by
  funext name
  by_cases hname : name ∈ r.names
  · rw [resolve, h name hname, resolve]
  · have hnothing : r.accepts name = fun _ => false := by
      funext value
      simp [accepts, List.idxOf?_eq_none_iff.2 hname]
    simp [resolve, hnothing]

/-- The path of a compiled route is what is built of its segments, or the fault that is found then.
That fixed text is returned as it stands makes no difference. -/
theorem uri_eq_buildSegments {pattern : String} {options : RouteOptions} {r : Route}
    (h : compile pattern options = .ok r) (params : Params) :
    r.uri params = match buildSegments (r.resolve params) r.segments with
      | .ok text => .ok text
      | .error name => .error (.missingParameter r.pattern name) := by
  cases hbuild : buildSegments (r.resolve params) r.segments with
  | ok text => exact uri_of_buildSegments h hbuild
  | error name =>
    have hdynamic : ¬ r.isStatic := fun hstatic => by
      simp [buildSegments_static hstatic] at hbuild
    rw [uri, if_neg hdynamic, hbuild]

/-- The first parameter outside of the optional parts that does not resolve is the fault. -/
theorem uri_of_firstMissing {pattern : String} {options : RouteOptions} {r : Route}
    (h : compile pattern options = .ok r) {params : Params} {name : String}
    (hname : firstMissing (r.resolve params) r.segments = some name) :
    r.uri params = .error (.missingParameter r.pattern name) := by
  rw [uri_eq_buildSegments h, buildSegments_of_firstMissing hname]

/-- Where no such parameter is missing, there is a path. -/
theorem uri_of_complete {pattern : String} {options : RouteOptions} {r : Route}
    (h : compile pattern options = .ok r) {params : Params}
    (hcomplete : Complete (r.resolve params) r.segments) :
    ∃ text, leafText (r.resolve params)
        (writtenLeaves (r.resolve params) (allLeaves [] r.segments)) = some text ∧
      r.uri params = .ok text := by
  obtain ⟨text, htext, hbuild⟩ := buildSegments_eq_leafText (List.forall_mem_nil _) hcomplete
  exact ⟨text, htext, by rw [uri_eq_buildSegments h, hbuild]⟩

/-- Building a path fails exactly if some parameter outside of the optional parts does not resolve;
the fault names the first of them that does not, and the pattern. Otherwise the path is made of the
texts of the leaves, from left to right, all of whose parts are complete. A parameter resolves to
the value that is given for it, else to its default, if the route accepts that. Values under other
names are of no account. -/
theorem uri_eq_leafText {pattern : String} {options : RouteOptions} {r : Route}
    (h : compile pattern options = .ok r) (params : Params) :
    (∀ fault, r.uri params = .error fault ↔
      ∃ name, firstMissing (r.resolve params) r.segments = some name ∧
        fault = .missingParameter pattern name) ∧
    (∀ text, r.uri params = .ok text ↔ Complete (r.resolve params) r.segments ∧
      leafText (r.resolve params)
        (writtenLeaves (r.resolve params) (allLeaves [] r.segments)) = some text) ∧
    (∀ name value, r.resolve params name = some value ↔
      (params.get? name = some value ∨
        params.get? name = none ∧ r.defaults.get? name = some value) ∧
      r.accepts name value = true) ∧
    ∀ params' : Params, (∀ name ∈ r.names, params.get? name = params'.get? name) →
      r.uri params' = r.uri params := by
  have hpattern : r.pattern = pattern := pattern_of_compile h
  refine ⟨fun fault => ⟨fun hu => ?_, ?_⟩, fun text => ⟨fun hu => ?_, ?_⟩,
    fun _ _ => resolve_eq_some_iff, fun params' hagree => ?_⟩
  · cases hfirst : firstMissing (r.resolve params) r.segments with
    | some name =>
      rw [uri_of_firstMissing h hfirst, hpattern] at hu
      exact ⟨name, rfl, (Except.error.inj hu).symm⟩
    | none =>
      obtain ⟨_, -, hok⟩ := uri_of_complete h (complete_iff.2 hfirst)
      simp [hok] at hu
  · rintro ⟨name, hname, rfl⟩
    rw [uri_of_firstMissing h hname, hpattern]
  · have hcomplete : Complete (r.resolve params) r.segments := by
      rw [complete_iff, Option.eq_none_iff_forall_ne_some]
      intro name hname
      simp [uri_of_firstMissing h hname] at hu
    obtain ⟨_, htext, hok⟩ := uri_of_complete h hcomplete
    exact ⟨hcomplete, by rw [htext, ← Except.ok.inj (hok.symm.trans hu)]⟩
  · rintro ⟨hcomplete, htext⟩
    obtain ⟨_, htext', hok⟩ := uri_of_complete h hcomplete
    rw [hok, Option.some.inj (htext'.symm.trans htext)]
  · rw [uri_eq_buildSegments h, uri_eq_buildSegments h, resolve_congr hagree]

/-- The month does not resolve, so what is in its part is left out, and neither the part around it
nor what stands after it. -/
theorem uri_eq_leafText_blog : ∃ r : Route,
    compile "blog(/<year>(-<month>))/<slug>" ⟨.empty, .empty⟩ = .ok r ∧
      r.uri (.ofList [("year", "2024"), ("month", "5/6"), ("slug", "lean")]) =
        .ok "blog/2024/lean" := by
  obtain ⟨r, hr, htext⟩ : ∃ r : Route,
      compile "blog(/<year>(-<month>))/<slug>" ⟨.empty, .empty⟩ = .ok r ∧
        Complete (r.resolve (.ofList [("year", "2024"), ("month", "5/6"), ("slug", "lean")]))
          r.segments ∧
        leafText (r.resolve (.ofList [("year", "2024"), ("month", "5/6"), ("slug", "lean")]))
          (writtenLeaves (r.resolve (.ofList [("year", "2024"), ("month", "5/6"), ("slug", "lean")]))
            (allLeaves [] r.segments)) = some "blog/2024/lean" := by
    decide +kernel
  exact ⟨r, hr, ((uri_eq_leafText hr _).2.1 _).2 htext⟩

end Route

end Routing
