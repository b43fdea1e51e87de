import Routing.Proofs.RoundTrip

/-!
Building from what a path gave. The values that a path gives to the parameters of a route build that
path again, without the slashes at its ends.

    (<controller>(/<action>(/<id>)))   on  /news/view/   gives   controller = news, action = view
                                                         builds  news/view

The parts that were there are built, since all of their own parameters have values. A part that was
not there has to have a parameter of its own: without a value for it nothing of the part is built.
-/

namespace Routing

open Segment

namespace Segment

/-- Is the segment a parameter? -/
def isParameter : Segment → Bool
  | parameter _ _ => true
  | _ => false

mutual

/-- If the segment is optional, has it a parameter of its own, and so has every part within it? -/
def owning : Segment → Bool
  | optional children => children.any isParameter && allOwning children
  | _ => true

/-- Have all optional parts parameters of their own? -/
def allOwning : List Segment → Bool
  | [] => true
  | s :: ss => s.owning && allOwning ss

end

end Segment

section
variable {P : String → String → Prop} {resolve : String → Option String}

/-- The parameters resolve to their values, and to nothing where there is no value. -/
def ResolvesTo (resolve : String → Option String) (params values : List (String × String)) : Prop :=
  ∀ e ∈ params, resolve e.1 = values.lookup e.1

/-- Nothing is built of segments if one of them is a parameter that does not resolve. -/
theorem buildSegments_eq_error : ∀ {ss : List Segment}, ss.any isParameter →
    (∀ e ∈ allParameters ss, resolve e.1 = none) →
    ∃ name, Route.buildSegments resolve ss = .error name
  | .parameter name c :: ss, _, hnone => by
    have hname : resolve name = none := hnone (name, c) (.head _)
    refine ⟨name, ?_⟩
    rw [Route.buildSegments, Route.buildSegment, hname]
    rfl
  | .literal text :: ss, hany, hnone => by
    have hrest : ss.any isParameter := by simpa [isParameter] using hany
    obtain ⟨name, hname⟩ := buildSegments_eq_error hrest hnone
    refine ⟨name, ?_⟩
    rw [Route.buildSegments, Route.buildSegment, hname]
    rfl
  | .optional children :: ss, hany, hnone => by
    obtain ⟨-, hss⟩ := List.forall_mem_append.1 hnone
    have hrest : ss.any isParameter := by simpa [isParameter] using hany
    obtain ⟨name, hname⟩ := buildSegments_eq_error hrest hss
    have hpart : ∃ text, Route.buildSegment resolve (.optional children) = .ok text := by
      rw [Route.buildSegment]
      split
      · exact ⟨_, rfl⟩
      · exact ⟨_, rfl⟩
    obtain ⟨text, htext⟩ := hpart
    refine ⟨name, ?_⟩
    rw [Route.buildSegments, htext, hname]
    rfl

/-- The values of other parameters, before or after, are of no account. -/
theorem ResolvesTo.split {params params' values values' : List (String × String)}
    (h : ResolvesTo resolve (params ++ params') (values ++ values'))
    (hnodup : ((params ++ params').map (·.1)).Nodup)
    (hvalues : (values.map (·.1)).Sublist (params.map (·.1)))
    (hvalues' : (values'.map (·.1)).Sublist (params'.map (·.1))) :
    ResolvesTo resolve params values ∧ ResolvesTo resolve params' values' := by
  rw [List.map_append, List.nodup_append] at hnodup
  obtain ⟨-, -, hdisjoint⟩ := hnodup
  have hnone : ∀ {name : String} {values : List (String × String)},
      name ∉ values.map (·.1) → values.lookup name = none := by
    intro name values hname
    rw [List.lookup_eq_none_iff]
    intro e he
    rw [bne_iff_ne]
    rintro rfl
    exact hname (List.mem_map_of_mem he)
  constructor
  · intro e he
    have hother := hnone fun hmem =>
      hdisjoint e.1 (List.mem_map_of_mem he) e.1 (hvalues'.subset hmem) rfl
    rw [h e (List.mem_append_left _ he), List.lookup_append, hother, Option.or_none]
  · intro e he
    have hother := hnone fun hmem =>
      hdisjoint e.1 (hvalues.subset hmem) e.1 (List.mem_map_of_mem he) rfl
    rw [h e (List.mem_append_right _ he), List.lookup_append, hother, Option.none_or]

/-- If parameters resolve to the values of a spelling, what is built is the text that is spelled. -/
theorem buildSegments_of_spells {ss : List Segment} {values : List (String × String)}
    {cs : List Char} (h : Spells P ss values cs) :
    allOwning ss → ((allParameters ss).map (·.1)).Nodup →
      ResolvesTo resolve (allParameters ss) values →
      Route.buildSegments resolve ss = .ok (String.ofList cs) := by
  induction h with
  | nil => exact fun _ _ _ => rfl
  | @literal text ss values cs _ ih =>
    intro howning hnodup hresolve
    rw [Route.buildSegments, Route.buildSegment, ih howning hnodup hresolve, String.ofList_append,
      String.ofList_toList]
    rfl
  | @parameter name c value ss values cs _ hspells ih =>
    intro howning hnodup hresolve
    have hboth : ResolvesTo resolve ([(name, c)] ++ allParameters ss) ([(name, value)] ++ values) :=
      hresolve
    obtain ⟨hname, hss⟩ := hboth.split hnodup (.refl _) hspells.names_sublist
    have hvalue : resolve name = some value := by simpa using hname (name, c) (.head _)
    rw [Route.buildSegments, Route.buildSegment, hvalue,
      ih howning (List.nodup_cons.1 hnodup).2 hss, String.ofList_append, String.ofList_toList]
    rfl
  | @present children ss values values' cs cs' hchildren hrest ih ih' =>
    intro howning hnodup hresolve
    obtain ⟨hinside, hafter⟩ := hresolve.split hnodup hchildren.names_sublist hrest.names_sublist
    obtain ⟨hpart, hss⟩ := Bool.and_eq_true_iff.1 howning
    have hdistinct := hnodup
    rw [allParameters, List.map_append, List.nodup_append] at hdistinct
    rw [Route.buildSegments, Route.buildSegment,
      ih (Bool.and_eq_true_iff.1 hpart).2 hdistinct.1 hinside, ih' hss hdistinct.2.1 hafter,
      String.ofList_append]
    rfl
  | @absent children ss values cs hrest ih =>
    intro howning hnodup hresolve
    have hboth : ResolvesTo resolve (allParameters children ++ allParameters ss) ([] ++ values) :=
      hresolve
    obtain ⟨hinside, hafter⟩ := hboth.split hnodup (List.nil_sublist _) hrest.names_sublist
    obtain ⟨hpart, hss⟩ := Bool.and_eq_true_iff.1 howning
    -- The part has a parameter of its own, which has no value.
    obtain ⟨name, hname⟩ := buildSegments_eq_error (Bool.and_eq_true_iff.1 hpart).1 hinside
    have hdistinct := hnodup
    rw [allParameters, List.map_append, List.nodup_append] at hdistinct
    rw [Route.buildSegments, Route.buildSegment, hname, ih hss hdistinct.2.1 hafter]
    exact congrArg _ (String.empty_append)

end

namespace Route

/-- What is built of the segments of a compiled route is its path, also if they are fixed text. -/
theorem uri_of_buildSegments {pattern : String} {options : RouteOptions} {r : Route}
    (h : compile pattern options = .ok r) {params : Params} {u : String}
    (hu : buildSegments (r.resolve params) r.segments = .ok u) : r.uri params = .ok u := by
  cases hpath : r.uri params with
  | ok u' => rw [← Except.ok.inj ((buildSegments_of_uri h hpath).symm.trans hu)]
  | error fault =>
    unfold uri at hpath
    rw [hu] at hpath
    split at hpath
    · simp at hpath
    · simp at hpath

/-- No constraint takes the empty text. -/
def TakesText (params : List (String × String)) : Prop := ∀ e ∈ params, ¬ Takes e.2 ""

instance (params : List (String × String)) : Decidable (TakesText params) :=
  inferInstanceAs (Decidable (∀ e ∈ params, ¬ (_ ∈ _)))

/-- The values that a path gives are resolved to again, if the constraints take no empty text. -/
theorem resolvesTo_of_spells {r : Route} (h : r.Sound) (hr : r.Standalone)
    (hdefaults : r.defaults = .empty) (htext : TakesText (allParameters r.segments))
    {values : List (String × String)} {cs : List Char}
    (hspells : Spells Takes r.segments values cs) :
    ResolvesTo (r.resolve (r.defaults.putAll (valued values))) (allParameters r.segments)
      values := by
  have hnodup := h.nodup
  rw [h.names] at hnodup
  have hvalued : valued values = values := by
    refine List.filter_eq_self.2 fun v hv => decide_eq_true fun hempty => ?_
    obtain ⟨e, he, -, htakes⟩ := hspells.exists_parameter v hv
    exact htext e he (hempty ▸ htakes)
  intro e he
  have hget : (r.defaults.putAll values).get? e.1 = values.lookup e.1 := by
    rw [Dict.get?_putAll _ _ _ (hnodup.sublist hspells.names_sublist), hdefaults]
    exact Option.or_none
  have hdefault : r.defaults.get? e.1 = none := by rw [hdefaults]; rfl
  rw [resolve, hvalued, hget, hdefault, Option.or_none]
  cases hvalue : values.lookup e.1 with
  | none => rfl
  | some value =>
    have hmem : (e.1, value) ∈ values := by
      obtain ⟨before, after, hsplit, -⟩ := List.lookup_eq_some_iff.1 hvalue
      rw [hsplit]
      exact List.mem_append_right _ (.head _)
    obtain ⟨e', he', hname, htakes⟩ := hspells.exists_parameter _ hmem
    obtain rfl := h.eq_of_name he' he hname
    have hne : value ≠ "" := by
      rintro rfl
      exact htext e' he htakes
    rw [Option.filter_some, (h.accepts_iff hr he).2 ⟨hne, htakes⟩, if_pos rfl]

/-- What a path gives builds that path, without the slashes at its ends, if there are no defaults,
every optional part has a parameter of its own, and the constraints are expressions by themselves
that test no places and take no empty text. -/
theorem uri_matchPath {pattern : String} {options : RouteOptions} {r : Route}
    (h : compile pattern options = .ok r) (hdefaults : r.defaults = .empty)
    (howning : allOwning r.segments) (hr : r.Standalone)
    (hfree : TestFree (allParameters r.segments)) (htext : TakesText (allParameters r.segments))
    {path : String} {m : Params} (hm : r.matchPath path = some m) :
    r.uri m = .ok (normalizePath path) := by
  have hsound := (Made.compiled h).sound
  have hnodup := hsound.nodup
  rw [hsound.names] at hnodup
  obtain ⟨values, hspells, rfl⟩ := matchPath_takes (.compiled h) hr hfree hm
  have hbuild := buildSegments_of_spells hspells howning hnodup
    (resolvesTo_of_spells hsound hr hdefaults htext hspells)
  rw [String.ofList_toList] at hbuild
  exact uri_of_buildSegments h hbuild

/-- The innermost part is not there in the path, and is not built. -/
theorem uri_matchPath_news : ∃ (r : Route) (m : Params),
    compile "(<controller>(/<action>(/<id:[0-9]+>)))" ⟨.empty, .empty⟩ = .ok r ∧
      r.defaults = .empty ∧ allOwning r.segments ∧ r.Standalone ∧
      TestFree (allParameters r.segments) ∧ TakesText (allParameters r.segments) ∧
      r.matchPath "/news/view/" = some m ∧ r.uri m = .ok (normalizePath "/news/view/") := by
  obtain ⟨r, hr, hdefaults, howning, halone, hfree, htext, hm⟩ : ∃ r : Route,
      compile "(<controller>(/<action>(/<id:[0-9]+>)))" ⟨.empty, .empty⟩ = .ok r ∧
        r.defaults = .empty ∧ allOwning r.segments ∧ r.Standalone ∧
        TestFree (allParameters r.segments) ∧ TakesText (allParameters r.segments) ∧
        r.matchPath "/news/view/" =
          some (.ofList [("controller", "news"), ("action", "view")]) := by
    decide +kernel
  exact ⟨r, _, hr, hdefaults, howning, halone, hfree, htext, hm,
    uri_matchPath hr hdefaults howning halone hfree htext hm⟩

end Route

end Routing
