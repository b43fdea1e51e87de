import Routing.Proofs.Representation
import Routing.Proofs.Traces

/-!
Static routes. A route without parameters and optional parts has one path, its fixed text, and there
are three places to take it from:

    pattern        about/us                          what is built
    segments       literal about/  literal us        the fixed text, about/us
    expression     ^about/us$                        what is matched

The expression always goes with the segments. The pattern does if the segments were read from it.
But a route can also be read from a written one, and then the pattern is taken as it stands: nothing
compares it with the segments, although it is what a static route builds.
-/

namespace Routing

open Regex

namespace Segment

/-- Fixed text has one trace, over itself, where it stands in the text, and none elsewhere. -/
theorem allTraces_of_isLiteral (text : Array Char) : ∀ {ss : List Segment}, ss.all isLiteral →
    ∀ groups pos, allTraces text groups ss pos =
      if ss.flatMap fixedText <+: text.toList.drop pos then
        [⟨pos + (ss.flatMap fixedText).length, []⟩] else []
  | [], _, _, _ => by simp [allTraces]
  | .literal s :: ss, h, groups, pos => by
    have hss : ss.all isLiteral := by simpa [isLiteral] using h
    rw [allTraces, traces, List.flatMap_cons, fixedText]
    by_cases hfirst : s.toList <+: text.toList.drop pos
    · obtain ⟨rest, hrest⟩ := hfirst
      have hdrop : text.toList.drop (pos + s.length) = rest := by
        rw [← List.drop_drop, ← hrest, ← String.length_toList, List.drop_left]
      rw [if_pos ⟨rest, hrest⟩, List.flatMap_singleton, allTraces_of_isLiteral text hss, hdrop,
        ← hrest]
      simp only [List.prefix_append_right_inj, List.length_append, String.length_toList,
        Nat.add_assoc]
      split
      · rfl
      · rfl
    · have hall : ¬ s.toList ++ ss.flatMap fixedText <+: text.toList.drop pos :=
        fun hstart => hfirst ((List.prefix_append _ _).trans hstart)
      rw [if_neg hfirst, if_neg hall]
      rfl
  | .parameter _ _ :: _, h, _, _ => by simp [isLiteral] at h
  | .optional _ :: _, h, _, _ => by simp [isLiteral] at h

/-- There are no parameters in fixed text. -/
theorem allParameters_of_isLiteral : ∀ {ss : List Segment}, ss.all isLiteral →
    allParameters ss = []
  | [], _ => rfl
  | .literal _ :: ss, h => by
    have hss : ss.all isLiteral := by simpa [isLiteral] using h
    rw [allParameters, parameters, allParameters_of_isLiteral hss]
    rfl
  | .parameter _ _ :: _, h => by simp [isLiteral] at h
  | .optional _ :: _, h => by simp [isLiteral] at h

end Segment

namespace Route

/-- The texts of the segments of a route that are fixed, one after another. -/
def fixedText (r : Route) : String := String.ofList (r.segments.flatMap Segment.fixedText)

/-- The expression of a static route matches its fixed text and nothing else. -/
theorem Sound.isMatch_static {r : Route} (h : r.Sound) (hstatic : r.isStatic) (text : String) :
    r.expression.isMatch text = true ↔ text = r.fixedText := by
  have hparams : ∀ e ∈ Segment.allParameters r.segments, Fragment e.2 := by
    rw [Segment.allParameters_of_isLiteral hstatic]
    exact List.forall_mem_nil _
  obtain ⟨hnode, -⟩ := expression_reads hparams h.expression
  rw [isMatch, search_expression hnode, Segment.allTraces_of_isLiteral _ hstatic, fixedText,
    ← String.toList_inj, String.toList_ofList, List.drop_zero, Nat.zero_add]
  split
  next hstart =>
    simp only [List.find?_singleton, List.size_toArray]
    constructor
    · intro hwhole
      split at hwhole
      next hlength => exact (hstart.eq_of_length (of_decide_eq_true hlength)).symm
      · simp at hwhole
    · intro heq
      simp [heq]
  next hstart =>
    refine iff_of_false (by simp) fun heq => hstart ?_
    rw [← heq]

/-- The pattern that fixed text was read from is that text. -/
theorem pattern_eq_fixedText {pattern : String} {options : RouteOptions} {r : Route}
    (h : compile pattern options = .ok r) (hstatic : r.isStatic) : pattern = r.fixedText := by
  obtain ⟨-, -, hplain⟩ := Pattern.read_spec (compile_spec h).1
  rw [fixedText, ← hplain hstatic, String.ofList_toList]

/-- However a static route has been obtained, its expression matches its fixed text and nothing
else. That this is also what it builds is the same as that it is its pattern, and this is so if the
segments are what is read from the pattern: for every route that has been compiled, whatever
defaults it has got since, and for every one that is read as such a one was written. -/
theorem uri_eq_fixedText {r : Route} (h : r.Obtained) (hstatic : r.isStatic) :
    (∀ text, r.expression.isMatch text = true ↔ text = r.fixedText) ∧
    ((∀ params, r.uri params = .ok r.fixedText) ↔ r.pattern = r.fixedText) ∧
    ∀ options r', compile r.pattern options = .ok r' → r'.segments = r.segments →
      ∀ params, r.uri params = .ok r.fixedText := by
  have huri : ∀ params, r.uri params = .ok r.pattern := fun params => by rw [uri, if_pos hstatic]
  refine ⟨h.sound.isMatch_static hstatic, ⟨fun hall => ?_, fun hpattern params => ?_⟩,
    fun options r' hr' hsegments params => ?_⟩
  · exact Except.ok.inj ((huri .empty).symm.trans (hall .empty))
  · rw [huri, hpattern]
  · have hstatic' : r'.isStatic := by rwa [isStatic, hsegments]
    rw [huri, pattern_eq_fixedText hr' hstatic', fixedText, hsegments, fixedText]

/-- The fixed text of this pattern has a character that an expression has to escape. -/
theorem uri_eq_fixedText_about : ∃ r : Route,
    compile "about/us.html" ⟨.empty, .empty⟩ = .ok r ∧
      (∀ text, r.expression.isMatch text = true ↔ text = "about/us.html") ∧
      ∀ params, r.uri params = .ok "about/us.html" := by
  obtain ⟨r, hr, hstatic, hfixed⟩ : ∃ r : Route,
      compile "about/us.html" ⟨.empty, .empty⟩ = .ok r ∧ r.isStatic ∧
        r.fixedText = "about/us.html" := by
    decide +kernel
  obtain ⟨hmatch, huri, -⟩ := uri_eq_fixedText (.compiled hr) hstatic
  rw [hfixed] at hmatch huri
  exact ⟨r, hr, hmatch, huri.2 (pattern_of_compile hr)⟩

/-- A written route whose pattern has nothing to do with its segments is read, and builds a path
that it does not match. -/
theorem uri_ne_fixedText : ∃ r : Route,
    Json.decode decode (RouteRecord.toJson ⟨"x", [.literal "y"], "^y$", .empty, []⟩).write = .ok r ∧
      r.isStatic ∧ r.fixedText = "y" ∧ r.expression.isMatch "y" ∧ ¬ r.expression.isMatch "x" ∧
      r.uri .empty = .ok "x" := by
  decide +kernel

end Route

end Routing
