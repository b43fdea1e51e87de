import Routing.Proofs.Matching
import Routing.Proofs.Regex.LookFree

/-!
What a path is made of. A text is spelled by segments if it is their texts one after another: the
text of a literal, some value of a parameter, and of an optional part all or nothing.

    users/<id>(/<action>)   spells   users/ · 7            with  id = 7
                                     users/ · 7 · / · edit  with  id = 7, action = edit

Every way through segments spells what it takes. If constraints test no places, the converse holds:
a text that is spelled by values which the constraints take is also taken in this way as a part of a
path.
-/

namespace Routing

open Regex

/-- The characters are spelled by the segments with the given values, all of which are allowed by
the constraints of their parameters. -/
inductive Spells (P : String → String → Prop) :
    List Segment → List (String × String) → List Char → Prop
  | nil : Spells P [] [] []
  | literal {text ss values cs} : Spells P ss values cs →
      Spells P (.literal text :: ss) values (text.toList ++ cs)
  | parameter {name constraint value ss values cs} : P constraint value → Spells P ss values cs →
      Spells P (.parameter name constraint :: ss) ((name, value) :: values) (value.toList ++ cs)
  | present {children ss values values' cs cs'} : Spells P children values cs →
      Spells P ss values' cs' →
      Spells P (.optional children :: ss) (values ++ values') (cs ++ cs')
  | absent {children ss values cs} : Spells P ss values cs →
      Spells P (.optional children :: ss) values cs

section
variable {P : String → String → Prop}

/-- Texts that are spelled one after another. -/
theorem Spells.append {ss ss' : List Segment} {values values' : List (String × String)}
    {cs cs' : List Char} (h : Spells P ss values cs) (h' : Spells P ss' values' cs') :
    Spells P (ss ++ ss') (values ++ values') (cs ++ cs') := by
  induction h with
  | nil => exact h'
  | literal _ ih =>
    rw [List.append_assoc]
    exact .literal ih
  | parameter hP _ ih =>
    rw [List.append_assoc]
    exact .parameter hP ih
  | present hchildren _ _ ih =>
    rw [List.append_assoc, List.append_assoc]
    exact .present hchildren ih
  | absent _ ih => exact .absent ih

/-! ### Parts of a text -/

/-- The characters of a text between two places. -/
def slice (text : Array Char) (pos stop : Nat) : List Char := (text.extract pos stop).toList

variable {text : Array Char}

theorem slice_append {pos mid stop : Nat} (hpos : pos ≤ mid) (hmid : mid ≤ stop) :
    slice text pos mid ++ slice text mid stop = slice text pos stop := by
  rw [slice, slice, ← Array.toList_append, Array.extract_append_extract, Nat.min_eq_left hpos,
    Nat.max_eq_right hmid, slice]

theorem slice_self (pos : Nat) : slice text pos pos = [] := by
  simp [slice]

theorem slice_all : slice text 0 text.size = text.toList := by
  simp [slice]

/-- What the text goes on with at a place. -/
theorem slice_of_prefix {cs : List Char} {pos : Nat} (h : cs <+: text.toList.drop pos) :
    slice text pos (pos + cs.length) = cs := by
  rw [List.prefix_iff_eq_take] at h
  rw [slice, Array.toList_extract, List.extract_eq_take_drop, Nat.add_sub_cancel_left, ← h]

theorem length_le_of_prefix {cs : List Char} {pos : Nat} (h : cs <+: text.toList.drop pos) :
    cs.length ≤ text.size - pos := by
  simpa using h.length_le

theorem prefix_append {cs cs' : List Char} {pos : Nat}
    (h : cs ++ cs' <+: text.toList.drop pos) :
    cs <+: text.toList.drop pos ∧ cs' <+: text.toList.drop (pos + cs.length) := by
  refine ⟨(List.prefix_append _ _).trans h, ?_⟩
  obtain ⟨rest, hrest⟩ := h
  refine ⟨rest, ?_⟩
  rw [← List.drop_drop, ← hrest, List.append_assoc, List.drop_left]

/-! ### Ways spell -/

theorem mem_allWays_cons {s : Segment} {ss : List Segment} {pos : Nat} {w : Way} :
    w ∈ Segment.allWays text (s :: ss) pos ↔
      ∃ v ∈ s.ways text pos, ∃ u ∈ Segment.allWays text ss v.stop, u.after v = w := by
  rw [Segment.allWays, List.mem_flatMap]
  simp only [List.mem_map]

/-- The texts of a way that goes on after another. -/
theorem texts_after (u v : Way) : (u.after v).texts text = v.texts text ++ u.texts text :=
  List.map_append

theorem constraintEnds_bounds {c : String} {pos stop : Nat} (hpos : pos ≤ text.size)
    (h : stop ∈ constraintEnds c text pos) : pos ≤ stop ∧ stop ≤ text.size := by
  unfold constraintEnds at h
  split at h
  next rx _ =>
    rw [rx.compiled] at h
    obtain ⟨x, hx, rfl⟩ := List.mem_map.1 h
    obtain ⟨hle, hle', -⟩ := mem_exitsFrom rx.node.program_closed hpos x hx
    exact ⟨hle, hle'⟩
  · simp at h

/-- What constraints take in the text is allowed. -/
def Allows (P : String → String → Prop) (text : Array Char) (params : List (String × String)) :
    Prop :=
  ∀ e ∈ params, ∀ pos stop, pos ≤ text.size → stop ∈ constraintEnds e.2 text pos →
    P e.2 (Route.sliceText text (pos, stop))

mutual

/-- A way through a segment spells what it takes. -/
theorem spells_of_mem_ways : ∀ (s : Segment) {pos : Nat}, Allows P text s.parameters →
    pos ≤ text.size → ∀ w ∈ s.ways text pos, pos ≤ w.stop ∧ w.stop ≤ text.size ∧
      Spells P [s] (w.texts text) (slice text pos w.stop)
  | .literal str, pos, _, hpos, w, hw => by
    rw [Segment.ways] at hw
    split at hw
    next hprefix =>
      obtain rfl := List.mem_singleton.1 hw
      have hlen := length_le_of_prefix hprefix
      have hslice := slice_of_prefix hprefix
      rw [String.length_toList] at hlen hslice
      refine ⟨Nat.le_add_right _ _, by simp only; omega, ?_⟩
      simp only [hslice]
      simpa [Way.texts] using Spells.literal (P := P) (.nil)
    · simp at hw
  | .parameter name c, pos, hallows, hpos, w, hw => by
    obtain ⟨stop, hstop, rfl⟩ := List.mem_map.1 hw
    obtain ⟨hle, hle'⟩ := constraintEnds_bounds hpos hstop
    refine ⟨hle, hle', ?_⟩
    have hvalue := hallows (name, c) (.head _) pos stop hpos hstop
    have hspells : Spells P [.parameter name c] [(name, _)] (_ ++ []) := .parameter hvalue .nil
    simpa [Way.texts, Route.sliceText, slice] using hspells
  | .optional children, pos, hallows, hpos, w, hw => by
    rw [Segment.ways] at hw
    rcases List.mem_append.1 hw with hw | hw
    · obtain ⟨hle, hle', hspells⟩ := spells_of_mem_allWays children hallows hpos w hw
      exact ⟨hle, hle', by simpa using Spells.present hspells .nil⟩
    · obtain rfl := List.mem_singleton.1 hw
      refine ⟨le_rfl, hpos, ?_⟩
      simp only [slice_self]
      exact .absent .nil

/-- A way through segments spells what it takes. -/
theorem spells_of_mem_allWays : ∀ (ss : List Segment) {pos : Nat},
    Allows P text (Segment.allParameters ss) → pos ≤ text.size →
    ∀ w ∈ Segment.allWays text ss pos, pos ≤ w.stop ∧ w.stop ≤ text.size ∧
      Spells P ss (w.texts text) (slice text pos w.stop)
  | [], pos, _, hpos, w, hw => by
    obtain rfl := List.mem_singleton.1 hw
    refine ⟨le_rfl, hpos, ?_⟩
    simp only [slice_self]
    exact .nil
  | s :: ss, pos, hallows, hpos, w, hw => by
    obtain ⟨hs, hss⟩ := List.forall_mem_append.1 hallows
    obtain ⟨v, hv, u, hu, rfl⟩ := mem_allWays_cons.1 hw
    obtain ⟨hle, hle', hspells⟩ := spells_of_mem_ways s hs hpos v hv
    obtain ⟨hle₂, hle₂', hspells₂⟩ := spells_of_mem_allWays ss hss hle' u hu
    refine ⟨hle.trans hle₂, hle₂', ?_⟩
    have h := hspells.append hspells₂
    rwa [slice_append hle hle₂, ← texts_after] at h

end

/-- A way that takes the whole of a text spells it. -/
theorem spells_of_whole {ss : List Segment} {cs : List Char}
    (hallows : Allows P cs.toArray (Segment.allParameters ss)) {w : Way}
    (hw : w ∈ Segment.allWays cs.toArray ss 0) (hstop : w.stop = cs.toArray.size) :
    Spells P ss (w.texts cs.toArray) cs := by
  obtain ⟨-, -, hspells⟩ := spells_of_mem_allWays ss hallows (Nat.zero_le _) w hw
  rwa [hstop, slice_all, List.toList_toArray] at hspells

/-! ### What is spelled is a way -/

/-- Wherever the text goes on with a value that is allowed, the constraint can end after it. -/
def Admits (P : String → String → Prop) (text : Array Char) (params : List (String × String)) :
    Prop :=
  ∀ e ∈ params, ∀ (pos : Nat) (value : String), pos ≤ text.size →
    value.toList <+: text.toList.drop pos → P e.2 value →
    pos + value.length ∈ constraintEnds e.2 text pos

/-- What is spelled in a text is taken by a way. -/
theorem mem_allWays_of_spells {ss : List Segment} {values : List (String × String)}
    {cs : List Char} (h : Spells P ss values cs) : Admits P text (Segment.allParameters ss) →
    ∀ pos ≤ text.size, cs <+: text.toList.drop pos →
      ∃ w ∈ Segment.allWays text ss pos, w.stop = pos + cs.length ∧ w.texts text = values := by
  induction h with
  | nil =>
    intro _ pos _ _
    exact ⟨⟨pos, []⟩, .head _, rfl, rfl⟩
  | @literal str ss values cs _ ih =>
    intro hadmits pos hpos hprefix
    obtain ⟨hstr, hrest⟩ := prefix_append hprefix
    have hlen := length_le_of_prefix hstr
    have hv : (⟨pos + str.length, []⟩ : Way) ∈ (Segment.literal str).ways text pos := by
      rw [Segment.ways, if_pos hstr]
      exact .head _
    obtain ⟨w, hw, hstop, htexts⟩ := ih hadmits _ (by omega) hrest
    refine ⟨_, mem_allWays_cons.2 ⟨_, hv, w, hw, rfl⟩, ?_, by rwa [texts_after]⟩
    rw [Way.after, hstop, List.length_append, Nat.add_assoc]
  | @parameter name c value ss values cs hP _ ih =>
    intro hadmits pos hpos hprefix
    obtain ⟨hvalue, hrest⟩ := prefix_append hprefix
    obtain ⟨hc, hss⟩ := List.forall_mem_cons.1 hadmits
    have hlen := length_le_of_prefix hvalue
    have hend := hc pos value hpos hvalue hP
    have hv : (⟨pos + value.length, [(name, pos, pos + value.length)]⟩ : Way) ∈
        (Segment.parameter name c).ways text pos := List.mem_map_of_mem hend
    obtain ⟨w, hw, hstop, htexts⟩ := ih hss _ (by omega) hrest
    refine ⟨_, mem_allWays_cons.2 ⟨_, hv, w, hw, rfl⟩, ?_, ?_⟩
    · rw [Way.after, hstop, List.length_append, Nat.add_assoc]
    · have hslice := slice_of_prefix hvalue
      rw [String.length_toList, slice] at hslice
      rw [texts_after, htexts, Way.texts, List.map_singleton, Route.sliceText, hslice,
        String.ofList_toList]
      rfl
  | @present children ss values values' cs cs' _ _ ih ih' =>
    intro hadmits pos hpos hprefix
    obtain ⟨hchildren, hss⟩ := List.forall_mem_append.1 hadmits
    obtain ⟨hinside, hrest⟩ := prefix_append hprefix
    have hlen := length_le_of_prefix hinside
    obtain ⟨v, hv, hstop, htexts⟩ := ih hchildren pos hpos hinside
    obtain ⟨w, hw, hstop', htexts'⟩ := ih' hss _ (by omega) hrest
    rw [← hstop] at hw
    refine ⟨_, mem_allWays_cons.2 ⟨v, List.mem_append_left _ hv, w, hw, rfl⟩, ?_, ?_⟩
    · rw [Way.after, hstop', List.length_append, Nat.add_assoc]
    · rw [texts_after, htexts, htexts']
  | @absent children ss values cs _ ih =>
    intro hadmits pos hpos hprefix
    obtain ⟨w, hw, hstop, htexts⟩ := ih (List.forall_mem_append.1 hadmits).2 pos hpos hprefix
    have hv : (⟨pos, []⟩ : Way) ∈ (Segment.optional children).ways text pos :=
      List.mem_append_right _ (.head _)
    exact ⟨_, mem_allWays_cons.2 ⟨_, hv, w, hw, rfl⟩, hstop, by rwa [texts_after]⟩

/-! ### Constraints that test no places -/

/-- The constraint takes the whole of the value. -/
def Takes (constraint value : String) : Prop :=
  value.length ∈ constraintEnds constraint value.toList.toArray 0

/-- No constraint tests a place: none of them has an anchor or a word boundary. -/
def TestFree (params : List (String × String)) : Prop :=
  ∀ e ∈ params, ∀ rx, Regex.ofString e.2 = .ok rx → rx.node.LookFree

instance (params : List (String × String)) : Decidable (TestFree params) :=
  inferInstanceAs (Decidable (∀ e ∈ params, ∀ rx, Regex.ofString e.2 = .ok rx → rx.node.LookFree))

/-- A constraint without tests ends at a place exactly if it takes the part of the text up to
there. -/
theorem mem_constraintEnds_iff {c : String}
    (hc : ∀ rx, Regex.ofString c = .ok rx → rx.node.LookFree)
    {pos stop : Nat} (hpos : pos ≤ stop) (hstop : stop ≤ text.size) :
    stop ∈ constraintEnds c text pos ↔ Takes c (Route.sliceText text (pos, stop)) := by
  unfold Takes constraintEnds
  cases hrx : Regex.ofString c with
  | error e => simp
  | ok rx =>
    have hpart : (Route.sliceText text (pos, stop)).toList.toArray = text.extract pos stop := by
      rw [Route.sliceText, String.toList_ofList]
    have hsize : (text.extract pos stop).size = stop - pos := by
      simp
      omega
    have hlen : (Route.sliceText text (pos, stop)).length = (text.extract pos stop).size := by
      rw [← hpart, List.size_toArray, String.length_toList]
    simp only [rx.compiled, hpart, hlen]
    refine mem_ends_iff_part (hc rx hrx) hpos hstop hsize fun i hi => ?_
    rw [Array.getElem?_extract, if_pos (by omega)]

theorem allows_takes {params : List (String × String)} (h : TestFree params) :
    Allows Takes text params := by
  intro e he pos stop hpos hstop
  obtain ⟨hle, hle'⟩ := constraintEnds_bounds hpos hstop
  exact (mem_constraintEnds_iff (h e he) hle hle').1 hstop

theorem admits_takes {params : List (String × String)} (h : TestFree params) :
    Admits Takes text params := by
  intro e he pos value hpos hprefix htakes
  have hlen := length_le_of_prefix hprefix
  have hslice := slice_of_prefix hprefix
  rw [String.length_toList] at hlen hslice
  rw [mem_constraintEnds_iff (h e he) (Nat.le_add_right _ _) (by omega)]
  change Takes e.2 (String.ofList (slice text pos (pos + value.length)))
  rwa [hslice, String.ofList_toList]

end

/-! ### Paths that match -/

/-- The constraint takes the value at some place of the text. -/
def TakesIn (text : Array Char) (constraint value : String) : Prop :=
  ∃ pos stop, stop ∈ constraintEnds constraint text pos ∧
    value = Route.sliceText text (pos, stop)

theorem allows_takesIn (text : Array Char) (params : List (String × String)) :
    Allows (TakesIn text) text params :=
  fun _ _ pos stop _ hstop => ⟨pos, stop, hstop, rfl⟩

namespace Route

/-- A path that matches is spelled by the segments of the route with the texts that were captured,
if the constraints are expressions by themselves. Nothing of it is left out, and an optional part is
there as a whole or not at all. -/
theorem matchPath_spells {r : Route} (h : r.Made) (hr : r.Standalone) {path : String} {m : Params}
    (hm : r.matchPath path = some m) :
    let text := (normalizePath path).toList.toArray
    ∃ found values, r.expression.program.search text = some found ∧
      r.captured text found = valued values ∧
      Spells (TakesIn text) r.segments values (normalizePath path).toList ∧
      m = r.defaults.putAll (valued values) := by
  intro text
  rw [matchPath] at hm
  rw [Option.map_eq_some_iff] at hm
  obtain ⟨found, hfound, rfl⟩ := hm
  obtain ⟨hnode, -⟩ := expression_reads (h.sound.fragment hr) h.sound.expression
  have htrace := hfound
  rw [search_expression hnode] at htrace
  have hend := List.find?_some htrace
  have hstop : found.pos = text.size := of_decide_eq_true hend
  have hway : shownWay r.names r.slots found ∈ Segment.allWays text r.segments 0 := by
    rw [h.sound.names, h.sound.slots_eq hr, ← shown_allTraces r.segments hr (Nat.zero_le _)]
    exact List.mem_map_of_mem (List.mem_of_find?_eq_some htrace)
  have hspells := spells_of_whole (allows_takesIn text _) hway hstop
  refine ⟨found, _, hfound, captured_eq r text found, hspells, ?_⟩
  rw [captured_eq]
  rfl

/-- A trailing part that is left out contributes nothing. -/
theorem matchPath_spells_users : ∃ (r : Route) (m : Params) (found : Regex.Cursor)
    (values : List (String × String)),
    Route.compile "users/<id>(/<action>)" ⟨.empty, .empty⟩ = .ok r ∧ r.Standalone ∧
      r.matchPath "users/7" = some m ∧
      r.expression.program.search "users/7".toList.toArray = some found ∧
      r.captured "users/7".toList.toArray found = valued values ∧
      Spells (TakesIn "users/7".toList.toArray) r.segments values "users/7".toList ∧
      m = r.defaults.putAll (valued values) := by
  obtain ⟨r, hr, halone, hm⟩ : ∃ r : Route,
      Route.compile "users/<id>(/<action>)" ⟨.empty, .empty⟩ = .ok r ∧ r.Standalone ∧
        r.matchPath "users/7" = some (.ofList [("id", "7")]) := by
    decide +kernel
  have hpath : normalizePath "users/7" = "users/7" := by decide +kernel
  have h := matchPath_spells (.compiled hr) halone hm
  rw [hpath] at h
  obtain ⟨found, values, h⟩ := h
  exact ⟨r, _, found, values, hr, halone, hm, h⟩

/-- A constraint that closes the group around it passes the check between anchors, and lets a path
match of which only the start is captured. -/
theorem matchPath_not_spelled : ∃ (r : Route) (m : Params),
    Route.compile "<a>" ⟨.empty, .ofList [("a", "a)|(?:b")]⟩ = .ok r ∧
      r.matchPath "axyz" = some m ∧
      ¬ ∃ values, Spells (fun _ _ => True) r.segments values (normalizePath "axyz").toList ∧
        m = r.defaults.putAll (valued values) := by
  obtain ⟨r, hr, hsegments, hdefaults, hm⟩ : ∃ r : Route,
      Route.compile "<a>" ⟨.empty, .ofList [("a", "a)|(?:b")]⟩ = .ok r ∧
        r.segments = [.parameter "a" "a)|(?:b"] ∧ r.defaults = .empty ∧
        r.matchPath "axyz" = some (.ofList [("a", "a")]) := by
    decide +kernel
  refine ⟨r, _, hr, hm, ?_⟩
  rintro ⟨values, hspells, hvalues⟩
  have hpath : normalizePath "axyz" = "axyz" := by decide +kernel
  rw [hpath, hsegments] at hspells
  generalize hcs : "axyz".toList = cs at hspells
  cases hspells with
  | @parameter _ _ value _ _ _ _ hrest =>
    cases hrest
    obtain rfl : "axyz" = value := by
      rw [← String.toList_inj, hcs, List.append_nil]
    rw [hdefaults] at hvalues
    exact absurd hvalues (by decide +kernel)

end Route

end Routing
