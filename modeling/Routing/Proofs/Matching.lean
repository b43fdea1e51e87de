import Routing.Proofs.Made
import Routing.Proofs.Traces
import Routing.Proofs.Walk

/-!
Matching a path is walking over the segments. A trace of the search shows a way through the
segments: where it comes to, and for each parameter what its group took. The traces show exactly
the ways, in the same order.

    trace   marks … 5 at 7, 4 at 3 …      group 2 took what stands between 3 and 7
    way     (name of the parameter with group 2, 3, 7)

The groups of other segments, and those within a constraint, have other numbers. So what a trace
shows of a segment is not changed by what comes before or after.
-/

namespace Routing

open Regex

/-- The constraints are expressions by themselves. -/
def Alone (params : List (String × String)) : Prop :=
  ∀ e ∈ params, ∃ rx, Regex.ofString e.2 = .ok rx

instance (params : List (String × String)) : Decidable (Alone params) :=
  inferInstanceAs (Decidable (∀ e ∈ params, ∃ rx, Regex.ofString e.2 = .ok rx))

/-- Every constraint of the route is an expression by itself. -/
abbrev Route.Standalone (r : Route) : Prop := Alone (Segment.allParameters r.segments)

/-- The constraints of a sound route are fragments, if they are expressions by themselves. -/
theorem Route.Sound.fragment {r : Route} (h : r.Sound) (hr : r.Standalone) :
    ∀ e ∈ Segment.allParameters r.segments, Fragment e.2 := by
  intro e he
  obtain ⟨check, hcheck⟩ := exists_of_forall₂ h.checks he
  exact ⟨hr e he, check, readConstraint_spec hcheck⟩

/-! ### What marks show -/

/-- The marks are those of groups between two numbers. -/
def MarksWithin (lo hi : Nat) (marks : List (Nat × Nat)) : Prop :=
  ∀ m ∈ marks, lo < m.1 / 2 ∧ m.1 / 2 ≤ hi

theorem lookup_eq_none {marks : List (Nat × Nat)} {lo hi slot : Nat} (h : MarksWithin lo hi marks)
    (hslot : slot / 2 ≤ lo ∨ hi < slot / 2) : marks.lookup slot = none := by
  rw [List.lookup_eq_none_iff]
  intro m hm
  obtain ⟨hlo, hhi⟩ := h m hm
  rw [bne_iff_ne]
  rintro rfl
  omega

theorem mark?_after (k : Cursor) (marks : List (Nat × Nat)) (slot : Nat) :
    (k.after marks).mark? slot = (k.mark? slot).or (marks.lookup slot) := List.lookup_append

/-- Marks of other groups, set before, are of no account. -/
theorem span?_after_left {k : Cursor} {marks : List (Nat × Nat)} {lo hi group : Nat}
    (h : MarksWithin lo hi marks) (hgroup : group ≤ lo ∨ hi < group) :
    (k.after marks).span? group = k.span? group := by
  have hnone : ∀ slot, slot / 2 = group → (k.after marks).mark? slot = k.mark? slot := by
    intro slot hslot
    rw [mark?_after, lookup_eq_none h (by omega), Option.or_none]
  rw [Cursor.span?, Cursor.span?, hnone _ (by omega), hnone _ (by omega)]

/-- Marks of other groups, set after, are of no account. -/
theorem span?_after_right {k j : Cursor} {lo hi group : Nat} (h : MarksWithin lo hi k.marks)
    (hgroup : group ≤ lo ∨ hi < group) : (k.after j.marks).span? group = j.span? group := by
  have hnone : ∀ slot, slot / 2 = group → (k.after j.marks).mark? slot = j.mark? slot := by
    intro slot hslot
    rw [mark?_after, Cursor.mark?, lookup_eq_none h (by omega), Option.none_or]
    rfl
  rw [Cursor.span?, Cursor.span?, hnone _ (by omega), hnone _ (by omega)]

/-- What marks show of parameters with their groups. -/
def taken (names : List String) (slots : List Nat) (k : Cursor) : List (String × Nat × Nat) :=
  (names.zip slots).filterMap fun e => (k.span? e.2).map (e.1, ·)

theorem taken_append {names names' : List String} {slots slots' : List Nat}
    (h : names.length = slots.length) (k : Cursor) :
    taken (names ++ names') (slots ++ slots') k = taken names slots k ++ taken names' slots' k := by
  rw [taken, List.zip_append h, List.filterMap_append]
  rfl

/-- Only the marks of its groups count. -/
theorem taken_congr {names : List String} {slots : List Nat} {j k : Cursor}
    (h : ∀ slot ∈ slots, j.span? slot = k.span? slot) : taken names slots j = taken names slots k :=
  List.filterMap_congr fun e he => by rw [h e.2 (List.of_mem_zip he).2]

/-! ### The marks of traces -/

section
variable {text : Array Char}

/-- A way out of a constraint marks groups after the one around it. -/
theorem exit_marks {c : String} (hc : ∃ rx, Regex.ofString c = .ok rx) {pos : Nat}
    (hpos : pos ≤ text.size) (groups : Nat) :
    ∀ x ∈ (ownNode c).program.exitsFrom text pos, x.pos ≤ text.size ∧
      MarksWithin (groups + 1) (groups + 1 + ownGroups c)
        (x.marks.map (movedMark (groups + 1))) := by
  intro x hx
  obtain ⟨rx, hrx⟩ := hc
  obtain ⟨-, hle, hmarks⟩ := mem_exitsFrom (ownNode c).program_closed hpos x hx
  refine ⟨hle, fun m hm => ?_⟩
  obtain ⟨m', hm', rfl⟩ := List.mem_map.1 hm
  obtain ⟨i, hi⟩ := hmarks m' hm'
  have hcaptures : (ownNode c).Captures fun i _ => 0 < i ∧ i ≤ ownGroups c :=
    (own_captures hrx).imp fun _ _ hi => ⟨hi.1, hi.2.1⟩
  have hcounted := Node.groups_of_mark hcaptures hi
  simp only [movedMark]
  omega

mutual

/-- A trace stays in the text, and marks groups of its segment only. -/
theorem mem_traces : ∀ (s : Segment) {groups pos : Nat}, Alone s.parameters → pos ≤ text.size →
    ∀ k ∈ s.traces text groups pos,
      k.pos ≤ text.size ∧ MarksWithin groups (groups + s.groupCount) k.marks
  | .literal str, groups, pos, _, hpos, k, hk => by
    rw [Segment.traces] at hk
    split at hk
    next hprefix =>
      obtain rfl := List.mem_singleton.1 hk
      have hlen : str.length ≤ text.size - pos := by
        simpa [String.length_toList] using hprefix.length_le
      exact ⟨by simp only; omega, by simp [MarksWithin]⟩
    · simp at hk
  | .parameter name c, groups, pos, halone, hpos, k, hk => by
    obtain ⟨x, hx, rfl⟩ := List.mem_map.1 hk
    have hc : ∃ rx, Regex.ofString c = .ok rx := halone (name, c) (.head _)
    obtain ⟨hle, hmarks⟩ := exit_marks hc hpos groups x hx
    refine ⟨hle, fun m hm => ?_⟩
    simp only [List.mem_cons, List.mem_append, List.not_mem_nil, or_false] at hm
    simp only [Segment.groupCount]
    rcases hm with rfl | hm | rfl
    · simp only
      omega
    · have := hmarks m hm
      omega
    · simp only
      omega
  | .optional children, groups, pos, halone, hpos, k, hk => by
    rw [Segment.traces] at hk
    rcases List.mem_append.1 hk with hk | hk
    · exact mem_allTraces children halone hpos k hk
    · obtain rfl := List.mem_singleton.1 hk
      exact ⟨hpos, by simp [MarksWithin]⟩

theorem mem_allTraces : ∀ (ss : List Segment) {groups pos : Nat}, Alone (Segment.allParameters ss) →
    pos ≤ text.size → ∀ k ∈ Segment.allTraces text groups ss pos,
      k.pos ≤ text.size ∧ MarksWithin groups (groups + Segment.allGroupCount ss) k.marks
  | [], groups, pos, _, hpos, k, hk => by
    obtain rfl := List.mem_singleton.1 hk
    exact ⟨hpos, by simp [MarksWithin]⟩
  | s :: ss, groups, pos, halone, hpos, k, hk => by
    obtain ⟨hs, hss⟩ := List.forall_mem_append.1 halone
    rw [Segment.allTraces] at hk
    obtain ⟨j, hj, hk⟩ := List.mem_flatMap.1 hk
    obtain ⟨i, hi, rfl⟩ := List.mem_map.1 hk
    obtain ⟨hle, hmarks⟩ := mem_traces s hs hpos j hj
    obtain ⟨hle', hmarks'⟩ := mem_allTraces ss hss hle i hi
    refine ⟨hle', fun m hm => ?_⟩
    rw [Segment.allGroupCount]
    rcases List.mem_append.1 hm with hm | hm
    · have := hmarks' m hm
      omega
    · have := hmarks m hm
      omega

end

mutual

theorem mem_slots : ∀ (s : Segment) {groups : Nat}, ∀ slot ∈ s.slots groups,
    groups < slot ∧ slot ≤ groups + s.groupCount
  | .literal _, _, _, h => by simp [Segment.slots] at h
  | .parameter _ c, groups, slot, h => by
    rw [List.mem_singleton.1 h, Segment.groupCount]
    omega
  | .optional children, _, _, h => mem_allSlots children _ h

theorem mem_allSlots : ∀ (ss : List Segment) {groups : Nat}, ∀ slot ∈ Segment.allSlots groups ss,
    groups < slot ∧ slot ≤ groups + Segment.allGroupCount ss
  | [], _, _, h => by simp [Segment.allSlots] at h
  | s :: ss, groups, slot, h => by
    rw [Segment.allSlots] at h
    rw [Segment.allGroupCount]
    rcases List.mem_append.1 h with h | h
    · have := mem_slots s slot h
      omega
    · have := mem_allSlots ss slot h
      omega

end

/-! ### The ways that traces show -/

/-- The way that a trace shows. -/
def shownWay (names : List String) (slots : List Nat) (k : Cursor) : Way :=
  ⟨k.pos, taken names slots k⟩

/-- One trace after another shows one way after another. -/
theorem shownWay_after {names names' : List String} {slots slots' : List Nat} {j k : Cursor}
    {lo mid hi : Nat} (hlen : names.length = slots.length) (hj : MarksWithin lo mid j.marks)
    (hk : MarksWithin mid hi k.marks) (hslots : ∀ slot ∈ slots, lo < slot ∧ slot ≤ mid)
    (hslots' : ∀ slot ∈ slots', mid < slot ∧ slot ≤ hi) :
    shownWay (names ++ names') (slots ++ slots') (k.after j.marks) =
      (shownWay names' slots' k).after (shownWay names slots j) := by
  have hleft : taken names slots (k.after j.marks) = taken names slots j :=
    taken_congr fun slot hs => span?_after_right hk (.inl (hslots slot hs).2)
  have hright : taken names' slots' (k.after j.marks) = taken names' slots' k :=
    taken_congr fun slot hs => span?_after_left hj (.inr (hslots' slot hs).1)
  rw [shownWay, taken_append hlen, hleft, hright]
  rfl

/-- A trace without marks shows nothing that was taken. -/
theorem shownWay_here (names : List String) (slots : List Nat) (pos : Nat) :
    shownWay names slots ⟨pos, []⟩ = ⟨pos, []⟩ := by
  simp [shownWay, taken, Cursor.span?, Cursor.mark?]

/-- The trace of a parameter shows what its constraint took. -/
theorem shownWay_parameter {name : String} {groups hi pos stop : Nat} {marks : List (Nat × Nat)}
    (h : MarksWithin (groups + 1) hi marks) :
    shownWay [name] [groups + 1]
        ⟨stop, (2 * (groups + 1) + 1, stop) :: (marks ++ [(2 * (groups + 1), pos)])⟩ =
      ⟨stop, [(name, pos, stop)]⟩ := by
  have hnone : marks.lookup (2 * (groups + 1)) = none := lookup_eq_none h (by omega)
  have hne : (2 * (groups + 1) == 2 * (groups + 1) + 1) = false := by simp
  simp [shownWay, taken, Cursor.span?, Cursor.mark?, List.lookup_cons, List.lookup_append, hnone,
    hne]

theorem constraintEnds_eq {c : String} (hc : ∃ rx, Regex.ofString c = .ok rx) (pos : Nat) :
    constraintEnds c text pos = ((ownNode c).program.exitsFrom text pos).map (·.pos) := by
  obtain ⟨rx, hrx⟩ := hc
  rw [constraintEnds, hrx, ← own_node hrx, ← rx.compiled]
  rfl

mutual

/-- The traces of a segment show its ways, in the same order. -/
theorem shown_traces : ∀ (s : Segment) {groups pos : Nat}, Alone s.parameters → pos ≤ text.size →
    (s.traces text groups pos).map (shownWay (s.parameters.map (·.1)) (s.slots groups)) =
      s.ways text pos
  | .literal str, groups, pos, _, _ => by
    rw [Segment.traces, Segment.ways]
    split <;> simp [shownWay_here]
  | .parameter name c, groups, pos, halone, hpos => by
    have hc : ∃ rx, Regex.ofString c = .ok rx := halone (name, c) (.head _)
    rw [Segment.traces, Segment.ways, constraintEnds_eq hc, List.map_map, List.map_map]
    refine List.map_congr_left fun x hx => ?_
    exact shownWay_parameter (exit_marks hc hpos groups x hx).2
  | .optional children, groups, pos, halone, hpos => by
    rw [Segment.traces, Segment.ways, List.map_append, List.map_singleton, shownWay_here]
    exact congrArg (· ++ [⟨pos, []⟩]) (shown_allTraces children halone hpos)

theorem shown_allTraces : ∀ (ss : List Segment) {groups pos : Nat},
    Alone (Segment.allParameters ss) → pos ≤ text.size →
    (Segment.allTraces text groups ss pos).map
        (shownWay ((Segment.allParameters ss).map (·.1)) (Segment.allSlots groups ss)) =
      Segment.allWays text ss pos
  | [], groups, pos, _, _ => by simp [Segment.allTraces, Segment.allWays, shownWay_here]
  | s :: ss, groups, pos, halone, hpos => by
    obtain ⟨hs, hss⟩ := List.forall_mem_append.1 halone
    rw [Segment.allTraces, Segment.allWays, ← shown_traces s hs hpos, List.map_flatMap,
      List.flatMap_map]
    refine List.flatMap_congr fun j hj => ?_
    obtain ⟨hle, hmarks⟩ := mem_traces s hs hpos j hj
    rw [shownWay, ← shown_allTraces ss hss hle, List.map_map, List.map_map]
    refine List.map_congr_left fun k hk => ?_
    rw [Segment.allParameters, List.map_append, Segment.allSlots]
    exact shownWay_after (by rw [List.length_map, Segment.length_slots]) hmarks
      (mem_allTraces ss hss hle k hk).2 (fun slot h => mem_slots s slot h)
      fun slot h => mem_allSlots ss slot h

end

end

/-! ### Paths -/

/-- The values that are captured are those of the way that is shown. -/
theorem captured_eq (r : Route) (text : Array Char) (k : Cursor) :
    r.captured text k = valued ((shownWay r.names r.slots k).texts text) := by
  rw [Route.captured, valued, Way.texts, shownWay, taken, List.map_filterMap, List.filter_filterMap]
  refine List.filterMap_congr fun e _ => ?_
  cases h : k.span? e.2 with
  | none => simp [h]
  | some span =>
    by_cases hempty : Route.sliceText text span = "" <;> simp [h, hempty, Option.filter]

/-- A match is the first trace that takes the whole path. -/
theorem matchPath_eq_trace {r : Route} (h : r.Sound) (hr : r.Standalone) (path : String) :
    r.matchPath path =
      let text := (normalizePath path).toList.toArray
      ((Segment.allTraces text 0 r.segments 0).find? (·.pos = text.size)).map fun k =>
        r.defaults.putAll (valued ((shownWay r.names r.slots k).texts text)) := by
  obtain ⟨hnode, -⟩ := expression_reads (h.fragment hr) h.expression
  rw [Route.matchPath, search_expression hnode]
  simp only [captured_eq]
  rfl

namespace Route

theorem Sound.slots_eq {r : Route} (h : r.Sound) (hr : r.Standalone) :
    r.slots = Segment.allSlots 0 r.segments := by
  have hlen : r.names.length = (Segment.allParameters r.segments).length := by
    rw [h.names, List.length_map]
  have hslots := findSlots_expression (h.fragment hr) h.expression hlen
  exact Except.ok.inj (h.slots.symm.trans hslots)

/-- Matching a path is walking over the segments, if the constraints are expressions by
themselves. -/
theorem matchPath_eq_walk {r : Route} (h : r.Made) (hr : r.Standalone) (path : String) :
    r.matchPath path = r.walk path := by
  rw [matchPath_eq_trace h.sound hr, walk]
  dsimp only
  rw [← shown_allTraces r.segments hr (Nat.zero_le _), List.find?_map, Option.map_map,
    h.sound.slots_eq hr, h.sound.names]
  rfl

/-- A group within a constraint, and alternatives of which the first is too short. -/
theorem matchPath_eq_walk_groups : ∃ r : Route,
    Route.compile "users/<id:(a|ab)>(/<action>)" ⟨.empty, .empty⟩ = .ok r ∧ r.Standalone ∧
      r.matchPath "/users/ab/edit" = r.walk "/users/ab/edit" ∧
      r.walk "/users/ab/edit" = some (.ofList [("action", "edit"), ("id", "ab")]) := by
  obtain ⟨r, hr, halone, hwalk⟩ : ∃ r : Route,
      Route.compile "users/<id:(a|ab)>(/<action>)" ⟨.empty, .empty⟩ = .ok r ∧ r.Standalone ∧
        r.walk "/users/ab/edit" = some (.ofList [("action", "edit"), ("id", "ab")]) := by
    decide +kernel
  exact ⟨r, hr, halone, matchPath_eq_walk (.compiled hr) halone _, hwalk⟩

end Route

end Routing
