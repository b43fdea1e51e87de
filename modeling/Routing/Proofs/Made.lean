import Mathlib.Tactic.SplitIfs
import Routing.Proofs.Outcome
import Routing.Route.Json

/-!
How routes come to be, and what holds of all of them. A route is compiled from a pattern, read from
written data, or has got other defaults. Whichever way, its names are those of its parameters, no
name stands twice, and the derived parts are those of its segments.

    pattern ──Pattern.read──▶ segments, names ──┐
                                                ├──assemble──▶ route
    written segments, names ──ofRecord──────────┘

The pattern is read character by character, so what holds of compiled routes is kept by every step
of the reader.
-/

namespace Routing

namespace Segment

theorem allParameters_append (as bs : List Segment) :
    allParameters (as ++ bs) = allParameters as ++ allParameters bs := by
  induction as with
  | nil => rfl
  | cons s ss ih => rw [List.cons_append, allParameters, ih, allParameters, List.append_assoc]

/-- The text of a segment that is fixed. -/
def fixedText : Segment → List Char
  | literal text => text.toList
  | parameter _ _ | optional _ => []

end Segment

/-! ### The reader of patterns -/

namespace Pattern

open Segment

/-- All segments read so far, from left to right, without the open parts around them. -/
def Reader.soFar (r : Reader) : List Segment :=
  r.outer.reverse.flatMap List.reverse ++ r.current.reverse

/-- What the reader keeps to, after it has read some characters. -/
structure Reader.Keeps (consumed : List Char) (r : Reader) : Prop where
  names : r.names = (allParameters r.soFar).map (·.1)
  nodup : r.names.Nodup
  fresh : ∀ name read depth inClass escaped,
    r.place = .fragment name read depth inClass escaped → name ∉ r.names
  plain : r.place = .text → r.outer = [] → r.current.all isLiteral →
    consumed = r.current.reverse.flatMap fixedText

theorem Reader.keeps_start : Reader.start.Keeps [] where
  names := rfl
  nodup := .nil
  fresh := by simp [Reader.start]
  plain := by simp [Reader.start]

theorem allParameters_pushLiteral (c : Char) (ss : List Segment) :
    allParameters (pushLiteral c ss).reverse = allParameters ss.reverse := by
  unfold pushLiteral
  split <;> simp [allParameters_append, allParameters, parameters]

theorem fixedText_pushLiteral (c : Char) (ss : List Segment) :
    (pushLiteral c ss).reverse.flatMap fixedText = ss.reverse.flatMap fixedText ++ [c] := by
  unfold pushLiteral
  split <;> simp [fixedText]

theorem all_pushLiteral (c : Char) (ss : List Segment) :
    (pushLiteral c ss).all isLiteral = ss.all isLiteral := by
  unfold pushLiteral
  split <;> simp [isLiteral]

theorem checkName_fresh {names : List String} {read : List Char} {name : String}
    (h : checkName names read = .ok name) : name ∉ names := by
  unfold checkName at h
  dsimp only at h
  split_ifs at h with _ _ hnew
  obtain rfl := Except.ok.inj h
  simpa using hnew

/-- A parameter with a fresh name is added. -/
theorem Reader.Keeps.pushParameter {consumed consumed' : List Char} {r : Reader}
    (h : r.Keeps consumed) (table : ConstraintTable) {name : String} (hname : name ∉ r.names)
    (inline : Option String) : (r.pushParameter table name inline).Keeps consumed' where
  names := by
    rw [Reader.pushParameter, h.names, Reader.soFar, Reader.soFar]
    simp [allParameters_append, allParameters, parameters]
  nodup := by
    rw [Reader.pushParameter]
    exact List.nodup_append.2 ⟨h.nodup, List.pairwise_singleton _ _, fun a ha b hb heq =>
      hname (List.mem_singleton.1 hb ▸ heq ▸ ha)⟩
  fresh := by simp [Reader.pushParameter]
  plain := by simp [Reader.pushParameter, isLiteral]

/-- The reader goes on within the name or the fragment of a parameter. -/
theorem Reader.Keeps.place {consumed consumed' : List Char} {r : Reader} (h : r.Keeps consumed)
    {place : Place} (htext : place ≠ .text)
    (hfresh : ∀ name read depth inClass escaped,
      place = .fragment name read depth inClass escaped → name ∉ r.names) :
    { r with place }.Keeps consumed' where
  names := h.names
  nodup := h.nodup
  fresh := hfresh
  plain hplace := absurd hplace htext

/-- A character of fixed text is read. -/
theorem Reader.Keeps.pushLiteral {consumed : List Char} {r : Reader} (h : r.Keeps consumed)
    (hplace : r.place = .text) (c : Char) :
    { r with current := Pattern.pushLiteral c r.current }.Keeps (consumed ++ [c]) where
  names := by
    rw [h.names, Reader.soFar, Reader.soFar, allParameters_append, allParameters_append,
      allParameters_pushLiteral]
  nodup := h.nodup
  fresh := by simp [hplace]
  plain _ houter hall := by
    rw [all_pushLiteral] at hall
    rw [fixedText_pushLiteral, ← h.plain hplace houter hall]

/-- An optional part starts. -/
theorem Reader.Keeps.openPart {consumed consumed' : List Char} {r : Reader} (h : r.Keeps consumed)
    (hplace : r.place = .text) :
    { r with current := [], outer := r.current :: r.outer }.Keeps consumed' where
  names := by
    rw [h.names, Reader.soFar, Reader.soFar]
    simp
  nodup := h.nodup
  fresh := by simp [hplace]
  plain := by simp

/-- An optional part ends. -/
theorem Reader.Keeps.closePart {consumed consumed' : List Char} {r : Reader} (h : r.Keeps consumed)
    (hplace : r.place = .text) {around : List Segment} {outer : List (List Segment)}
    (houter : r.outer = around :: outer) :
    { r with current := .optional r.current.reverse :: around, outer := outer }.Keeps
      consumed' where
  names := by
    rw [h.names, Reader.soFar, Reader.soFar, houter]
    simp [allParameters_append, allParameters, parameters]
  nodup := h.nodup
  fresh := by simp [hplace]
  plain := by simp [isLiteral]

/-- Reading a character keeps to it. -/
theorem Reader.Keeps.step {consumed : List Char} {r r' : Reader} (h : r.Keeps consumed)
    {table : ConstraintTable} {c : Char} (hs : r.step table c = .ok r') :
    r'.Keeps (consumed ++ [c]) := by
  unfold Reader.step at hs
  split at hs
  next hplace =>
    split_ifs at hs
    · split at hs
      · simp at hs
      next around outer houter => exact Except.ok.inj hs ▸ h.closePart hplace houter
    · exact Except.ok.inj hs ▸ h.openPart hplace
    · exact Except.ok.inj hs ▸ h.place (by simp) (by simp)
    · exact Except.ok.inj hs ▸ h.pushLiteral hplace c
  next read hplace =>
    split_ifs at hs
    · obtain ⟨name, hname, hs⟩ := bind_eq_ok.1 hs
      obtain rfl := Except.ok.inj hs
      exact h.pushParameter table (checkName_fresh hname) none
    · obtain ⟨name, hname, hs⟩ := bind_eq_ok.1 hs
      obtain rfl := Except.ok.inj hs
      refine h.place (by simp) ?_
      rintro _ _ _ _ _ ⟨⟩
      exact checkName_fresh hname
    · exact Except.ok.inj hs ▸ h.place (by simp) (by simp)
  next name read depth inClass escaped hplace =>
    have hname : name ∉ r.names := h.fresh _ _ _ _ _ hplace
    -- Most characters only make the fragment longer.
    have hgoOn : ∀ depth' inClass' escaped',
        { r with place := .fragment name (c :: read) depth' inClass' escaped' }.Keeps
          (consumed ++ [c]) := by
      intro depth' inClass' escaped'
      refine h.place (by simp) ?_
      rintro _ _ _ _ _ ⟨⟩
      exact hname
    dsimp only at hs
    split_ifs at hs
    · exact Except.ok.inj hs ▸ hgoOn _ _ _
    · exact Except.ok.inj hs ▸ hgoOn _ _ _
    · exact Except.ok.inj hs ▸ hgoOn _ _ _
    · exact Except.ok.inj hs ▸ hgoOn _ _ _
    · exact Except.ok.inj hs ▸ hgoOn _ _ _
    · exact Except.ok.inj hs ▸ hgoOn _ _ _
    · obtain ⟨-, -, hs⟩ := bind_eq_ok.1 hs
      obtain rfl := Except.ok.inj hs
      exact h.pushParameter table hname _
    · exact Except.ok.inj hs ▸ hgoOn _ _ _

/-- What is read of a pattern: the names of its parameters, none of them twice. A pattern that is
nothing but literal text is that text. -/
theorem read_spec {table : ConstraintTable} {pattern : String} {segments : List Segment}
    {names : List String} (h : read table pattern = .ok (segments, names)) :
    names = (allParameters segments).map (·.1) ∧ names.Nodup ∧
      (segments.all isLiteral → pattern.toList = segments.flatMap fixedText) := by
  obtain ⟨r, hr, hfinish⟩ := bind_eq_ok.1 h
  have hkeeps : r.Keeps pattern.toList :=
    foldlM_keeps (fun hkeeps hs => hkeeps.step hs) Reader.keeps_start hr
  unfold Reader.finish at hfinish
  split at hfinish
  next hplace houter =>
    obtain ⟨rfl, rfl⟩ := Prod.mk.inj (Except.ok.inj hfinish)
    refine ⟨?_, hkeeps.nodup, fun hall => hkeeps.plain hplace houter (by simpa using hall)⟩
    rw [hkeeps.names, Reader.soFar, houter]
    rfl
  · simp at hfinish
  · simp at hfinish
  · simp at hfinish

end Pattern

/-! ### Routes -/

theorem source_of_ofString {source : String} {rx : Regex} (h : Regex.ofString source = .ok rx) :
    rx.source = source := by
  obtain ⟨node, -, hnode⟩ := bind_eq_ok.1 h
  rw [← Except.ok.inj hnode]

/-- A constraint is checked between anchors. -/
theorem readConstraint_spec {name fragment : String} {check : Regex}
    (h : readConstraint name fragment = .ok check) :
    Regex.ofString (anchored fragment) = .ok check := by
  unfold readConstraint at h
  split at h
  next hok => exact hok.trans (congrArg _ (Except.ok.inj h))
  · simp at h

theorem nodup_of_firstRepeated : ∀ {names before : List String},
    firstRepeated before names = none → before.Nodup → (before ++ names).Nodup
  | [], before, _, h => by rwa [List.append_nil]
  | name :: names, before, hnone, h => by
    rw [firstRepeated] at hnone
    split_ifs at hnone with hnew
    rw [List.append_cons]
    refine nodup_of_firstRepeated hnone ?_
    refine List.nodup_append.2 ⟨h, List.pairwise_singleton _ _, fun a ha b hb heq => hnew ?_⟩
    rw [List.contains_iff_mem, ← List.mem_singleton.1 hb, ← heq]
    exact ha

namespace Route

/-- The ways in which routes are made. -/
inductive Made : Route → Prop
  | compiled {pattern options r} : compile pattern options = .ok r → Made r
  | decoded {depth tree r} : decode depth tree = .ok r → Made r
  | withDefaults {r} (defaults : Params) : Made r → Made (r.withDefaults defaults)

/-- The names and the derived parts of a route are those of its segments. -/
structure Sound (r : Route) : Prop where
  names : r.names = (Segment.allParameters r.segments).map (·.1)
  nodup : r.names.Nodup
  expression : Regex.ofString (Segment.expression r.segments) = .ok r.expression
  slots : findSlots r.expression 0 r.names = .ok r.slots
  checks : List.Forall₂ (fun p check => readConstraint p.1 p.2 = .ok check)
    (Segment.allParameters r.segments) r.checks

theorem assemble_spec {pattern expression : String} {segments : List Segment} {defaults : Params}
    {names : List String} {r : Route}
    (h : assemble pattern segments expression defaults names = .ok r) :
    ∃ regex slots checks, r = ⟨pattern, segments, regex, slots, checks, defaults, names⟩ ∧
      Regex.ofString expression = .ok regex ∧ findSlots regex 0 names = .ok slots ∧
      (Segment.allParameters segments).mapM (fun p => readConstraint p.1 p.2) = .ok checks := by
  unfold assemble at h
  split at h
  next regex hregex =>
    obtain ⟨_, hok, h⟩ := bind_eq_ok.1 h
    obtain rfl := Except.ok.inj hok
    obtain ⟨slots, hslots, h⟩ := bind_eq_ok.1 h
    obtain ⟨checks, hchecks, h⟩ := bind_eq_ok.1 h
    exact ⟨regex, slots, checks, (Except.ok.inj h).symm, hregex, hslots, hchecks⟩
  · obtain ⟨_, herror, -⟩ := bind_eq_ok.1 h
    simp at herror

/-- Whatever has been assembled of segments with distinct names is sound. -/
theorem Sound.of_assemble {pattern : String} {segments : List Segment} {defaults : Params}
    {names : List String} {r : Route}
    (h : assemble pattern segments (Segment.expression segments) defaults names = .ok r)
    (hnames : names = (Segment.allParameters segments).map (·.1)) (hnodup : names.Nodup) :
    r.Sound := by
  obtain ⟨regex, slots, checks, rfl, hregex, hslots, hchecks⟩ := assemble_spec h
  exact ⟨hnames, hnodup, hregex, hslots, forall₂_of_mapM hchecks⟩

/-- What a compiled route is made of. -/
theorem compile_spec {pattern : String} {options : RouteOptions} {r : Route}
    (h : compile pattern options = .ok r) :
    Pattern.read options.constraints pattern = .ok (r.segments, r.names) ∧
      assemble pattern r.segments (Segment.expression r.segments) options.defaults r.names =
        .ok r := by
  unfold compile at h
  split at h
  next r' hr =>
    obtain rfl := Except.ok.inj h
    obtain ⟨-, -, hr⟩ := bind_eq_ok.1 hr
    obtain ⟨⟨segments, names⟩, hread, hr⟩ := bind_eq_ok.1 hr
    obtain ⟨regex, slots, checks, rfl, -⟩ := assemble_spec hr
    exact ⟨hread, hr⟩
  · simp at h

theorem ofRecord_spec {record : RouteRecord} {r : Route} (h : ofRecord record = .ok r) :
    assemble record.pattern record.segments (Segment.expression record.segments) record.defaults
        record.names = .ok r ∧
      record.names = (Segment.allParameters record.segments).map (·.1) ∧ record.names.Nodup ∧
      record.expression = Segment.expression record.segments := by
  unfold ofRecord at h
  dsimp only at h
  split at h
  · simp at h
  next hnames =>
    have hdeclared := not_not.1 hnames
    split at h
    · simp at h
    next hnone =>
      split at h
      · simp at h
      next hsource =>
        split at h
        next route hroute =>
          obtain rfl := Except.ok.inj h
          exact ⟨hroute, hdeclared.symm, hdeclared ▸ nodup_of_firstRepeated hnone .nil,
            (not_not.1 hsource).symm⟩
        · simp at h

/-- Every route is sound. -/
theorem Made.sound {r : Route} (h : r.Made) : r.Sound := by
  induction h with
  | compiled h =>
    obtain ⟨hread, hassemble⟩ := compile_spec h
    obtain ⟨hnames, hnodup, -⟩ := Pattern.read_spec hread
    exact .of_assemble hassemble hnames hnodup
  | decoded h =>
    obtain ⟨record, -, h⟩ := bind_eq_ok.1 h
    split at h
    next hrecord =>
      obtain rfl := Except.ok.inj h
      obtain ⟨hassemble, hnames, hnodup, -⟩ := ofRecord_spec hrecord
      exact .of_assemble hassemble hnames hnodup
    · simp at h
  | withDefaults _ _ ih => exact ⟨ih.names, ih.nodup, ih.expression, ih.slots, ih.checks⟩

end Route

end Routing
