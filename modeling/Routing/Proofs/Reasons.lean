import Routing.Proofs.Derivation
import Routing.Proofs.Unnamed

/-!
Why a pattern is not compiled. A route is made in steps, and the first one that fails tells why.

    the table        a constraint is empty, or no expression
    the pattern      a part or a parameter is not closed, or a part is not opened; a name is
                     missing, bad or used before; a constraint is empty, or no expression
    the expression   the constraints are expressions one by one, but not together
    the groups       the constraints have hidden the group of a parameter

The last step makes the checks of values, of constraints that have all been read before, so it does
not fail. Whatever the reason is, the fault is about the pattern that was given, and if a route was
to be registered, about the name that it would have had. The table stays as it is.

A pattern is refused at one place. What stands before it are items, each of them in order, in parts
that are still open.

    a(/<id>(b<id>      refused at the last character: the name id is used before
    taken              a | / id | b      then  <  and the name
-/

namespace Routing

namespace Pattern

open Text

/-! ### Constraints and names -/

/-- What is said of a fragment that cannot be a constraint. -/
def constraintFault (name fragment : String) : PatternFault :=
  if fragment = "" then .emptyConstraint name else .badConstraint name

theorem checkConstraint_eq_error {name fragment : String} {reason : PatternFault} :
    checkConstraint name fragment = .error reason ↔
      ¬ IsConstraint fragment ∧ reason = constraintFault name fragment := by
  unfold checkConstraint constraintFault IsConstraint
  split
  next hempty => simp [hempty, eq_comm]
  next hempty =>
    rw [map_eq_error, readConstraint]
    cases Regex.ofString (anchored fragment) with
    | ok rx => simp [hempty]
    | error e => simp [eq_comm]

/-- What is wrong with a name, where the given ones are in use. -/
inductive NameFault (names : List String) (name : String) : PatternFault → Prop
  | empty : name = "" → NameFault names name .emptyName
  | characters : name ≠ "" → (∃ c ∈ name.toList, ¬ isNameChar c) →
      NameFault names name (.badName name)
  | repeated : Item.IsName name → name ∈ names → NameFault names name (.repeatedName name)

theorem checkName_eq_error {names : List String} {read : List Char} {reason : PatternFault} :
    checkName names read.reverse = .error reason ↔
      NameFault names (String.ofList read) reason := by
  have hempty : String.ofList read = "" ↔ read.isEmpty := by
    simp [← String.toList_inj]
  unfold checkName
  simp only [List.reverse_reverse, List.isEmpty_reverse, List.all_reverse]
  constructor
  · intro h
    split_ifs at h with hnone hchars hnew
    · obtain rfl := Except.error.inj h
      exact .empty (hempty.2 hnone)
    · obtain rfl := Except.error.inj h
      exact .characters (fun h => hnone (hempty.1 h)) (by simpa using hchars)
    · obtain rfl := Except.error.inj h
      exact .repeated ⟨fun h => hnone (hempty.1 h), by simpa using hchars⟩ (by simpa using hnew)
  · rintro (hnone | ⟨hne, hchars⟩ | ⟨⟨hne, hall⟩, hnew⟩)
    · rw [if_pos (hempty.1 hnone)]
    · rw [if_neg fun h => hne (hempty.2 h), if_pos (by simpa using hchars)]
    · rw [if_neg fun h => hne (hempty.2 h), if_neg (by simpa using hall),
        if_pos (by simpa using hnew)]

/-! ### What has been taken -/

/-- Parts that are open, and the items of the innermost one: all of them are in order, and no two
parameters have the same name. -/
structure Opened (stack : List (List Item)) (done : List Item) : Prop extends Laid stack done where
  nodup : (Item.names (stack.reverse.flatten ++ done)).Nodup

/-- The characters of open parts. -/
def taken (stack : List (List Item)) (done : List Item) : List Char :=
  opened stack ++ Item.allChars done

variable {table : ConstraintTable} {stack : List (List Item)} {done : List Item}

/-- The part around the innermost one. -/
theorem Opened.around {items : List Item} (h : Opened (items :: stack) done) :
    Opened stack items := by
  obtain ⟨⟨hformed, hvalid⟩, hnodup⟩ := h
  have hflat : (items :: stack).reverse.flatten = stack.reverse.flatten ++ items := by simp
  rw [hflat, Item.allWellFormed_append] at hformed
  rw [hflat, Item.allParameters_append] at hvalid
  rw [hflat, Item.names_append] at hnodup
  exact ⟨⟨hformed.1, (List.forall_mem_append.1 hvalid).1⟩, (List.nodup_append.1 hnodup).1⟩

/-- The reader takes the items of one part after another, from the outside in. -/
theorem Opened.foldlM (h : Opened stack done) :
    (taken stack done).foldlM (Reader.step table) .start = .ok (Reader.of table stack done) := by
  -- The innermost part has been opened last, when the one around it had its items so far.
  induction stack generalizing done with
  | nil =>
    have hnodup : (Item.names ([].reverse.flatten ++ ([] ++ done))).Nodup := h.nodup
    exact foldlM_allChars h.wellFormed hnodup h.constrained
  | cons items stack ih =>
    have hchars : taken (items :: stack) done =
        taken stack items ++ '(' :: Item.allChars done := by
      simp [taken, opened]
    have hformed : Item.AllWellFormed done := ((Item.allWellFormed_append _ _).1 h.wellFormed).2
    have hvalid := h.constrained
    rw [Item.allParameters_append] at hvalid
    have hdone : (Item.allChars done).foldlM (Reader.step table)
        (Reader.of table (items :: stack) []) =
          .ok (Reader.of table (items :: stack) ([] ++ done)) :=
      foldlM_allChars hformed h.nodup (List.forall_mem_append.1 hvalid).2
    rw [hchars]
    exact foldlM_append_eq_ok.2 ⟨_, ih h.around, foldlM_cons_eq_ok.2 ⟨_, step_open, hdone⟩⟩

/-- A text that the reader takes, and where it stands then. -/
inductive Reader.Takes (table : ConstraintTable) : List Char → Reader → Prop
  | text {stack : List (List Item)} {done : List Item} : Opened stack done →
      Takes table (taken stack done) (Reader.of table stack done)
  | name {stack : List (List Item)} {done : List Item} {read : List Char} :
      Opened stack done → Unended read →
      Takes table (taken stack done ++ '<' :: read)
        { Reader.of table stack done with place := .name read.reverse }
  | fragment {stack : List (List Item)} {done : List Item} {name : String} {read : List Char} :
      Opened stack done → Item.IsName name →
      name ∉ Item.names (stack.reverse.flatten ++ done) → Guarded read →
      Takes table (taken stack done ++ '<' :: (name.toList ++ ':' :: read))
        { Reader.of table stack done with place := .guarded name read.reverse (.after read) }

/-- Where a name is read, no character of it has ended it. -/
def Reader.InName (r : Reader) : Prop := ∀ read, r.place = .name read → Unended read

theorem Reader.InName.step {r r' : Reader} (h : r.InName) {c : Char}
    (hs : r.step table c = .ok r') : r'.InName := by
  obtain ⟨place, current, outer, names⟩ := r
  intro read' hread'
  cases place with
  | text =>
    unfold Reader.step at hs
    dsimp only at hs
    -- Of text, only an opening bracket leads into a name, which is empty then.
    split_ifs at hs
    · cases outer with
      | nil => simp at hs
      | cons around outer =>
        obtain rfl := Except.ok.inj hs
        simp at hread'
    · obtain rfl := Except.ok.inj hs
      simp at hread'
    · obtain rfl := Except.ok.inj hs
      obtain rfl := Place.name.inj hread'
      simp [Unended]
    · obtain rfl := Except.ok.inj hs
      simp at hread'
  | name read =>
    have hname := (step_name table ⟨.text, current, outer, names⟩ read c).symm.trans hs
    split_ifs at hname with hend hcolon
    · obtain ⟨name, -, hname⟩ := bind_eq_ok.1 hname
      obtain rfl := Except.ok.inj hname
      simp [pushParameter] at hread'
    · obtain ⟨name, -, hname⟩ := bind_eq_ok.1 hname
      obtain rfl := Except.ok.inj hname
      simp [Place.guarded] at hread'
    · obtain rfl := Except.ok.inj hname
      obtain rfl := Place.name.inj hread'
      exact List.forall_mem_cons.2 ⟨⟨hend, hcolon⟩, h read rfl⟩
  | fragment name read depth inClass escaped =>
    have hfragment := (step_fragment table ⟨.text, current, outer, names⟩ name read
      ⟨depth, inClass, escaped⟩ c).symm.trans hs
    split at hfragment
    · obtain ⟨⟨⟩, -, hfragment⟩ := bind_eq_ok.1 hfragment
      obtain rfl := Except.ok.inj hfragment
      simp [pushParameter] at hread'
    · obtain rfl := Except.ok.inj hfragment
      simp [Place.guarded] at hread'

/-- The reader stands where it does after such a text, and after no other one. -/
theorem Reader.takes_iff {cs : List Char} {r : Reader} :
    r.Takes table cs ↔ cs.foldlM (Reader.step table) .start = .ok r := by
  constructor
  · rintro (h | ⟨h, hread⟩ | ⟨h, hname, hfresh, hread⟩)
    · exact h.foldlM
    · exact foldlM_append_eq_ok.2 ⟨_, h.foldlM, foldlM_start hread⟩
    · exact foldlM_append_eq_ok.2 ⟨_, h.foldlM, foldlM_inline hname hfresh hread⟩
  · intro h
    -- The items do not tell that names differ, nor that a name which is read has not ended.
    have hstart : Reader.start.InName := by simp [InName, start]
    obtain ⟨hkeeps, hname⟩ : r.Keeps cs ∧ r.InName :=
      foldlM_keeps (P := fun taken r => r.Keeps taken ∧ r.InName)
        (fun hkept hs => ⟨hkept.1.step hs, hkept.2.step hs⟩) ⟨keeps_start, hstart⟩ h
    cases derived_of_foldlM h with
    | text hlaid => exact .text ⟨hlaid, hkeeps.nodup⟩
    | name read hlaid =>
      have hread : Unended read.reverse := fun c hc => hname read rfl c (List.mem_reverse.1 hc)
      have htakes : Reader.Takes table _ _ := .name ⟨hlaid, hkeeps.nodup⟩ hread
      rwa [List.reverse_reverse] at htakes
    | fragment read hlaid hisName hguarded =>
      have hfresh := hkeeps.fresh _ _ _ _ _ rfl
      have htakes : Reader.Takes table _ _ :=
        .fragment ⟨hlaid, hkeeps.nodup⟩ hisName hfresh hguarded
      rwa [List.reverse_reverse] at htakes

/-! ### Patterns that are not read -/

/-- A text that is no pattern, and the reason. What is before the place of the fault is in order;
what is after it does not matter. -/
inductive Unreadable : List Char → PatternFault → Prop
  /-- A bracket closes no part. -/
  | notOpened {done : List Item} {rest : List Char} : Opened [] done →
      Unreadable (taken [] done ++ ')' :: rest) .groupNotOpened
  /-- The text ends in a part. -/
  | inPart {items done : List Item} {stack : List (List Item)} : Opened (items :: stack) done →
      Unreadable (taken (items :: stack) done) .groupOpen
  /-- The text ends in a name. -/
  | inName {stack : List (List Item)} {done : List Item} {read : List Char} :
      Opened stack done → Unended read →
      Unreadable (taken stack done ++ '<' :: read) (.parameterOpen (String.ofList read))
  /-- The text ends in a fragment. -/
  | inFragment {stack : List (List Item)} {done : List Item} {name : String} {read : List Char} :
      Opened stack done → Item.IsName name →
      name ∉ Item.names (stack.reverse.flatten ++ done) → Guarded read →
      Unreadable (taken stack done ++ '<' :: (name.toList ++ ':' :: read))
        (.parameterOpen (name ++ ":"))
  | name {stack : List (List Item)} {done : List Item} {read rest : List Char} {stop : Char}
      {reason : PatternFault} : Opened stack done → Unended read → stop = '>' ∨ stop = ':' →
      NameFault (Item.names (stack.reverse.flatten ++ done)) (String.ofList read) reason →
      Unreadable (taken stack done ++ '<' :: read ++ stop :: rest) reason
  | fragment {stack : List (List Item)} {done : List Item} {name fragment : String}
      {rest : List Char} : Opened stack done → Item.IsName name →
      name ∉ Item.names (stack.reverse.flatten ++ done) → Closed fragment.toList →
      ¬ IsConstraint fragment →
      Unreadable (taken stack done ++ '<' :: (name.toList ++ ':' :: fragment.toList) ++ '>' :: rest)
        (constraintFault name fragment)

section
variable {before rest cs : List Char} {r : Reader} {c : Char} {reason : PatternFault}

/-- A character that is refused is at the place of the fault. -/
theorem unreadable_of_step (h : r.Takes table before) (hs : r.step table c = .error reason) :
    Unreadable (before ++ c :: rest) reason := by
  cases h with
  | @text stack done h =>
    by_cases hclose : c = ')'
    · subst hclose
      cases stack with
      | nil =>
        obtain rfl := Except.error.inj hs
        exact .notOpened h
      | cons items stack => exact nomatch step_close.symm.trans hs
    by_cases hopen : c = '('
    · subst hopen
      exact nomatch step_open.symm.trans hs
    by_cases hstart : c = '<'
    · subst hstart
      exact nomatch step_start.symm.trans hs
    · have hchar : (Item.char c).WellFormed := ⟨hopen, hclose, hstart⟩
      exact nomatch (step_char hchar).symm.trans hs
  | @name stack done read h hread =>
    rw [step_name] at hs
    split_ifs at hs with hend hcolon
    · exact .name h hread (.inl hend) (checkName_eq_error.1 (bind_pure_eq_error.1 hs))
    · exact .name h hread (.inr hcolon) (checkName_eq_error.1 (bind_pure_eq_error.1 hs))
  | @fragment stack done name read h hname hfresh hread =>
    obtain ⟨fragment, rfl⟩ : ∃ fragment : String, fragment.toList = read :=
      ⟨String.ofList read, String.toList_ofList⟩
    rw [step_fragment, List.reverse_reverse, String.ofList_toList] at hs
    split at hs
    next hend =>
      obtain ⟨hnone, rfl⟩ := hend
      obtain ⟨hbad, rfl⟩ := checkConstraint_eq_error.1 (bind_pure_eq_error.1 hs)
      exact .fragment h hname hfresh ⟨hread, hnone⟩ hbad
    · exact nomatch hs

/-- A text that is taken is no pattern if it ends before all is closed. -/
theorem unreadable_of_finish (h : r.Takes table cs) (hs : r.finish = .error reason) :
    Unreadable cs reason := by
  cases h with
  | @text stack done h =>
    cases stack with
    | nil => exact nomatch hs
    | cons items stack =>
      obtain rfl := Except.error.inj hs
      exact .inPart h
  | name h hread =>
    obtain rfl := Except.error.inj hs
    rw [List.reverse_reverse]
    exact .inName h hread
  | fragment h hname hfresh hread =>
    obtain rfl := Except.error.inj hs
    exact .inFragment h hname hfresh hread

/-- The reader takes what is before the fault, and refuses a character there or the end. -/
theorem Unreadable.refused (h : Unreadable cs reason) :
    (∃ before c rest, ∃ r : Reader, cs = before ++ c :: rest ∧ r.Takes table before ∧
      r.step table c = .error reason) ∨
    ∃ r : Reader, r.Takes table cs ∧ r.finish = .error reason := by
  cases h with
  | notOpened h => exact .inl ⟨_, ')', _, _, rfl, .text h, rfl⟩
  | inPart h => exact .inr ⟨_, .text h, rfl⟩
  | inName h hread =>
    refine .inr ⟨_, .name h hread, ?_⟩
    simp [Reader.finish]
  | inFragment h hname hfresh hread =>
    exact .inr ⟨_, .fragment h hname hfresh hread, rfl⟩
  | @name stack done read rest stop reason h hread hstop hname =>
    have hcheck := checkName_eq_error.2 hname
    refine .inl ⟨_, stop, rest, _, rfl, .name h hread, ?_⟩
    rw [step_name]
    rcases hstop with rfl | rfl
    · rw [if_pos rfl]
      exact bind_pure_eq_error.2 hcheck
    · rw [if_neg (by decide), if_pos rfl]
      exact bind_pure_eq_error.2 hcheck
  | @fragment stack done name fragment rest h hname hfresh hclosed hbad =>
    have hcheck : checkConstraint name fragment = .error (constraintFault name fragment) :=
      checkConstraint_eq_error.2 ⟨hbad, rfl⟩
    refine .inl ⟨_, '>', rest, _, rfl, .fragment h hname hfresh hclosed.1, ?_⟩
    rw [step_fragment, if_pos ⟨hclosed.2, rfl⟩, List.reverse_reverse, String.ofList_toList]
    exact bind_pure_eq_error.2 hcheck

end

/-- A pattern is not read exactly if it is no pattern, for the same reason. -/
theorem read_eq_error_iff {pattern : String} {reason : PatternFault} :
    read table pattern = .error reason ↔ Unreadable pattern.toList reason := by
  rw [read, bind_eq_error, foldlM_eq_error]
  simp only [← Reader.takes_iff]
  constructor
  · rintro (⟨before, c, rest, r, hchars, hr, hs⟩ | ⟨r, hr, hs⟩)
    · rw [hchars]
      exact unreadable_of_step hr hs
    · exact unreadable_of_finish hr hs
  · exact Unreadable.refused

end Pattern

/-! ### Patterns that are not compiled -/

/-- The first name without a group is the one that is told. -/
theorem findSlots_eq_error {rx : Regex} {reason : PatternFault} {names : List String}
    {index : Nat} : Route.findSlots rx index names = .error reason ↔
      ∃ i name, names[i]? = some name ∧
        (∀ j < i, (rx.group? (Segment.groupName (index + j))).isSome) ∧
        rx.group? (Segment.groupName (index + i)) = none ∧ reason = .noCapture name := by
  induction names generalizing index with
  | nil => simp [Route.findSlots]
  | cons name names ih =>
    have hnext : ∀ i, index + 1 + i = index + (i + 1) := fun i => by omega
    rw [Route.findSlots]
    cases hgroup : rx.group? (Segment.groupName index) with
    | none =>
      constructor
      · intro h
        obtain rfl := Except.error.inj h
        exact ⟨0, name, rfl, by simp, hgroup, rfl⟩
      · rintro ⟨i, name', hname, hbefore, -, rfl⟩
        cases i with
        | zero =>
          obtain rfl := Option.some.inj hname
          rfl
        | succ i =>
          have hfirst := hbefore 0 (Nat.succ_pos i)
          simp [hgroup] at hfirst
    | some slot =>
      dsimp only
      rw [bind_pure_eq_error, ih]
      constructor
      · rintro ⟨i, name', hname, hbefore, hnone, rfl⟩
        refine ⟨i + 1, name', hname, fun j hj => ?_, hnext i ▸ hnone, rfl⟩
        cases j with
        | zero => rw [Nat.add_zero, hgroup]; rfl
        | succ j => exact hnext j ▸ hbefore j (by omega)
      · rintro ⟨i, name', hname, hbefore, hnone, rfl⟩
        cases i with
        | zero => simp [hgroup] at hnone
        | succ i =>
          refine ⟨i, name', hname, fun j hj => ?_, (hnext i).symm ▸ hnone, rfl⟩
          exact (hnext j).symm ▸ hbefore (j + 1) (by omega)

namespace Route

open Pattern

/-- Where the constraints can be read, no route is made of segments for one of two reasons. -/
theorem assemble_eq_error {pattern : String} {segments : List Segment} {defaults : Params}
    {names : List String} {reason : PatternFault}
    (hchecks : ∀ p ∈ Segment.allParameters segments,
      ∃ check, Regex.ofString (anchored p.2) = .ok check) :
    assemble pattern segments (Segment.expression segments) defaults names = .error reason ↔
      ((∀ rx, Regex.ofString (Segment.expression segments) ≠ .ok rx) ∧ reason = .badExpression) ∨
      ∃ rx, Regex.ofString (Segment.expression segments) = .ok rx ∧
        findSlots rx 0 names = .error reason := by
  obtain ⟨checks, hread⟩ := exists_checks hchecks
  unfold assemble
  cases hrx : Regex.ofString (Segment.expression segments) with
  | error e =>
    constructor
    · exact fun h => .inl ⟨fun rx hrx => (nomatch hrx), (Except.error.inj h).symm⟩
    · rintro (⟨-, rfl⟩ | ⟨rx, hrx, -⟩)
      · rfl
      · exact nomatch hrx
  | ok rx => simp [bind_eq_error, hread, pure, Except.pure]

/-- A pattern that can be read, with the constraints of the options: it is written as the items. -/
structure Readable (pattern : String) (options : RouteOptions) (items : List Item) : Prop where
  table : ∀ e ∈ options.constraints.entries, IsConstraint e.2
  opened : Opened [] items
  chars : Item.allChars items = pattern.toList

section
variable {pattern : String} {options : RouteOptions} {items : List Item} {reason : PatternFault}

/-- What has been read is put together. -/
theorem Readable.compileReason_eq (h : Readable pattern options items) :
    compileReason pattern options =
      assemble pattern (Item.segments options.constraints items)
        (Segment.expression (Item.segments options.constraints items)) options.defaults
        (Item.names items) := by
  have hderives : Item.Derives items pattern := ⟨h.chars, h.opened.wellFormed⟩
  have hread : Pattern.read options.constraints pattern =
      .ok (Item.segments options.constraints items, Item.names items) :=
    read_eq_ok_iff.2 ⟨items, hderives, h.opened.nodup, h.opened.constrained, rfl, rfl⟩
  rw [compileReason, ConstraintTable.check_eq_ok.2 h.table, hread]
  rfl

theorem Readable.compileReason_eq_error (h : Readable pattern options items) :
    compileReason pattern options = .error reason ↔
      ((∀ rx, Regex.ofString (Segment.expression (Item.segments options.constraints items)) ≠
        .ok rx) ∧ reason = .badExpression) ∨
      ∃ rx, Regex.ofString (Segment.expression (Item.segments options.constraints items)) =
        .ok rx ∧ findSlots rx 0 (Item.names items) = .error reason := by
  rw [h.compileReason_eq]
  exact assemble_eq_error (Item.exists_check_of_segments h.table h.opened.constrained)

end

/-- Why a pattern is not compiled: what is wrong at the first step that fails, when all the steps
before it have been done. -/
inductive Flaw (pattern : String) (options : RouteOptions) : PatternFault → Prop
  /-- The first constraint of the table that cannot be one. -/
  | table {before rest : List (String × String)} {name fragment : String} :
      options.constraints.entries = before ++ (name, fragment) :: rest →
      (∀ e ∈ before, IsConstraint e.2) → ¬ IsConstraint fragment →
      Flaw pattern options (constraintFault name fragment)
  | text {reason : PatternFault} : (∀ e ∈ options.constraints.entries, IsConstraint e.2) →
      Unreadable pattern.toList reason → Flaw pattern options reason
  | expression {items : List Item} : Readable pattern options items →
      (∀ rx, Regex.ofString (Segment.expression (Item.segments options.constraints items)) ≠
        .ok rx) →
      Flaw pattern options .badExpression
  /-- The first parameter that has no group. -/
  | group {items : List Item} {rx : Regex} {i : Nat} {name : String} :
      Readable pattern options items →
      Regex.ofString (Segment.expression (Item.segments options.constraints items)) = .ok rx →
      (Item.names items)[i]? = some name →
      (∀ j < i, (rx.group? (Segment.groupName j)).isSome) →
      rx.group? (Segment.groupName i) = none →
      Flaw pattern options (.noCapture name)

section
variable {pattern : String} {options : RouteOptions} {reason : PatternFault}

/-- The constraints of a table are checked up to the first one that cannot be one. -/
theorem check_eq_error {table : ConstraintTable} :
    table.check = .error reason ↔ ∃ before name fragment rest,
      table.entries = before ++ (name, fragment) :: rest ∧ (∀ e ∈ before, IsConstraint e.2) ∧
        ¬ IsConstraint fragment ∧ reason = constraintFault name fragment := by
  rw [ConstraintTable.check, List.forM_eq_forM, forM_eq_error]
  simp only [checkConstraint_eq_ok, checkConstraint_eq_error, Prod.exists]

/-- A step that fails has a reason. -/
theorem flaw_of_compileReason (h : compileReason pattern options = .error reason) :
    Flaw pattern options reason := by
  -- The steps in their order; what has been done before is known to have succeeded.
  rcases bind_eq_error.1 h with hcheck | ⟨⟨⟩, hcheck, hmore⟩
  · obtain ⟨before, name, fragment, rest, hentries, hbefore, hbad, rfl⟩ := check_eq_error.1 hcheck
    exact .table hentries hbefore hbad
  have htable := ConstraintTable.check_eq_ok.1 hcheck
  rcases bind_eq_error.1 hmore with hread | ⟨⟨segments, names⟩, hread, -⟩
  · exact .text htable (read_eq_error_iff.1 hread)
  obtain ⟨items, hderives, hnodup, hvalid, -, -⟩ := read_eq_ok_iff.1 hread
  have hitems : Readable pattern options items :=
    ⟨htable, ⟨⟨hderives.wellFormed, hvalid⟩, hnodup⟩, hderives.chars⟩
  rcases hitems.compileReason_eq_error.1 h with ⟨hrx, rfl⟩ | ⟨rx, hrx, hslots⟩
  · exact .expression hitems hrx
  · obtain ⟨i, name, hname, hbefore, hnone, rfl⟩ := findSlots_eq_error.1 hslots
    simp only [Nat.zero_add] at hbefore hnone
    exact .group hitems hrx hname hbefore hnone

/-- Where there is a reason, its step fails, and none before it. -/
theorem Flaw.compileReason (h : Flaw pattern options reason) :
    compileReason pattern options = .error reason := by
  cases h with
  | table hentries hbefore hbad =>
    exact bind_eq_error.2 (.inl (check_eq_error.2 ⟨_, _, _, _, hentries, hbefore, hbad, rfl⟩))
  | text htable hread =>
    have hcheck := ConstraintTable.check_eq_ok.2 htable
    exact bind_eq_error.2 (.inr ⟨(), hcheck, bind_eq_error.2 (.inl (read_eq_error_iff.2 hread))⟩)
  | expression hitems hrx => exact hitems.compileReason_eq_error.2 (.inl ⟨hrx, rfl⟩)
  | @group items rx i name hitems hrx hname hbefore hnone =>
    have hslots : findSlots rx 0 (Item.names items) = .error (.noCapture name) := by
      refine findSlots_eq_error.2 ⟨i, name, hname, ?_⟩
      simpa only [Nat.zero_add, and_true] using ⟨hbefore, hnone⟩
    exact hitems.compileReason_eq_error.2 (.inr ⟨rx, hrx, hslots⟩)

/-- Whatever the reason is, the fault is about the pattern. -/
theorem compile_eq_error {fault : Fault} : compile pattern options = .error fault ↔
    ∃ reason, fault = .pattern pattern reason ∧ Flaw pattern options reason := by
  rw [compile_eq_error_iff_reason]
  constructor
  · rintro ⟨reason, rfl, h⟩
    exact ⟨reason, rfl, flaw_of_compileReason h⟩
  · rintro ⟨reason, rfl, h⟩
    exact ⟨reason, rfl, h.compileReason⟩

end

/-- A constraint with a comment in it hides what comes after it. By itself it is an expression. -/
example : compile "<a:b)(?x)#>/<c>" ⟨.empty, .empty⟩ =
    .error (.pattern "<a:b)(?x)#>/<c>" (.noCapture "c")) := by
  decide +kernel

end Route

namespace RouteTable

/-- In whatever way a table has come about, a route is not registered exactly if there is a reason
for which its pattern is not compiled: a constraint of the table, the text of the pattern at some
place, however deep in its parts, the expression, or the groups of it. There is no other reason; the
checks of values never fail. The fault of the pattern is about that very pattern, and it stands
within one that has the name that was asked for, or else the one that the table would have given.
The table stays as it was. -/
theorem register_eq_error_iff (changes : List Change) (id : Nat) (name : Option String)
    (pattern : String) (options : RouteOptions) (fault : Fault) :
    let t := after changes
    (Route.compile pattern options = .error fault ↔
      ∃ reason, fault = .pattern pattern reason ∧ Route.Flaw pattern options reason) ∧
    (t.register id name pattern options = .error fault ↔
      ∃ given reason, t.Gives name given ∧
        fault = .registration given (.pattern pattern reason) ∧
        Route.Flaw pattern options reason) ∧
    (t.register id name pattern options = .error fault →
      fault.isPatternFault ∧ t.change (.call id (.register name pattern options)) = t) := by
  intro t
  have h : t.Sound := (made_after changes).sound
  have hfault : t.register id name pattern options = .error fault ↔
      ∃ given reason, t.Gives name given ∧
        fault = .registration given (.pattern pattern reason) ∧
        Route.Flaw pattern options reason := by
    rw [register_eq_error]
    constructor
    · rintro ⟨cause, hcause, rfl⟩
      obtain ⟨reason, rfl, hflaw⟩ := Route.compile_eq_error.1 hcause
      exact ⟨_, reason, h.gives_iff.2 rfl, rfl, hflaw⟩
    · rintro ⟨given, reason, hgiven, rfl, hflaw⟩
      obtain rfl := h.gives_iff.1 hgiven
      exact ⟨_, Route.compile_eq_error.2 ⟨reason, rfl, hflaw⟩, rfl⟩
  refine ⟨Route.compile_eq_error, hfault, fun hfails => ⟨?_, ?_⟩⟩
  · obtain ⟨given, reason, -, rfl, -⟩ := hfault.1 hfails
    rfl
  · rw [change, call, hfails]

end RouteTable

end Routing
