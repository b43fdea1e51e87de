import Routing.Proofs.Building

/-!
Built paths give back their values. In a chain every parameter ends where a slash comes or where all
ends, and every optional part ends its sequence. If no value has a slash in it, a text is then
spelled in one way at most:

    <a>(/<b>(/<c>))   on  x/y     a = x   up to the slash
                                  b = y   up to the end
                                  nothing is left for the innermost part

So what matches a built path are the values that were written, and parts that were left out stay
out.
-/

namespace Routing

open Segment Regex

/-- The first segment is text that starts with a slash. -/
def SlashFirst : List Segment → Prop
  | .literal text :: _ => text.toList.head? = some '/'
  | _ => False

/-- What stands after a parameter starts with a slash, if there is anything. -/
def Separated : List Segment → Prop
  | [] => True
  | .optional children :: _ => SlashFirst children
  | ss => SlashFirst ss

/-- Optional parts end their sequence, and parameters are separated from what follows. -/
inductive Chain : List Segment → Prop
  | nil : Chain []
  | literal {text ss} : Chain ss → Chain (.literal text :: ss)
  | parameter {name constraint ss} : Separated ss → Chain ss →
      Chain (.parameter name constraint :: ss)
  | optional {children} : Chain children → Chain [.optional children]

/-! ### One spelling -/

section
variable {P : String → String → Prop}

/-- The constraints allow nothing but texts without a slash that are not empty. -/
def Plain (P : String → String → Prop) (params : List (String × String)) : Prop :=
  ∀ e ∈ params, ∀ value, P e.2 value → value ≠ "" ∧ '/' ∉ value.toList

/-- The empty text is spelled without values. -/
theorem Spells.values_eq_nil {ss : List Segment} {values : List (String × String)} {cs : List Char}
    (h : Spells P ss values cs) : Plain P (allParameters ss) → cs = [] → values = [] := by
  induction h with
  | nil => exact fun _ _ => rfl
  | literal _ ih => exact fun hplain hcs => ih hplain (List.append_eq_nil_iff.1 hcs).2
  | @parameter name c value ss values cs hP _ _ =>
    intro hplain hcs
    have hvalue := (List.append_eq_nil_iff.1 hcs).1
    obtain ⟨hempty, -⟩ := hplain (name, c) (.head _) value hP
    exact absurd (String.toList_eq_nil_iff.1 hvalue) hempty
  | present _ _ ih ih' =>
    intro hplain hcs
    obtain ⟨hchildren, hss⟩ := List.forall_mem_append.1 hplain
    obtain ⟨hleft, hright⟩ := List.append_eq_nil_iff.1 hcs
    rw [ih hchildren hleft, ih' hss hright]
    rfl
  | absent _ ih => exact fun hplain hcs => ih (List.forall_mem_append.1 hplain).2 hcs

/-- An optional part at the end is there as a whole, or nothing is. -/
theorem spells_optional_iff {children : List Segment} {values : List (String × String)}
    {cs : List Char} : Spells P [.optional children] values cs ↔
      Spells P children values cs ∨ values = [] ∧ cs = [] := by
  constructor
  · intro h
    cases h with
    | present h hnil =>
      cases hnil
      rw [List.append_nil, List.append_nil]
      exact .inl h
    | absent hnil =>
      cases hnil
      exact .inr ⟨rfl, rfl⟩
  · rintro (h | ⟨rfl, rfl⟩)
    · simpa using h.present .nil
    · exact .absent .nil

theorem Spells.head_of_slashFirst {ss : List Segment} {values : List (String × String)}
    {cs : List Char} (h : Spells P ss values cs) (hss : SlashFirst ss) : cs.head? = some '/' := by
  cases h with
  | nil | parameter | present | absent => exact hss.elim
  | @literal text =>
    have htext : text.toList.head? = some '/' := hss
    rw [List.head?_append, htext]
    rfl

/-- What follows a parameter is empty or starts with a slash. -/
theorem Spells.head_of_separated {ss : List Segment} {values : List (String × String)}
    {cs : List Char} (h : Spells P ss values cs) (hchain : Chain ss) (hss : Separated ss) :
    cs = [] ∨ cs.head? = some '/' := by
  cases hchain with
  | nil =>
    cases h
    exact .inl rfl
  | literal => exact .inr (h.head_of_slashFirst hss)
  | parameter => exact hss.elim
  | optional =>
    rcases spells_optional_iff.1 h with hchildren | ⟨-, rfl⟩
    · exact .inr (hchildren.head_of_slashFirst hss)
    · exact .inl rfl

theorem takeWhile_of_separated {cs ds : List Char} (hcs : '/' ∉ cs)
    (hds : ds = [] ∨ ds.head? = some '/') : (cs ++ ds).takeWhile (· != '/') = cs := by
  have hall : ∀ c ∈ cs, (c != '/') = true := by
    intro c hc
    rw [bne_iff_ne]
    rintro rfl
    exact hcs hc
  have hstop : ds.takeWhile (· != '/') = [] := by
    rcases hds with rfl | hds
    · rfl
    · obtain ⟨ds', rfl⟩ := List.head?_eq_some_iff.1 hds
      simp
  rw [List.takeWhile_append_of_pos hall, hstop, List.append_nil]

/-- A chain spells a text in one way at most. -/
theorem Spells.unique {ss : List Segment} (hchain : Chain ss) :
    Plain P (allParameters ss) → ∀ {values values' : List (String × String)} {cs : List Char},
      Spells P ss values cs → Spells P ss values' cs → values = values' := by
  induction hchain with
  | nil =>
    intro _ values values' cs h h'
    cases h
    cases h'
    rfl
  | @literal text ss _ ih =>
    intro hplain values values' cs h h'
    generalize hcs : cs = cs' at h'
    cases h with
    | literal h =>
      cases h' with
      | literal h' =>
        obtain rfl := List.append_cancel_left hcs
        exact ih hplain h h'
  | @parameter name c ss hseparated hss ih =>
    intro hplain values values' cs h h'
    generalize hcs : cs = cs' at h'
    obtain ⟨hc, hrest⟩ := List.forall_mem_cons.1 hplain
    cases h with
    | @parameter _ _ value _ values cs hP h =>
      cases h' with
      | @parameter _ _ value' _ values' cs' hP' h' =>
        -- Both values go up to the first slash.
        have hvalue : value.toList = value'.toList := by
          rw [← takeWhile_of_separated (hc value hP).2 (h.head_of_separated hss hseparated),
            ← takeWhile_of_separated (hc value' hP').2 (h'.head_of_separated hss hseparated), hcs]
        obtain rfl := String.toList_inj.1 hvalue
        obtain rfl := List.append_cancel_left hcs
        rw [ih hrest h h']
  | @optional children hchildren ih =>
    intro hplain values values' cs h h'
    have hinside := (List.forall_mem_append.1 hplain).1
    rcases spells_optional_iff.1 h with h | ⟨rfl, rfl⟩
    · rcases spells_optional_iff.1 h' with h' | ⟨rfl, rfl⟩
      · exact ih hinside h h'
      · exact h.values_eq_nil hinside rfl
    · rcases spells_optional_iff.1 h' with h' | ⟨rfl, -⟩
      · exact (h'.values_eq_nil hinside rfl).symm
      · rfl

end

/-- The default constraint takes no slash, and at least one character. -/
theorem plain_of_takes_default {value : String} (h : Takes defaultConstraint value) :
    value ≠ "" ∧ '/' ∉ value.toList := by
  obtain ⟨rx, hrx, hprogram⟩ : ∃ rx, Regex.ofString defaultConstraint = .ok rx ∧
      rx.program = #[.char (.compl (.single '/')), .fork 0 2] := by
    decide +kernel
  have hclosed : rx.program.Closed := rx.compiled ▸ rx.node.program_closed
  rw [Takes, constraintEnds, hrx] at h
  dsimp only at h
  rw [mem_ends_iff hclosed (Nat.zero_le _), hprogram] at h
  refine ⟨?_, fun hslash => ?_⟩
  · rintro rfl
    exact absurd (pos_lt_of_reaches rfl h (by simp)) (lt_irrefl _)
  · obtain ⟨i, hlt, hi⟩ := List.mem_iff_getElem.1 hslash
    have hlen : i < value.length := by rwa [String.length_toList] at hlt
    obtain ⟨s, set, c, hs, hc, hset⟩ := takesClass_of_reaches h i (Nat.zero_le i) hlen
    have hset' : set = .compl (.single '/') := by
      rcases s with _ | _ | s
      · simpa using hs.symm
      · simp at hs
      · simp at hs
    rw [List.getElem?_toArray, List.getElem?_eq_getElem hlt, hi, Option.some.injEq] at hc
    rw [hset', ← hc] at hset
    exact absurd hset (by decide)

/-! ### What is written -/

section
variable {P : String → String → Prop} {resolve : String → Option String}

/-- A spelling gives values to parameters of the segments, in their order. -/
theorem Spells.names_sublist {ss : List Segment} {values : List (String × String)} {cs : List Char}
    (h : Spells P ss values cs) :
    (values.map (·.1)).Sublist ((allParameters ss).map (·.1)) := by
  induction h with
  | nil => exact .slnil
  | literal _ ih => exact ih
  | parameter _ _ ih => exact .cons_cons _ ih
  | present _ _ ih ih' =>
    rw [allParameters, List.map_append, List.map_append]
    exact ih.append ih'
  | absent _ ih =>
    rw [allParameters, List.map_append]
    exact ih.trans (List.sublist_append_right _ _)

/-- Each value of a spelling is allowed by the constraint of its parameter. -/
theorem Spells.exists_parameter {ss : List Segment} {values : List (String × String)}
    {cs : List Char} (h : Spells P ss values cs) :
    ∀ v ∈ values, ∃ e ∈ allParameters ss, e.1 = v.1 ∧ P e.2 v.2 := by
  induction h with
  | nil => simp
  | literal _ ih => exact ih
  | @parameter name c value ss _ _ hP _ ih =>
    intro v hv
    rcases List.mem_cons.1 hv with rfl | hv
    · exact ⟨(name, c), .head _, rfl, hP⟩
    · obtain ⟨e, he, hmatch⟩ := ih v hv
      exact ⟨e, List.mem_cons_of_mem _ he, hmatch⟩
  | present _ _ ih ih' =>
    intro v hv
    rcases List.mem_append.1 hv with hv | hv
    · obtain ⟨e, he, hmatch⟩ := ih v hv
      exact ⟨e, List.mem_append_left _ he, hmatch⟩
    · obtain ⟨e, he, hmatch⟩ := ih' v hv
      exact ⟨e, List.mem_append_right _ he, hmatch⟩
  | absent _ ih =>
    intro v hv
    obtain ⟨e, he, hmatch⟩ := ih v hv
    exact ⟨e, List.mem_append_right _ he, hmatch⟩

/-- All values of a spelling are allowed. -/
theorem Spells.forall_values {ss : List Segment} {values : List (String × String)} {cs : List Char}
    (h : Spells P ss values cs) (hplain : Plain P (allParameters ss)) : ∀ e ∈ values, e.2 ≠ "" := by
  intro v hv
  obtain ⟨e, he, -, hP⟩ := h.exists_parameter v hv
  exact (hplain e he v.2 hP).1

end

/-! ### The round trip -/

theorem dropSlashes_eq {cs : List Char} (h : cs.head? ≠ some '/') : dropSlashes cs = cs := by
  cases cs with
  | nil => rfl
  | cons c cs =>
    rw [dropSlashes, List.dropWhile_cons_of_neg]
    simpa using h

/-- A path without slashes at its ends is matched as it is. -/
theorem normalizePath_eq {path : String} (hfirst : path.toList.head? ≠ some '/')
    (hlast : path.toList.getLast? ≠ some '/') : normalizePath path = path := by
  rw [normalizePath, dropSlashes_eq hfirst, dropSlashesRight, dropSlashes_eq (by
    rwa [List.head?_reverse]), List.reverse_reverse, String.ofList_toList]

namespace Route

/-- The route is a chain: its segments are one, and its constraints are expressions by themselves
that test no places and take no empty text and no slash. -/
structure Chained (r : Route) : Prop where
  chain : Chain r.segments
  alone : r.Standalone
  free : TestFree (allParameters r.segments)
  plain : Plain Takes (allParameters r.segments)

/-- If constraints test no places, what matches is spelled by values that they take. -/
theorem matchPath_takes {r : Route} (h : r.Made) (hr : r.Standalone)
    (hfree : TestFree (allParameters r.segments)) {path : String} {m : Params}
    (hm : r.matchPath path = some m) :
    ∃ values, Spells Takes r.segments values (normalizePath path).toList ∧
      m = r.defaults.putAll (valued values) := by
  rw [matchPath_eq_walk h hr, walk, Option.map_eq_some_iff] at hm
  obtain ⟨w, hw, rfl⟩ := hm
  have hend := List.find?_some hw
  have hstop : w.stop = (normalizePath path).toList.toArray.size := of_decide_eq_true hend
  exact ⟨_, spells_of_whole (allows_takes hfree) (List.mem_of_find?_eq_some hw) hstop, rfl⟩

/-- A path that a chain builds matches it again, and gives the defaults, replaced and added to by
the values that were written into the path, and nothing else. -/
theorem matchPath_uri {pattern : String} {options : RouteOptions} {r : Route}
    (h : compile pattern options = .ok r) (hr : r.Chained) {params : Params} {u : String}
    (hu : r.uri params = .ok u) (hfirst : u.toList.head? ≠ some '/')
    (hlast : u.toList.getLast? ≠ some '/') :
    ∃ m, r.matchPath u = some m ∧
      m = r.defaults.putAll (allWritten (r.resolve params) r.segments) ∧
      ∀ name, m.get? name =
        ((allWritten (r.resolve params) r.segments).lookup name).or (r.defaults.get? name) := by
  have hspells := spells_of_uri h hr.alone hu
  have hnormal := normalizePath_eq hfirst hlast
  have hsome := ((isSome_matchPath_uri h hr.alone hu).2 hr.free).2 hnormal
  obtain ⟨m, hm⟩ := Option.isSome_iff_exists.1 hsome
  obtain ⟨values, hvalues, hput⟩ := matchPath_takes (.compiled h) hr.alone hr.free hm
  rw [hnormal] at hvalues
  obtain rfl := hvalues.unique hr.chain hr.plain hspells
  have hvalued : valued (allWritten (r.resolve params) r.segments) =
      allWritten (r.resolve params) r.segments :=
    List.filter_eq_self.2 fun e he => by simpa using hspells.forall_values hr.plain e he
  rw [hvalued] at hput
  have hnodup := (Made.compiled h).sound.nodup
  rw [(Made.compiled h).sound.names] at hnodup
  refine ⟨m, hm, hput, fun name => ?_⟩
  rw [hput, Dict.get?_putAll name _ _ (hnodup.sublist hspells.names_sublist)]

/-- The innermost part is left out, and the default of its parameter stays. -/
theorem matchPath_uri_news : ∃ (r : Route) (m : Params),
    compile "(<controller>(/<action>(/<id>)))" ⟨.ofList [("id", "0"), ("action", "index")], .empty⟩ =
        .ok r ∧ r.Chained ∧
      r.uri (.ofList [("controller", "news"), ("id", "")]) = .ok "news/index" ∧
      r.matchPath "news/index" = some m ∧
      m = .ofList [("action", "index"), ("controller", "news"), ("id", "0")] := by
  obtain ⟨r, hr, hsegments, halone, hfree, hu, hput⟩ : ∃ r : Route,
      compile "(<controller>(/<action>(/<id>)))"
          ⟨.ofList [("id", "0"), ("action", "index")], .empty⟩ = .ok r ∧
        r.segments = [.optional [.parameter "controller" defaultConstraint,
          .optional [.literal "/", .parameter "action" defaultConstraint,
            .optional [.literal "/", .parameter "id" defaultConstraint]]]] ∧
        r.Standalone ∧ TestFree (allParameters r.segments) ∧
        r.uri (.ofList [("controller", "news"), ("id", "")]) = .ok "news/index" ∧
        r.defaults.putAll (allWritten
            (r.resolve (.ofList [("controller", "news"), ("id", "")])) r.segments) =
          .ofList [("action", "index"), ("controller", "news"), ("id", "0")] := by
    decide +kernel
  have hchain : r.Chained := by
    refine ⟨?_, halone, hfree, ?_⟩
    · rw [hsegments]
      exact .optional (.parameter rfl (.optional (.literal (.parameter rfl
        (.optional (.literal (.parameter trivial .nil)))))))
    · intro e he value hvalue
      have hdefault : e.2 = defaultConstraint := by
        rw [hsegments] at he
        simp only [allParameters, parameters, List.mem_append, List.mem_cons, List.not_mem_nil,
          or_false, false_or] at he
        rcases he with rfl | rfl | rfl <;> rfl
      exact plain_of_takes_default (hdefault ▸ hvalue)
  obtain ⟨m, hm, heq, -⟩ := matchPath_uri hr hchain hu (by decide +kernel) (by decide +kernel)
  exact ⟨r, m, hr, hchain, hu, hm, heq.trans hput⟩

end Route

end Routing
