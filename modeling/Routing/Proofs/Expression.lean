import Routing.Proofs.Regex.Fragment
import Routing.Proofs.Regex.Layout
import Routing.Route

/-!
What the expression of a route says. The text that is written for segments is read as exactly the
nodes that the segments stand for: a literal as its characters, a parameter as a group around its
constraint, an optional part as a repetition that is taken once or not at all.

    users/<id>(/<action>)

    u s e r s /     (?P<__p0> … )          (?: / (?P<__p1> … ) )?
    char …          capture 1 …            iter (cat (char /) (capture 2 …)) 0 1

The groups of a constraint are counted after the group around it. So the group of a parameter has
one more than the number of groups before it.
-/

namespace Routing

open Regex

namespace Segment

mutual

/-- The number of groups in the expression of a segment. -/
def groupCount : Segment → Nat
  | literal _ => 0
  | parameter _ constraint => ownGroups constraint + 1
  | optional children => allGroupCount children

/-- The number of groups in the expression of some segments. -/
def allGroupCount : List Segment → Nat
  | [] => 0
  | s :: ss => s.groupCount + allGroupCount ss

end

mutual

/-- The nodes of a segment after so many groups, whose first parameter has the given number. -/
def nodes (groups index : Nat) : Segment → List Node
  | literal text => text.toList.map fun c => .char (.single c)
  | parameter _ constraint =>
    [.capture (groups + 1) (some (groupName index)) ((ownNode constraint).shift (groups + 1))]
  | optional children => [.iter (.seq (allNodes groups index children)) 0 (some 1) true]

/-- The nodes of some segments. -/
def allNodes (groups index : Nat) : List Segment → List Node
  | [] => []
  | s :: ss =>
    s.nodes groups index ++ allNodes (groups + s.groupCount) (index + s.parameters.length) ss

end

mutual

/-- The groups of the parameters of a segment. -/
def slots (groups : Nat) : Segment → List Nat
  | literal _ => []
  | parameter _ _ => [groups + 1]
  | optional children => allSlots groups children

/-- The groups of the parameters of some segments. -/
def allSlots (groups : Nat) : List Segment → List Nat
  | [] => []
  | s :: ss => s.slots groups ++ allSlots (groups + s.groupCount) ss

end

mutual

theorem length_slots (groups : Nat) : ∀ s : Segment, (s.slots groups).length = s.parameters.length
  | literal _ => rfl
  | parameter _ _ => rfl
  | optional children => length_allSlots groups children

theorem length_allSlots (groups : Nat) :
    ∀ ss : List Segment, (allSlots groups ss).length = (allParameters ss).length
  | [] => rfl
  | s :: ss => by
    rw [allSlots, allParameters, List.length_append, List.length_append, length_slots,
      length_allSlots]

end

/-- None of the nodes is a sequence. -/
theorem parts_of_mem_nodes {groups index : Nat} {s : Segment} {a : Node}
    (h : a ∈ s.nodes groups index) : a.parts = [a] := by
  cases s with
  | literal text =>
    obtain ⟨c, -, rfl⟩ := List.mem_map.1 h
    rfl
  | parameter | optional =>
    rw [List.mem_singleton.1 h]
    rfl

theorem parts_of_mem_allNodes : ∀ {ss : List Segment} {groups index : Nat} {a : Node},
    a ∈ allNodes groups index ss → a.parts = [a]
  | [], _, _, _, h => by simp [allNodes] at h
  | s :: ss, _, _, _, h => by
    rw [allNodes] at h
    exact (List.mem_append.1 h).elim parts_of_mem_nodes parts_of_mem_allNodes

end Segment

/-! ### What reading adds -/

/-- What reading has added to the innermost level. -/
structure Adds (p q : Progress) (nodes : List Node) (groups : Nat) : Prop where
  mode : q.mode = p.mode
  below : q.below = p.below
  kind : q.top.kind = p.top.kind
  outer : q.top.outer = p.top.outer
  branches : q.top.branches = p.top.branches
  items : q.top.items.map (·.node) = nodes.reverse ++ p.top.items.map (·.node)
  groups : q.groups = p.groups + groups
  names : p.names ⊆ q.names
  known : ∀ a ∈ nodes, a.Captures fun _ name => ∀ s, name = some s → s ∈ q.names

theorem Adds.refl (p : Progress) : Adds p p [] 0 where
  mode := rfl
  below := rfl
  kind := rfl
  outer := rfl
  branches := rfl
  items := rfl
  groups := rfl
  names := List.Subset.refl _
  known := List.forall_mem_nil _

theorem Adds.trans {p q r : Progress} {as bs : List Node} {m n : Nat} (h : Adds p q as m)
    (h' : Adds q r bs n) : Adds p r (as ++ bs) (m + n) where
  mode := h'.mode.trans h.mode
  below := h'.below.trans h.below
  kind := h'.kind.trans h.kind
  outer := h'.outer.trans h.outer
  branches := h'.branches.trans h.branches
  items := by rw [h'.items, h.items, List.reverse_append, List.append_assoc]
  groups := by rw [h'.groups, h.groups, Nat.add_assoc]
  names := List.Subset.trans h.names h'.names
  known := List.forall_mem_append.2
    ⟨fun a ha => (h.known a ha).imp fun _ _ hi s hs => h'.names (hi s hs), h'.known⟩

/-- An item that remembers nothing. -/
theorem adds_push {p : Progress} (piece : Piece) (h : piece.node.Captures fun _ _ => False) :
    Adds p (p.push piece) [piece.node] 0 where
  mode := rfl
  below := rfl
  kind := rfl
  outer := rfl
  branches := rfl
  items := rfl
  groups := rfl
  names := List.Subset.refl _
  known := by simpa using h.imp fun _ _ hf => hf.elim

/-- The names of parameters are new, and are those of their groups. -/
def Named (p : Progress) (nodes : List Node) (index : Nat) (slots : List Nat) : Prop :=
  ∀ (j : Nat) (slot : Nat), slots[j]? = some slot → Segment.groupName (index + j) ∉ p.names ∧
    nodes.findSome? (Node.group? (Segment.groupName (index + j))) = some slot

theorem named_nil (p : Progress) (nodes : List Node) (index : Nat) : Named p nodes index [] := by
  intro j slot h
  simp at h

/-- A name that no group has is not found. -/
theorem group?_eq_none {name : String} {a : Node}
    (h : a.Captures fun _ n => n ≠ some name) : a.group? name = none := by
  induction a with
  | empty | char | look => rfl
  | capture i n a ih => rw [Node.group?, if_neg h.1, ih h.2]
  | cat a b iha ihb | alt a b iha ihb => rw [Node.group?, iha h.1, ihb h.2]; rfl
  | iter a lo hi greedy ih => exact ih h

theorem Named.append {p q : Progress} {as bs : List Node} {m index : Nat} {ss ts : List Nat}
    (h : Named p as index ss) (hadds : Adds p q as m) (h' : Named q bs (index + ss.length) ts) :
    Named p (as ++ bs) index (ss ++ ts) := by
  intro j slot hj
  rw [List.findSome?_append]
  by_cases hlt : j < ss.length
  · rw [List.getElem?_append_left hlt] at hj
    obtain ⟨hnew, hfound⟩ := h j slot hj
    exact ⟨hnew, by rw [hfound]; rfl⟩
  · rw [List.getElem?_append_right (not_lt.1 hlt)] at hj
    obtain ⟨hnew, hfound⟩ := h' _ slot hj
    rw [Nat.add_assoc, Nat.add_sub_cancel' (not_lt.1 hlt)] at hnew hfound
    have hnone : as.findSome? (Node.group? (Segment.groupName (index + j))) = none := by
      rw [List.findSome?_eq_none_iff]
      refine fun a ha => group?_eq_none ((hadds.known a ha).imp fun _ _ hi => ?_)
      rintro rfl
      exact hnew (hi _ rfl)
    exact ⟨fun hmem => hnew (hadds.names hmem), by rw [hnone, hfound]; rfl⟩

/-! ### Reading what was written -/

theorem isSign_of_isMeta {c : Char} (h : isMeta c = false) : Progress.isSign c = false := by
  simp only [isMeta, Progress.isSign, List.contains_eq_mem, List.mem_cons, List.not_mem_nil,
    or_false, decide_eq_false_iff_not, not_or] at h ⊢
  tauto

theorem readEscape_of_isMeta {c : Char} (h : isMeta c = true) (cs : List Char) :
    readEscape .initial (c :: cs) = .ok (.literal c, cs) := by
  simp only [isMeta, List.contains_eq_mem, List.mem_cons, List.not_mem_nil, or_false,
    decide_eq_true_eq] at h
  rcases h with rfl | rfl | rfl | rfl | rfl | rfl | rfl | rfl | rfl | rfl | rfl | rfl | rfl | rfl |
    rfl | rfl | rfl | rfl <;> rfl

/-- A character as it is written in an expression. -/
def escaped (c : Char) : List Char := if isMeta c then ['\\', c] else [c]

theorem toList_escape (text : String) :
    (Regex.escape text).toList = text.toList.flatMap escaped := by
  rw [Regex.escape, String.toList_ofList]
  rfl

/-- A written character is read as itself. -/
theorem reads_escaped {p : Progress} (hmode : p.mode = .initial) (c : Char) (tail : List Char) :
    Reads p (escaped c ++ tail) (p.pushNode (.char (.single c))) tail := by
  have hskip : ∀ d ds, p.mode.skip (d :: ds) = d :: ds := by
    intro d ds
    rw [hmode, skip_initial]
  unfold escaped
  split
  next hmeta =>
    refine .one (hskip '\\' (c :: tail)) ?_
    rw [Progress.step_escape, hmode, readEscape_of_isMeta hmeta]
    rfl
  next hplain =>
    refine .one (hskip c tail) ?_
    rw [Progress.step_plain (isSign_of_isMeta (Bool.not_eq_true _ ▸ hplain)), hmode]
    rfl

theorem reads_literal : ∀ (cs : List Char) {p : Progress} (tail : List Char), p.mode = .initial →
    ∃ q, Reads p (cs.flatMap escaped ++ tail) q tail ∧
      Adds p q (cs.map fun c => .char (.single c)) 0
  | [], p, tail, _ => ⟨p, .refl _ _, .refl p⟩
  | c :: cs, p, tail, hmode => by
    obtain ⟨q, hreads, hadds⟩ := reads_literal cs (p := p.pushNode (.char (.single c))) tail hmode
    refine ⟨q, ?_, (adds_push ⟨.char (.single c), 0, true⟩ trivial).trans hadds⟩
    rw [List.flatMap_cons, List.append_assoc]
    exact (reads_escaped hmode c _).trans hreads

theorem isAlphanumeric_of_isDigit {c : Char} (h : c.isDigit) : Text.isAlphanumeric c = true := by
  simp only [Char.isDigit, Bool.and_eq_true, decide_eq_true_eq] at h
  have hlt : c.toNat < 128 := by
    have hle : c.toNat ≤ '9'.toNat := UInt32.le_iff_toNat_le.1 h.2
    exact hle.trans_lt (by decide)
  rw [Text.isAlphanumeric, if_pos hlt]
  simp only [Text.isAsciiAlphanumeric, Text.isAsciiDigit, Bool.or_eq_true, decide_eq_true_eq]
  exact .inr h

/-- The name of a parameter's group is one that a group can have. -/
theorem readGroupName_groupName (index : Nat) (cs : List Char) :
    readGroupName ((Segment.groupName index).toList ++ '>' :: cs) =
      .ok (Segment.groupName index, cs) := by
  have hlist : (Segment.groupName index).toList = '_' :: '_' :: 'p' :: Nat.toDigits 10 index := by
    simp [Segment.groupName, Nat.toString_eq_repr, Nat.toList_repr]
  have hname : ∀ c ∈ (Segment.groupName index).toList, Regex.isNameChar false c ∧ (c != '>') := by
    intro c hc
    simp only [hlist, List.mem_cons] at hc
    rcases hc with rfl | rfl | rfl | hc
    · decide +kernel
    · decide +kernel
    · decide +kernel
    · have hdigit := Nat.isDigit_of_mem_toDigits (by decide) (by decide) hc
      refine ⟨by simp [Regex.isNameChar, isAlphanumeric_of_isDigit hdigit], ?_⟩
      rw [bne_iff_ne]
      rintro rfl
      exact absurd hdigit (by decide)
  have htake : _ = _ ++ ('>' :: cs).takeWhile _ :=
    List.takeWhile_append_of_pos fun c hc => (hname c hc).2
  have hdrop : _ = ('>' :: cs).dropWhile _ :=
    List.dropWhile_append_of_pos fun c hc => (hname c hc).2
  have hall : (('_' :: 'p' :: Nat.toDigits 10 index).all (Regex.isNameChar false)) = true :=
    List.all_eq_true.2 fun c hc => (hname c (hlist ▸ .tail _ hc)).1
  rw [readGroupName, htake, hdrop]
  simp only [List.takeWhile_cons, List.dropWhile_cons, bne_self_eq_false, Bool.false_eq_true,
    if_false, List.append_nil]
  rw [hlist]
  simp only
  rw [hall, if_pos (by decide +kernel), ← hlist, String.ofList_toList]

/-- In the group of a parameter that was just opened. -/
def openedParameter (p : Progress) (index : Nat) : Progress :=
  { p with names := Segment.groupName index :: p.names }.openCapture
    (some (Segment.groupName index))

/-- The opening of a parameter's group. -/
theorem readOpening_groupName {p : Progress} (hmode : p.mode = .initial) (index : Nat)
    (cs : List Char) :
    p.readOpening ('?' :: 'P' :: '<' :: ((Segment.groupName index).toList ++ '>' :: cs)) =
      if p.names.contains (Segment.groupName index) then .error .repeatedGroupName
      else .ok (openedParameter p index, cs) := by
  simp only [Progress.readOpening, hmode, skip_initial, Progress.openNamed,
    readGroupName_groupName, openedParameter, bind, Except.bind]
  rfl

/-- A parameter is read as the group around its constraint. -/
theorem reads_parameter {p r : Progress} {c : String} {index : Nat} {tail : List Char}
    (hmode : p.mode = .initial) (hc : Fragment c)
    (hall : ReadsAll p ('(' :: '?' :: 'P' :: '<' :: ((Segment.groupName index).toList ++
      '>' :: (c.toList ++ ')' :: tail))) r) :
    ∃ q, Reads p ('(' :: '?' :: 'P' :: '<' :: ((Segment.groupName index).toList ++
        '>' :: (c.toList ++ ')' :: tail))) q tail ∧
      Adds p q [.capture (p.groups + 1) (some (Segment.groupName index))
        ((ownNode c).shift (p.groups + 1))] (ownGroups c + 1) ∧
      Segment.groupName index ∉ p.names := by
  have hskip : ∀ cs, p.mode.skip ('(' :: cs) = '(' :: cs := fun cs => by rw [hmode, skip_initial]
  obtain ⟨outer, mid, hstep, hinside⟩ := hall.step_of_skip (hskip _)
  have hopen := hstep
  change p.readOpening _ = _ at hopen
  rw [readOpening_groupName hmode] at hopen
  split at hopen
  · simp at hopen
  next hnew =>
    obtain ⟨rfl, rfl⟩ := Prod.mk.inj (Except.ok.inj hopen)
    have hstart : (openedParameter p index).within .start = openedParameter p index :=
      Progress.within_start hmode rfl rfl
    have hreads := hc.reads_closed hstart rfl hinside
    refine ⟨_, .step (hskip _) hstep hreads, ?_, by simpa using hnew⟩
    obtain ⟨rx, hrx⟩ := hc.alone
    exact {
      mode := rfl
      below := rfl
      kind := rfl
      outer := rfl
      branches := rfl
      items := by
        simp only [Level.push, List.map_cons, List.reverse_singleton, List.singleton_append]
        congr 1
        simp only [Level.close, Level.content_filled]
        rfl
      groups := by
        simp only [openedParameter, Progress.openCapture, Progress.openGroup]
        omega
      names := fun s hs => List.mem_append_right _ (.tail _ hs)
      known := by
        simp only [List.mem_singleton, forall_eq]
        refine ⟨fun s hs => List.mem_append_right _ (Option.some.inj hs ▸ .head _), ?_⟩
        exact (Node.captures_shift _ _).2 ((own_captures hrx).imp fun i n hi s hs =>
          List.mem_append_left _ (hi.2.2 s hs)) }

theorem sequence_node {items : List Piece} {nodes : List Node}
    (h : items.map (·.node) = nodes.reverse) (hparts : ∀ a ∈ nodes, a.parts = [a]) :
    (Piece.sequence items).node = .seq nodes := by
  obtain rfl : nodes = items.reverse.map (·.node) := by
    rw [List.map_reverse, h, List.reverse_reverse]
  match items, hparts with
  | [], _ => rfl
  | [p], hparts =>
    have hp := hparts p.node (by simp)
    simp [Piece.sequence, Node.seq, hp, Node.ofParts]
  | p :: q :: items, _ => rfl

/-- A body that is there once or not at all. -/
theorem repeated_once (a : Node) : a.repeated 0 (some 1) true = .iter a 0 (some 1) true := by
  unfold Node.repeated
  cases a.takesNothing <;> rfl

theorem readLazy_eq {cs : List Char} (h : cs.head? ≠ some '?') : readLazy cs = (false, cs) := by
  unfold readLazy
  split
  · simp at h
  · rfl

/-- The group in which `q` has been read is closed, after what had been read before it. -/
def closedPart (p q : Progress) : Progress :=
  { q with top := p.top.push q.top.close, below := p.below, mode := .initial }

/-- The closed group is there once or not at all. -/
def optionalPart (p q : Progress) (nodes : List Node) : Progress :=
  { closedPart p q with
    top := p.top.push ⟨.iter (.seq nodes) 0 (some 1) true, q.top.close.height + 1, true⟩ }

section
variable {p q : Progress} {nodes : List Node} {groups : Nat}

theorem close_part (hadds : Adds (p.openGroup .plain .initial) q nodes groups)
    (hparts : ∀ a ∈ nodes, a.parts = [a]) :
    q.top.close.node = .seq nodes ∧ q.top.close.repeatable = true := by
  have hkind : q.top.kind = .plain := hadds.kind
  have hbranches : q.top.branches = [] := hadds.branches
  have hitems : q.top.items.map (·.node) = nodes.reverse :=
    hadds.items.trans (List.append_nil _)
  rw [Level.close, hkind]
  refine ⟨?_, rfl⟩
  rw [← sequence_node hitems hparts, Level.content, hbranches]
  rfl

theorem closeGroup_part (hmode : p.mode = .initial)
    (hadds : Adds (p.openGroup .plain .initial) q nodes groups) :
    q.closeGroup = .ok (closedPart p q) := by
  have hbelow : q.below = p.top :: p.below := hadds.below
  have houter : q.top.outer = .initial := hadds.outer.trans hmode
  rw [Progress.closeGroup, hbelow, houter]
  rfl

theorem repeatLast_part (hadds : Adds (p.openGroup .plain .initial) q nodes groups)
    (hparts : ∀ a ∈ nodes, a.parts = [a]) :
    (closedPart p q).repeatLast 0 (some 1) false = .ok (optionalPart p q nodes) := by
  obtain ⟨hnode, hrepeatable⟩ := close_part hadds hparts
  rw [optionalPart, ← repeated_once, ← hnode]
  simp only [Progress.repeatLast, closedPart, Level.push, hrepeatable, if_true]
  rfl

theorem adds_optionalPart (hmode : p.mode = .initial)
    (hadds : Adds (p.openGroup .plain .initial) q nodes groups) :
    Adds p (optionalPart p q nodes) [.iter (.seq nodes) 0 (some 1) true] groups where
  mode := hmode.symm
  below := rfl
  kind := rfl
  outer := rfl
  branches := rfl
  items := rfl
  groups := hadds.groups
  names := hadds.names
  known := by
    simp only [List.mem_singleton, forall_eq]
    exact (Node.captures_seq _).2 hadds.known

/-- An optional part is closed and made optional. -/
theorem reads_optional_end {tail : List Char} (hmode : p.mode = .initial)
    (htail : tail.head? ≠ some '?') (hadds : Adds (p.openGroup .plain .initial) q nodes groups)
    (hparts : ∀ a ∈ nodes, a.parts = [a]) :
    Reads q (')' :: '?' :: tail) (optionalPart p q nodes) tail := by
  have hqmode : q.mode = .initial := hadds.mode
  have hclose : q.step ')' ('?' :: tail) = .ok (closedPart p q, '?' :: tail) := by
    rw [Progress.step_close, closeGroup_part hmode hadds]
    rfl
  have hrepeat : (closedPart p q).step '?' tail = .ok (optionalPart p q nodes, tail) := by
    rw [Progress.step_repeat (.head _), readLazy_eq htail, repeatLast_part hadds hparts]
    rfl
  exact .step (by rw [hqmode, skip_initial]) hclose (.one (skip_initial _) hrepeat)

end

/-! ### Whole trees -/

theorem head?_write_append (index : Nat) (s : Segment) {tail : List Char}
    (h : tail.head? ≠ some '?') : ((s.write index).toList ++ tail).head? ≠ some '?' := by
  cases s with
  | literal text =>
    rw [Segment.write, toList_escape]
    cases text.toList with
    | nil => exact h
    | cons c cs =>
      rw [List.flatMap_cons, escaped]
      split
      · simp
      next hplain =>
        rintro ⟨⟩
        exact hplain rfl
  | parameter | optional => simp [Segment.write]

theorem head?_writeAll_append {tail : List Char} (h : tail.head? ≠ some '?') :
    ∀ (ss : List Segment) (index : Nat),
      ((Segment.writeAll index ss).toList ++ tail).head? ≠ some '?'
  | [], _ => by simpa [Segment.writeAll] using h
  | s :: ss, index => by
    rw [Segment.writeAll, String.toList_append, List.append_assoc]
    exact head?_write_append index s (head?_writeAll_append h ss _)

mutual

/-- What is written for a segment is read as its nodes, if its constraints are fragments and the
whole text is read. -/
theorem reads_segment : ∀ (s : Segment) {index : Nat} {p r : Progress} {tail : List Char},
    p.mode = .initial → (∀ e ∈ s.parameters, Fragment e.2) → tail.head? ≠ some '?' →
    ReadsAll p ((s.write index).toList ++ tail) r →
    ∃ q, Reads p ((s.write index).toList ++ tail) q tail ∧
      Adds p q (s.nodes p.groups index) s.groupCount ∧
      Named p (s.nodes p.groups index) index (s.slots p.groups)
  | .literal text, index, p, r, tail, hmode, _, _, _ => by
    rw [Segment.write, toList_escape]
    obtain ⟨q, hreads, hadds⟩ := reads_literal text.toList tail hmode
    exact ⟨q, hreads, hadds, named_nil _ _ _⟩
  | .parameter name c, index, p, r, tail, hmode, hparams, _, hall => by
    have hwritten : ((Segment.parameter name c).write index).toList ++ tail =
        '(' :: '?' :: 'P' :: '<' :: ((Segment.groupName index).toList ++
          '>' :: (c.toList ++ ')' :: tail)) := by
      simp [Segment.write]
    rw [hwritten] at hall ⊢
    obtain ⟨q, hreads, hadds, hnew⟩ := reads_parameter hmode (hparams (name, c) (.head _)) hall
    refine ⟨q, hreads, hadds, fun j slot hj => ?_⟩
    obtain ⟨rfl, rfl⟩ : j = 0 ∧ p.groups + 1 = slot := by
      cases j with
      | zero => simpa [Segment.slots] using hj
      | succ j => simp [Segment.slots] at hj
    exact ⟨hnew, by simp [Segment.nodes, Node.group?]⟩
  | .optional children, index, p, r, tail, hmode, hparams, htail, hall => by
    have hwritten : ((Segment.optional children).write index).toList ++ tail =
        '(' :: '?' :: ':' :: ((Segment.writeAll index children).toList ++ ')' :: '?' :: tail) := by
      simp [Segment.write]
    rw [hwritten] at hall ⊢
    have hopen := reads_plainGroup hmode
      ((Segment.writeAll index children).toList ++ ')' :: '?' :: tail)
    obtain ⟨q, hreads, hadds, hnamed⟩ := reads_segments children rfl hparams (by simp)
      (hall.after hopen)
    have hend := reads_optional_end hmode htail hadds
      fun a ha => Segment.parts_of_mem_allNodes ha
    refine ⟨_, hopen.trans (hreads.trans hend), adds_optionalPart hmode hadds,
      fun j slot hj => ?_⟩
    obtain ⟨hnew, hfound⟩ := hnamed j slot hj
    refine ⟨hnew, ?_⟩
    rw [Segment.nodes, List.findSome?_singleton, Node.group?, Node.group?_seq]
    exact hfound

/-- What is written for segments is read as their nodes, one after another. -/
theorem reads_segments : ∀ (ss : List Segment) {index : Nat} {p r : Progress} {tail : List Char},
    p.mode = .initial → (∀ e ∈ Segment.allParameters ss, Fragment e.2) → tail.head? ≠ some '?' →
    ReadsAll p ((Segment.writeAll index ss).toList ++ tail) r →
    ∃ q, Reads p ((Segment.writeAll index ss).toList ++ tail) q tail ∧
      Adds p q (Segment.allNodes p.groups index ss) (Segment.allGroupCount ss) ∧
      Named p (Segment.allNodes p.groups index ss) index (Segment.allSlots p.groups ss)
  | [], index, p, r, tail, _, _, _, _ => by
    rw [Segment.writeAll, String.toList_empty, List.nil_append]
    exact ⟨p, .refl _ _, .refl p, named_nil _ _ _⟩
  | s :: ss, index, p, r, tail, hmode, hparams, htail, hall => by
    rw [Segment.writeAll, String.toList_append, List.append_assoc] at hall ⊢
    obtain ⟨hs, hss⟩ := List.forall_mem_append.1 hparams
    obtain ⟨q, hreads, hadds, hnamed⟩ := reads_segment s hmode hs (head?_writeAll_append htail ss _)
      hall
    obtain ⟨q', hreads', hadds', hnamed'⟩ := reads_segments ss (hadds.mode.trans hmode) hss htail
      (hall.after hreads)
    rw [hadds.groups] at hadds' hnamed'
    rw [← Segment.length_slots p.groups] at hadds' hnamed'
    refine ⟨q', hreads.trans hreads', ?_, ?_⟩
    · rw [Segment.allNodes, ← Segment.length_slots p.groups]
      exact hadds.trans hadds'
    · rw [Segment.allNodes, ← Segment.length_slots p.groups, Segment.allSlots]
      exact hnamed.append hadds hnamed'

end

/-! ### The expression of a route -/

/-- The nodes of the expression of a route. -/
def Segment.wholeNodes (ss : List Segment) : List Node :=
  .look .start :: (allNodes 0 0 ss ++ [.look .stop])

/-- The expression of segments is read as the nodes of the segments between anchors, and the groups
with the names of parameters are those of the segments. -/
theorem expression_reads {ss : List Segment} {rx : Regex}
    (hparams : ∀ e ∈ Segment.allParameters ss, Fragment e.2)
    (hrx : Regex.ofString (Segment.expression ss) = .ok rx) :
    rx.node = .seq (Segment.wholeNodes ss) ∧
      Named .start (Segment.allNodes 0 0 ss) 0 (Segment.allSlots 0 ss) := by
  obtain ⟨last, -, hall, -, hnode⟩ := readsAll_of_ofString hrx
  have hlist : (Segment.expression ss).toList =
      '^' :: ((Segment.writeAll 0 ss).toList ++ ['$']) := by
    simp [Segment.expression]
  rw [hlist] at hall
  have hinside := hall.after (.one (q := Progress.start.pushNode (.look .start)) rfl rfl)
  obtain ⟨q, hreads, hadds, hnamed⟩ := reads_segments ss rfl hparams (by simp) hinside
  have hqmode : q.mode = .initial := hadds.mode
  have hstop : q.step '$' [] = .ok (q.pushNode (.look .stop), []) := by
    change Except.ok _ = _
    rw [hqmode]
    rfl
  have hend := (hinside.after hreads).after (.one (by rw [hqmode, skip_initial]) hstop)
  obtain rfl := hend.eq_of_end (by simp)
  refine ⟨?_, hnamed⟩
  have hbranches : q.top.branches = [] := hadds.branches
  rw [hnode, Level.content, Progress.pushNode, Progress.push, Level.push, hbranches]
  refine sequence_node ?_ fun a ha => ?_
  · rw [List.map_cons, hadds.items]
    simp [Segment.wholeNodes, Progress.pushNode, Progress.push, Level.push, Progress.start]
  · simp only [Segment.wholeNodes, List.mem_cons, List.mem_append, List.not_mem_nil,
      or_false] at ha
    rcases ha with rfl | ha | rfl
    · rfl
    · exact Segment.parts_of_mem_allNodes ha
    · rfl

theorem findSlots_eq {rx : Regex} : ∀ {slots : List Nat} {index : Nat} {names : List String},
    names.length = slots.length →
    (∀ j slot, slots[j]? = some slot → rx.group? (Segment.groupName (index + j)) = some slot) →
    Route.findSlots rx index names = .ok slots
  | [], _, [], _, _ => rfl
  | slot :: slots, index, name :: names, hlen, hfound => by
    have hhead : rx.group? (Segment.groupName index) = some slot := hfound 0 slot rfl
    have htail : Route.findSlots rx (index + 1) names = .ok slots := by
      refine findSlots_eq (Nat.succ.inj hlen) fun j slot hj => ?_
      rw [Nat.add_right_comm]
      exact hfound (j + 1) slot hj
    rw [Route.findSlots, hhead]
    simp only [htail]
    rfl

/-- The groups that are found for the parameters of a route are those of its segments. -/
theorem findSlots_expression {ss : List Segment} {rx : Regex} {names : List String}
    (hparams : ∀ e ∈ Segment.allParameters ss, Fragment e.2)
    (hrx : Regex.ofString (Segment.expression ss) = .ok rx)
    (hlen : names.length = (Segment.allParameters ss).length) :
    Route.findSlots rx 0 names = .ok (Segment.allSlots 0 ss) := by
  obtain ⟨hnode, hnamed⟩ := expression_reads hparams hrx
  refine findSlots_eq (hlen.trans (Segment.length_allSlots 0 ss).symm) fun j slot hj => ?_
  obtain ⟨-, hfound⟩ := hnamed j slot hj
  rw [Regex.group?, hnode, Node.group?_seq, Segment.wholeNodes, List.findSome?_cons,
    List.findSome?_append, hfound]
  rfl

end Routing
