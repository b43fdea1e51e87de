import Routing.Proofs.Expression

/-!
A fragment in the group of a parameter. It can be read there as it is read by itself, unless it has
a group of the same name, or the whole becomes too large. Too high it does not become, since the
check between anchors has as many levels.

    ^(?:    fragment  )$       the check
    ^(?P<__p0>  fragment  )$   the expression of a pattern with one parameter
-/

namespace Routing.Regex

/-! ### Names -/

namespace Progress

variable {p q : Progress}

/-- A reader that may open a group gives no name, or a new one. -/
theorem names_of_readOpening {cs rest : List Char} (h : p.readOpening cs = .ok (q, rest)) :
    q.names = p.names ∨ ∃ n ∉ p.names, q.names = n :: p.names := by
  have hnamed : ∀ {ds : List Char}, p.openNamed ds = .ok (q, rest) →
      ∃ n ∉ p.names, q.names = n :: p.names := by
    intro ds hopen
    obtain ⟨⟨name, rest'⟩, -, hopen⟩ := bind_eq_ok.1 hopen
    dsimp only at hopen
    split at hopen
    · simp at hopen
    next hnew =>
      obtain ⟨rfl, -⟩ := Prod.mk.inj (Except.ok.inj hopen)
      exact ⟨name, by simpa using hnew, rfl⟩
  unfold readOpening at h
  split at h
  · simp at h
  · simp at h
  · simp at h
  · simp at h
  · exact .inr (hnamed h)
  · exact .inr (hnamed h)
  · obtain ⟨flags, -, h⟩ := bind_eq_ok.1 h
    split_ifs at h
    · obtain ⟨rfl, -⟩ := Prod.mk.inj (Except.ok.inj h)
      exact .inl rfl
    · obtain ⟨rfl, -⟩ := Prod.mk.inj (Except.ok.inj h)
      exact .inl rfl
  · obtain ⟨rfl, -⟩ := Prod.mk.inj (Except.ok.inj h)
    exact .inl rfl

/-- A step gives no name, or a new one. -/
theorem names_of_step {c : Char} {cs rest : List Char} (h : p.step c cs = .ok (q, rest)) :
    q.names = p.names ∨ ∃ n ∉ p.names, q.names = n :: p.names := by
  cases does_of_step h with
  | opens hopen => exact names_of_readOpening hopen
  | closes hclose =>
    unfold closeGroup at hclose
    split at hclose
    · simp at hclose
    · exact .inl (by rw [← Except.ok.inj hclose])
  | branches => exact .inl rfl
  | adds piece _ _ => exact .inl rfl
  | repeats lo hi lazy hrepeat _ =>
    unfold repeatLast at hrepeat
    split at hrepeat
    · simp at hrepeat
    · split at hrepeat
      · exact .inl (by rw [← Except.ok.inj hrepeat])
      · simp at hrepeat

end Progress

/-- Names that have been given stay so. -/
theorem Reads.names_subset {p r : Progress} {cs rest : List Char} (h : Reads p cs r rest) :
    p.names ⊆ r.names := by
  induction h with
  | refl => exact fun _ hn => hn
  | step _ hstep _ ih =>
    rcases Progress.names_of_step hstep with hnames | ⟨n, -, hnames⟩
    · rwa [hnames] at ih
    · rw [hnames] at ih
      exact fun m hm => ih (.tail _ hm)

/-- No name is given twice. -/
theorem Reads.nodup_names {p r : Progress} {cs rest : List Char} (h : Reads p cs r rest)
    (hp : p.names.Nodup) : r.names.Nodup := by
  induction h with
  | refl => exact hp
  | step _ hstep _ ih =>
    refine ih ?_
    rcases Progress.names_of_step hstep with hnames | ⟨n, hnew, hnames⟩
    · rwa [hnames]
    · rw [hnames]
      exact List.nodup_cons.2 ⟨hnew, hp⟩

/-- What is read by itself is read inside of a group, if no name is given there again. -/
theorem Progress.reads_within_fresh {outer p r : Progress} {cs rest : List Char}
    (h : Reads p cs r rest) (hfresh : ∀ n ∈ outer.names, n ∉ r.names) :
    Reads (outer.within p) cs (outer.within r) rest := by
  induction h with
  | refl => exact .refl _ _
  | @step p q r cs cs' mid rest c hskip hstep hrest ih =>
    refine .step (show (outer.within p).mode.skip cs = c :: cs' from hskip) ?_ (ih hfresh)
    rcases step_within outer hstep with hinside | ⟨-, n, houter, hn⟩
    · exact hinside
    · exact absurd (hrest.names_subset hn) (hfresh n houter)

/-! ### Expressions that can be read -/

/-- What is read up to the end of a text is read with fuel for its characters. -/
theorem run_of_readsAll : ∀ (fuel : Nat) {p r : Progress} {cs : List Char}, cs.length < fuel →
    ReadsAll p cs r → p.run fuel cs = .ok r
  | 0, _, _, _, hlen, _ => absurd hlen (Nat.not_lt_zero _)
  | fuel + 1, p, r, cs, hlen, h => by
    rw [Progress.run]
    split
    next hskip => rw [h.eq_of_end hskip]
    next c cs' hskip =>
      obtain ⟨q, mid, hstep, hrest⟩ := h.step_of_skip hskip
      have hshort := (Progress.local_step hstep).shorter
      have hlt := p.mode.length_lt_of_skip hskip
      exact bind_eq_ok.2 ⟨_, hstep, run_of_readsAll fuel (by omega) hrest⟩

/-- An expression is read if its text is read up to the end, no group is open then, and it is
neither too high nor too large. -/
theorem exists_ofString_iff {source : String} : (∃ rx, Regex.ofString source = .ok rx) ↔
    ∃ p, ReadsAll .start source.toList p ∧ p.below = [] ∧
      p.top.content.height ≤ heightLimit ∧ p.top.content.node.cost ≤ costLimit := by
  constructor
  · rintro ⟨rx, hrx⟩
    obtain ⟨node, hnode, -⟩ := bind_eq_ok.1 hrx
    obtain ⟨p, hrun, hnode⟩ := bind_eq_ok.1 hnode
    obtain ⟨piece, hfinish, hnode⟩ := bind_eq_ok.1 hnode
    split_ifs at hnode with hheight hcost
    unfold Progress.finish at hfinish
    split at hfinish
    next hbelow =>
      obtain rfl := Except.ok.inj hfinish
      exact ⟨p, readsAll_of_run _ (Nat.lt_succ_self _) hrun, hbelow, Nat.le_of_not_lt hheight,
        Nat.le_of_not_lt hcost⟩
    · simp at hfinish
  · rintro ⟨p, hall, hbelow, hheight, hcost⟩
    have hrun := run_of_readsAll _ (Nat.lt_succ_self _) hall
    have hfinish : p.finish = .ok p.top.content := by rw [Progress.finish, hbelow]
    have hnode : Node.ofText source.toList = .ok p.top.content.node := by
      refine bind_eq_ok.2 ⟨p, hrun, bind_eq_ok.2 ⟨_, hfinish, ?_⟩⟩
      rw [if_neg (Nat.not_lt.2 hheight), if_neg (Nat.not_lt.2 hcost)]
      rfl
    exact ⟨_, bind_eq_ok.2 ⟨_, hnode, rfl⟩⟩

/-- An expression that is read with fuel for its characters is one that can be read, if it is closed
and neither too high nor too large. -/
theorem exists_ofString_of_run {source : String}
    (hrun : Progress.start.run (source.toList.length + 1) source.toList = .ok (ownProgress source))
    (hbelow : (ownProgress source).below = [])
    (hheight : (ownProgress source).top.content.height ≤ heightLimit)
    (hcost : (ownNode source).cost ≤ costLimit) : ∃ rx, Regex.ofString source = .ok rx :=
  exists_ofString_iff.2 ⟨_, readsAll_of_run _ (Nat.lt_succ_self _) hrun, hbelow, hheight, hcost⟩

/-! ### Between anchors -/

/-- The test for the start, with which expressions of paths begin. -/
def afterStart : Progress := Progress.start.pushNode (.look .start)

/-- The group of a fragment that was opened by `outer` after the test for the start, closed. -/
def closedGroup (outer : Progress) (c : String) : Progress :=
  ⟨afterStart.top.push (outer.top.filled outer.groups (ownProgress c).top).close, [], .initial,
    ownGroups c + outer.groups, (ownProgress c).names ++ outer.names⟩

/-- This group, and the test for the end after it. -/
def enclosed (outer : Progress) (c : String) : Progress :=
  (closedGroup outer c).pushNode (.look .stop)

theorem height_close (l : Level) : l.close.height = l.content.height + 1 := by
  unfold Level.close
  cases l.kind <;> rfl

/-- What is read of a group between anchors. -/
theorem content_enclosed (outer : Progress) (c : String) :
    (enclosed outer c).top.content =
      ⟨.seq [.look .start, (outer.top.filled outer.groups (ownProgress c).top).close.node,
        .look .stop], (ownProgress c).top.content.height + 2, true⟩ := by
  have hheight : (outer.top.filled outer.groups (ownProgress c).top).close.height =
      (ownProgress c).top.content.height + 1 := by
    rw [height_close, Level.content_filled]
    rfl
  simp [enclosed, closedGroup, afterStart, Progress.pushNode, Progress.push, Level.push,
    Progress.start, Level.content, Piece.choice, Piece.sequence, hheight]

/-- If the inside of the group is read, so are its end and the test after it. -/
theorem reads_end {outer : Progress} {c : String} (hc : Fragment c) {rest : List Char}
    (hbelow : outer.below = [afterStart.top]) (houter : outer.top.outer = .initial)
    (hskip : (ownProgress c).mode.skip rest = [')', '$']) :
    ReadsAll (outer.within (ownProgress c)) rest (enclosed outer c) := by
  have hclose : (outer.within (ownProgress c)).step ')' ['$'] =
      .ok (closedGroup outer c, ['$']) := by
    rw [Progress.step_close, closeGroup_own hc hbelow, houter]
    rfl
  have hstop : Reads (closedGroup outer c) ['$'] (enclosed outer c) [] :=
    .one (skip_initial ['$']) rfl
  exact ⟨[], .step hskip hclose hstop, rfl⟩

/-- Reading a text has one outcome. -/
theorem ReadsAll.unique {p r r' : Progress} {cs : List Char} (h : ReadsAll p cs r)
    (h' : ReadsAll p cs r') : r = r' := by
  obtain ⟨rest, hreads, hend⟩ := h'
  exact (h.after hreads).eq_of_end hend

/-- The levels of a fragment that is checked. -/
theorem Fragment.height_le {c : String} (hc : Fragment c) :
    (ownProgress c).top.content.height + 2 ≤ heightLimit := by
  obtain ⟨p, hall, -, hheight, -⟩ := exists_ofString_iff.1 hc.bracketed
  rw [toList_anchored] at hall
  have hinside := hall.after (reads_checkedOuter _)
  obtain ⟨rest, hreads, hskip⟩ := hc.reads_inside within_checkedOuter hinside
  have hend : ReadsAll _ rest (enclosed checkedOuter c) := reads_end hc rfl rfl hskip
  rwa [(hinside.after hreads).unique hend, content_enclosed] at hheight

/-! ### In the group of a parameter -/

/-- What is read before the fragment of the only parameter. -/
def parameterOuter : Progress := openedParameter afterStart 0

theorem Progress.step_open (p : Progress) (cs : List Char) : p.step '(' cs = p.readOpening cs := rfl

theorem reads_parameterOuter (cs : List Char) :
    Reads .start ('^' :: '(' :: '?' :: 'P' :: '<' :: ((Segment.groupName 0).toList ++ '>' :: cs))
      parameterOuter cs := by
  have hopen : afterStart.step '(' ('?' :: 'P' :: '<' ::
      ((Segment.groupName 0).toList ++ '>' :: cs)) = .ok (parameterOuter, cs) := by
    rw [Progress.step_open, readOpening_groupName rfl]
    rfl
  exact .step (q := afterStart) rfl rfl (.one rfl hopen)

theorem within_parameterOuter : parameterOuter.within .start = parameterOuter :=
  Progress.within_start rfl rfl rfl

theorem toList_expression_parameter (name c : String) :
    (Segment.expression [.parameter name c]).toList = '^' :: '(' :: '?' :: 'P' :: '<' ::
      ((Segment.groupName 0).toList ++ '>' :: (c.toList ++ [')', '$'])) := by
  simp [Segment.expression, Segment.writeAll, Segment.write]

theorem Node.cost_shift (k : Nat) (a : Node) : (a.shift k).cost = a.cost := by
  induction a with
  | empty | look => rfl
  | char => rfl
  | capture index name a ih => simp [Node.shift, Node.cost, ih]
  | cat a b iha ihb => simp [Node.shift, Node.cost, iha, ihb]
  | alt a b iha ihb => simp [Node.shift, Node.cost, iha, ihb]
  | iter a lo hi greedy ih => simp [Node.shift, Node.cost, ih]

/-- The bytes of the expression with one parameter. -/
theorem cost_parameter (c : String) :
    (enclosed parameterOuter c).top.content.node.cost = (ownNode c).cost + 4 * stateSize := by
  have hclose : (parameterOuter.top.filled parameterOuter.groups (ownProgress c).top).close.node =
      .capture 1 (some (Segment.groupName 0)) ((ownNode c).shift 1) := by
    simp only [Level.close, Level.content_filled]
    rfl
  rw [content_enclosed, hclose]
  simp only [Node.seq, List.flatMap_cons, List.flatMap_nil, Node.parts, List.cons_append,
    List.nil_append, List.append_nil, Node.ofParts, Node.cost, Node.cost_shift]
  omega

/-- A fragment can be read in the group of a parameter exactly if it has no group of that name and
leaves room for the group. -/
theorem Fragment.readable_iff {c : String} (hc : Fragment c) (name : String) :
    (∃ rx, Regex.ofString (Segment.expression [.parameter name c]) = .ok rx) ↔
      Segment.groupName 0 ∉ (ownProgress c).names ∧
        (ownNode c).cost + 4 * stateSize ≤ costLimit := by
  rw [exists_ofString_iff, toList_expression_parameter, ← cost_parameter]
  constructor
  · rintro ⟨p, hall, -, -, hcost⟩
    have hinside := hall.after (reads_parameterOuter _)
    obtain ⟨rest, hreads, hskip⟩ := hc.reads_inside within_parameterOuter hinside
    have hend : ReadsAll _ rest (enclosed parameterOuter c) := reads_end hc rfl rfl hskip
    obtain rfl := (hinside.after hreads).unique hend
    have hnodup : ((ownProgress c).names ++ [Segment.groupName 0]).Nodup :=
      hreads.nodup_names (List.nodup_singleton _)
    exact ⟨fun hmem => (List.nodup_append.1 hnodup).2.2 _ hmem _ (.head _) rfl, hcost⟩
  · rintro ⟨hfresh, hcost⟩
    obtain ⟨rest, hreads, hskip⟩ := hc.reads_bracket ['$']
    have hnew : ∀ n ∈ parameterOuter.names, n ∉ (ownProgress c).names :=
      List.forall_mem_singleton.2 hfresh
    have hinside := Progress.reads_within_fresh hreads hnew
    rw [within_parameterOuter] at hinside
    obtain ⟨last, hend, hnothing⟩ : ReadsAll (parameterOuter.within (ownProgress c)) rest
        (enclosed parameterOuter c) := reads_end hc rfl rfl hskip
    refine ⟨enclosed parameterOuter c,
      ⟨last, (reads_parameterOuter _).trans (hinside.trans hend), hnothing⟩, rfl, ?_, hcost⟩
    rw [content_enclosed]
    exact hc.height_le

end Routing.Regex
