import Routing.Constraint
import Routing.Proofs.Regex.Numbering

/-!
A fragment: a text that is an expression by itself, and that is also one between brackets and
anchors. Between the brackets it is the same expression, since the anchors leave it no way to take
the closing bracket for itself.

    (?P<n>  fragment  )        one more group around it, its own groups counted after that one
    ^(?:    fragment  )$       no group around it
-/

namespace Routing.Regex

/-- What is read of a text by itself. -/
def ownProgress (fragment : String) : Progress :=
  match Progress.start.run (fragment.toList.length + 1) fragment.toList with
  | .ok p => p
  | .error _ => .start

/-- The expression that a text is by itself. -/
def ownNode (fragment : String) : Node := (ownProgress fragment).top.content.node

/-- The number of groups of a text by itself. -/
def ownGroups (fragment : String) : Nat := (ownProgress fragment).groups

/-- The text is an expression by itself, and also one between brackets and anchors. -/
structure Fragment (fragment : String) : Prop where
  alone : ∃ r, Regex.ofString fragment = .ok r
  bracketed : ∃ r, Regex.ofString (anchored fragment) = .ok r

/-- An expression that was read has been read up to its end. -/
theorem readsAll_of_ofString {source : String} {r : Regex} (h : Regex.ofString source = .ok r) :
    ∃ p, Progress.start.run (source.toList.length + 1) source.toList = .ok p ∧
      ReadsAll .start source.toList p ∧ p.below = [] ∧ r.node = p.top.content.node := by
  obtain ⟨node, hnode, h⟩ := bind_eq_ok.1 h
  obtain ⟨p, hrun, hnode⟩ := bind_eq_ok.1 hnode
  obtain ⟨piece, hfinish, hnode⟩ := bind_eq_ok.1 hnode
  have hr : r.node = node := congrArg Regex.node (Except.ok.inj h).symm
  split_ifs at hnode
  unfold Progress.finish at hfinish
  split at hfinish
  next hbelow =>
    refine ⟨p, hrun, readsAll_of_run _ (Nat.lt_succ_self _) hrun, hbelow, ?_⟩
    rw [hr, ← Except.ok.inj hnode, ← Except.ok.inj hfinish]
  · simp at hfinish

section
variable {c : String} {r : Regex}

theorem readsAll_own (h : Regex.ofString c = .ok r) : ReadsAll .start c.toList (ownProgress c) := by
  obtain ⟨p, hrun, hreads, -⟩ := readsAll_of_ofString h
  simpa only [ownProgress, hrun] using hreads

theorem own_below (h : Regex.ofString c = .ok r) : (ownProgress c).below = [] := by
  obtain ⟨p, hrun, -, hbelow, -⟩ := readsAll_of_ofString h
  simpa only [ownProgress, hrun] using hbelow

theorem own_node (h : Regex.ofString c = .ok r) : r.node = ownNode c := by
  obtain ⟨p, hrun, -, -, hnode⟩ := readsAll_of_ofString h
  simpa only [ownNode, ownProgress, hrun] using hnode

/-- The groups of a fragment have the numbers and names that were given in it. -/
theorem own_captures (h : Regex.ofString c = .ok r) :
    (ownNode c).Captures (ownProgress c).Counted := by
  obtain ⟨rest, hreads, -⟩ := readsAll_own h
  exact (Progress.numbered_start.reads hreads _ (.head _)).content

end

/-! ### Between brackets -/

/-- Without flags nothing is left out. -/
theorem skip_initial (cs : List Char) : Mode.initial.skip cs = cs := rfl

/-- The start of a group that does not remember. -/
theorem step_plainGroup {p : Progress} (hmode : p.mode = .initial) (cs : List Char) :
    p.step '(' ('?' :: ':' :: cs) = .ok (p.openGroup .plain .initial, cs) := by
  change p.readOpening ('?' :: ':' :: cs) = _
  rw [readOpening_flagged (c := ':') (by rw [hmode]; rfl) (by decide), readFlagged, hmode]
  rfl

theorem reads_plainGroup {p : Progress} (hmode : p.mode = .initial) (cs : List Char) :
    Reads p ('(' :: '?' :: ':' :: cs) (p.openGroup .plain .initial) cs :=
  .one (by rw [hmode, skip_initial]) (step_plainGroup hmode cs)

/-- What is read before a fragment that is checked. -/
def checkedOuter : Progress :=
  (Progress.start.pushNode (.look .start)).openGroup .plain .initial

theorem reads_checkedOuter (cs : List Char) :
    Reads .start ('^' :: '(' :: '?' :: ':' :: cs) checkedOuter cs :=
  .step (q := Progress.start.pushNode (.look .start)) rfl rfl (reads_plainGroup rfl cs)

theorem within_checkedOuter : checkedOuter.within .start = checkedOuter :=
  Progress.within_start rfl rfl rfl

theorem toList_anchored (c : String) :
    (anchored c).toList = '^' :: '(' :: '?' :: ':' :: (c.toList ++ [')', '$']) := by
  simp [anchored]

/-- A fragment is read up to the bracket that closes it. -/
theorem Fragment.reads_bracket {c : String} (hc : Fragment c) (t : List Char) :
    ∃ rest, Reads .start (c.toList ++ ')' :: t) (ownProgress c) rest ∧
      (ownProgress c).mode.skip rest = ')' :: t := by
  obtain ⟨r, hr⟩ := hc.alone
  refine (readsAll_own hr).before_bracket.elim (fun h => h t) fun ⟨rest, hreads, hend⟩ => ?_
  -- The bracket would be part of a comment. Then the group of the check would stay open.
  obtain ⟨checked, hchecked⟩ := hc.bracketed
  obtain ⟨p, -, hall, hbelow, -⟩ := readsAll_of_ofString hchecked
  rw [toList_anchored] at hall
  have hinside := hall.after (reads_checkedOuter _)
  rw [← within_checkedOuter] at hinside
  have hpart := Progress.reads_within hreads hinside
  obtain rfl := (hinside.after hpart).eq_of_end hend
  have hone : (ownProgress c).below = [] := own_below hr
  simp [Progress.within, Progress.placed, hone, placeLevels, checkedOuter, Progress.openGroup,
    Progress.pushNode, Progress.push] at hbelow

/-- Inside of an open group a fragment is what it is by itself. -/
theorem Fragment.reads_inside {c : String} (hc : Fragment c) {outer r : Progress} {t : List Char}
    (hstart : outer.within .start = outer) (hall : ReadsAll outer (c.toList ++ ')' :: t) r) :
    ∃ rest, Reads outer (c.toList ++ ')' :: t) (outer.within (ownProgress c)) rest ∧
      (ownProgress c).mode.skip rest = ')' :: t := by
  obtain ⟨rest, hreads, hskip⟩ := hc.reads_bracket t
  rw [← hstart] at hall
  have hinside := Progress.reads_within hreads hall
  rw [hstart] at hinside
  exact ⟨rest, hinside, hskip⟩

/-- The group around a fragment, when it is closed. -/
theorem closeGroup_own {c : String} (hc : Fragment c) {outer : Progress} {l : Level}
    {ls : List Level} (hbelow : outer.below = l :: ls) :
    (outer.within (ownProgress c)).closeGroup = .ok
      ⟨l.push (outer.top.filled outer.groups (ownProgress c).top).close, ls, outer.top.outer,
        ownGroups c + outer.groups, (ownProgress c).names ++ outer.names⟩ := by
  obtain ⟨r, hr⟩ := hc.alone
  simp only [Progress.closeGroup, Progress.within, Progress.placed, own_below hr, placeLevels,
    hbelow]
  rfl

/-- Reads a fragment with the bracket that closes it. -/
theorem Fragment.reads_closed {c : String} (hc : Fragment c) {outer r : Progress} {t : List Char}
    {l : Level} {ls : List Level} (hstart : outer.within .start = outer)
    (hbelow : outer.below = l :: ls) (hall : ReadsAll outer (c.toList ++ ')' :: t) r) :
    Reads outer (c.toList ++ ')' :: t)
      ⟨l.push (outer.top.filled outer.groups (ownProgress c).top).close, ls, outer.top.outer,
        ownGroups c + outer.groups, (ownProgress c).names ++ outer.names⟩ t := by
  obtain ⟨rest, hreads, hskip⟩ := hc.reads_inside hstart hall
  refine hreads.trans (.one hskip ?_)
  rw [Progress.step_close, closeGroup_own hc hbelow]
  rfl

/-- The check of a fragment is the fragment between anchors. -/
theorem Fragment.checked_node {c : String} (hc : Fragment c) {r : Regex}
    (h : Regex.ofString (anchored c) = .ok r) :
    r.node = .seq [.look .start, ownNode c, .look .stop] := by
  obtain ⟨p, -, hall, -, hnode⟩ := readsAll_of_ofString h
  rw [toList_anchored] at hall
  have hinside := hall.after (reads_checkedOuter _)
  have hend := (hinside.after (hc.reads_closed within_checkedOuter rfl hinside)).after
    (.one (skip_initial ['$']) rfl)
  obtain rfl := hend.eq_of_end rfl
  have hcontent : (checkedOuter.top.filled 0 (ownProgress c).top).content.node = ownNode c := by
    rw [Level.content_filled]
    exact Node.shift_zero _
  rw [hnode, ← hcontent]
  rfl

end Routing.Regex
