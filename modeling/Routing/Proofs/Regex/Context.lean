import Routing.Proofs.Regex.Groups
import Routing.Proofs.Regex.Reading

/-!
An expression as a part of another one. What is read inside of an open group is what is read of the
same text by itself, put upon the levels that are open around it, and with its groups counted from
those before it. Only a name that has been given before can be refused there.

    by itself     a|(b            level 0: a |      level 1: b
    inside        (x)(y a|(b      levels around     level:   y a |     level: b
-/

namespace Routing.Regex

/-- The kind of a group that is counted from `k` on. -/
def GroupKind.shift (k : Nat) : GroupKind → GroupKind
  | plain => plain
  | capture index name => capture (index + k) name

/-- The piece with its groups counted from `k` on. -/
def Piece.shift (k : Nat) (p : Piece) : Piece := { p with node := p.node.shift k }

/-- The level with its groups counted from `k` on. -/
def Level.shift (k : Nat) (l : Level) : Level :=
  ⟨l.kind.shift k, l.outer, l.branches.map (Piece.shift k), l.items.map (Piece.shift k)⟩

/-- The level with what has been read on another one. -/
def Level.filled (k : Nat) (base l : Level) : Level :=
  { base with branches := l.branches.map (Piece.shift k), items := l.items.map (Piece.shift k) }

/-- The levels of an expression, of which the outermost one continues `base`. -/
def placeLevels (k : Nat) (base : Level) (around : List Level) :
    Level → List Level → Level × List Level
  | l, [] => (base.filled k l, around)
  | l, l' :: ls =>
    let r := placeLevels k base around l' ls
    (l.shift k, r.1 :: r.2)

namespace Progress

/-- The levels of what has been read, put upon those that are open. -/
def placed (outer p : Progress) : Level × List Level :=
  placeLevels outer.groups outer.top outer.below p.top p.below

/-- What has been read inside of an open group. -/
def within (outer p : Progress) : Progress :=
  ⟨(outer.placed p).1, (outer.placed p).2, p.mode, p.groups + outer.groups,
    p.names ++ outer.names⟩

end Progress

section
variable (k : Nat)

theorem Piece.sequence_shift (items : List Piece) :
    (Piece.sequence items).shift k = Piece.sequence (items.map (Piece.shift k)) := by
  match items with
  | [] => rfl
  | [_] => rfl
  | p :: q :: items =>
    simp only [Piece.sequence, Piece.shift, List.map_cons, List.reverse_cons, List.map_append,
      List.map_reverse, List.map_map, Node.seq_shift, Function.comp_def]
    rfl

theorem Piece.choice_shift (branches : List Piece) :
    (Piece.choice branches).shift k = Piece.choice (branches.map (Piece.shift k)) := by
  match branches with
  | [] => rfl
  | [_] => rfl
  | p :: q :: branches =>
    simp only [Piece.choice, Piece.shift, List.map_cons, List.reverse_cons, List.map_append,
      List.map_reverse, List.map_map, Node.anyOf_shift, Function.comp_def]
    rfl

theorem Level.content_shift (l : Level) : (l.shift k).content = l.content.shift k := by
  rw [content, content, Piece.choice_shift, List.map_cons, Piece.sequence_shift]
  rfl

theorem Level.close_shift (l : Level) : (l.shift k).close = l.close.shift k := by
  simp only [close, Level.content_shift]
  cases hkind : l.kind <;> simp [Level.shift, hkind, GroupKind.shift, Piece.shift, Node.shift]

theorem Level.content_filled (base l : Level) : (base.filled k l).content = l.content.shift k :=
  l.content_shift k

variable (base : Level) (around ls : List Level)

theorem placeLevels_push (l : Level) (p : Piece) : placeLevels k base around (l.push p) ls =
    ((placeLevels k base around l ls).1.push (p.shift k),
      (placeLevels k base around l ls).2) := by
  cases ls <;> rfl

theorem placeLevels_branch (l : Level) : placeLevels k base around l.branch ls =
    ((placeLevels k base around l ls).1.branch, (placeLevels k base around l ls).2) := by
  cases ls <;>
    simp [placeLevels, Level.branch, Level.filled, Level.shift, Piece.sequence_shift]

theorem placeLevels_items (l : Level) :
    (placeLevels k base around l ls).1.items = l.items.map (Piece.shift k) := by
  cases ls <;> rfl

theorem placeLevels_setItems (l : Level) (items : List Piece) :
    placeLevels k base around { l with items } ls =
      ({ (placeLevels k base around l ls).1 with items := items.map (Piece.shift k) },
        (placeLevels k base around l ls).2) := by
  cases ls <;> rfl

end

namespace Progress

variable {outer p q : Progress}

theorem push_within (piece : Piece) :
    outer.within (p.push piece) = (outer.within p).push (piece.shift outer.groups) := by
  simp only [within, placed, push, placeLevels_push]

theorem branch_within : outer.within { p with top := p.top.branch } =
    { outer.within p with top := (outer.within p).top.branch } := by
  simp only [within, placed, placeLevels_branch]

theorem openCapture_within (name : Option String) :
    outer.within (p.openCapture name) = (outer.within p).openCapture name := by
  have hnext : p.groups + 1 + outer.groups = p.groups + outer.groups + 1 := Nat.add_right_comm ..
  simp only [openCapture, openGroup, within, placed, placeLevels, Level.shift, GroupKind.shift,
    hnext, List.map_nil]

theorem closeGroup_within (h : p.closeGroup = .ok q) :
    (outer.within p).closeGroup = .ok (outer.within q) := by
  unfold closeGroup at h
  split at h
  · simp at h
  next l ls hbelow =>
    obtain rfl := Except.ok.inj h
    simp only [closeGroup, within, placed, hbelow, placeLevels, placeLevels_push,
      Level.close_shift]
    rfl

theorem repeatLast_within {lo : Nat} {hi : Option Nat} {lazy : Bool}
    (h : p.repeatLast lo hi lazy = .ok q) :
    (outer.within p).repeatLast lo hi lazy = .ok (outer.within q) := by
  unfold repeatLast at h
  split at h
  · simp at h
  next item items hitems =>
    split at h
    next hrepeatable =>
      obtain rfl := Except.ok.inj h
      have hplaced : (outer.within p).top.items =
          item.shift outer.groups :: items.map (Piece.shift outer.groups) := by
        simp only [within, placed, placeLevels_items, hitems, List.map_cons]
      simp only [repeatLast, hplaced]
      rw [if_pos (show (item.shift outer.groups).repeatable = true from hrepeatable)]
      simp only [within, placed, placeLevels_setItems, List.map_cons, Piece.shift,
        Node.repeated_shift]
    · simp at h

/-- A name can be given inside, or it has been given before. -/
theorem openNamed_within {cs rest : List Char} (h : p.openNamed cs = .ok (q, rest)) :
    (outer.within p).openNamed cs = .ok (outer.within q, rest) ∨
      (∃ e, (outer.within p).openNamed cs = .error e) ∧ ∃ n ∈ outer.names, n ∈ q.names := by
  obtain ⟨⟨name, rest'⟩, hname, h⟩ := bind_eq_ok.1 h
  dsimp only at h
  split at h
  · simp at h
  next hold =>
    obtain ⟨rfl, rfl⟩ := Prod.mk.inj (Except.ok.inj h)
    by_cases hnew : (outer.within p).names.contains name = true
    · have hgiven : name ∈ p.names ++ outer.names := List.contains_iff_mem.1 hnew
      have houter : name ∈ outer.names :=
        (List.mem_append.1 hgiven).resolve_left fun hmem => hold (List.contains_iff_mem.2 hmem)
      refine .inr ⟨⟨.repeatedGroupName, ?_⟩, name, houter, .head _⟩
      simp only [openNamed, hname, bind, Except.bind, if_pos hnew]
    · refine .inl (bind_eq_ok.2 ⟨_, hname, ?_⟩)
      dsimp only
      rw [if_neg hnew, openCapture_within]
      rfl

theorem readFlagged_within {cs rest : List Char} (h : readFlagged p cs = .ok (q, rest)) :
    readFlagged (outer.within p) cs = .ok (outer.within q, rest) := by
  obtain ⟨flags, hflags, h⟩ := bind_eq_ok.1 h
  refine bind_eq_ok.2 ⟨flags, hflags, ?_⟩
  split_ifs at h with hopens hany
  · obtain ⟨rfl, rfl⟩ := Prod.mk.inj (Except.ok.inj h)
    rw [if_pos hopens]
    rfl
  · obtain ⟨rfl, rfl⟩ := Prod.mk.inj (Except.ok.inj h)
    have hpush : outer.within (p.push ⟨.empty, 0, false⟩) = _ := push_within _
    rw [if_neg hopens, if_pos hany]
    simp only [within, placed, push, placeLevels_push] at hpush ⊢
    rfl

theorem readOpening_within {cs rest : List Char} (h : p.readOpening cs = .ok (q, rest)) :
    (outer.within p).readOpening cs = .ok (outer.within q, rest) ∨
      (∃ e, (outer.within p).readOpening cs = .error e) ∧ ∃ n ∈ outer.names, n ∈ q.names := by
  have hmode : (outer.within p).mode = p.mode := rfl
  unfold readOpening at h ⊢
  rw [hmode]
  split at h
  · simp at h
  · simp at h
  · simp at h
  · simp at h
  · exact openNamed_within h
  · exact openNamed_within h
  · exact .inl (readFlagged_within h)
  · obtain ⟨rfl, rfl⟩ := Prod.mk.inj (Except.ok.inj h)
    exact .inl (by rw [openCapture_within])

/-! ### What a step does -/

/-- What a step does: it opens or closes a group, starts an alternative, adds a piece without
groups, or repeats the last piece. What is added and how often is repeated depends on the mode and
the text alone. -/
inductive Does (p : Progress) (cs : List Char) : Char → Progress → List Char → Prop
  | opens {r rest} : p.readOpening cs = .ok (r, rest) → Does p cs '(' r rest
  | closes {r} : p.closeGroup = .ok r → Does p cs ')' r cs
  | branches : Does p cs '|' { p with top := p.top.branch } cs
  | adds {c rest} (piece : Piece) : (piece.node.Captures fun _ _ => False) →
      (∀ p' : Progress, p'.mode = p.mode → p'.step c cs = .ok (p'.push piece, rest)) →
      Does p cs c (p.push piece) rest
  | repeats {c r rest} (lo : Nat) (hi : Option Nat) (lazy : Bool) :
      p.repeatLast lo hi lazy = .ok r →
      (∀ p' : Progress, p'.mode = p.mode →
        p'.step c cs = (p'.repeatLast lo hi lazy).map (·, rest)) →
      Does p cs c r rest

theorem captures_atomNode (m : Mode) (a : Atom) (P : Nat → Option String → Prop) :
    (atomNode m a).Captures P := by
  cases a <;> trivial

theorem captures_point {m : Mode} {node : Node} (h : point m = .ok node)
    (P : Nat → Option String → Prop) : node.Captures P := by
  unfold point at h
  split_ifs at h <;> exact Except.ok.inj h ▸ trivial

/-- A repetition, however its counts are written. -/
theorem does_repeat {c : Char} {cs rest rest' : List Char} {lo : Nat} {hi : Option Nat}
    {lazy : Bool} (hstep : ∀ p' : Progress, p'.mode = p.mode →
      p'.step c cs = (p'.repeatLast lo hi lazy).map (·, rest'))
    (h : p.step c cs = .ok (q, rest)) : Does p cs c q rest := by
  rw [hstep p rfl, map_eq_ok] at h
  obtain ⟨r, hr, heq⟩ := h
  obtain ⟨rfl, rfl⟩ := Prod.mk.inj heq
  exact .repeats lo hi lazy hr hstep

theorem does_of_step {c : Char} {cs rest : List Char} (h : p.step c cs = .ok (q, rest)) :
    Does p cs c q rest := by
  by_cases hc : isSign c = false
  · rw [step_plain hc] at h
    obtain ⟨rfl, rfl⟩ := Prod.mk.inj (Except.ok.inj h)
    exact .adds ⟨literal p.mode c, 0, true⟩ trivial fun p' hp => by rw [step_plain hc, hp]; rfl
  · simp only [isSign, List.contains_eq_mem, List.mem_cons, List.not_mem_nil, or_false,
      decide_eq_false_iff_not, not_not] at hc
    rcases hc with rfl | rfl | rfl | rfl | rfl | rfl | rfl | rfl | rfl | rfl | rfl | rfl
    · exact .opens h
    · rw [step_close, map_eq_ok] at h
      obtain ⟨r, hr, heq⟩ := h
      obtain ⟨rfl, rfl⟩ := Prod.mk.inj heq
      exact .closes hr
    · obtain ⟨rfl, rfl⟩ := Prod.mk.inj (Except.ok.inj h)
      exact .branches
    · rw [step_class, map_eq_ok] at h
      obtain ⟨r, hr, heq⟩ := h
      obtain ⟨rfl, rfl⟩ := Prod.mk.inj heq
      exact .adds ⟨.char r.1.cls, r.1.height, true⟩ trivial fun p' hp => by
        rw [step_class, hp, hr]
        rfl
    · exact does_repeat (fun p' _ => step_repeat (.head _) p' cs) h
    · exact does_repeat (fun p' _ => step_repeat (.tail _ (.head _)) p' cs) h
    · exact does_repeat (fun p' _ => step_repeat (.tail _ (.tail _ (.head _))) p' cs) h
    · obtain ⟨⟨⟨lo, hi⟩, mid⟩, hcounts, -⟩ := bind_eq_ok.1 h
      exact does_repeat (fun p' hp => hp ▸ step_counts p' (hp ▸ hcounts)) h
    · rw [step_escape, map_eq_ok] at h
      obtain ⟨r, hr, heq⟩ := h
      obtain ⟨rfl, rfl⟩ := Prod.mk.inj heq
      exact .adds ⟨atomNode p.mode r.1, 0, true⟩ (captures_atomNode ..) fun p' hp => by
        rw [step_escape, hp, hr]
        rfl
    · rw [step_point, map_eq_ok] at h
      obtain ⟨node, hnode, heq⟩ := h
      obtain ⟨rfl, rfl⟩ := Prod.mk.inj heq
      exact .adds ⟨node, 0, true⟩ (captures_point hnode _) fun p' hp => by
        rw [step_point, hp, hnode]
        rfl
    · obtain ⟨rfl, rfl⟩ := Prod.mk.inj (Except.ok.inj h)
      exact .adds ⟨.look (caret p.mode), 0, true⟩ trivial fun p' hp => by rw [← hp]; rfl
    · obtain ⟨rfl, rfl⟩ := Prod.mk.inj (Except.ok.inj h)
      exact .adds ⟨.look (dollar p.mode), 0, true⟩ trivial fun p' hp => by rw [← hp]; rfl

variable (outer) in
/-- A step inside of a group is the step by itself, unless it gives a name again. -/
theorem step_within {c : Char} {cs rest : List Char} (h : p.step c cs = .ok (q, rest)) :
    (outer.within p).step c cs = .ok (outer.within q, rest) ∨
      (∃ e, (outer.within p).step c cs = .error e) ∧ ∃ n ∈ outer.names, n ∈ q.names := by
  cases does_of_step h with
  | opens hopen => exact readOpening_within hopen
  | closes hclose => exact .inl (by rw [step_close, closeGroup_within hclose]; rfl)
  | branches => exact .inl (by rw [branch_within]; rfl)
  | adds piece hpiece hstep =>
    have hshift : piece.shift outer.groups = piece := by
      rw [Piece.shift, Node.shift_of_captures hpiece]
    exact .inl (by rw [hstep (outer.within p) rfl, push_within, hshift])
  | repeats lo hi lazy hrepeat hstep =>
    exact .inl (by rw [hstep (outer.within p) rfl, repeatLast_within hrepeat]; rfl)

/-- What is read by itself is read inside of a group, provided that all goes well there. -/
theorem reads_within {r s : Progress} {cs rest : List Char} (h : Reads p cs r rest)
    (hall : ReadsAll (outer.within p) cs s) : Reads (outer.within p) cs (outer.within r) rest := by
  induction h with
  | refl => exact .refl _ _
  | @step p q r cs cs' mid rest c hskip hstep _ ih =>
    have hskip' : (outer.within p).mode.skip cs = c :: cs' := hskip
    obtain ⟨q', mid', hok, hrest⟩ := hall.step_of_skip hskip'
    rcases step_within outer hstep with hstep' | ⟨⟨e, herror⟩, -⟩
    · obtain ⟨rfl, rfl⟩ := Prod.mk.inj (Except.ok.inj (hok.symm.trans hstep'))
      exact .step hskip' hstep' (ih hrest)
    · rw [hok] at herror
      exact absurd herror (by simp)

/-- Nothing has been read inside of a group that was just opened. -/
theorem within_start {outer : Progress} (hmode : outer.mode = .initial)
    (hbranches : outer.top.branches = []) (hitems : outer.top.items = []) :
    outer.within start = outer := by
  obtain ⟨⟨kind, mode, branches, items⟩, below, mode', groups, names⟩ := outer
  obtain rfl := hmode
  obtain rfl := hbranches
  obtain rfl := hitems
  simp [within, placed, placeLevels, start, Level.filled]

end Progress

end Routing.Regex
