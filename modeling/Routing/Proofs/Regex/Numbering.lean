import Routing.Proofs.Regex.Context

/-!
The numbers of groups. Whatever has been read of an expression, its groups have the numbers from one
to the number of groups so far, and their names are those that have been given so far. This holds of
finished items as of open groups, and every step keeps it.
-/

namespace Routing.Regex

/-- If the group is one that remembers, its number and name are of a kind. -/
def GroupKind.Holds (P : Nat → Option String → Prop) : GroupKind → Prop
  | plain => True
  | capture index name => P index name

/-- The groups on a level, and the level itself, are of a kind. -/
structure Level.Holds (P : Nat → Option String → Prop) (l : Level) : Prop where
  kind : l.kind.Holds P
  branches : ∀ p ∈ l.branches, p.node.Captures P
  items : ∀ p ∈ l.items, p.node.Captures P

namespace Progress

/-- The number and the name have been given so far. -/
def Counted (p : Progress) (index : Nat) (name : Option String) : Prop :=
  0 < index ∧ index ≤ p.groups ∧ ∀ s, name = some s → s ∈ p.names

/-- All groups have numbers and names that have been given. -/
def Numbered (p : Progress) : Prop := ∀ l ∈ p.top :: p.below, l.Holds p.Counted

end Progress

section
variable {P Q : Nat → Option String → Prop}

theorem Level.Holds.imp (hPQ : ∀ i n, P i n → Q i n) {l : Level} (h : l.Holds P) : l.Holds Q where
  kind := by
    have hkind := h.kind
    cases hl : l.kind with
    | plain => trivial
    | capture i n =>
      rw [hl] at hkind
      exact hPQ i n hkind
  branches p hp := (h.branches p hp).imp hPQ
  items p hp := (h.items p hp).imp hPQ

/-- A group that was just opened holds nothing. -/
theorem Level.holds_opened {kind : GroupKind} (h : kind.Holds P) (outer : Mode) :
    Level.Holds P ⟨kind, outer, [], []⟩ :=
  ⟨h, List.forall_mem_nil _, List.forall_mem_nil _⟩

theorem Piece.captures_sequence {items : List Piece} (h : ∀ p ∈ items, p.node.Captures P) :
    (Piece.sequence items).node.Captures P := by
  match items with
  | [] => trivial
  | [p] => exact h p (.head _)
  | p :: q :: items =>
    refine (Node.captures_seq _).2 fun a ha => ?_
    obtain ⟨r, hr, rfl⟩ := List.mem_map.1 ha
    exact h r (List.mem_reverse.1 hr)

theorem Piece.captures_choice {branches : List Piece} (h : ∀ p ∈ branches, p.node.Captures P) :
    (Piece.choice branches).node.Captures P := by
  match branches with
  | [] => trivial
  | [p] => exact h p (.head _)
  | p :: q :: branches =>
    refine Node.captures_anyOf fun a ha => ?_
    obtain ⟨r, hr, rfl⟩ := List.mem_map.1 ha
    exact h r (List.mem_reverse.1 hr)

theorem Level.Holds.content {l : Level} (h : l.Holds P) : l.content.node.Captures P :=
  Piece.captures_choice (List.forall_mem_cons.2 ⟨Piece.captures_sequence h.items, h.branches⟩)

theorem Level.Holds.close {l : Level} (h : l.Holds P) : l.close.node.Captures P := by
  have hkind := h.kind
  unfold Level.close
  cases hl : l.kind with
  | plain => exact h.content
  | capture i n =>
    rw [hl] at hkind
    exact ⟨hkind, h.content⟩

theorem Level.Holds.push {l : Level} (h : l.Holds P) {p : Piece} (hp : p.node.Captures P) :
    (l.push p).Holds P :=
  ⟨h.kind, h.branches, List.forall_mem_cons.2 ⟨hp, h.items⟩⟩

theorem Level.Holds.branch {l : Level} (h : l.Holds P) : l.branch.Holds P :=
  ⟨h.kind, List.forall_mem_cons.2 ⟨Piece.captures_sequence h.items, h.branches⟩,
    List.forall_mem_nil _⟩

end

namespace Progress

variable {p q : Progress}

theorem numbered_start : start.Numbered := by
  intro l hl
  rw [List.mem_singleton.1 hl]
  exact Level.holds_opened (show GroupKind.plain.Holds _ from trivial) _

theorem Numbered.push (h : p.Numbered) {piece : Piece} (hp : piece.node.Captures p.Counted) :
    (p.push piece).Numbered :=
  List.forall_mem_cons.2 ⟨(h _ (.head _)).push hp, fun l hl => h l (.tail _ hl)⟩

theorem Numbered.openGroup (h : p.Numbered) {kind : GroupKind} (hk : kind.Holds p.Counted)
    (inner : Mode) : (p.openGroup kind inner).Numbered :=
  List.forall_mem_cons.2 ⟨Level.holds_opened hk _, h⟩

theorem Numbered.openCapture (h : p.Numbered) {name : Option String}
    (hname : ∀ s, name = some s → s ∈ p.names) : (p.openCapture name).Numbered := by
  refine List.forall_mem_cons.2 ⟨Level.holds_opened ?_ _, fun l hl => ?_⟩
  · exact ⟨Nat.succ_pos _, le_rfl, hname⟩
  · exact (h l hl).imp fun i n hi => ⟨hi.1, hi.2.1.trans (Nat.le_succ _), hi.2.2⟩

theorem Numbered.openNamed (h : p.Numbered) {cs rest : List Char}
    (ho : p.openNamed cs = .ok (q, rest)) : q.Numbered := by
  obtain ⟨⟨name, rest'⟩, -, ho⟩ := bind_eq_ok.1 ho
  dsimp only at ho
  split at ho
  · simp at ho
  · obtain ⟨rfl, rfl⟩ := Prod.mk.inj (Except.ok.inj ho)
    have hnew : { p with names := name :: p.names }.Numbered := fun l hl =>
      (h l hl).imp fun i n hi => ⟨hi.1, hi.2.1, fun s hs => .tail _ (hi.2.2 s hs)⟩
    exact hnew.openCapture fun s hs => Option.some.inj hs ▸ .head _

theorem Numbered.closeGroup (h : p.Numbered) (hc : p.closeGroup = .ok q) : q.Numbered := by
  unfold Progress.closeGroup at hc
  split at hc
  · simp at hc
  next l ls hbelow =>
    obtain rfl := Except.ok.inj hc
    rw [Numbered, hbelow] at h
    obtain ⟨htop, h⟩ := List.forall_mem_cons.1 h
    obtain ⟨hl, hls⟩ := List.forall_mem_cons.1 h
    exact List.forall_mem_cons.2 ⟨hl.push htop.close, hls⟩

theorem Numbered.repeatLast (h : p.Numbered) {lo : Nat} {hi : Option Nat} {lazy : Bool}
    (hr : p.repeatLast lo hi lazy = .ok q) : q.Numbered := by
  unfold Progress.repeatLast at hr
  obtain ⟨htop, hbelow⟩ := List.forall_mem_cons.1 h
  split at hr
  · simp at hr
  next item items hitems =>
    split at hr
    · obtain rfl := Except.ok.inj hr
      have hall := htop.items
      rw [hitems] at hall
      obtain ⟨hitem, hitems⟩ := List.forall_mem_cons.1 hall
      exact List.forall_mem_cons.2 ⟨⟨htop.kind, htop.branches, List.forall_mem_cons.2
        ⟨Node.captures_repeated hitem _ _ _, hitems⟩⟩, hbelow⟩
    · simp at hr

theorem Numbered.readOpening (h : p.Numbered) {cs rest : List Char}
    (ho : p.readOpening cs = .ok (q, rest)) : q.Numbered := by
  unfold Progress.readOpening at ho
  split at ho
  · simp at ho
  · simp at ho
  · simp at ho
  · simp at ho
  · exact h.openNamed ho
  · exact h.openNamed ho
  · obtain ⟨flags, -, ho⟩ := bind_eq_ok.1 ho
    split_ifs at ho
    · obtain ⟨rfl, rfl⟩ := Prod.mk.inj (Except.ok.inj ho)
      exact h.openGroup (show GroupKind.plain.Holds _ from trivial) _
    · obtain ⟨rfl, rfl⟩ := Prod.mk.inj (Except.ok.inj ho)
      exact @Numbered.push p h ⟨.empty, 0, false⟩ trivial
  · obtain ⟨rfl, rfl⟩ := Prod.mk.inj (Except.ok.inj ho)
    exact h.openCapture (by simp)

/-- Every step keeps to the numbers. -/
theorem Numbered.step (h : p.Numbered) {c : Char} {cs rest : List Char}
    (hs : p.step c cs = .ok (q, rest)) : q.Numbered := by
  cases does_of_step hs with
  | opens hopen => exact h.readOpening hopen
  | closes hclose => exact h.closeGroup hclose
  | branches => exact List.forall_mem_cons.2 ⟨(h _ (.head _)).branch, fun l hl => h l (.tail _ hl)⟩
  | adds piece hpiece => exact h.push (hpiece.imp fun _ _ hnone => hnone.elim)
  | repeats _ _ _ hrepeat => exact h.repeatLast hrepeat

theorem Numbered.reads {r : Progress} {cs rest : List Char} (h : p.Numbered)
    (hr : Reads p cs r rest) : r.Numbered := by
  induction hr with
  | refl => exact h
  | step _ hstep _ ih => exact ih (h.step hstep)

end Progress

end Routing.Regex
