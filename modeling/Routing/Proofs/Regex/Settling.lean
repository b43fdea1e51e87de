import Routing.Proofs.Regex.Ends

/-!
What the search makes of a place, whatever it has seen before. `SettlesAt p o` says that a thread at
the place `p` finds `o`, marks set before left aside, provided that of the places from `p` on only
dead ones have been visited. A place that settles to nothing is dead.

The rules below go backwards through a program: from what the places after an instruction settle to
they tell what the instruction does. Instructions that lead forward have one rule. The one exception
is a block, a whole program placed within another, which may have loops: it settles to the first of
its ways out that settles to something.

         s ──▶ ┌───────────┐ ──▶ s + size      first way out x with  f x ≠ none
               │   block   │
               └───────────┘
-/

namespace Routing.Regex

section
variable (program : Program) (text : Array Char)

/-- The search from a place gives `o`, if of the places from there on only dead ones were seen. -/
def SettlesAt (p : Place) (o : Option Cursor) : Prop :=
  (Alive program text p ↔ o.isSome) ∧
    ∀ k, o = some k → ∀ seen : Finset Place, (∀ q ∈ seen, p.1 ≤ q.1 → ¬ Alive program text q) →
      ∀ ms ts, ∃ seen', Finds program text seen ((Thread.start p).after ms :: ts)
        (some (k.after ms)) seen'

/-- What a step of the program settles to at each position of the text. -/
def Settles (s : Nat) (f : Nat → Option Cursor) : Prop :=
  ∀ pos ≤ text.size, SettlesAt program text (s, pos) (f pos)

end

section
variable {program : Program} {text : Array Char}

theorem Settles.congr {s : Nat} {f g : Nat → Option Cursor} (h : Settles program text s f)
    (heq : ∀ pos, f pos = g pos) : Settles program text s g := funext heq ▸ h

/-- A thread with what it settles to. -/
abbrev Settled := Thread × Option Cursor

/-- What the first of some threads finds. -/
def firstFound (us : List Settled) : Option Cursor :=
  us.findSome? fun u => u.2.map (·.after u.1.cursor.marks)

/-- The thread leads forward, and settles to what it is said to. -/
def Settled.Beyond (program : Program) (text : Array Char) (s : Nat) (u : Settled) : Prop :=
  s < u.1.step ∧ u.1.Inside program text ∧ SettlesAt program text u.1.place u.2

/-- Threads that lead forward find what the first of them finds. -/
theorem finds_firstFound (hp : program.Closed) {s : Nat} {k : Cursor} (ms : List (Nat × Nat))
    (ts : List Thread) : ∀ (us : List Settled) (seen : Finset Place),
      (∀ u ∈ us, u.Beyond program text s) → (∀ q ∈ seen, s < q.1 → ¬ Alive program text q) →
      firstFound us = some k → ∃ seen', Finds program text seen
        ((us.map (·.1)).map (·.after ms) ++ ts) (some (k.after ms)) seen'
  | [], _, _, _, hk => by simp [firstFound] at hk
  | (u, o) :: us, seen, hall, hseen, hk => by
    obtain ⟨⟨hlt, hin, halive, hfinds⟩, hus⟩ := List.forall_mem_cons.1 hall
    clear hall
    rw [List.map_cons, List.map_cons, List.cons_append]
    cases o with
    | some j =>
      have hj : j.after u.cursor.marks = k := by simpa [firstFound] using hk
      obtain ⟨seen', h⟩ := hfinds j rfl seen
        (fun q hq hle => hseen q hq (lt_of_lt_of_le hlt hle)) (u.cursor.marks ++ ms)
        ((us.map (·.1)).map (·.after ms) ++ ts)
      rw [← Cursor.after_after, hj] at h
      have hu : u.after ms = (Thread.start u.place).after (u.cursor.marks ++ ms) := rfl
      exact ⟨seen', by rw [hu]; exact h⟩
    | none =>
      have hdead : ¬ Alive program text (u.after ms).place := by simp [halive]
      obtain ⟨mid, hnew, -, hskip⟩ := exists_skip hp seen (d := u.after ms) hin hdead
      obtain ⟨seen', h⟩ := finds_firstFound hp ms ts us mid hus
        (fun q hq hlt' => (hnew q hq).elim (fun h => hseen q h hlt') id)
        (by simpa [firstFound] using hk)
      exact ⟨seen', hskip _ _ _ h⟩

/-- An instruction whose successors lead forward settles to what the first of them finds. -/
theorem settlesAt_of_next (hp : program.Closed) {p : Place} (hlt : p.1 < program.size)
    (us : List Settled) (hnext : (Thread.start p).next program text = us.map (·.1))
    (hus : ∀ u ∈ us, u.Beyond program text p.1) : SettlesAt program text p (firstFound us) := by
  have hne : p.1 ≠ program.size := Nat.ne_of_lt hlt
  have hiff : Alive program text p ↔ (firstFound us).isSome := by
    rw [← Thread.start_place p, alive_iff, hnext, firstFound, List.findSome?_isSome_iff]
    simp only [List.mem_map, exists_exists_and_eq_and, Option.isSome_map]
    constructor
    · rintro (h | ⟨u, hu, ha⟩)
      · exact absurd h hne
      · exact ⟨u, hu, (hus u hu).2.2.1.1 ha⟩
    · rintro ⟨u, hu, hs⟩
      exact .inr ⟨u, hu, (hus u hu).2.2.1.2 hs⟩
  refine ⟨hiff, fun k hk seen hseen ms ts => ?_⟩
  have hfresh : p ∉ seen := fun h => hseen p h le_rfl (hiff.2 (by simp [hk]))
  obtain ⟨seen', h⟩ := finds_firstFound hp ms ts us (insert p seen) hus
    (fun q hq hlt' => by
      rcases Finset.mem_insert.1 hq with rfl | hq
      · exact absurd hlt' (lt_irrefl _)
      · exact hseen q hq hlt'.le) hk
  exact ⟨seen', .step hfresh hne (by rw [Thread.next_after, hnext]; exact h)⟩

/-- An instruction settles to what the first of the threads that follow it finds. -/
theorem settlesAt_of_follow (hp : program.Closed) {s : Nat} {i : Instr}
    (hs : program[s]? = some i) (text : Array Char) (pos : Nat) (us : List Settled)
    (hfollow : i.follow text s ⟨pos, []⟩ = us.map (·.1))
    (hus : ∀ u ∈ us, u.Beyond program text s) :
    SettlesAt program text (s, pos) (firstFound us) := by
  have hlt : s < program.size := (Array.getElem?_eq_some_iff.1 hs).1
  refine settlesAt_of_next hp hlt us ?_ hus
  simp only [Thread.start, Thread.next, hs, hfollow]

/-- The end settles to itself. -/
theorem settles_end : Settles program text program.size (fun pos => some ⟨pos, []⟩) := by
  intro pos _
  have halive : Alive program text (program.size, pos) :=
    alive_of_end (t := .start (program.size, pos)) rfl
  refine ⟨by simpa using halive, ?_⟩
  rintro k hk seen hseen ms ts
  cases hk
  exact ⟨seen, .found (fun h => hseen _ h le_rfl halive) rfl⟩

/-- A character is taken or not. -/
theorem settles_char (hp : program.Closed) {s : Nat} {set : CharClass}
    (hs : program[s]? = some (Instr.char set)) {f : Nat → Option Cursor}
    (hf : Settles program text (s + 1) f) :
    Settles program text s fun pos =>
      match text[pos]? with
      | some c => if set.contains c then f (pos + 1) else none
      | none => none := by
  intro pos hpos
  cases hc : text[pos]? with
  | none =>
    have h := settlesAt_of_follow hp hs text pos [] (by simp [Instr.follow, hc]) (by simp)
    simpa [firstFound, hc] using h
  | some c =>
    by_cases hset : set.contains c
    · have hpos' : pos < text.size := (Array.getElem?_eq_some_iff.1 hc).1
      have hin : s + 1 ≤ program.size := (Array.getElem?_eq_some_iff.1 hs).1
      have h := settlesAt_of_follow hp hs text pos [(⟨s + 1, ⟨pos + 1, []⟩⟩, f (pos + 1))]
        (by simp [Instr.follow, hc, hset])
        (by simpa [Settled.Beyond] using ⟨⟨hin, hpos'⟩, hf (pos + 1) hpos'⟩)
      simpa [firstFound, hc, hset, Cursor.after_nil] using h
    · have h := settlesAt_of_follow hp hs text pos [] (by simp [Instr.follow, hc, hset]) (by simp)
      simpa [firstFound, hc, hset] using h

/-- A test holds or not. -/
theorem settles_look (hp : program.Closed) {s : Nat} {test : Look}
    (hs : program[s]? = some (Instr.look test)) {f : Nat → Option Cursor}
    (hf : Settles program text (s + 1) f) :
    Settles program text s fun pos => if test.holds text pos then f pos else none := by
  intro pos hpos
  have hin : s + 1 ≤ program.size := (Array.getElem?_eq_some_iff.1 hs).1
  by_cases htest : test.holds text pos
  · have h := settlesAt_of_follow hp hs text pos [(⟨s + 1, ⟨pos, []⟩⟩, f pos)]
      (by simp [Instr.follow, htest])
      (by simpa [Settled.Beyond] using ⟨⟨hin, hpos⟩, hf pos hpos⟩)
    simpa [firstFound, htest, Cursor.after_nil] using h
  · have h := settlesAt_of_follow hp hs text pos [] (by simp [Instr.follow, htest]) (by simp)
    simpa [firstFound, htest] using h

/-- A mark notes the position. -/
theorem settles_mark (hp : program.Closed) {s slot : Nat}
    (hs : program[s]? = some (Instr.mark slot)) {f : Nat → Option Cursor}
    (hf : Settles program text (s + 1) f) :
    Settles program text s fun pos => (f pos).map (·.after [(slot, pos)]) := by
  intro pos hpos
  have hin : s + 1 ≤ program.size := (Array.getElem?_eq_some_iff.1 hs).1
  have h := settlesAt_of_follow hp hs text pos [(⟨s + 1, ⟨pos, [(slot, pos)]⟩⟩, f pos)]
    (by simp [Instr.follow, Cursor.note])
    (by simpa [Settled.Beyond] using ⟨⟨hin, hpos⟩, hf pos hpos⟩)
  simpa [firstFound] using h

/-- A fork tries its first target, and then its second. -/
theorem settles_fork (hp : program.Closed) {s first second : Nat}
    (hs : program[s]? = some (Instr.fork first second)) (h₁ : s < first) (h₂ : s < second)
    {f g : Nat → Option Cursor} (hf : Settles program text first f)
    (hg : Settles program text second g) :
    Settles program text s fun pos => (f pos).or (g pos) := by
  intro pos hpos
  obtain ⟨hle₁, hle₂⟩ := (hp s).2 first second hs
  have h := settlesAt_of_follow hp hs text pos
    [(.start (first, pos), f pos), (.start (second, pos), g pos)] rfl
    (by simpa [Settled.Beyond] using
      ⟨⟨h₁, ⟨hle₁, hpos⟩, hf pos hpos⟩, h₂, ⟨hle₂, hpos⟩, hg pos hpos⟩)
  cases hfp : f pos <;> simpa [firstFound, hfp, Thread.start, Cursor.after_nil] using h

end

end Routing.Regex
