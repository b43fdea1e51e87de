import Routing.Proofs.Regex.Fuel

/-!
The ways out of a program. `run` stops at the first thread that comes to the end; `exits` goes on,
and lists the ends of all matches from one position in the order in which the program prefers them.

    a|ab|a  entered at 0 of "ab"  is left at  1, 2

The first of them is what `run` gives, and the others are what it would give next if those before
were of no use. Each end is listed once: a second way to the same end is never the preferred one.
-/

namespace Routing.Regex

/-- Follows threads like `run`, and goes on where `run` would stop. -/
def exits (program : Program) (text : Array Char) :
    (fuel : Nat) → Visited → List Thread → List Cursor
  | 0, _, _ => []
  | _, _, [] => []
  | fuel + 1, v, t :: ts =>
    if v.contains t then exits program text fuel v ts
    else if t.step = program.size then t.cursor :: exits program text fuel (v.insert t) ts
    else exits program text fuel (v.insert t) (t.next program text ++ ts)

/-- The ways out of a program that is entered at a position, the preferred one first. -/
def Program.exitsFrom (program : Program) (text : Array Char) (pos : Nat) : List Cursor :=
  exits program text (threadBound program text.size) (.nowhere text.size) [.start (0, pos)]

/-- The ends of the matches from a position, the preferred one first. -/
def Program.ends (program : Program) (text : Array Char) (pos : Nat) : List Nat :=
  (program.exitsFrom text pos).map (·.pos)

section
variable {program : Program} {text : Array Char}

/-- What `run` finds is the first way out. -/
theorem run_eq_head_exits : ∀ (fuel : Nat) (v : Visited) (ts : List Thread),
    (run program text fuel v ts).1 = (exits program text fuel v ts).head?
  | 0, _, _ => rfl
  | _ + 1, _, [] => rfl
  | fuel + 1, v, t :: ts => by
    rw [run, exits]
    split
    · exact run_eq_head_exits fuel v ts
    · split
      · rfl
      · exact run_eq_head_exits fuel _ _

theorem exits_leaves (hp : program.Closed) : ∀ (fuel : Nat) (v : Visited) (seen : Finset Place)
    (ts : List Thread), v.Shows text.size seen → (∀ t ∈ ts, t.Inside program text) →
    workLeft program text seen ts < fuel →
    ∃ seen', Leaves program text seen ts (exits program text fuel v ts) seen'
  | 0, _, _, _, _, _, hfuel => by omega
  | fuel + 1, v, seen, [], _, _, _ => ⟨seen, .nil seen⟩
  | fuel + 1, v, seen, t :: ts, hv, hts, hfuel => by
    obtain ⟨ht, hts⟩ := List.forall_mem_cons.1 hts
    rw [exits]
    split
    next hc =>
      have hseen : t.place ∈ seen := (hv.contains_iff t ht.2).1 hc
      have hwork := workLeft_skip program text seen t ts
      obtain ⟨seen', hl⟩ := exits_leaves hp fuel v seen ts hv hts (by omega)
      exact ⟨seen', .skip hseen hl⟩
    next hc =>
      have hseen : t.place ∉ seen := fun h => hc ((hv.contains_iff t ht.2).2 h)
      have hwork := workLeft_step ht hseen ts
      split
      next hend =>
        rw [next_of_end hend, List.nil_append] at hwork
        obtain ⟨seen', hl⟩ := exits_leaves hp fuel (v.insert t) _ ts (shows_insert hv t) hts
          (by omega)
        exact ⟨seen', .leave hseen hend hl⟩
      next hend =>
        obtain ⟨seen', hl⟩ := exits_leaves hp fuel (v.insert t) _ (t.next program text ++ ts)
          (shows_insert hv t)
          (fun u hu => (List.mem_append.1 hu).elim (ht.next hp u) (hts u)) (by omega)
        exact ⟨seen', .step hseen hend hl⟩

theorem exitsFrom_leaves (hp : program.Closed) {pos : Nat} (hpos : pos ≤ text.size) :
    ∃ seen', Leaves program text ∅ [.start (0, pos)] (program.exitsFrom text pos) seen' :=
  exits_leaves hp _ _ _ _ (Visited.nowhere_shows _) (by simpa [Thread.Inside, Thread.start])
    (workLeft_start_lt _ _)

/-- A position is the end of a match exactly if the end of the program can be reached there. -/
theorem mem_ends_iff (hp : program.Closed) {pos : Nat} (hpos : pos ≤ text.size) (stop : Nat) :
    stop ∈ program.ends text pos ↔ Reaches program text (0, pos) (program.size, stop) := by
  obtain ⟨seen', hl⟩ := exitsFrom_leaves hp hpos
  rw [← hl.exists_pos_iff, Program.ends, List.mem_map]

/-- A property of threads that their successors keep holds of every way out. -/
theorem Leaves.forall_cursor {P : Thread → Prop}
    (hstep : ∀ t, P t → ∀ u ∈ t.next program text, P u) {seen ts ks seen'}
    (h : Leaves program text seen ts ks seen') :
    (∀ t ∈ ts, P t) → ∀ k ∈ ks, ∃ t : Thread, P t ∧ t.cursor = k := by
  induction h with
  | nil => simp
  | skip _ _ ih => exact fun hts => ih fun t ht => hts t (.tail _ ht)
  | leave _ _ _ ih =>
    intro hts k hk
    rcases List.mem_cons.1 hk with rfl | hk
    · exact ⟨_, hts _ (.head _), rfl⟩
    · exact ih (fun t ht => hts t (.tail _ ht)) k hk
  | step _ _ _ ih =>
    refine fun hts => ih fun u hu => ?_
    rcases List.mem_append.1 hu with hu | hu
    · exact hstep _ (hts _ (.head _)) u hu
    · exact hts u (.tail _ hu)

/-- The marks that a step sets are marks of the program. -/
theorem marks_of_mem_next {t u : Thread} (h : u ∈ t.next program text) :
    ∀ m ∈ u.cursor.marks,
      m ∈ t.cursor.marks ∨ ∃ i : Nat, program[i]? = some (Instr.mark m.1) := by
  cases goes_of_mem_next h with
  | mark hi =>
    intro m hm
    rcases List.mem_cons.1 hm with rfl | hm
    · exact .inr ⟨_, hi⟩
    · exact .inl hm
  | char | look | jump | first | second => exact fun m hm => .inl hm

/-- A way out lies right of the start and in the text, and its marks are marks of the program. -/
theorem mem_exitsFrom (hp : program.Closed) {pos : Nat} (hpos : pos ≤ text.size) :
    ∀ k ∈ program.exitsFrom text pos, pos ≤ k.pos ∧ k.pos ≤ text.size ∧
      ∀ m ∈ k.marks, ∃ i : Nat, program[i]? = some (Instr.mark m.1) := by
  intro k hk
  obtain ⟨seen', hl⟩ := exitsFrom_leaves hp hpos
  obtain ⟨t, ⟨ht, hle, hmarks⟩, rfl⟩ := hl.forall_cursor
    (P := fun t => t.Inside program text ∧ pos ≤ t.cursor.pos ∧
      ∀ m ∈ t.cursor.marks, ∃ i : Nat, program[i]? = some (Instr.mark m.1))
    (fun t ⟨ht, hle, hmarks⟩ u hu => ⟨ht.next hp u hu, hle.trans (pos_le_of_mem_next hu),
      fun m hm => (marks_of_mem_next hu m hm).elim (hmarks m) id⟩)
    (by simpa [Thread.Inside, Thread.start]) k hk
  exact ⟨hle, ht.2, hmarks⟩

end

end Routing.Regex
