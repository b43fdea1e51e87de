import Routing.Proofs.Regex.Layout

/-!
Expressions that test no place. Where such an expression can end depends on nothing but the
characters that it takes, so within a text it takes exactly those parts that it takes as texts of
their own.

    a|bc  in  x b c y   from 1 to 3          a|bc  on  b c   from 0 to 2
-/

namespace Routing.Regex

/-- No instruction of the program is a test. -/
def Program.LookFree (program : Program) : Prop :=
  ∀ (s : Nat) (test : Look), program[s]? ≠ some (Instr.look test)

theorem Instr.choose_ne_look {greedy : Bool} {more stop : Nat} (test : Look) :
    Instr.choose greedy more stop ≠ .look test := by
  cases greedy <;> simp [Instr.choose]

namespace Node

theorem lookFree_code {a : Node} (ha : a.LookFree) {test : Look} :
    ∀ start, Instr.look test ∉ a.code start := by
  induction a with
  | empty => simp [code]
  | char => simp [code]
  | look => exact ha.elim
  | capture _ _ a ih => simp [code, ih ha]
  | cat a b iha ihb => simp [code, iha ha.1, ihb ha.2]
  | alt a b iha ihb => simp [code, iha ha.1, ihb ha.2]
  | iter a lo hi greedy ih =>
    have hbody := ih ha
    intro start
    cases hi with
    | some hi =>
      simp [code, hbody, (Instr.choose_ne_look test).symm]
    | none =>
      by_cases hlo : lo = 0
      · simp only [code, hlo, if_true, List.mem_cons, List.mem_append, List.not_mem_nil, or_false,
          not_or]
        refine ⟨(Instr.choose_ne_look test).symm, hbody _, ?_⟩
        split
        · exact (Instr.choose_ne_look test).symm
        · simp
      · simp [code, hlo, hbody, (Instr.choose_ne_look test).symm]

theorem lookFree_program {a : Node} (ha : a.LookFree) : a.program.LookFree := by
  intro s test hs
  exact lookFree_code ha 0 (List.mem_of_getElem? (by simpa [program] using hs))

end Node

section
variable {program : Program} {text text' : Array Char}

/-- A step that reads the same character leads to the same step of the program. -/
theorem steps_elsewhere (hfree : program.LookFree) {s pos pos' : Nat} {q : Place}
    (h : Steps program text (s, pos) q) (hread : pos < q.2 → text[pos]? = text'[pos']?) :
    Steps program text' (s, pos') (q.1, pos' + (q.2 - pos)) := by
  obtain ⟨u, hu, rfl⟩ := h
  cases hi : program[s]? with
  | none => simp [Thread.next, Thread.start, hi] at hu
  | some i =>
    have hnext : ∀ (text : Array Char) (pos : Nat),
        (Thread.start (s, pos)).next program text = i.follow text s ⟨pos, []⟩ := by
      intro _ _
      simp only [Thread.start, Thread.next, hi]
    rw [hnext] at hu
    cases i with
    | char set =>
      simp only [Instr.follow] at hu
      split at hu
      next c hc =>
        split at hu
        next hset =>
          obtain rfl := List.mem_singleton.1 hu
          have hc' : text'[pos']? = some c := (hread (Nat.lt_succ_self _)).symm.trans hc
          refine ⟨⟨s + 1, ⟨pos' + 1, []⟩⟩, ?_, by simp [Thread.place]⟩
          simp [hnext, Instr.follow, hc', hset]
        · simp at hu
      · simp at hu
    | look test => exact absurd hi (hfree s test)
    | mark slot =>
      obtain rfl := List.mem_singleton.1 hu
      exact ⟨⟨s + 1, ⟨pos', [(slot, pos')]⟩⟩, by simp [hnext, Instr.follow, Cursor.note],
        by simp [Thread.place, Cursor.note]⟩
    | jump target =>
      obtain rfl := List.mem_singleton.1 hu
      exact ⟨⟨target, ⟨pos', []⟩⟩, by simp [hnext, Instr.follow], by simp [Thread.place]⟩
    | fork first second =>
      rcases List.mem_pair.1 hu with rfl | rfl
      · exact ⟨⟨first, ⟨pos', []⟩⟩, by simp [hnext, Instr.follow], by simp [Thread.place]⟩
      · exact ⟨⟨second, ⟨pos', []⟩⟩, by simp [hnext, Instr.follow], by simp [Thread.place]⟩

theorem pos_le_of_steps {p q : Place} (h : Steps program text p q) : p.2 ≤ q.2 := by
  obtain ⟨u, hu, rfl⟩ := h
  exact pos_le_of_mem_next hu

theorem pos_le_of_reaches {p q : Place} (h : Reaches program text p q) : p.2 ≤ q.2 := by
  induction h with
  | refl => exact le_rfl
  | tail _ hstep ih => exact ih.trans (pos_le_of_steps hstep)

/-- A program without tests takes the same characters at another place in the same way. -/
theorem reaches_elsewhere (hfree : program.LookFree) (base base' : Nat) {n : Nat}
    (hsame : ∀ i < n, text[base + i]? = text'[base' + i]?) {p q : Place}
    (h : Reaches program text p q) (hq : q.2 ≤ base + n) :
    base ≤ p.2 → Reaches program text' (p.1, base' + (p.2 - base)) (q.1, base' + (q.2 - base)) := by
  induction h using Relation.ReflTransGen.head_induction_on with
  | refl => exact fun _ => .refl
  | @head p r hstep hrest ih =>
    intro hp
    have hle := pos_le_of_steps hstep
    have hle' := pos_le_of_reaches hrest
    have hread : p.2 < r.2 → text[p.2]? = text'[base' + (p.2 - base)]? := by
      intro hlt
      rw [← hsame (p.2 - base) (by omega), Nat.add_sub_cancel' hp]
    have hmoved := steps_elsewhere hfree hstep hread
    have hpos : base' + (p.2 - base) + (r.2 - p.2) = base' + (r.2 - base) := by omega
    rw [hpos] at hmoved
    exact .head hmoved (ih (hp.trans hle))

/-- An expression without tests ends at a place of a text exactly if it takes the whole of the part
up to there. -/
theorem mem_ends_iff_part {a : Node} (ha : a.LookFree) {pos stop : Nat} (hpos : pos ≤ stop)
    (hstop : stop ≤ text.size) {part : Array Char} (hsize : part.size = stop - pos)
    (hpart : ∀ i < stop - pos, text[pos + i]? = part[i]?) :
    stop ∈ a.program.ends text pos ↔ part.size ∈ a.program.ends part 0 := by
  have hfree := a.lookFree_program ha
  rw [mem_ends_iff a.program_closed (hpos.trans hstop),
    mem_ends_iff a.program_closed (Nat.zero_le _), hsize]
  constructor
  · intro h
    have hthere := reaches_elsewhere hfree pos 0 (by simpa using hpart) h (by simp; omega) le_rfl
    simpa using hthere
  · intro h
    have hpart' : ∀ i < stop - pos, part[0 + i]? = text[pos + i]? := fun i hi => by
      rw [Nat.zero_add, hpart i hi]
    have hback := reaches_elsewhere hfree 0 pos hpart' h (by simp) le_rfl
    simpa [Nat.add_sub_cancel' hpos] using hback

/-! ### The characters that are taken -/

/-- A character of some class of the program is taken at a position. -/
def TakesClass (program : Program) (text : Array Char) (pos : Nat) : Prop :=
  ∃ (s : Nat) (set : CharClass) (c : Char),
    program[s]? = some (Instr.char set) ∧ text[pos]? = some c ∧ set.contains c

/-- Whatever is taken belongs to a class of the program. -/
theorem takesClass_of_reaches {p q : Place} (h : Reaches program text p q) :
    ∀ pos, p.2 ≤ pos → pos < q.2 → TakesClass program text pos := by
  induction h with
  | refl => exact fun pos hle hlt => absurd hlt (not_lt.2 hle)
  | @tail q r _ hstep ih =>
    intro pos hle hlt
    by_cases hpos : pos < q.2
    · exact ih pos hle hpos
    · obtain ⟨u, hu, rfl⟩ := hstep
      cases goes_of_mem_next hu with
      | @char set c hi hc hset =>
        have hat : pos = q.2 := Nat.le_antisymm (Nat.lt_succ_iff.1 hlt) (not_lt.1 hpos)
        exact ⟨q.1, set, c, hi, hat ▸ hc, hset⟩
      | look | mark | jump | first | second => exact absurd hlt hpos

/-- A step that takes a character is left with progress. -/
theorem pos_lt_of_reaches {s pos : Nat} {set : CharClass} {q : Place}
    (hs : program[s]? = some (Instr.char set)) (h : Reaches program text (s, pos) q)
    (hne : q.1 ≠ s) : pos < q.2 := by
  rcases h.cases_head with rfl | ⟨r, ⟨u, hu, rfl⟩, hrest⟩
  · exact absurd rfl hne
  · have hle : u.cursor.pos ≤ q.2 := pos_le_of_reaches hrest
    have hnext := goes_of_mem_next hu
    cases hnext with
    | char => exact hle
    | look hi | mark hi | jump hi | first hi | second hi =>
      have hi' : program[s]? = some _ := hi
      rw [hs] at hi'
      simp at hi'

end

end Routing.Regex
