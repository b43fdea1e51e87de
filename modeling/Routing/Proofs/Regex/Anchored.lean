import Routing.Proofs.Regex.Fragment
import Routing.Proofs.Regex.Layout

/-!
Programs that start with the test for the start of the text. Of all places where the search begins
only the first one is of use, so the search gives what the step after the test settles to there.

    ^ …      from 0   test holds     ──▶  what the rest settles to at 0
             from 1   test fails     ──▶  dead, as from every later place

The check of a constraint is such a program, and it also ends in the test for the end of the text.
-/

namespace Routing.Regex

section
variable {program : Program} {text : Array Char}

/-- The search finds one thing. -/
theorem Finds.unique {seen : Finset Place} {ts : List Thread} {r r' : Option Cursor}
    {last last' : Finset Place} (h : Finds program text seen ts r last)
    (h' : Finds program text seen ts r' last') : r = r' := by
  induction h with
  | nil => cases h'; rfl
  | skip hseen _ ih =>
    cases h' with
    | skip _ h' => exact ih h'
    | found hnew => exact absurd hseen hnew
    | step hnew => exact absurd hseen hnew
  | found hnew hend =>
    cases h' with
    | skip hseen => exact absurd hseen hnew
    | found => rfl
    | step _ hne => exact absurd hend hne
  | step hnew hne _ ih =>
    cases h' with
    | skip hseen => exact absurd hseen hnew
    | found _ hend => exact absurd hend hne
    | step _ _ h' => exact ih h'

/-- What is found from the first start is the result. -/
theorem searchFrom_of_run {pos : Nat} {starts : List Nat} {v : Visited} {k : Cursor}
    (h : (run program text (threadBound program text.size) v [.start (0, pos)]).1 = some k) :
    searchFrom program text (pos :: starts) v = some k := by
  rw [searchFrom]
  split
  next j v' hj => exact (congrArg Prod.fst hj).symm.trans h
  next v' hnone => exact absurd ((congrArg Prod.fst hnone).symm.trans h) (by simp)

/-- From dead places nothing is found. -/
theorem searchFrom_eq_none (hp : program.Closed) : ∀ (starts : List Nat) (v : Visited)
    (seen : Finset Place), v.Shows text.size seen →
    (∀ pos ∈ starts, pos ≤ text.size ∧ ¬ Alive program text (0, pos)) →
    searchFrom program text starts v = none
  | [], _, _, _, _ => rfl
  | pos :: starts, v, seen, hv, hdead => by
    obtain ⟨⟨hpos, hstart⟩, hstarts⟩ := List.forall_mem_cons.1 hdead
    obtain ⟨seen', hfinds, hv'⟩ := run_finds hp (threadBound program text.size) v seen
      [.start (0, pos)] hv (by simpa [Thread.Inside, Thread.start]) (workLeft_start_lt _ _)
    rw [searchFrom]
    split
    next k v' hrun =>
      have hrun' : run program text (threadBound program text.size) v [.start (0, pos)] =
          (some k, v') := hrun
      rw [hrun'] at hfinds
      obtain ⟨t, ht, halive⟩ := hfinds.alive rfl
      rw [List.mem_singleton.1 ht] at halive
      exact absurd halive hstart
    next v' hrun =>
      have hrun' : run program text (threadBound program text.size) v [.start (0, pos)] =
          (none, v') := hrun
      rw [hrun'] at hv'
      exact searchFrom_eq_none hp starts v' seen' hv' hstarts

/-- The search gives what the first step settles to, if no later start is of use. -/
theorem search_eq_of_settlesAt (hp : program.Closed) {o : Option Cursor}
    (h : SettlesAt program text (0, 0) o)
    (hdead : ∀ pos, 0 < pos → pos ≤ text.size → ¬ Alive program text (0, pos)) :
    program.search text = o := by
  obtain ⟨halive, hfinds⟩ := h
  cases o with
  | none =>
    refine searchFrom_eq_none hp _ _ _ (Visited.nowhere_shows _) fun pos hpos => ?_
    refine ⟨Nat.lt_succ_iff.1 (List.mem_range.1 hpos), ?_⟩
    rcases Nat.eq_zero_or_pos pos with rfl | hlt
    · simpa using halive
    · exact hdead pos hlt (Nat.lt_succ_iff.1 (List.mem_range.1 hpos))
  | some k =>
    obtain ⟨last, hrun, -⟩ := run_finds hp (threadBound program text.size) (.nowhere text.size) ∅
      [.start (0, 0)] (Visited.nowhere_shows _) (by simp [Thread.Inside, Thread.start])
      (workLeft_start_lt _ _)
    obtain ⟨last', hfound⟩ := hfinds k rfl ∅ (by simp) [] []
    rw [Cursor.after_nil] at hfound
    rw [Program.search, List.range_succ_eq_map]
    exact searchFrom_of_run (hrun.unique hfound)

theorem holds_start_iff {pos : Nat} (hpos : pos ≤ text.size) :
    Look.start.holds text pos = true ↔ pos = 0 := by
  by_cases h : pos = 0
  · simp [Look.holds, h]
  · simp [Look.holds, h]
    omega

theorem holds_stop_iff {pos : Nat} (hpos : pos ≤ text.size) :
    Look.stop.holds text pos = true ↔ pos = text.size := by
  simp [Look.holds]
  omega

/-- A program that tests for the start is searched from the start of the text only. -/
theorem search_anchored (hp : program.Closed) (hstart : program[0]? = some (Instr.look .start))
    {f : Nat → Option Cursor} (hf : Settles program text 1 f) : program.search text = f 0 := by
  have h := settles_look hp hstart hf
  refine search_eq_of_settlesAt hp (by simpa [holds_start_iff] using h 0 (Nat.zero_le _))
    fun pos hlt hpos => ?_
  have hfails : ¬ Look.start.holds text pos = true := by
    rw [holds_start_iff hpos]
    exact Nat.ne_of_gt hlt
  rw [(h pos hpos).1]
  simp [hfails]

/-- The cursor, if it stands at the end of the text. -/
def atStop (text : Array Char) (pos : Nat) : Option Cursor :=
  if pos = text.size then some ⟨pos, []⟩ else none

/-- The test for the end of the text, as the last step of a program. -/
theorem settles_stop (hp : program.Closed) {s : Nat} (hs : program[s]? = some (Instr.look .stop))
    (hlast : s + 1 = program.size) : Settles program text s (atStop text) := by
  have hend : Settles program text (s + 1) _ := hlast ▸ settles_end
  intro pos hpos
  have hat := settles_look hp hs hend pos hpos
  rwa [show atStop text pos = if Look.stop.holds text pos then some ⟨pos, []⟩ else none by
    simp only [atStop, holds_stop_iff hpos]]

/-! ### Code in a program -/

/-- The code stands in the program from a step on. -/
def Program.Holds (program : Program) (s : Nat) (code : List Instr) : Prop :=
  ∀ (i : Nat) (instr : Instr), code[i]? = some instr → program[s + i]? = some instr

theorem holds_toArray (code : List Instr) : Program.Holds code.toArray 0 code := by
  intro i instr h
  rwa [Nat.zero_add, List.getElem?_toArray]

namespace Program.Holds

theorem head {s : Nat} {i : Instr} {code : List Instr} (h : program.Holds s (i :: code)) :
    program[s]? = some i := h 0 i rfl

theorem tail {s : Nat} {i : Instr} {code : List Instr} (h : program.Holds s (i :: code)) :
    program.Holds (s + 1) code := by
  intro j instr hj
  rw [Nat.add_right_comm]
  exact h (j + 1) instr hj

theorem left {s : Nat} {code code' : List Instr} (h : program.Holds s (code ++ code')) :
    program.Holds s code := fun i instr hi => h i instr (by
  rwa [List.getElem?_append_left (List.getElem?_eq_some_iff.1 hi).1])

theorem right {s : Nat} {code code' : List Instr} (h : program.Holds s (code ++ code')) :
    program.Holds (s + code.length) code' := by
  intro i instr hi
  rw [Nat.add_assoc]
  exact h _ instr (by rwa [List.getElem?_append_right (Nat.le_add_right _ _),
    Nat.add_sub_cancel_left])

/-- The code of an expression stands there as its program. -/
theorem hosts {d k : Nat} {a : Node} (h : program.Holds d ((a.shift k).code d)) :
    Hosts program a.program d k := by
  intro i instr hi
  have hcode := Node.code_shift d k a 0
  rw [Nat.zero_add] at hcode
  rw [Nat.add_comm]
  refine h i _ ?_
  rw [Node.program, List.getElem?_toArray] at hi
  rw [hcode, List.getElem?_map, hi]
  rfl

end Program.Holds

/-- The code of an expression settles to what its first useful way out finds. -/
theorem settles_code (hp : program.Closed) {s k : Nat} {a : Node}
    (h : program.Holds s ((a.shift k).code s)) (hle : s + a.codeSize ≤ program.size)
    {f : Nat → Option Cursor} (hf : Settles program text (s + a.codeSize) f) :
    Settles program text s fun pos => viaExits k f (a.program.exitsFrom text pos) := by
  have hsize : a.program.size + s = s + a.codeSize := by
    rw [Node.program, List.size_toArray, Node.length_code, Nat.add_comm]
  exact settles_block hp a.program_closed h.hosts (hsize ▸ hle) (hsize ▸ hf)

end

/-! ### Checks -/

/-- The check of a fragment accepts a text exactly if the fragment takes the whole of it. -/
theorem Fragment.isMatch_checked {c : String} (hc : Fragment c) {r : Regex}
    (hr : Regex.ofString (anchored c) = .ok r) (value : String) :
    r.isMatch value = true ↔
      value.length ∈ (ownNode c).program.ends value.toList.toArray 0 := by
  let text := value.toList.toArray
  have hcode : r.node.code 0 =
      .look .start :: (((ownNode c).shift 0).code 1 ++ [.look .stop]) := by
    rw [hc.checked_node hr, Node.code_seq, Node.shift_zero]
    rfl
  have hprogram : r.program = r.node.program := r.compiled
  have hholds : r.program.Holds 0 (r.node.code 0) := hprogram ▸ holds_toArray _
  have hp : r.program.Closed := hprogram ▸ r.node.program_closed
  have hsize : r.program.size = 1 + (ownNode c).codeSize + 1 := by
    rw [hprogram, Node.program, hcode]
    simp [Node.length_code]
    omega
  rw [hcode] at hholds
  have hstop := hholds.tail.right.head
  rw [Node.length_code, Node.codeSize_shift, Nat.zero_add] at hstop
  have hbody : Settles r.program text 1 _ := settles_code hp hholds.tail.left (by omega)
    (settles_stop hp hstop hsize.symm)
  have hsearch := search_anchored hp hholds.head hbody
  rw [Regex.isMatch, show value.toList.toArray = text from rfl, hsearch, viaExits,
    List.findSome?_isSome_iff]
  simp [Program.ends, atStop, text, String.length_toList]

end Routing.Regex
