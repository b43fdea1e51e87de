import Routing.Proofs.Regex.Block
import Routing.Proofs.Regex.Groups

/-!
How the code of an expression is laid out. It has the length that it is said to have, it jumps to no
place outside of itself but its end, and it marks only the groups of the expression. Code that is
placed elsewhere is the same code with its targets moved; groups that are counted from a later
number on move its marks.

    (a)|b         0  fork 1 5                   (a)|b         7  fork 8 12
    from 0 on     1  mark 2     …   5  char b   from 7 on     8  mark 6     …   12  char b
                                                groups from 2
-/

namespace Routing.Regex

@[simp] theorem Instr.moved_choose (d k : Nat) (greedy : Bool) (more stop : Nat) :
    (Instr.choose greedy more stop).moved d k = Instr.choose greedy (more + d) (stop + d) := by
  cases greedy <;> rfl

/-- The instruction leads to no step beyond `stop`, unless to the one that follows it. If it marks a
group, the number of the group has the property. -/
def Instr.Fits (stop : Nat) (P : Nat → Prop) : Instr → Prop
  | char _ | look _ => True
  | mark slot => P (slot / 2)
  | jump target => target ≤ stop
  | fork first second => first ≤ stop ∧ second ≤ stop

theorem Instr.Fits.mono {stop stop' : Nat} {P : Nat → Prop} (hle : stop ≤ stop') :
    ∀ {i : Instr}, i.Fits stop P → i.Fits stop' P
  | char _, _ | look _, _ => trivial
  | mark _, h => h
  | jump _, h => h.trans hle
  | fork _ _, h => ⟨h.1.trans hle, h.2.trans hle⟩

theorem Instr.fits_choose {stop more past : Nat} {P : Nat → Prop} {greedy : Bool}
    (hmore : more ≤ stop) (hpast : past ≤ stop) : (Instr.choose greedy more past).Fits stop P := by
  cases greedy
  · exact ⟨hpast, hmore⟩
  · exact ⟨hmore, hpast⟩

namespace Node

/-- No place between characters is tested. -/
def LookFree : Node → Prop
  | empty | char _ => True
  | look _ => False
  | capture _ _ a | iter a _ _ _ => a.LookFree
  | cat a b | alt a b => a.LookFree ∧ b.LookFree

/-- Does the expression test no place? -/
def decLookFree : (a : Node) → Decidable a.LookFree
  | empty | char _ => isTrue trivial
  | look _ => isFalse id
  | capture _ _ a | iter a _ _ _ => decLookFree a
  | cat a b | alt a b =>
    have := decLookFree a
    have := decLookFree b
    inferInstanceAs (Decidable (a.LookFree ∧ b.LookFree))

instance : DecidablePred LookFree := decLookFree

@[simp] theorem codeSize_shift (k : Nat) (a : Node) : (a.shift k).codeSize = a.codeSize := by
  induction a with
  | empty | char | look => rfl
  | capture _ _ a ih => simp [shift, codeSize, ih]
  | cat a b iha ihb | alt a b iha ihb => simp [shift, codeSize, iha, ihb]
  | iter a lo hi greedy ih => cases hi <;> simp [shift, codeSize, ih]

/-! ### Length and position -/

theorem length_flatMap_range {α : Type} (n size : Nat) (f : Nat → List α)
    (h : ∀ i, (f i).length = size) : ((List.range n).flatMap f).length = n * size := by
  induction n with
  | zero => simp
  | succ n ih =>
    rw [List.range_succ, List.flatMap_append, List.length_append, ih, Nat.succ_mul]
    simp [h]

theorem length_code (a : Node) : ∀ start, (a.code start).length = a.codeSize := by
  induction a with
  | empty | char | look => intro _; rfl
  | capture _ _ a ih => intro _; simp [code, codeSize, ih]
  | cat a b iha ihb => intro _; simp [code, codeSize, iha, ihb]
  | alt a b iha ihb => intro _; simp [code, codeSize, iha, ihb]; omega
  | iter a lo hi greedy ih =>
    intro start
    have hrounds := length_flatMap_range lo a.codeSize
      (fun i => a.code (start + i * a.codeSize)) fun i => ih _
    cases hi with
    | some hi =>
      have hmore := length_flatMap_range (hi - lo) (a.codeSize + 1)
        (fun i => Instr.choose greedy (start + lo * a.codeSize + i * (a.codeSize + 1) + 1)
          (start + lo * a.codeSize + (hi - lo) * (a.codeSize + 1)) ::
            a.code (start + lo * a.codeSize + i * (a.codeSize + 1) + 1)) fun i => by simp [ih]
      rw [code, List.length_append, hrounds, hmore, codeSize]
    | none =>
      by_cases hlo : lo = 0
      · simp [code, codeSize, hlo, ih]
      · simp [code, codeSize, hlo, hrounds]

/-- Moved code of a repetition, if the code of what is repeated is moved. -/
theorem code_shift_iter (d k : Nat) {a : Node}
    (ih : ∀ start, (a.shift k).code (start + d) = (a.code start).map (Instr.moved d k))
    (lo : Nat) (hi : Option Nat) (greedy : Bool) (start : Nat) :
    ((iter a lo hi greedy).shift k).code (start + d) =
      ((iter a lo hi greedy).code start).map (Instr.moved d k) := by
  have hround : ∀ n i, (a.shift k).code (n + d + i) = (a.code (n + i)).map (Instr.moved d k) := by
    intro n i
    rw [← ih, Nat.add_right_comm]
  cases hi with
  | some hi =>
    simp only [shift, code, codeSize_shift, List.map_append, List.map_flatMap, List.map_cons,
      Instr.moved_choose, hround]
    congr 1
    refine List.flatMap_congr fun i _ => ?_
    congr 1
    · congr 1 <;> omega
    · rw [← ih]
      congr 1
      omega
  | none =>
    by_cases hlo : lo = 0
    · have hbody := hround start 1
      cases greedy <;> cases hnull : a.nullable <;>
        simp [shift, code, hlo, hbody, hnull, Instr.moved, Instr.choose, Nat.add_right_comm]
    · simp [shift, code, hlo, List.map_flatMap, hround, Nat.add_right_comm]

/-- Code that is placed `d` steps further on, with its groups numbered from `k` on, is moved. -/
theorem code_shift (d k : Nat) (a : Node) :
    ∀ start, (a.shift k).code (start + d) = (a.code start).map (Instr.moved d k) := by
  induction a with
  | empty | char | look => intro _; rfl
  | capture index name a ih =>
    intro start
    have hbody := ih (start + 1)
    rw [Nat.add_right_comm] at hbody
    simp [shift, code, hbody, Instr.moved]
    omega
  | cat a b iha ihb =>
    intro start
    have hsecond := ihb (start + a.codeSize)
    rw [Nat.add_right_comm] at hsecond
    simp [shift, code, iha, hsecond]
  | alt a b iha ihb =>
    intro start
    have hfirst := iha (start + 1)
    have hsecond := ihb (start + a.codeSize + 2)
    rw [Nat.add_right_comm] at hfirst
    rw [show start + a.codeSize + 2 + d = start + d + a.codeSize + 2 by omega] at hsecond
    simp [shift, code, hfirst, hsecond, Instr.moved]
    omega
  | iter a lo hi greedy ih => exact code_shift_iter d k ih lo hi greedy

/-! ### Where the code leads -/

/-- A round of a repetition ends before the rounds do. -/
theorem round_le {n i : Nat} (h : i < n) (size : Nat) : i * size + size ≤ n * size := by
  rw [← Nat.succ_mul]
  exact Nat.mul_le_mul_right size h

/-- The code of a repetition leads nowhere outside, if the code of what is repeated does not. -/
theorem fits_iter {P : Nat → Prop} {a : Node}
    (ih : ∀ start, ∀ i ∈ a.code start, i.Fits (start + a.codeSize) P)
    (lo : Nat) (hi : Option Nat) (greedy : Bool) (start : Nat) :
    ∀ i ∈ (iter a lo hi greedy).code start,
      i.Fits (start + (iter a lo hi greedy).codeSize) P := by
  intro i hmem
  cases hi with
  | some hi =>
    simp only [code, List.mem_append, List.mem_flatMap, List.mem_range, List.mem_cons] at hmem
    simp only [codeSize]
    rcases hmem with ⟨j, hj, hmem⟩ | ⟨j, hj, rfl | hmem⟩
    · have hround := round_le hj a.codeSize
      exact (ih _ i hmem).mono (by omega)
    · have hround := round_le hj (a.codeSize + 1)
      exact Instr.fits_choose (by omega) (by omega)
    · have hround := round_le hj (a.codeSize + 1)
      exact (ih _ i hmem).mono (by omega)
  | none =>
    by_cases hlo : lo = 0
    · have hfork : (Instr.choose greedy (start + 1) (start + a.codeSize + 2)).Fits
          (start + (a.codeSize + 2)) P := Instr.fits_choose (by omega) (by omega)
      simp only [code, hlo, if_true, List.mem_cons, List.mem_append, List.not_mem_nil,
        or_false] at hmem
      simp only [codeSize, hlo, if_true]
      rcases hmem with rfl | hmem | rfl
      · exact hfork
      · exact (ih _ i hmem).mono (by omega)
      · split
        · exact hfork
        · exact Nat.le_add_right _ _
    · simp only [code, hlo, if_false, List.mem_append, List.mem_flatMap, List.mem_range,
        List.mem_cons, List.not_mem_nil, or_false] at hmem
      simp only [codeSize, hlo, if_false]
      rcases hmem with ⟨j, hj, hmem⟩ | rfl
      · have hround := round_le hj a.codeSize
        exact (ih _ i hmem).mono (by omega)
      · have hround := round_le (Nat.sub_one_lt hlo) a.codeSize
        exact Instr.fits_choose (by omega) (by omega)

/-- The code of an expression leads nowhere outside of it, and its marks are those of its groups. -/
theorem fits_code {P : Nat → Prop} (a : Node) (ha : a.Captures fun i _ => P i) :
    ∀ start, ∀ i ∈ a.code start, i.Fits (start + a.codeSize) P := by
  induction a with
  | empty => intro _ i hi; simp [code] at hi
  | char | look => intro _ i hi; rw [List.mem_singleton.1 hi]; trivial
  | capture index name a ih =>
    intro start i hi
    simp only [code, List.mem_cons, List.mem_append, List.not_mem_nil, or_false] at hi
    rcases hi with rfl | hi | rfl
    · simpa [Instr.Fits] using ha.1
    · exact (ih ha.2 _ i hi).mono (by simp only [codeSize]; omega)
    · simpa [Instr.Fits, Nat.mul_add_div] using ha.1
  | cat a b iha ihb =>
    intro start i hi
    rcases List.mem_append.1 hi with hi | hi
    · exact (iha ha.1 _ i hi).mono (by simp only [codeSize]; omega)
    · exact (ihb ha.2 _ i hi).mono (by simp only [codeSize]; omega)
  | alt a b iha ihb =>
    intro start i hi
    simp only [code, List.mem_cons, List.mem_append] at hi
    rcases hi with rfl | hi | rfl | hi
    · simp only [Instr.Fits, codeSize]; omega
    · exact (iha ha.1 _ i hi).mono (by simp only [codeSize]; omega)
    · simp only [Instr.Fits, codeSize]; omega
    · exact (ihb ha.2 _ i hi).mono (by simp only [codeSize]; omega)
  | iter a lo hi greedy ih => exact fits_iter (ih ha) lo hi greedy

/-- The program of an expression keeps to itself. -/
theorem program_closed (a : Node) : a.program.Closed := by
  have hfits := fits_code (P := fun _ => True) a a.captures_true 0
  have hsize : a.program.size = 0 + a.codeSize := by simp [program, length_code]
  intro s
  constructor
  · intro target hs
    rw [hsize]
    exact hfits (.jump target) (List.mem_of_getElem? (by simpa [program] using hs))
  · intro first second hs
    rw [hsize]
    exact hfits (.fork first second) (List.mem_of_getElem? (by simpa [program] using hs))

/-- The marks of a program are those of groups of the expression. -/
theorem groups_of_mark {P : Nat → Prop} {a : Node} (ha : a.Captures fun i _ => P i) {s slot : Nat}
    (hs : a.program[s]? = some (Instr.mark slot)) : P (slot / 2) :=
  fits_code a ha 0 (.mark slot) (List.mem_of_getElem? (by simpa [program] using hs))

/-! ### Sequences -/

/-- The code of some expressions, one after another. -/
def codeAll : List Node → (start : Nat) → List Instr
  | [], _ => []
  | a :: as, start => a.code start ++ codeAll as (start + a.codeSize)

/-- The length of the code of some expressions. -/
def sizeAll : List Node → Nat
  | [] => 0
  | a :: as => a.codeSize + sizeAll as

@[simp] theorem sizeAll_cons (a : Node) (as : List Node) :
    sizeAll (a :: as) = a.codeSize + sizeAll as := rfl

@[simp] theorem sizeAll_append (as bs : List Node) :
    sizeAll (as ++ bs) = sizeAll as + sizeAll bs := by
  induction as with
  | nil => rw [List.nil_append, sizeAll, Nat.zero_add]
  | cons a as ih => rw [List.cons_append, sizeAll_cons, sizeAll_cons, ih, Nat.add_assoc]

theorem sizeAll_chars (sets : List CharClass) : sizeAll (sets.map char) = sets.length := by
  induction sets with
  | nil => rfl
  | cons set sets ih =>
    rw [List.map_cons, sizeAll_cons, ih, codeSize, List.length_cons, Nat.add_comm]

theorem codeAll_append (as bs : List Node) :
    ∀ start, codeAll (as ++ bs) start = codeAll as start ++ codeAll bs (start + sizeAll as) := by
  induction as with
  | nil => intro _; rfl
  | cons a as ih => intro start; simp [codeAll, ih, Nat.add_assoc]

theorem length_codeAll (as : List Node) : ∀ start, (codeAll as start).length = sizeAll as := by
  induction as with
  | nil => intro _; rfl
  | cons a as ih => intro start; simp [codeAll, length_code, ih]

theorem code_ofParts (as : List Node) : ∀ start, (ofParts as).code start = codeAll as start := by
  induction as with
  | nil => intro _; rfl
  | cons a as ih =>
    intro start
    cases as with
    | nil => simp [ofParts, codeAll]
    | cons b bs =>
      rw [ofParts.eq_3 _ _ (by simp), code, ih]
      rfl

theorem sizeAll_parts (a : Node) : sizeAll a.parts = a.codeSize := by
  induction a with
  | cat a b iha ihb => simp [parts, codeSize, iha, ihb]
  | empty | char | look | capture | alt | iter => simp [parts, sizeAll, codeSize]

theorem codeAll_parts (a : Node) : ∀ start, codeAll a.parts start = a.code start := by
  induction a with
  | cat a b iha ihb => intro start; simp [parts, codeAll_append, iha, ihb, sizeAll_parts, code]
  | empty | char | look | capture | alt | iter => intro start; simp [parts, codeAll, code]

theorem codeAll_flatMap_parts (as : List Node) :
    ∀ start, codeAll (as.flatMap parts) start = codeAll as start := by
  induction as with
  | nil => intro _; rfl
  | cons a as ih =>
    intro start
    rw [List.flatMap_cons, codeAll_append, codeAll_parts, sizeAll_parts, ih, codeAll]

/-- The code of a sequence is that of its members, however they are nested. -/
theorem code_seq (as : List Node) (start : Nat) : (seq as).code start = codeAll as start := by
  rw [seq, code_ofParts, codeAll_flatMap_parts]

theorem codeSize_seq (as : List Node) : (seq as).codeSize = sizeAll as := by
  rw [← length_code _ 0, code_seq, length_codeAll]

theorem group?_parts (name : String) (a : Node) :
    a.parts.findSome? (group? name) = a.group? name := by
  induction a with
  | cat a b iha ihb => rw [parts, List.findSome?_append, iha, ihb, group?]
  | empty => rfl
  | char | look | capture | alt | iter => exact List.findSome?_singleton

theorem group?_ofParts (name : String) (as : List Node) :
    (ofParts as).group? name = as.findSome? (group? name) := by
  induction as with
  | nil => rfl
  | cons a as ih =>
    cases as with
    | nil => rw [ofParts, List.findSome?_singleton]
    | cons b bs =>
      rw [ofParts.eq_3 _ _ (by simp), group?, ih]
      cases ha : a.group? name <;> simp [List.findSome?_cons, ha]

/-- A name is looked for in the members of a sequence, from left to right. -/
theorem group?_seq (name : String) (as : List Node) :
    (seq as).group? name = as.findSome? (group? name) := by
  rw [seq, group?_ofParts]
  induction as with
  | nil => rfl
  | cons a as ih =>
    rw [List.flatMap_cons, List.findSome?_append, group?_parts, ih, List.findSome?_cons]
    cases a.group? name <;> rfl

end Node

end Routing.Regex
