import Mathlib.Data.Finset.Card
import Mathlib.Data.Finset.Prod
import Routing.Proofs.Regex.Exploration

/-!
The search ends. Each place is visited once and leads to two threads at most, so the threads that
wait and twice the places that are left get fewer with every thread that is looked at.

With that `run` is `Finds`, and a thread without a way on to the end may be put before any others:
it changes nothing but the places visited.
-/

namespace Routing.Regex

/-- Every jump of the program stays in it. -/
def Program.Closed (program : Program) : Prop :=
  ∀ i : Nat, (∀ target, program[i]? = some (Instr.jump target) → target ≤ program.size) ∧
    ∀ first second, program[i]? = some (Instr.fork first second) →
      first ≤ program.size ∧ second ≤ program.size

/-- The thread stands in the program and in the text. -/
def Thread.Inside (program : Program) (text : Array Char) (t : Thread) : Prop :=
  t.step ≤ program.size ∧ t.cursor.pos ≤ text.size

/-- All places. -/
def allPlaces (program : Program) (text : Array Char) : Finset Place :=
  Finset.range (program.size + 1) ×ˢ Finset.range (text.size + 1)

/-- What is left to do. -/
def workLeft (program : Program) (text : Array Char) (seen : Finset Place) (ts : List Thread) :
    Nat :=
  ts.length + 2 * (allPlaces program text \ seen).card

section
variable {program : Program} {text : Array Char}

theorem step_le_of_mem_next (hp : program.Closed) {t u : Thread}
    (h : u ∈ t.next program text) : u.step ≤ program.size := by
  cases goes_of_mem_next h with
  | char hi | look hi | mark hi => exact (Array.getElem?_eq_some_iff.1 hi).1
  | jump hi => exact (hp _).1 _ hi
  | first hi => exact ((hp _).2 _ _ hi).1
  | second hi => exact ((hp _).2 _ _ hi).2

/-- Steps lead to the right in the text. -/
theorem pos_le_of_mem_next {t u : Thread} (h : u ∈ t.next program text) :
    t.cursor.pos ≤ u.cursor.pos := by
  cases goes_of_mem_next h with
  | char => exact Nat.le_succ _
  | look | mark | jump | first | second => exact le_rfl

/-- Steps do not lead out of the text. -/
theorem pos_le_size_of_mem_next {t u : Thread} (ht : t.cursor.pos ≤ text.size)
    (h : u ∈ t.next program text) : u.cursor.pos ≤ text.size := by
  cases goes_of_mem_next h with
  | char _ hc => exact (Array.getElem?_eq_some_iff.1 hc).1
  | look | mark | jump | first | second => exact ht

theorem Thread.Inside.next {t : Thread} (hp : program.Closed) (ht : t.Inside program text) :
    ∀ u ∈ t.next program text, u.Inside program text :=
  fun _ hu => ⟨step_le_of_mem_next hp hu, pos_le_size_of_mem_next ht.2 hu⟩

theorem Thread.Inside.mem_allPlaces {t : Thread} (ht : t.Inside program text) :
    t.place ∈ allPlaces program text := by
  simp only [allPlaces, Finset.mem_product, Finset.mem_range]
  exact ⟨Nat.lt_succ_of_le ht.1, Nat.lt_succ_of_le ht.2⟩

theorem card_insert_lt {seen : Finset Place} {t : Thread} (ht : t.Inside program text)
    (hseen : t.place ∉ seen) :
    (allPlaces program text \ insert t.place seen).card + 1 =
      (allPlaces program text \ seen).card := by
  rw [Finset.sdiff_insert, Finset.card_erase_add_one]
  exact Finset.mem_sdiff.2 ⟨ht.mem_allPlaces, hseen⟩

variable (program text) in
theorem workLeft_skip (seen : Finset Place) (t : Thread) (ts : List Thread) :
    workLeft program text seen ts + 1 = workLeft program text seen (t :: ts) := by
  simp only [workLeft, List.length_cons]
  omega

theorem workLeft_step {seen : Finset Place} {t : Thread} (ht : t.Inside program text)
    (hseen : t.place ∉ seen) (ts : List Thread) :
    workLeft program text (insert t.place seen) (t.next program text ++ ts) + 1 ≤
      workLeft program text seen (t :: ts) := by
  have hcard := card_insert_lt ht hseen
  have hnext : (t.next program text).length ≤ 2 := t.length_next_le
  simp only [workLeft, List.length_append, List.length_cons]
  omega

/-! ### Dead threads -/

/-- Threads that are dead can be put before any others. They leave only dead places behind. -/
theorem exists_skip_all (hp : program.Closed) (n : Nat) :
    ∀ (seen : Finset Place) (ds : List Thread), workLeft program text seen ds ≤ n →
      (∀ d ∈ ds, d.Inside program text ∧ ¬ Alive program text d.place) →
      ∃ seen', (∀ p ∈ seen', p ∈ seen ∨ ¬ Alive program text p) ∧ seen ⊆ seen' ∧
        ∀ ts r seen'', Finds program text seen' ts r seen'' →
          Finds program text seen (ds ++ ts) r seen'' := by
  induction n with
  | zero =>
    intro seen ds hn _
    cases ds with
    | nil => exact ⟨seen, fun _ h => .inl h, subset_rfl, fun _ _ _ h => h⟩
    | cons d ds => simp [workLeft] at hn
  | succ n ih =>
    intro seen ds hn hds
    cases ds with
    | nil => exact ⟨seen, fun _ h => .inl h, subset_rfl, fun _ _ _ h => h⟩
    | cons d ds =>
      obtain ⟨⟨hd, hdead⟩, hds⟩ := List.forall_mem_cons.1 hds
      by_cases hseen : d.place ∈ seen
      · have hwork := workLeft_skip program text seen d ds
        obtain ⟨seen', hnew, hsub, hfinds⟩ := ih seen ds (by omega) hds
        exact ⟨seen', hnew, hsub, fun ts r _ h => .skip hseen (hfinds ts r _ h)⟩
      · have hnext : ∀ u ∈ d.next program text,
            u.Inside program text ∧ ¬ Alive program text u.place :=
          fun u hu => ⟨hd.next hp u hu, fun ha => hdead (alive_of_mem_next hu ha)⟩
        have hall : ∀ u ∈ d.next program text ++ ds,
            u.Inside program text ∧ ¬ Alive program text u.place := by
          intro u hu
          rcases List.mem_append.1 hu with hu | hu
          · exact hnext u hu
          · exact hds u hu
        have hwork := workLeft_step hd hseen ds
        obtain ⟨seen', hnew, hsub, hfinds⟩ := ih (insert d.place seen) _ (by omega) hall
        refine ⟨seen', fun p hpm => ?_, (Finset.subset_insert _ _).trans hsub, fun ts r _ h => ?_⟩
        · rcases hnew p hpm with h | h
          · rcases Finset.mem_insert.1 h with rfl | h
            · exact .inr hdead
            · exact .inl h
          · exact .inr h
        · have hrest := hfinds ts r _ h
          rw [List.append_assoc] at hrest
          exact .step hseen (fun hend => hdead (alive_of_end hend)) hrest

/-- A dead thread can be put before any others. -/
theorem exists_skip (hp : program.Closed) (seen : Finset Place) {d : Thread}
    (hd : d.Inside program text) (hdead : ¬ Alive program text d.place) :
    ∃ seen', (∀ p ∈ seen', p ∈ seen ∨ ¬ Alive program text p) ∧ seen ⊆ seen' ∧
      ∀ ts r seen'', Finds program text seen' ts r seen'' →
        Finds program text seen (d :: ts) r seen'' :=
  exists_skip_all hp _ seen [d] le_rfl (by simpa using ⟨hd, hdead⟩)

/-! ### The table of visited places -/

/-- The table holds exactly the places of a set. -/
structure Visited.Shows (v : Visited) (size : Nat) (seen : Finset Place) : Prop where
  size_eq : v.steps.size = size + 1
  contains_iff : ∀ t : Thread, t.cursor.pos ≤ size → (v.contains t = true ↔ t.place ∈ seen)

theorem Visited.nowhere_shows (size : Nat) : (nowhere size).Shows size ∅ where
  size_eq := by simp [nowhere]
  contains_iff := by
    intro t _
    by_cases h : t.cursor.pos < size + 1 <;> simp [nowhere, contains, Array.getD, h]

theorem shows_insert {v : Visited} {size : Nat} {seen : Finset Place}
    (hv : v.Shows size seen) (t : Thread) : (v.insert t).Shows size (insert t.place seen) where
  size_eq := by simp [Visited.insert, hv.size_eq]
  contains_iff := by
    intro u hu
    have hlt : u.cursor.pos < v.steps.size := by rw [hv.size_eq]; omega
    have hold := hv.contains_iff u hu
    simp only [Visited.contains, Array.getD, hlt, dif_pos, Array.getInternal_eq_getElem] at hold
    simp only [Visited.contains, Visited.insert, Array.getD, Array.size_modify, hlt, dif_pos,
      Array.getInternal_eq_getElem, Array.getElem_modify, Finset.mem_insert, ← hold]
    have hplace : u.place = t.place ↔ u.step = t.step ∧ t.cursor.pos = u.cursor.pos := by
      simp [Thread.place, eq_comm]
    rw [hplace]
    split
    next heq =>
      simp only [heq, and_true, Nat.testBit_or, Nat.testBit_shiftLeft,
        Nat.testBit_one_eq_true_iff_self_eq_zero, Bool.or_eq_true, Bool.and_eq_true,
        decide_eq_true_eq]
      constructor
      · rintro (h | h)
        · exact .inr h
        · exact .inl (by omega)
      · rintro (h | h)
        · exact .inr (by omega)
        · exact .inl h
    next hne => simp [hne]

/-- With fuel for the work that is left, the run is the search. -/
theorem run_finds (hp : program.Closed) : ∀ (fuel : Nat) (v : Visited) (seen : Finset Place)
    (ts : List Thread), v.Shows text.size seen → (∀ t ∈ ts, t.Inside program text) →
    workLeft program text seen ts < fuel →
    ∃ seen', Finds program text seen ts (run program text fuel v ts).1 seen' ∧
      (run program text fuel v ts).2.Shows text.size seen'
  | 0, _, _, _, _, _, hfuel => by omega
  | fuel + 1, v, seen, [], hv, _, _ => ⟨seen, .nil seen, hv⟩
  | fuel + 1, v, seen, t :: ts, hv, hts, hfuel => by
    obtain ⟨ht, hts⟩ := List.forall_mem_cons.1 hts
    rw [run]
    split
    next hc =>
      have hseen : t.place ∈ seen := (hv.contains_iff t ht.2).1 hc
      have hwork := workLeft_skip program text seen t ts
      obtain ⟨seen', hf, hv'⟩ := run_finds hp fuel v seen ts hv hts (by omega)
      exact ⟨seen', .skip hseen hf, hv'⟩
    next hc =>
      have hseen : t.place ∉ seen := fun h => hc ((hv.contains_iff t ht.2).2 h)
      split
      next hend => exact ⟨seen, .found hseen hend, hv⟩
      next hend =>
        have hwork := workLeft_step ht hseen ts
        obtain ⟨seen', hf, hv'⟩ := run_finds hp fuel (v.insert t) _ (t.next program text ++ ts)
          (shows_insert hv t) (fun u hu => (List.mem_append.1 hu).elim (ht.next hp u) (hts u))
          (by omega)
        exact ⟨seen', .step hseen hend hf, hv'⟩

/-- The bound on the number of threads is enough for one start. -/
theorem workLeft_start_lt (seen : Finset Place) (t : Thread) :
    workLeft program text seen [t] < threadBound program text.size := by
  have hcard : (allPlaces program text \ seen).card ≤ (program.size + 1) * (text.size + 1) := by
    refine (Finset.card_le_card Finset.sdiff_subset).trans ?_
    simp [allPlaces]
  have hmul : 2 * (program.size + 1) * (text.size + 1) =
      2 * ((program.size + 1) * (text.size + 1)) := Nat.mul_assoc ..
  simp only [workLeft, threadBound, List.length_singleton]
  omega

end

end Routing.Regex
