import Mathlib.Data.Finset.Card
import Mathlib.Data.Finset.Prod
import Mathlib.Logic.Relation
import Routing.Regex.Match

/-!
The search for a match without fuel and without a table of bits. A place is a step of the program
with a position in the text; what a thread can still do depends on its place alone, and its marks
only grow.

`Finds` is the search for the first thread that comes to the end of the program. `Leaves` goes on
after that one, so it lists all ways out in the order in which they are preferred. Both forget how
`run` counts: `run_finds` says that the fuel is enough.

                        ┌──── dead: every way on is lost ──────┐
    threads   t₁ t₂ t₃  │  skipped by `exists_skip`            │   alive: some way on is an end
                        └──────────────────────────────────────┘
-/

namespace Routing.Regex

/-- A step of a program and a position in a text. -/
abbrev Place := Nat × Nat

/-- Where a thread stands. -/
def Thread.place (t : Thread) : Place := (t.step, t.cursor.pos)

/-- The thread at a place, without marks. -/
def Thread.start (p : Place) : Thread := ⟨p.1, ⟨p.2, []⟩⟩

/-- The same cursor, with marks that were set before its own. -/
def Cursor.after (k : Cursor) (marks : List (Nat × Nat)) : Cursor :=
  { k with marks := k.marks ++ marks }

/-- The same thread, with marks that were set before its own. -/
def Thread.after (t : Thread) (marks : List (Nat × Nat)) : Thread :=
  { t with cursor := t.cursor.after marks }

@[simp] theorem Cursor.after_pos (k : Cursor) (ms) : (k.after ms).pos = k.pos := rfl

@[simp] theorem Cursor.after_marks (k : Cursor) (ms) : (k.after ms).marks = k.marks ++ ms := rfl

theorem Cursor.after_nil (k : Cursor) : k.after [] = k := by simp [Cursor.after]

theorem Cursor.after_after (k : Cursor) (ms ns) : (k.after ms).after ns = k.after (ms ++ ns) := by
  simp [Cursor.after]

@[simp] theorem Thread.after_place (t : Thread) (ms) : (t.after ms).place = t.place := rfl

@[simp] theorem Thread.after_step (t : Thread) (ms) : (t.after ms).step = t.step := rfl

@[simp] theorem Thread.start_place (p : Place) : (Thread.start p).place = p := rfl

theorem Thread.eq_start_after (t : Thread) : t = (start t.place).after t.cursor.marks := rfl

section
variable {program : Program} {text : Array Char}

/-- Marks set before are carried along, and change nothing else. -/
theorem Instr.follow_after (i : Instr) (step : Nat) (k : Cursor) (ms : List (Nat × Nat)) :
    i.follow text step (k.after ms) = (i.follow text step k).map (·.after ms) := by
  cases i with
  | char set =>
    simp only [Instr.follow, Cursor.after_pos]
    cases text[k.pos]? with
    | none => rfl
    | some c => cases h : set.contains c <;> simp [Thread.after, Cursor.after, h]
  | look test => cases h : test.holds text k.pos <;> simp [Instr.follow, Thread.after, h]
  | mark slot => rfl
  | jump target => rfl
  | fork first second => rfl

theorem Thread.next_after (t : Thread) (ms : List (Nat × Nat)) :
    (t.after ms).next program text = (t.next program text).map (·.after ms) := by
  unfold Thread.next
  rw [Thread.after_step]
  split
  · exact Instr.follow_after ..
  · rfl

variable (program text) in
/-- What a thread can become in one step, by the instruction that it stands at. -/
inductive Goes (t : Thread) : Thread → Prop
  | char {set c} : program[t.step]? = some (Instr.char set) → text[t.cursor.pos]? = some c →
      set.contains c → Goes t ⟨t.step + 1, { t.cursor with pos := t.cursor.pos + 1 }⟩
  | look {test} : program[t.step]? = some (Instr.look test) → test.holds text t.cursor.pos →
      Goes t ⟨t.step + 1, t.cursor⟩
  | mark {slot} : program[t.step]? = some (Instr.mark slot) →
      Goes t ⟨t.step + 1, t.cursor.note slot⟩
  | jump {target} : program[t.step]? = some (Instr.jump target) → Goes t ⟨target, t.cursor⟩
  | first {first second} : program[t.step]? = some (Instr.fork first second) →
      Goes t ⟨first, t.cursor⟩
  | second {first second} : program[t.step]? = some (Instr.fork first second) →
      Goes t ⟨second, t.cursor⟩

theorem goes_of_mem_next {t u : Thread} (h : u ∈ t.next program text) : Goes program text t u := by
  unfold Thread.next at h
  split at h
  next i hi =>
    cases i with
    | char set =>
      simp only [Instr.follow] at h
      split at h
      next c hc =>
        split at h
        next hset => exact List.mem_singleton.1 h ▸ .char hi hc hset
        · simp at h
      · simp at h
    | look test =>
      simp only [Instr.follow] at h
      split at h
      next htest => exact List.mem_singleton.1 h ▸ .look hi htest
      · simp at h
    | mark slot => exact List.mem_singleton.1 h ▸ .mark hi
    | jump target => exact List.mem_singleton.1 h ▸ .jump hi
    | fork first second =>
      rcases List.mem_pair.1 h with rfl | rfl
      · exact .first hi
      · exact .second hi
  · simp at h

/-- One instruction leads to two threads at most. -/
theorem Thread.length_next_le (t : Thread) : (t.next program text).length ≤ 2 := by
  unfold Thread.next
  split
  · next i _ => cases i <;> simp only [Instr.follow] <;> (repeat' split) <;> simp
  · simp

variable (program text) in
/-- One place leads to another. -/
def Steps (p q : Place) : Prop := ∃ u ∈ (Thread.start p).next program text, u.place = q

variable (program text) in
/-- One place leads to another in any number of steps. -/
abbrev Reaches : Place → Place → Prop := Relation.ReflTransGen (Steps program text)

variable (program text) in
/-- The end of the program can be reached. -/
def Alive (p : Place) : Prop := ∃ pos, Reaches program text p (program.size, pos)

theorem steps_of_mem_next {t u : Thread} (h : u ∈ t.next program text) :
    Steps program text t.place u.place := by
  rw [t.eq_start_after, Thread.next_after, List.mem_map] at h
  obtain ⟨v, hv, rfl⟩ := h
  exact ⟨v, hv, rfl⟩

theorem exists_mem_next {t : Thread} {q : Place} (h : Steps program text t.place q) :
    ∃ u ∈ t.next program text, u.place = q := by
  obtain ⟨u, hu, rfl⟩ := h
  refine ⟨u.after t.cursor.marks, ?_, rfl⟩
  rw [t.eq_start_after, Thread.next_after]
  exact List.mem_map_of_mem hu

/-- From the end no step leads on. -/
theorem next_of_end {t : Thread} (h : t.step = program.size) : t.next program text = [] := by
  simp [Thread.next, h]

theorem alive_of_end {t : Thread} (h : t.step = program.size) :
    Alive program text t.place := ⟨t.cursor.pos, by rw [← h]; exact .refl⟩

theorem alive_of_mem_next {t u : Thread} (h : u ∈ t.next program text)
    (hu : Alive program text u.place) : Alive program text t.place := by
  obtain ⟨pos, hr⟩ := hu
  exact ⟨pos, .head (steps_of_mem_next h) hr⟩

/-- A place is alive because it is the end, or because one of its successors is. -/
theorem alive_iff (t : Thread) : Alive program text t.place ↔
    t.step = program.size ∨ ∃ u ∈ t.next program text, Alive program text u.place := by
  constructor
  · rintro ⟨pos, hr⟩
    rcases hr.cases_head with heq | ⟨q, hstep, hq⟩
    · exact .inl (congrArg Prod.fst heq)
    · obtain ⟨u, hu, rfl⟩ := exists_mem_next hstep
      exact .inr ⟨u, hu, pos, hq⟩
  · rintro (h | ⟨u, hu, hu'⟩)
    · exact alive_of_end h
    · exact alive_of_mem_next hu hu'

/-! ### The two searches -/

variable (program text) in
/-- The search for the first thread that comes to the end, from places that have been visited. It
gives the cursor of that thread, if there is one, and the places that have been visited then. -/
inductive Finds : Finset Place → List Thread → Option Cursor → Finset Place → Prop
  | nil (seen) : Finds seen [] none seen
  | skip {seen t ts r seen'} : t.place ∈ seen → Finds seen ts r seen' → Finds seen (t :: ts) r seen'
  | found {seen t ts} : t.place ∉ seen → t.step = program.size →
      Finds seen (t :: ts) (some t.cursor) seen
  | step {seen t ts r seen'} : t.place ∉ seen → t.step ≠ program.size →
      Finds (insert t.place seen) (t.next program text ++ ts) r seen' → Finds seen (t :: ts) r seen'

variable (program text) in
/-- The search for all threads that come to the end, the preferred one first. -/
inductive Leaves : Finset Place → List Thread → List Cursor → Finset Place → Prop
  | nil (seen) : Leaves seen [] [] seen
  | skip {seen t ts ks seen'} : t.place ∈ seen → Leaves seen ts ks seen' →
      Leaves seen (t :: ts) ks seen'
  | leave {seen t ts ks seen'} : t.place ∉ seen → t.step = program.size →
      Leaves (insert t.place seen) ts ks seen' → Leaves seen (t :: ts) (t.cursor :: ks) seen'
  | step {seen t ts ks seen'} : t.place ∉ seen → t.step ≠ program.size →
      Leaves (insert t.place seen) (t.next program text ++ ts) ks seen' →
      Leaves seen (t :: ts) ks seen'

/-- What is found was alive from the start. -/
theorem Finds.alive {seen ts r seen'} (h : Finds program text seen ts r seen') :
    r.isSome → ∃ t ∈ ts, Alive program text t.place := by
  induction h with
  | nil => simp
  | skip _ _ ih =>
    intro hr
    obtain ⟨t, ht, ha⟩ := ih hr
    exact ⟨t, .tail _ ht, ha⟩
  | found _ hend => exact fun _ => ⟨_, .head _, alive_of_end hend⟩
  | @step _ t ts _ _ _ _ _ ih =>
    intro hr
    obtain ⟨u, hu, ha⟩ := ih hr
    rcases List.mem_append.1 hu with hu | hu
    · exact ⟨t, .head _, alive_of_mem_next hu ha⟩
    · exact ⟨u, .tail _ hu, ha⟩

/-- Every way out that is listed can be reached. -/
theorem Leaves.reaches {seen ts ks seen'} (h : Leaves program text seen ts ks seen') :
    ∀ k ∈ ks, ∃ t ∈ ts, Reaches program text t.place (program.size, k.pos) := by
  induction h with
  | nil => simp
  | skip _ _ ih =>
    intro k hk
    obtain ⟨t, ht, hr⟩ := ih k hk
    exact ⟨t, .tail _ ht, hr⟩
  | @leave _ t ts ks _ _ hend _ ih =>
    intro k hk
    rcases List.mem_cons.1 hk with rfl | hk
    · exact ⟨t, .head _, by rw [← hend]; exact .refl⟩
    · obtain ⟨t', ht, hr⟩ := ih k hk
      exact ⟨t', .tail _ ht, hr⟩
  | @step _ t ts _ _ _ _ _ ih =>
    intro k hk
    obtain ⟨u, hu, hr⟩ := ih k hk
    rcases List.mem_append.1 hu with hu | hu
    · exact ⟨t, .head _, .head (steps_of_mem_next hu) hr⟩
    · exact ⟨u, .tail _ hu, hr⟩

/-- The places visited are closed under steps, apart from those that are still to come. -/
def ClosedUpTo (program : Program) (text : Array Char) (seen : Finset Place) (ts : List Thread) :
    Prop :=
  ∀ p ∈ seen, ∀ q, Steps program text p q → q ∈ seen ∨ ∃ t ∈ ts, t.place = q

theorem ClosedUpTo.insert_next {seen t ts} (h : ClosedUpTo program text seen (t :: ts)) :
    ClosedUpTo program text (insert t.place seen) (t.next program text ++ ts) := by
  intro p hp q hq
  rcases Finset.mem_insert.1 hp with rfl | hp
  · obtain ⟨u, hu, rfl⟩ := exists_mem_next hq
    exact .inr ⟨u, List.mem_append_left _ hu, rfl⟩
  · rcases h p hp q hq with hq | ⟨u, hu, rfl⟩
    · exact .inl (Finset.mem_insert_of_mem hq)
    · rcases List.mem_cons.1 hu with rfl | hu
      · exact .inl (Finset.mem_insert_self _ _)
      · exact .inr ⟨u, List.mem_append_right _ hu, rfl⟩

/-- At the end of the search all that can be reached has been visited. -/
theorem Leaves.closed {seen ts ks seen'} (h : Leaves program text seen ts ks seen')
    (hc : ClosedUpTo program text seen ts) :
    ClosedUpTo program text seen' [] ∧ seen ⊆ seen' ∧ ∀ t ∈ ts, t.place ∈ seen' := by
  induction h with
  | nil => exact ⟨hc, subset_rfl, by simp⟩
  | @skip seen t ts _ _ hseen _ ih =>
    obtain ⟨hc', hsub, hts⟩ := ih fun p hp q hq => by
      rcases hc p hp q hq with hq | ⟨u, hu, rfl⟩
      · exact .inl hq
      · rcases List.mem_cons.1 hu with rfl | hu
        · exact .inl hseen
        · exact .inr ⟨u, hu, rfl⟩
    exact ⟨hc', hsub, List.forall_mem_cons.2 ⟨hsub hseen, hts⟩⟩
  | @leave seen t ts _ _ _ hend _ ih =>
    have hstep := hc.insert_next
    rw [next_of_end hend, List.nil_append] at hstep
    obtain ⟨hc', hsub, hts⟩ := ih hstep
    exact ⟨hc', (Finset.subset_insert _ _).trans hsub,
      List.forall_mem_cons.2 ⟨hsub (Finset.mem_insert_self _ _), hts⟩⟩
  | @step seen t ts _ _ _ _ _ ih =>
    obtain ⟨hc', hsub, hts⟩ := ih hc.insert_next
    exact ⟨hc', (Finset.subset_insert _ _).trans hsub, List.forall_mem_cons.2
      ⟨hsub (Finset.mem_insert_self _ _), fun u hu => hts u (List.mem_append_right _ hu)⟩⟩

/-- An end that has been visited has been listed. -/
theorem Leaves.mem_of_end {seen ts ks seen'} (h : Leaves program text seen ts ks seen') {pos : Nat}
    (hpos : (program.size, pos) ∈ seen') : (program.size, pos) ∈ seen ∨ ∃ k ∈ ks, k.pos = pos := by
  induction h with
  | nil => exact .inl hpos
  | skip _ _ ih => exact ih hpos
  | @leave _ t _ _ _ _ _ _ ih =>
    rcases ih hpos with h | ⟨k, hk, rfl⟩
    · rcases Finset.mem_insert.1 h with heq | h
      · exact .inr ⟨t.cursor, .head _, (congrArg Prod.snd heq).symm⟩
      · exact .inl h
    · exact .inr ⟨k, .tail _ hk, rfl⟩
  | @step _ t _ _ _ _ hne _ ih =>
    rcases ih hpos with h | h
    · rcases Finset.mem_insert.1 h with heq | h
      · exact absurd (congrArg Prod.fst heq).symm hne
      · exact .inl h
    · exact .inr h

/-- From a fresh start exactly the ends that can be reached are listed. -/
theorem Leaves.exists_pos_iff {p ks seen'} (h : Leaves program text ∅ [.start p] ks seen')
    (pos : Nat) : (∃ k ∈ ks, k.pos = pos) ↔ Reaches program text p (program.size, pos) := by
  constructor
  · rintro ⟨k, hk, rfl⟩
    obtain ⟨t, ht, hr⟩ := h.reaches k hk
    rwa [List.mem_singleton.1 ht] at hr
  · intro hr
    obtain ⟨hc, -, hts⟩ := h.closed (by simp [ClosedUpTo])
    have hmem : ∀ {q}, Reaches program text p q → q ∈ seen' := by
      intro q hq
      induction hq with
      | refl => exact hts _ (.head _)
      | tail _ hstep ih => simpa using hc _ ih _ hstep
    simpa using h.mem_of_end (hmem hr)

end

end Routing.Regex
