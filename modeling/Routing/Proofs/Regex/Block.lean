import Routing.Proofs.Regex.Settling

/-!
A program placed within another. Its steps and jumps are moved, and its groups get later numbers;
all else stays. Entered at its first step it is left by its ways out, in the order in which they are
preferred when it runs by itself. This holds although it may have loops, and although the search
may have been in it before: what was visited then is dead.
-/

namespace Routing.Regex

/-- The instruction `d` steps further on, in code whose groups are numbered from `k` on. -/
def Instr.moved (d k : Nat) : Instr → Instr
  | char set => char set
  | look test => look test
  | mark slot => mark (slot + 2 * k)
  | jump target => jump (target + d)
  | fork first second => fork (first + d) (second + d)

/-- A mark in code whose groups are numbered from `k` on. -/
def movedMark (k : Nat) (m : Nat × Nat) : Nat × Nat := (m.1 + 2 * k, m.2)

/-- The thread in code that is moved. -/
def Thread.moved (d k : Nat) (t : Thread) : Thread :=
  ⟨t.step + d, ⟨t.cursor.pos, t.cursor.marks.map (movedMark k)⟩⟩

/-- The program `block` stands in the program `host`, from step `d` on. -/
def Hosts (host block : Program) (d k : Nat) : Prop :=
  ∀ (i : Nat) (instr : Instr), block[i]? = some instr → host[i + d]? = some (instr.moved d k)

section
variable {host block : Program} {text : Array Char} {d k : Nat}

theorem Instr.follow_moved (i : Instr) (t : Thread) :
    (i.moved d k).follow text (t.step + d) (t.moved d k).cursor =
      (i.follow text t.step t.cursor).map (·.moved d k) := by
  cases i with
  | char set =>
    simp only [Instr.moved, Instr.follow, Thread.moved]
    cases text[t.cursor.pos]? with
    | none => rfl
    | some c => cases h : set.contains c <;> simp [h, Nat.add_right_comm]
  | look test =>
    cases h : test.holds text t.cursor.pos <;>
      simp [Instr.moved, Instr.follow, Thread.moved, h, Nat.add_right_comm]
  | mark slot =>
    simp [Instr.moved, Instr.follow, Thread.moved, Cursor.note, movedMark, Nat.add_right_comm]
  | jump target => rfl
  | fork first second => rfl

/-- A thread in the block goes on as in the block by itself. -/
theorem next_moved (hh : Hosts host block d k) {t : Thread} (ht : t.step < block.size) :
    (t.moved d k).next host text = (t.next block text).map (·.moved d k) := by
  have hi := Array.getElem?_eq_getElem ht
  have hhost := hh _ _ hi
  unfold Thread.next
  rw [hi, show (t.moved d k).step = t.step + d from rfl, hhost]
  exact Instr.follow_moved _ _

theorem step_lt_of_hosts (hh : Hosts host block d k) {i : Nat} (hi : i < block.size) :
    i + d < host.size :=
  (Array.getElem?_eq_some_iff.1 (hh _ _ (Array.getElem?_eq_getElem hi))).1

theorem reaches_moved (hh : Hosts host block d k) {p q : Place} (h : Reaches block text p q) :
    Reaches host text (p.1 + d, p.2) (q.1 + d, q.2) := by
  induction h with
  | refl => exact .refl
  | @tail q r _ hstep ih =>
    refine ih.tail ?_
    obtain ⟨u, hu, rfl⟩ := hstep
    have hlt : q.1 < block.size := by
      by_contra hge
      simp [Thread.next, Thread.start, Array.getElem?_eq_none (not_lt.1 hge)] at hu
    refine ⟨u.moved d k, ?_, rfl⟩
    have hstart : Thread.start (q.1 + d, q.2) = (Thread.start q).moved d k := rfl
    rw [hstart, next_moved hh hlt]
    exact List.mem_map_of_mem hu

/-- A way from a place in the block to the end of the host leads through the end of the block. -/
theorem exists_exit_of_reaches (hh : Hosts host block d k) (hb : block.Closed) {p q : Place}
    (h : Reaches host text p q) (hq : q.1 = host.size) : ∀ i pos, p = (i + d, pos) →
      i ≤ block.size → ∃ stop, Reaches block text (i, pos) (block.size, stop) ∧
        Alive host text (block.size + d, stop) := by
  induction h using Relation.ReflTransGen.head_induction_on with
  | refl =>
    rintro i pos rfl hi
    rcases hi.lt_or_eq with hlt | rfl
    · exact absurd hq (Nat.ne_of_lt (step_lt_of_hosts hh hlt))
    · exact ⟨pos, .refl, pos, by rw [← hq]⟩
  | @head p r hstep hrest ih =>
    rintro i pos rfl hi
    rcases hi.lt_or_eq with hlt | rfl
    · have hstart : Thread.start (i + d, pos) = (Thread.start (i, pos)).moved d k := rfl
      obtain ⟨u, hu, rfl⟩ := hstep
      rw [hstart, next_moved hh hlt, List.mem_map] at hu
      obtain ⟨v, hv, rfl⟩ := hu
      obtain ⟨stop, hreach, halive⟩ := ih v.step v.cursor.pos rfl (step_le_of_mem_next hb hv)
      exact ⟨stop, .head ⟨v, hv, rfl⟩ hreach, halive⟩
    · exact ⟨pos, .refl, q.2, by rw [← hq]; exact .head hstep hrest⟩

/-- A thread in the block is alive exactly if some way out of the block is. -/
theorem alive_moved_iff (hh : Hosts host block d k) (hb : block.Closed) {i pos : Nat}
    (hi : i ≤ block.size) : Alive host text (i + d, pos) ↔
      ∃ stop, Reaches block text (i, pos) (block.size, stop) ∧
        Alive host text (block.size + d, stop) := by
  constructor
  · rintro ⟨stop, h⟩
    exact exists_exit_of_reaches hh hb h rfl i pos rfl hi
  · rintro ⟨stop, h, last, hlast⟩
    exact ⟨last, (reaches_moved hh h).trans hlast⟩

/-! ### The search through a block -/

variable (host text d k) in
/-- The threads of the search through the host, beside those of the search through the block by
itself. Some of the latter may be missing, if they are dead. -/
inductive Thins (ms : List (Nat × Nat)) : List Thread → List Thread → Prop
  | nil : Thins ms [] []
  | keep {t ts us} : Thins ms ts us → Thins ms (t :: ts) ((t.moved d k).after ms :: us)
  | drop {t ts us} : ¬ Alive host text (t.moved d k).place → Thins ms ts us → Thins ms (t :: ts) us

theorem Thins.keep_all {ms ts us} (h : Thins host text d k ms ts us) : ∀ (vs : List Thread),
    Thins host text d k ms (vs ++ ts) ((vs.map (·.moved d k)).map (·.after ms) ++ us)
  | [] => h
  | _ :: vs => .keep (h.keep_all vs)

theorem Thins.drop_all {ms ts us} (h : Thins host text d k ms ts us) : ∀ (vs : List Thread),
    (∀ v ∈ vs, ¬ Alive host text (v.moved d k).place) → Thins host text d k ms (vs ++ ts) us
  | [], _ => h
  | _ :: vs, hvs => .drop (hvs _ (.head _)) (h.drop_all vs fun v hv => hvs v (.tail _ hv))

variable (host block text d) in
/-- What both searches have visited of the block, dead places left aside, and that nothing alive
beyond the block was visited. -/
structure InStep (own seen : Finset Place) : Prop where
  agree : ∀ i pos, i ≤ block.size → Alive host text (i + d, pos) →
    ((i, pos) ∈ own ↔ (i + d, pos) ∈ seen)
  beyond : ∀ q ∈ seen, block.size + d ≤ q.1 → ¬ Alive host text q

/-- Dead places make no difference. -/
theorem InStep.of_dead {own seen own' seen' : Finset Place}
    (h : InStep host block text d own seen)
    (hown : ∀ i pos, Alive host text (i + d, pos) → ((i, pos) ∈ own' ↔ (i, pos) ∈ own))
    (hsub : seen ⊆ seen') (hnew : ∀ p ∈ seen', p ∈ seen ∨ ¬ Alive host text p) :
    InStep host block text d own' seen' where
  agree := by
    intro i pos hi ha
    rw [hown i pos ha, h.agree i pos hi ha]
    exact ⟨fun hm => hsub hm, fun hm => (hnew _ hm).resolve_right (not_not.2 ha)⟩
  beyond := fun q hq hle => (hnew q hq).elim (fun hm => h.beyond q hm hle) id

theorem mem_insert_dead {own : Finset Place} {t : Thread}
    (ht : ¬ Alive host text (t.moved d k).place) (i pos : Nat)
    (ha : Alive host text (i + d, pos)) : (i, pos) ∈ insert t.place own ↔ (i, pos) ∈ own := by
  rw [Finset.mem_insert, or_iff_right]
  rintro heq
  have hi : i = t.step := congrArg Prod.fst heq
  have hpos : pos = t.cursor.pos := congrArg Prod.snd heq
  rw [hi, hpos] at ha
  exact ht ha

/-- Both searches visit the same place of the block. -/
theorem InStep.insert_both {own seen : Finset Place} (h : InStep host block text d own seen)
    {t : Thread} (ht : t.step < block.size) :
    InStep host block text d (insert t.place own) (insert (t.moved d k).place seen) where
  agree := by
    intro i pos hi ha
    rw [Finset.mem_insert, Finset.mem_insert, h.agree i pos hi ha]
    simp [Thread.place, Thread.moved]
  beyond := by
    intro q hq hle
    rcases Finset.mem_insert.1 hq with rfl | hq
    · have : t.step + d < block.size + d := by omega
      exact absurd hle (not_le.2 this)
    · exact h.beyond q hq hle

/-- A thread of the block either is alive, and is the next one in the host, too; or it is dead, and
then the host goes on without it. -/
theorem Thins.alive_or_dead (hp : host.Closed) (hle : block.size + d ≤ host.size) {ms t ts us}
    {own seen : Finset Place} (h : Thins host text d k ms (t :: ts) us) (ht : t.Inside block text)
    (hstep : InStep host block text d own seen) :
    (Alive host text (t.moved d k).place ∧
      ∃ us', us = (t.moved d k).after ms :: us' ∧ Thins host text d k ms ts us') ∨
    (¬ Alive host text (t.moved d k).place ∧ ∃ us' seen', Thins host text d k ms ts us' ∧
      InStep host block text d own seen' ∧ ∀ rest r seen'',
        Finds host text seen' (us' ++ rest) r seen'' →
          Finds host text seen (us ++ rest) r seen'') := by
  cases h with
  | @keep _ _ us h =>
    by_cases ha : Alive host text (t.moved d k).place
    · exact .inl ⟨ha, us, rfl, h⟩
    · have hin : ((t.moved d k).after ms).Inside host text :=
        ⟨(Nat.add_le_add_right ht.1 d).trans hle, ht.2⟩
      obtain ⟨seen', hnew, hsub, hskip⟩ := exists_skip hp seen hin ha
      exact .inr ⟨ha, us, seen', h, hstep.of_dead (fun _ _ _ => Iff.rfl) hsub hnew,
        fun rest r _ hfinds => hskip _ _ _ hfinds⟩
  | drop ha h => exact .inr ⟨ha, us, seen, h, hstep, fun _ _ _ hfinds => hfinds⟩

/-- What the first useful way out finds. -/
def viaExits (k : Nat) (f : Nat → Option Cursor) (exits : List Cursor) : Option Cursor :=
  exits.findSome? fun x => (f x.pos).map (·.after (x.marks.map (movedMark k)))

/-- If some way out is of use, the search through the host finds what the first of them does. The
induction is on the search through the block by itself. -/
theorem finds_of_leaves (hp : host.Closed) (hb : block.Closed) (hh : Hosts host block d k)
    (hle : block.size + d ≤ host.size) {f : Nat → Option Cursor}
    (hf : Settles host text (block.size + d) f) (ms : List (Nat × Nat)) {own ts exits own'}
    (hl : Leaves block text own ts exits own') :
    ∀ {us seen r}, (∀ t ∈ ts, t.Inside block text) → Thins host text d k ms ts us →
      InStep host block text d own seen → viaExits k f exits = some r →
      ∀ rest, ∃ seen', Finds host text seen (us ++ rest) (some (r.after ms)) seen' := by
  induction hl with
  | nil => intro _ _ _ _ _ _ hr; simp [viaExits] at hr
  | @skip own t ts exits own' hmem _ ih =>
    intro us seen r hts hthin hstep hr rest
    obtain ⟨ht, hts⟩ := List.forall_mem_cons.1 hts
    rcases hthin.alive_or_dead hp hle ht hstep with
      ⟨ha, us', rfl, hrest⟩ | ⟨-, us', mid, hrest, hmid, hon⟩
    · obtain ⟨seen', h⟩ := ih hts hrest hstep hr rest
      exact ⟨seen', .skip ((hstep.agree _ _ ht.1 ha).1 hmem) h⟩
    · obtain ⟨seen', h⟩ := ih hts hrest hmid hr rest
      exact ⟨seen', hon _ _ _ h⟩
  | @leave own t ts exits own' _ hend _ ih =>
    intro us seen r hts hthin hstep hr rest
    obtain ⟨ht, hts⟩ := List.forall_mem_cons.1 hts
    have hplace : (t.moved d k).place = (block.size + d, t.cursor.pos) := by
      simp [Thread.place, Thread.moved, hend]
    have hvalue := hf t.cursor.pos ht.2
    rcases hthin.alive_or_dead hp hle ht hstep with
      ⟨ha, us', rfl, hrest⟩ | ⟨hdead, us', mid, hrest, hmid, hon⟩
    · rw [hplace, hvalue.1, Option.isSome_iff_exists] at ha
      obtain ⟨j, hj⟩ := ha
      have hr : j.after (t.cursor.marks.map (movedMark k)) = r := by
        simpa [viaExits, hj] using hr
      obtain ⟨seen', h⟩ := hvalue.2 j hj seen hstep.beyond
        (t.cursor.marks.map (movedMark k) ++ ms) (us' ++ rest)
      rw [← Cursor.after_after, hr, ← hplace] at h
      exact ⟨seen', h⟩
    · have hnone : f t.cursor.pos = none := by
        rwa [hplace, hvalue.1, Bool.not_eq_true, Option.isSome_eq_false_iff,
          Option.isNone_iff_eq_none] at hdead
      have hr : viaExits k f exits = some r := by simpa [viaExits, hnone] using hr
      obtain ⟨seen', h⟩ := ih hts hrest (hmid.of_dead (mem_insert_dead hdead) subset_rfl
        fun _ => .inl) hr rest
      exact ⟨seen', hon _ _ _ h⟩
  | @step own t ts exits own' hfresh hne _ ih =>
    intro us seen r hts hthin hstep hr rest
    obtain ⟨ht, hts⟩ := List.forall_mem_cons.1 hts
    have hlt : t.step < block.size := lt_of_le_of_ne ht.1 hne
    have hall : ∀ u ∈ t.next block text ++ ts, u.Inside block text :=
      fun u hu => (List.mem_append.1 hu).elim (ht.next hb u) (hts u)
    rcases hthin.alive_or_dead hp hle ht hstep with
      ⟨ha, us', rfl, hrest⟩ | ⟨hdead, us', mid, hrest, hmid, hon⟩
    · have hfresh' : (t.moved d k).place ∉ seen :=
        fun hmem => hfresh ((hstep.agree _ _ ht.1 ha).2 hmem)
      obtain ⟨seen', h⟩ := ih hall (hrest.keep_all _) (hstep.insert_both hlt) hr rest
      refine ⟨seen', .step hfresh' (Nat.ne_of_lt (step_lt_of_hosts hh hlt)) ?_⟩
      rw [Thread.next_after, next_moved hh hlt]
      simpa using h
    · have hnext : ∀ v ∈ t.next block text, ¬ Alive host text (v.moved d k).place := by
        intro v hv ha
        refine hdead (alive_of_mem_next (u := v.moved d k) ?_ ha)
        rw [next_moved hh hlt]
        exact List.mem_map_of_mem hv
      obtain ⟨seen', h⟩ := ih hall (hrest.drop_all _ hnext)
        (hmid.of_dead (mem_insert_dead hdead) subset_rfl fun _ => .inl) hr rest
      exact ⟨seen', hon _ _ _ h⟩

/-- A block settles to what its first useful way out finds. -/
theorem settles_block (hp : host.Closed) (hb : block.Closed) (hh : Hosts host block d k)
    (hle : block.size + d ≤ host.size) {f : Nat → Option Cursor}
    (hf : Settles host text (block.size + d) f) :
    Settles host text d fun pos => viaExits k f (block.exitsFrom text pos) := by
  intro pos hpos
  obtain ⟨own, hl⟩ := exitsFrom_leaves hb hpos
  have hiff : Alive host text (d, pos) ↔ (viaExits k f (block.exitsFrom text pos)).isSome := by
    have hdecomp : Alive host text (0 + d, pos) ↔ _ := alive_moved_iff hh hb (Nat.zero_le _)
    rw [Nat.zero_add] at hdecomp
    rw [hdecomp, viaExits, List.findSome?_isSome_iff]
    simp only [Option.isSome_map]
    constructor
    · rintro ⟨stop, hreach, ha⟩
      obtain ⟨x, hx, rfl⟩ := (hl.exists_pos_iff stop).2 hreach
      exact ⟨x, hx, (hf x.pos (mem_exitsFrom hb hpos x hx).2.1).1.1 ha⟩
    · rintro ⟨x, hx, hs⟩
      exact ⟨x.pos, (hl.exists_pos_iff x.pos).1 ⟨x, hx, rfl⟩,
        (hf x.pos (mem_exitsFrom hb hpos x hx).2.1).1.2 hs⟩
  refine ⟨hiff, fun r hr seen hseen ms ts => ?_⟩
  have hstart : Thread.start (d, pos) = (Thread.start (0, pos)).moved d k := by
    simp [Thread.start, Thread.moved]
  rw [hstart]
  refine finds_of_leaves hp hb hh hle hf ms hl ?_ (.keep .nil) ⟨?_, ?_⟩ hr ts
  · simpa [Thread.Inside, Thread.start] using hpos
  · intro i pos' _ ha
    simp only [Finset.notMem_empty, false_iff]
    exact fun hm => hseen _ hm (Nat.le_add_left d i) ha
  · exact fun q hq hle' => hseen q hq ((Nat.le_add_left d _).trans hle')

end

end Routing.Regex
