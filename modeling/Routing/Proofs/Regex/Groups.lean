import Mathlib.Data.List.Basic
import Mathlib.Order.Nat
import Routing.Regex.Node

/-!
The groups of an expression. The forms that `seq`, `anyOf` and `repeated` bring expressions into do
not depend on the numbers of groups, so these can be counted from anywhere; and they make no groups
that were not there before.

    (a)|b(c)      shift 2      (a)|b(c)
     1    2      ────────▶      3    4
-/

namespace Routing.Regex.Node

/-- The same expression, with its groups counted from `k` on. -/
def shift (k : Nat) : Node → Node
  | empty => empty
  | char set => char set
  | look test => look test
  | capture index name a => capture (index + k) name (a.shift k)
  | cat a b => cat (a.shift k) (b.shift k)
  | alt a b => alt (a.shift k) (b.shift k)
  | iter a lo hi greedy => iter (a.shift k) lo hi greedy

/-- The numbers and names of all groups of the expression are of a kind. -/
def Captures (P : Nat → Option String → Prop) : Node → Prop
  | empty | char _ | look _ => True
  | capture index name a => P index name ∧ a.Captures P
  | cat a b | alt a b => a.Captures P ∧ b.Captures P
  | iter a _ _ _ => a.Captures P

section
variable (k : Nat)

@[simp] theorem shift_zero (a : Node) : a.shift 0 = a := by
  induction a <;> simp_all [shift]

@[simp] theorem nullable_shift (a : Node) : (a.shift k).nullable = a.nullable := by
  induction a <;> simp_all [shift, nullable]

@[simp] theorem takesNothing_shift (a : Node) : (a.shift k).takesNothing = a.takesNothing := by
  induction a <;> simp_all [shift, takesNothing]

theorem agrees_shift : ∀ a b : Node, (a.shift k).agrees (b.shift k) = a.agrees b
  | empty, b | char _, b | look _, b => by cases b <;> rfl
  | capture i m a, b => by
    cases b with
    | capture j n b =>
      have hindex : (i + k == j + k) = (i == j) := by
        rw [Bool.eq_iff_iff]
        simp
      simp only [shift, agrees, agrees_shift a, hindex]
    | _ => rfl
  | cat a c, b | alt a c, b => by cases b <;> simp [shift, agrees, agrees_shift a, agrees_shift c]
  | iter a lo hi g, b => by cases b <;> simp [shift, agrees, agrees_shift a]

theorem parts_shift (a : Node) : (a.shift k).parts = a.parts.map (shift k) := by
  induction a <;> simp_all [shift, parts]

theorem branches_shift (a : Node) : (a.shift k).branches = a.branches.map (shift k) := by
  induction a <;> simp_all [shift, branches]

theorem ofParts_shift : ∀ as : List Node, (ofParts as).shift k = ofParts (as.map (shift k))
  | [] => rfl
  | [_] => rfl
  | a :: b :: as => by
    have ih := ofParts_shift (b :: as)
    simp only [List.map_cons, ofParts, shift] at ih ⊢
    rw [ih]

theorem ofBranches_shift :
    ∀ as : List Node, (ofBranches as).shift k = ofBranches (as.map (shift k))
  | [] => rfl
  | [_] => rfl
  | a :: b :: as => by
    have ih := ofBranches_shift (b :: as)
    simp only [List.map_cons, ofBranches, shift] at ih ⊢
    rw [ih]

theorem flatMap_shift {f : Node → List Node} (hf : ∀ a, f (a.shift k) = (f a).map (shift k))
    (as : List Node) : (as.map (shift k)).flatMap f = (as.flatMap f).map (shift k) := by
  simp [List.flatMap_map, List.map_flatMap, hf]

theorem seq_shift (as : List Node) : (seq as).shift k = seq (as.map (shift k)) := by
  rw [seq, seq, ofParts_shift, flatMap_shift k (parts_shift k)]

theorem commonStart_shift : ∀ as bs : List Node,
    commonStart (as.map (shift k)) (bs.map (shift k)) = (commonStart as bs).map (shift k)
  | [], _ => by simp [commonStart]
  | _ :: _, [] => by simp [commonStart]
  | a :: as, b :: bs => by
    simp only [List.map_cons, commonStart, agrees_shift, commonStart_shift as bs]
    split <;> rfl

theorem foldl_commonStart_shift : ∀ (ps : List (List Node)) (p : List Node),
    (ps.map (·.map (shift k))).foldl commonStart (p.map (shift k)) =
      (ps.foldl commonStart p).map (shift k)
  | [], _ => rfl
  | q :: ps, p => by
    rw [List.map_cons, List.foldl_cons, commonStart_shift, foldl_commonStart_shift ps,
      List.foldl_cons]

theorem asClass_shift : ∀ as : List Node, asClass (as.map (shift k)) = asClass as
  | [] => rfl
  | char set :: as => by simp only [List.map_cons, shift, asClass, asClass_shift as]
  | empty :: _ | look _ :: _ | capture .. :: _ | cat .. :: _ | alt .. :: _ | iter .. :: _ => rfl

theorem sharedStart_shift (as : List Node) :
    sharedStart (as.map (shift k)) = (sharedStart as).map (shift k) := by
  have hparts : (as.map (shift k)).map parts = (as.map parts).map (·.map (shift k)) := by
    simp [Function.comp_def, parts_shift]
  unfold sharedStart
  rw [hparts]
  cases as.map parts with
  | nil => rfl
  | cons p ps =>
    have hall : ((p :: ps).map (·.map (shift k))).all (2 ≤ ·.length) =
        (p :: ps).all (2 ≤ ·.length) := by simp [List.all_map, Function.comp_def]
    simp only [List.map_cons] at hall ⊢
    rw [hall]
    split
    · exact foldl_commonStart_shift k ps p
    · rfl

/-- What is left of alternatives without their start. -/
theorem map_drop_shift (n : Nat) (as : List Node) :
    (as.map (shift k)).map (fun a => ofParts (a.parts.drop n)) =
      (as.map fun a => ofParts (a.parts.drop n)).map (shift k) := by
  simp [Function.comp_def, parts_shift, ofParts_shift, List.map_drop]

/-- What `choice` does with two alternatives or more. -/
theorem choice_cons_cons (fuel : Nat) (a b : Node) (as : List Node) :
    choice (fuel + 1) (a :: b :: as) =
      match asClass (a :: b :: as) with
      | some set => char set
      | none =>
        match sharedStart (a :: b :: as) with
        | [] => ofBranches (a :: b :: as)
        | start =>
          let rests := (a :: b :: as).map fun a => ofParts (a.parts.drop start.length)
          seq (start ++ [choice fuel (rests.flatMap branches)]) := by
  cases hclass : asClass (a :: b :: as) with
  | some set => simp only [choice, hclass]
  | none => cases hstart : sharedStart (a :: b :: as) <;> simp only [choice, hclass, hstart]

/-- Whether alternatives can be made simpler does not depend on the numbers of their groups. -/
theorem choice_shift : ∀ (fuel : Nat) (as : List Node),
    choice fuel (as.map (shift k)) = (choice fuel as).shift k
  | 0, as => (ofBranches_shift k as).symm
  | _ + 1, [] => rfl
  | _ + 1, [_] => rfl
  | fuel + 1, a :: b :: as => by
    have hclass := asClass_shift k (a :: b :: as)
    have hstart := sharedStart_shift k (a :: b :: as)
    have hbranches := ofBranches_shift k (a :: b :: as)
    simp only [List.map_cons] at hclass hstart hbranches ⊢
    rw [choice_cons_cons, choice_cons_cons, hclass, hstart]
    cases asClass (a :: b :: as) with
    | some set => rfl
    | none =>
      cases hs : sharedStart (a :: b :: as) with
      | nil => exact hbranches.symm
      | cons s ss =>
        have hrests := map_drop_shift k (s :: ss).length (a :: b :: as)
        simp only [List.map_cons, List.length_cons, List.length_map] at hrests ⊢
        rw [seq_shift, List.map_append, List.map_singleton, ← choice_shift fuel,
          ← flatMap_shift k (branches_shift k), hrests]
        rfl

theorem anyOf_shift (as : List Node) : (anyOf as).shift k = anyOf (as.map (shift k)) := by
  have hfuel : ∀ (bs : List Node) (n : Nat), (bs.map (shift k)).foldl
      (fun n a => n + a.parts.length) n = bs.foldl (fun n a => n + a.parts.length) n := by
    intro bs n
    simp [List.foldl_map, parts_shift]
  rw [anyOf, anyOf, flatMap_shift k (branches_shift k), hfuel, choice_shift]

theorem repeated_shift (a : Node) (lo : Nat) (hi : Option Nat) (greedy : Bool) :
    (a.repeated lo hi greedy).shift k = (a.shift k).repeated lo hi greedy := by
  simp only [repeated, takesNothing_shift]
  split <;> split <;> try rfl
  all_goals split <;> rfl

end

/-! ### No new groups -/

section
variable {P Q : Nat → Option String → Prop}

theorem Captures.imp (hPQ : ∀ i n, P i n → Q i n) : ∀ {a : Node}, a.Captures P → a.Captures Q
  | empty, _ | char _, _ | look _, _ => trivial
  | capture _ _ _, h => ⟨hPQ _ _ h.1, h.2.imp hPQ⟩
  | cat _ _, h | alt _ _, h => ⟨h.1.imp hPQ, h.2.imp hPQ⟩
  | iter a _ _ _, h => Captures.imp (a := a) hPQ h

theorem captures_true (a : Node) : a.Captures fun _ _ => True := by
  induction a <;> simp_all [Captures]

theorem captures_shift (k : Nat) (a : Node) :
    (a.shift k).Captures P ↔ a.Captures fun i n => P (i + k) n := by
  induction a <;> simp_all [shift, Captures]

/-- An expression without groups is not changed by counting them from elsewhere. -/
theorem shift_of_captures : ∀ {a : Node}, (a.Captures fun _ _ => False) → a.shift k = a
  | empty, _ | char _, _ | look _, _ => rfl
  | capture _ _ _, h => h.1.elim
  | cat _ _, h => by rw [shift, shift_of_captures h.1, shift_of_captures h.2]
  | alt _ _, h => by rw [shift, shift_of_captures h.1, shift_of_captures h.2]
  | iter a _ _ _, h => by
    rw [shift, shift_of_captures (a := a) h]

theorem captures_parts (a : Node) : (∀ b ∈ a.parts, b.Captures P) ↔ a.Captures P := by
  induction a with
  | empty => simp [parts, Captures]
  | cat a b iha ihb => rw [parts, List.forall_mem_append, iha, ihb, Captures]
  | char | look | capture | alt | iter => simp [parts]

theorem captures_branches (a : Node) : (∀ b ∈ a.branches, b.Captures P) ↔ a.Captures P := by
  induction a with
  | alt a b iha ihb => rw [branches, List.forall_mem_append, iha, ihb, Captures]
  | empty | char | look | capture | cat | iter => simp [branches]

theorem captures_ofParts : ∀ as : List Node, (ofParts as).Captures P ↔ ∀ a ∈ as, a.Captures P
  | [] => by simp [ofParts, Captures]
  | [a] => by simp [ofParts]
  | a :: b :: as => by
    rw [List.forall_mem_cons, ← captures_ofParts (b :: as)]
    rfl

theorem captures_ofBranches :
    ∀ as : List Node, (ofBranches as).Captures P ↔ ∀ a ∈ as, a.Captures P
  | [] => by simp [ofBranches, Captures]
  | [a] => by simp [ofBranches]
  | a :: b :: as => by
    rw [List.forall_mem_cons, ← captures_ofBranches (b :: as)]
    rfl

theorem captures_seq (as : List Node) : (seq as).Captures P ↔ ∀ a ∈ as, a.Captures P := by
  simp only [seq, captures_ofParts, List.forall_mem_flatMap, captures_parts]

theorem mem_commonStart : ∀ {as bs : List Node} {c : Node}, c ∈ commonStart as bs → c ∈ as
  | [], _, _, h => by simp [commonStart] at h
  | _ :: _, [], _, h => by simp [commonStart] at h
  | a :: as, b :: bs, c, h => by
    rw [commonStart] at h
    split at h
    · rcases List.mem_cons.1 h with rfl | h
      · exact .head _
      · exact .tail _ (mem_commonStart h)
    · simp at h

theorem mem_foldl_commonStart : ∀ {ps : List (List Node)} {p : List Node} {c : Node},
    c ∈ ps.foldl commonStart p → c ∈ p
  | [], _, _, h => h
  | _ :: _, _, _, h => mem_commonStart (mem_foldl_commonStart h)

theorem captures_sharedStart {as : List Node} (h : ∀ a ∈ as, a.Captures P) :
    ∀ a ∈ sharedStart as, a.Captures P := by
  intro c hc
  cases as with
  | nil => simp [sharedStart] at hc
  | cons a as =>
    rw [sharedStart, List.map_cons] at hc
    dsimp only at hc
    split at hc
    · exact (captures_parts a).2 (h a (.head _)) c (mem_foldl_commonStart hc)
    · simp at hc

theorem captures_choice : ∀ (fuel : Nat) {as : List Node}, (∀ a ∈ as, a.Captures P) →
    (choice fuel as).Captures P
  | 0, as, h => (captures_ofBranches as).2 h
  | _ + 1, [], _ => trivial
  | _ + 1, [a], h => h a (.head _)
  | fuel + 1, a :: b :: as, h => by
    have hstart := captures_sharedStart h
    rw [choice_cons_cons]
    split
    · trivial
    · split
      · exact (captures_ofBranches _).2 h
      next start hne =>
        refine (captures_seq _).2 (List.forall_mem_append.2 ⟨hstart, ?_⟩)
        rw [List.forall_mem_singleton]
        refine captures_choice fuel (List.forall_mem_flatMap.2 fun c hc => ?_)
        obtain ⟨d, hd, rfl⟩ := List.mem_map.1 hc
        rw [captures_branches, captures_ofParts]
        exact fun e he => (captures_parts d).2 (h d hd) e (List.mem_of_mem_drop he)

theorem captures_anyOf {as : List Node} (h : ∀ a ∈ as, a.Captures P) : (anyOf as).Captures P :=
  captures_choice _ (List.forall_mem_flatMap.2 fun a ha => (captures_branches a).2 (h a ha))

theorem captures_repeated {a : Node} (h : a.Captures P) (lo : Nat) (hi : Option Nat)
    (greedy : Bool) : (a.repeated lo hi greedy).Captures P := by
  unfold repeated
  dsimp only
  split_ifs <;> first
    | exact trivial
    | exact h

end

end Routing.Regex.Node
