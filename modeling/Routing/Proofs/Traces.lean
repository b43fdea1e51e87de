import Routing.Proofs.Expression
import Routing.Proofs.Regex.Anchored

/-!
What the search makes of the expression of a route. A trace is what the search does in the code of a
segment: where it comes to, and which marks it sets. The traces of a segment are listed in the order
in which the search tries them, so the code of a segment settles to what its first useful trace
finds.

    literal         one trace, or none
    parameter       one for each way out of the constraint: mark 2g, the marks of the way, mark 2g+1
    optional part   those of its segments, and after them one that sets no mark

The induction is on the segments and goes through their code from its end.
-/

namespace Routing

open Regex

namespace Segment

mutual

/-- The traces of a segment from a place on. -/
def traces (text : Array Char) (groups : Nat) : Segment → Nat → List Cursor
  | literal s, pos => if s.toList <+: text.toList.drop pos then [⟨pos + s.length, []⟩] else []
  | parameter _ constraint, pos =>
    ((ownNode constraint).program.exitsFrom text pos).map fun x =>
      ⟨x.pos, (2 * (groups + 1) + 1, x.pos) :: (x.marks.map (movedMark (groups + 1)) ++
        [(2 * (groups + 1), pos)])⟩
  | optional children, pos => allTraces text groups children pos ++ [⟨pos, []⟩]

/-- The traces of segments one after another. -/
def allTraces (text : Array Char) (groups : Nat) : List Segment → Nat → List Cursor
  | [], pos => [⟨pos, []⟩]
  | s :: ss, pos => (s.traces text groups pos).flatMap fun k =>
    (allTraces text (groups + s.groupCount) ss k.pos).map (·.after k.marks)

end

end Segment

/-! ### The first useful trace -/

/-- What the first useful trace finds. -/
def viaTraces (f : Nat → Option Cursor) (ks : List Cursor) : Option Cursor :=
  ks.findSome? fun k => (f k.pos).map (·.after k.marks)

theorem viaTraces_append (f : Nat → Option Cursor) (ks ls : List Cursor) :
    viaTraces f (ks ++ ls) = (viaTraces f ks).or (viaTraces f ls) := List.findSome?_append

theorem viaTraces_here (f : Nat → Option Cursor) (pos : Nat) : viaTraces f [⟨pos, []⟩] = f pos := by
  cases h : f pos <;> simp [viaTraces, h, Cursor.after_nil]

theorem viaTraces_after (f : Nat → Option Cursor) (marks : List (Nat × Nat)) :
    ∀ ks : List Cursor,
      viaTraces f (ks.map (·.after marks)) = (viaTraces f ks).map (·.after marks)
  | [] => rfl
  | k :: ks => by
    have ih := viaTraces_after f marks ks
    simp only [viaTraces] at ih ⊢
    cases h : f k.pos <;> simp [h, ih, Cursor.after_after]

/-- One trace after another. -/
theorem viaTraces_flatMap (f : Nat → Option Cursor) (next : Nat → List Cursor) :
    ∀ ks : List Cursor, viaTraces f (ks.flatMap fun k => (next k.pos).map (·.after k.marks)) =
      viaTraces (fun pos => viaTraces f (next pos)) ks
  | [] => rfl
  | k :: ks => by
    rw [List.flatMap_cons, viaTraces_append, viaTraces_after, viaTraces_flatMap f next ks]
    simp only [viaTraces, List.findSome?_cons]
    cases List.findSome? (fun k => (f k.pos).map (·.after k.marks)) (next k.pos) <;> rfl

/-! ### What the code settles to -/

section
variable {program : Program} {text : Array Char}

theorem contains_single (c d : Char) : (CharClass.single c).contains d = true ↔ c = d := by
  simp only [CharClass.single, CharClass.contains, Bool.and_eq_true, decide_eq_true_eq]
  rw [← Char.toNat_inj]
  exact ⟨fun h => Nat.le_antisymm h.1 h.2, fun h => ⟨h.le, h.ge⟩⟩

theorem prefix_drop_iff {c : Char} {cs : List Char} {pos : Nat} :
    c :: cs <+: text.toList.drop pos ↔
      text[pos]? = some c ∧ cs <+: text.toList.drop (pos + 1) := by
  rw [← Array.getElem?_toList]
  cases h : text.toList[pos]? with
  | none => simp [List.drop_eq_nil_of_le (List.getElem?_eq_none_iff.1 h)]
  | some d =>
    obtain ⟨hlt, hd⟩ := List.getElem?_eq_some_iff.1 h
    rw [List.drop_eq_getElem_cons hlt, List.cons_prefix_cons, hd, Option.some.injEq, eq_comm]

/-- The code of a literal takes its text. -/
theorem settles_literal (hp : program.Closed) {f : Nat → Option Cursor} :
    ∀ (cs : List Char) {s : Nat},
      program.Holds s (Node.codeAll (cs.map fun c => .char (.single c)) s) →
      Settles program text (s + cs.length) f →
      Settles program text s fun pos =>
        if cs <+: text.toList.drop pos then f (pos + cs.length) else none
  | [], s, _, hf => by simpa using hf
  | c :: cs, s, hholds, hf => by
    have hrest := settles_literal hp cs hholds.tail (by
      rwa [List.length_cons, Nat.add_comm cs.length, ← Nat.add_assoc] at hf)
    have h := settles_char hp hholds.head hrest
    intro pos hpos
    have hat := h pos hpos
    simp only [prefix_drop_iff, List.length_cons, Nat.add_comm cs.length, ← Nat.add_assoc]
    cases hd : text[pos]? with
    | none => simpa [hd] using hat
    | some d =>
      simp only [hd, contains_single] at hat
      by_cases heq : c = d
      · simpa [heq] using hat
      · simpa [heq, Ne.symm heq] using hat

/-- The code of a parameter takes what its constraint takes, between two marks. -/
theorem settles_parameter (hp : program.Closed) {name c : String} {groups index s : Nat}
    {f : Nat → Option Cursor}
    (hholds : program.Holds s
      (Node.codeAll ((Segment.parameter name c).nodes groups index) s))
    (hf : Settles program text
      (s + Node.sizeAll ((Segment.parameter name c).nodes groups index)) f) :
    Settles program text s fun pos =>
      viaTraces f ((Segment.parameter name c).traces text groups pos) := by
  have hcode : Node.codeAll ((Segment.parameter name c).nodes groups index) s =
      .mark (2 * (groups + 1)) :: (((ownNode c).shift (groups + 1)).code (s + 1) ++
        [.mark (2 * (groups + 1) + 1)]) := by
    simp [Segment.nodes, Node.codeAll, Node.code]
  have hsize : s + Node.sizeAll ((Segment.parameter name c).nodes groups index) =
      s + 1 + (ownNode c).codeSize + 1 := by
    simp [Segment.nodes, Node.sizeAll, Node.codeSize]
    omega
  rw [hcode] at hholds
  rw [hsize] at hf
  have hlast := hholds.tail.right.head
  rw [Node.length_code, Node.codeSize_shift] at hlast
  have hle : s + 1 + (ownNode c).codeSize ≤ program.size :=
    (Array.getElem?_eq_some_iff.1 hlast).1.le
  have hbody := settles_code hp hholds.tail.left hle (settles_mark hp hlast hf)
  refine (settles_mark hp hholds.head hbody).congr fun pos => ?_
  rw [viaTraces, viaExits, Segment.traces, List.findSome?_map, List.map_findSome?]
  congr 1
  funext x
  cases h : f x.pos <;> simp [h, Cursor.after]

mutual

/-- The code of a segment settles to what its first useful trace finds. -/
theorem settles_segment (hp : program.Closed) : ∀ (seg : Segment) {groups index s : Nat}
    {f : Nat → Option Cursor}, program.Holds s (Node.codeAll (seg.nodes groups index) s) →
    Settles program text (s + Node.sizeAll (seg.nodes groups index)) f →
    Settles program text s fun pos => viaTraces f (seg.traces text groups pos)
  | .literal str, groups, index, s, f, hholds, hf => by
    have hsize : Node.sizeAll ((Segment.literal str).nodes groups index) = str.toList.length := by
      have hnodes : (Segment.literal str).nodes groups index =
          (str.toList.map CharClass.single).map Node.char := by
        simp [Segment.nodes]
      rw [hnodes, Node.sizeAll_chars, List.length_map]
    rw [hsize] at hf
    refine (settles_literal hp str.toList hholds hf).congr fun pos => ?_
    rw [Segment.traces]
    split
    · exact (viaTraces_here f _).symm
    · rfl
  | .parameter name c, groups, index, s, f, hholds, hf => settles_parameter hp hholds hf
  | .optional children, groups, index, s, f, hholds, hf => by
    have hcode : Node.codeAll ((Segment.optional children).nodes groups index) s =
        .fork (s + 1) (s + 1 + Node.sizeAll (Segment.allNodes groups index children)) ::
          Node.codeAll (Segment.allNodes groups index children) (s + 1) := by
      simp [Segment.nodes, Node.codeAll, Node.code, Instr.choose, Node.code_seq, Node.codeSize_seq]
      omega
    have hsize : s + Node.sizeAll ((Segment.optional children).nodes groups index) =
        s + 1 + Node.sizeAll (Segment.allNodes groups index children) := by
      simp [Segment.nodes, Node.sizeAll, Node.codeSize, Node.codeSize_seq]
      omega
    rw [hcode] at hholds
    rw [hsize] at hf
    have hinside := settles_segments hp children hholds.tail hf
    refine (settles_fork hp hholds.head (Nat.lt_succ_self s) (by omega) hinside hf).congr
      fun pos => ?_
    rw [Segment.traces, viaTraces_append, viaTraces_here]

/-- The code of segments one after another settles to what their first useful trace finds. -/
theorem settles_segments (hp : program.Closed) : ∀ (ss : List Segment) {groups index s : Nat}
    {f : Nat → Option Cursor},
    program.Holds s (Node.codeAll (Segment.allNodes groups index ss) s) →
    Settles program text (s + Node.sizeAll (Segment.allNodes groups index ss)) f →
    Settles program text s fun pos => viaTraces f (Segment.allTraces text groups ss pos)
  | [], groups, index, s, f, _, hf => by
    refine hf.congr fun pos => ?_
    rw [Segment.allTraces, viaTraces_here]
  | seg :: ss, groups, index, s, f, hholds, hf => by
    rw [Segment.allNodes, Node.codeAll_append] at hholds
    rw [Segment.allNodes, Node.sizeAll_append, ← Nat.add_assoc] at hf
    have hright := hholds.right
    rw [Node.length_codeAll] at hright
    refine (settles_segment hp seg hholds.left (settles_segments hp ss hright hf)).congr
      fun pos => ?_
    rw [Segment.allTraces, viaTraces_flatMap]

end

/-- The first trace that comes to the end of the text is the useful one. -/
theorem viaTraces_atStop (ks : List Cursor) :
    viaTraces (atStop text) ks = ks.find? (·.pos = text.size) := by
  induction ks with
  | nil => rfl
  | cons k ks ih =>
    rw [viaTraces, List.findSome?_cons, List.find?_cons, ← ih]
    by_cases h : k.pos = text.size
    · rw [atStop, if_pos h, decide_eq_true h]
      rfl
    · rw [atStop, if_neg h, decide_eq_false h]
      rfl

end

/-- The search with the expression of segments gives their first trace that takes the whole text. -/
theorem search_expression {ss : List Segment} {rx : Regex}
    (hnode : rx.node = .seq (Segment.wholeNodes ss)) (text : Array Char) :
    rx.program.search text = (Segment.allTraces text 0 ss 0).find? (·.pos = text.size) := by
  have hprogram : rx.program = rx.node.program := rx.compiled
  have hcode : rx.node.code 0 =
      .look .start :: (Node.codeAll (Segment.allNodes 0 0 ss) 1 ++ [.look .stop]) := by
    rw [hnode, Node.code_seq, Segment.wholeNodes, Node.codeAll, Node.codeAll_append]
    rfl
  have hp : rx.program.Closed := hprogram ▸ rx.node.program_closed
  have hholds : rx.program.Holds 0 (rx.node.code 0) := hprogram ▸ holds_toArray _
  have hsize : rx.program.size = 1 + Node.sizeAll (Segment.allNodes 0 0 ss) + 1 := by
    rw [hprogram, Node.program, hcode]
    simp [Node.length_codeAll]
    omega
  rw [hcode] at hholds
  have hstop := hholds.tail.right.head
  rw [Node.length_codeAll, Nat.zero_add] at hstop
  have hsettles : Settles rx.program text 1 _ :=
    settles_segments hp ss hholds.tail.left (settles_stop hp hstop hsize.symm)
  rw [search_anchored hp hholds.head hsettles, viaTraces_atStop]

end Routing
