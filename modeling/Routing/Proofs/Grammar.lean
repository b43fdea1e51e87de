import Mathlib.Data.List.Chain
import Mathlib.Data.List.Induction
import Routing.Proofs.Made

/-!
The grammar of patterns. A pattern is written by items: characters, groups of items, and parameters.
What is written tells the items, since every item shows by its first character what it is, and
where it ends.

    a(/<id:(?<x>b)>)     a   group [ /   parameter id (?<x>b) ]

The fragment of a parameter ends at the first `>` that is not guarded by a group, a class or a
backslash. Its characters may be anything else.

The segments of a pattern are its items, with the characters that stand side by side put together.
-/

namespace Routing.Pattern

open Text

/-- What a pattern consists of. -/
inductive Item where
  | char (c : Char)
  | group (items : List Item)
  | parameter (name : String) (inline : Option String)

/-! ### Fragments -/

/-- What guards a character of a fragment. -/
structure Guard where
  /-- The number of open groups. -/
  depth : Nat
  inClass : Bool
  /-- Was the character before it a backslash that escapes it? -/
  escaped : Bool
  deriving DecidableEq

namespace Guard

/-- Nothing guards the first character. -/
def none : Guard := ⟨0, false, false⟩

/-- What guards the next character. -/
def next (g : Guard) (c : Char) : Guard :=
  if g.escaped then { g with escaped := false }
  else if c = '\\' then { g with escaped := true }
  else if g.inClass then { g with inClass := c != ']' }
  else if c = '[' then { g with inClass := true }
  else if c = '(' then { g with depth := g.depth + 1 }
  else if c = ')' then { g with depth := g.depth - 1 }
  else g

/-- What guards the character that comes after a text. -/
def after (cs : List Char) : Guard := cs.foldl next none

theorem after_append_singleton (cs : List Char) (c : Char) :
    after (cs ++ [c]) = (after cs).next c := by
  rw [after, List.foldl_append]
  rfl

end Guard

/-- Each `>` of a text is guarded. -/
def Guarded (cs : List Char) : Prop :=
  ∀ before rest, cs = before ++ '>' :: rest → Guard.after before ≠ .none

/-- A fragment whose parameter ends with the next `>`, and not before. -/
def Closed (cs : List Char) : Prop := Guarded cs ∧ Guard.after cs = .none

theorem guarded_nil : Guarded [] := fun _ _ h => by simp at h

theorem guarded_append_singleton {cs : List Char} {c : Char} :
    Guarded (cs ++ [c]) ↔ Guarded cs ∧ (c = '>' → Guard.after cs ≠ .none) := by
  constructor
  · intro h
    refine ⟨fun before rest heq => h before (rest ++ [c]) (by simp [heq]), ?_⟩
    rintro rfl
    exact h cs [] rfl
  · rintro ⟨h, hlast⟩ before rest heq
    rcases List.eq_nil_or_concat rest with rfl | ⟨rest, d, rfl⟩
    · obtain ⟨rfl, hc⟩ := List.append_inj' heq rfl
      exact hlast (List.singleton_inj.1 hc)
    · rw [List.concat_eq_append, ← List.cons_append, ← List.append_assoc] at heq
      exact h before rest (List.append_inj_left' heq rfl)

/-- Of two fragments, none ends before the other one. -/
theorem Closed.eq_of_append {cs ds r s : List Char} (hc : Closed cs) (hd : Closed ds)
    (h : cs ++ '>' :: r = ds ++ '>' :: s) : cs = ds ∧ r = s := by
  rcases List.append_eq_append_iff.1 h with ⟨more, rfl, hr⟩ | ⟨more, rfl, hs⟩
  · cases more with
    | nil => exact ⟨(List.append_nil cs).symm, (List.cons.inj hr).2⟩
    | cons c more =>
      obtain ⟨rfl, -⟩ := List.cons.inj hr
      exact absurd hc.2 (hd.1 cs more rfl)
  · cases more with
    | nil => exact ⟨List.append_nil ds, (List.cons.inj hs).2.symm⟩
    | cons c more =>
      obtain ⟨rfl, -⟩ := List.cons.inj hs
      exact absurd hd.2 (hc.1 ds more rfl)

/-! ### How items are written -/

namespace Item

mutual

/-- The characters of an item. -/
def chars : Item → List Char
  | .char c => [c]
  | .group items => '(' :: (allChars items ++ [')'])
  | .parameter name none => '<' :: (name.toList ++ ['>'])
  | .parameter name (some fragment) => '<' :: (name.toList ++ ':' :: (fragment.toList ++ ['>']))

/-- The characters of items one after another. -/
def allChars : List Item → List Char
  | [] => []
  | i :: is => i.chars ++ allChars is

end

/-- The name of a parameter consists of letters, digits and underscores. -/
def IsName (name : String) : Prop := name ≠ "" ∧ ∀ c ∈ name.toList, isNameChar c

mutual

/-- Characters are not those that start or end other items, names are names, and fragments end where
their parameters do. -/
def WellFormed : Item → Prop
  | .char c => c ≠ '(' ∧ c ≠ ')' ∧ c ≠ '<'
  | .group items => AllWellFormed items
  | .parameter name inline => IsName name ∧ ∀ fragment ∈ inline, Closed fragment.toList

/-- All items are well-formed. -/
def AllWellFormed : List Item → Prop
  | [] => True
  | i :: is => i.WellFormed ∧ AllWellFormed is

end

mutual

/-- The parameters of an item from left to right, each with the fragment that it is given. -/
def parameters : Item → List (String × Option String)
  | .char _ => []
  | .group items => allParameters items
  | .parameter name inline => [(name, inline)]

/-- The parameters of all items. -/
def allParameters : List Item → List (String × Option String)
  | [] => []
  | i :: is => i.parameters ++ allParameters is

end

theorem allChars_append (is js : List Item) : allChars (is ++ js) = allChars is ++ allChars js := by
  induction is with
  | nil => rfl
  | cons i is ih => rw [List.cons_append, allChars, ih, allChars, List.append_assoc]

theorem allWellFormed_append (is js : List Item) :
    AllWellFormed (is ++ js) ↔ AllWellFormed is ∧ AllWellFormed js := by
  induction is with
  | nil => simp [AllWellFormed]
  | cons i is ih => simp [AllWellFormed, ih, and_assoc]

theorem allParameters_append (is js : List Item) :
    allParameters (is ++ js) = allParameters is ++ allParameters js := by
  induction is with
  | nil => rfl
  | cons i is ih => rw [List.cons_append, allParameters, ih, allParameters, List.append_assoc]

/-! ### What is written tells the items -/

/-- A name ends at the first character that cannot stand in one. -/
theorem eq_of_name {cs ds : List Char} {c d : Char} {r s : List Char}
    (hcs : ∀ a ∈ cs, isNameChar a) (hds : ∀ a ∈ ds, isNameChar a) (hc : ¬ isNameChar c)
    (hd : ¬ isNameChar d) (h : cs ++ c :: r = ds ++ d :: s) : cs = ds ∧ c = d ∧ r = s := by
  have htake := congrArg (List.takeWhile isNameChar) h
  rw [List.takeWhile_append_of_pos hcs, List.takeWhile_append_of_pos hds,
    List.takeWhile_cons_of_neg hc, List.takeWhile_cons_of_neg hd, List.append_nil,
    List.append_nil] at htake
  subst htake
  exact ⟨rfl, List.cons.inj (List.append_cancel_left h)⟩

/-- The rest of a parameter, after its opening bracket, tells the parameter. -/
theorem eq_of_parameter {name name' : String} {inline inline' : Option String} {r s : List Char}
    (hi : (parameter name inline).WellFormed) (hj : (parameter name' inline').WellFormed)
    (h : (parameter name inline).chars ++ r = (parameter name' inline').chars ++ s) :
    parameter name inline = parameter name' inline' ∧ r = s := by
  have hgt : ¬ isNameChar '>' := by decide
  have hcolon : ¬ isNameChar ':' := by decide
  obtain ⟨⟨-, hname⟩, hclosed⟩ := hi
  obtain ⟨⟨-, hname'⟩, hclosed'⟩ := hj
  cases inline <;> cases inline' <;>
    simp only [chars, List.cons_append, List.append_assoc, List.cons.injEq, true_and] at h
  case none.none =>
    obtain ⟨heq, -, hrest⟩ := eq_of_name hname hname' hgt hgt h
    exact ⟨by rw [String.toList_inj.1 heq], hrest⟩
  case none.some => exact absurd (eq_of_name hname hname' hgt hcolon h).2.1 (by decide)
  case some.none => exact absurd (eq_of_name hname hname' hcolon hgt h).2.1 (by decide)
  case some.some fragment fragment' =>
    obtain ⟨heq, -, hrest⟩ := eq_of_name hname hname' hcolon hcolon h
    obtain ⟨hfragment, hrest⟩ := (hclosed fragment rfl).eq_of_append (hclosed' fragment' rfl) hrest
    exact ⟨by rw [String.toList_inj.1 heq, String.toList_inj.1 hfragment], hrest⟩

/-- No item starts with the bracket that ends a group. -/
theorem chars_ne_close {i : Item} (h : i.WellFormed) {cs r : List Char} :
    i.chars ++ cs ≠ ')' :: r := by
  intro heq
  cases i with
  | char c => exact h.2.1 (List.cons.inj heq).1
  | group items => exact absurd (List.cons.inj heq).1 (by decide)
  | parameter name inline => cases inline <;> exact absurd (List.cons.inj heq).1 (by decide)

mutual

/-- The characters of an item tell the item, whatever follows them. -/
theorem eq_of_chars : ∀ {i j : Item} {r s : List Char}, i.WellFormed → j.WellFormed →
    i.chars ++ r = j.chars ++ s → i = j ∧ r = s
  | .char c, j, r, s, hi, hj, h => by
    cases j with
    | char d =>
      obtain ⟨rfl, hrest⟩ := List.cons.inj h
      exact ⟨rfl, hrest⟩
    | group items => exact absurd (List.cons.inj h).1 hi.1
    | parameter name inline =>
      cases inline <;> exact absurd (List.cons.inj h).1 hi.2.2
  | .group items, j, r, s, hi, hj, h => by
    cases j with
    | char d => exact absurd (List.cons.inj h).1.symm hj.1
    | group items' =>
      simp only [chars, List.cons_append, List.append_assoc, List.cons.injEq, true_and] at h
      obtain ⟨rfl, hrest⟩ := eq_of_allChars hi hj h
      exact ⟨rfl, hrest⟩
    | parameter name inline =>
      cases inline <;> exact absurd (List.cons.inj h).1 (by decide)
  | .parameter name inline, j, r, s, hi, hj, h => by
    cases j with
    | char d => cases inline <;> exact absurd (List.cons.inj h).1.symm hj.2.2
    | group items => cases inline <;> exact absurd (List.cons.inj h).1 (by decide)
    | parameter name' inline' => exact eq_of_parameter hi hj h

/-- The characters of the items of a group tell the items; the group ends with its bracket. -/
theorem eq_of_allChars : ∀ {is js : List Item} {r s : List Char}, AllWellFormed is →
    AllWellFormed js → allChars is ++ ')' :: r = allChars js ++ ')' :: s → is = js ∧ r = s
  | [], [], _, _, _, _, h => ⟨rfl, (List.cons.inj h).2⟩
  | [], j :: js, _, _, _, hj, h => by
    rw [allChars, allChars, List.append_assoc] at h
    exact absurd h.symm (chars_ne_close hj.1)
  | i :: is, [], _, _, hi, _, h => by
    rw [allChars, allChars, List.append_assoc] at h
    exact absurd h (chars_ne_close hi.1)
  | i :: is, j :: js, r, s, hi, hj, h => by
    rw [allChars, allChars, List.append_assoc, List.append_assoc] at h
    obtain ⟨rfl, hmore⟩ := eq_of_chars hi.1 hj.1 h
    obtain ⟨rfl, hrest⟩ := eq_of_allChars hi.2 hj.2 hmore
    exact ⟨rfl, hrest⟩

end

/-- A pattern has one derivation at most. -/
theorem allChars_injective {is js : List Item} (hi : AllWellFormed is) (hj : AllWellFormed js)
    (h : allChars is = allChars js) : is = js :=
  (eq_of_allChars hi hj (congrArg (· ++ [')']) h)).1

end Item

/-! ### The segments of items -/

/-- Puts a segment behind others, the last of which comes first. A literal is joined to a literal
before it. -/
def join : List Segment → Segment → List Segment
  | .literal before :: rest, .literal text => .literal (before ++ text) :: rest
  | before, s => s :: before

/-- Segments, with the literals that stand side by side joined. -/
def merge (ss : List Segment) : List Segment := (ss.foldl join []).reverse

namespace Item

mutual

/-- The segment that an item stands for. A parameter has the constraint of the table, else its own,
else the one that all have. -/
def segment (table : ConstraintTable) : Item → Segment
  | .char c => .literal (String.singleton c)
  | .group items => .optional (merge (allSegments table items))
  | .parameter name inline => .parameter name (table.resolve name inline)

/-- The segments that items stand for, one by one. -/
def allSegments (table : ConstraintTable) : List Item → List Segment
  | [] => []
  | i :: is => i.segment table :: allSegments table is

end

/-- The segments of a pattern that items are written as. -/
def segments (table : ConstraintTable) (items : List Item) : List Segment :=
  merge (allSegments table items)

end Item

variable {table : ConstraintTable}

@[simp] theorem join_optional (before children : List Segment) :
    join before (.optional children) = .optional children :: before := by
  unfold join
  split <;> simp_all

@[simp] theorem join_parameter (before : List Segment) (name constraint : String) :
    join before (.parameter name constraint) = .parameter name constraint :: before := by
  unfold join
  split <;> simp_all

/-- A character is joined in the way in which the reader does it. -/
theorem join_singleton (before : List Segment) (c : Char) :
    join before (.literal (String.singleton c)) = pushLiteral c before := by
  unfold pushLiteral
  split
  · rw [join, String.append_singleton]
  · unfold join
    split <;> simp_all

theorem merge_append_singleton (ss : List Segment) (s : Segment) :
    (merge (ss ++ [s])).reverse = join (merge ss).reverse s := by
  simp [merge]

theorem Item.allSegments_append (is js : List Item) :
    allSegments table (is ++ js) = allSegments table is ++ allSegments table js := by
  induction is with
  | nil => rfl
  | cons i is ih => rw [List.cons_append, allSegments, ih, allSegments, List.cons_append]

theorem Item.segments_append_singleton (items : List Item) (i : Item) :
    (segments table (items ++ [i])).reverse =
      join (segments table items).reverse (i.segment table) := by
  rw [segments, allSegments_append, allSegments, allSegments, merge_append_singleton]
  rfl

/-! ### Parameters -/

theorem allParameters_join (before : List Segment) (s : Segment) :
    Segment.allParameters (join before s).reverse =
      Segment.allParameters before.reverse ++ s.parameters := by
  unfold join
  split <;> simp [Segment.allParameters_append, Segment.allParameters, Segment.parameters]

theorem allParameters_merge (ss : List Segment) :
    Segment.allParameters (merge ss) = Segment.allParameters ss := by
  induction ss using List.reverseRecOn with
  | nil => rfl
  | append_singleton ss s ih =>
    rw [← List.reverse_reverse (merge (ss ++ [s])), merge_append_singleton, allParameters_join,
      List.reverse_reverse, ih, Segment.allParameters_append, Segment.allParameters,
      Segment.allParameters, List.append_nil]

mutual

theorem Item.parameters_segment : ∀ i : Item, (i.segment table).parameters =
    i.parameters.map fun p => (p.1, table.resolve p.1 p.2)
  | .char _ => rfl
  | .group items => by
    rw [segment, Segment.parameters, allParameters_merge, allParameters_allSegments items]
    rfl
  | .parameter _ _ => rfl

theorem Item.allParameters_allSegments : ∀ is : List Item,
    Segment.allParameters (allSegments table is) =
      (allParameters is).map fun p => (p.1, table.resolve p.1 p.2)
  | [] => rfl
  | i :: is => by
    rw [allSegments, Segment.allParameters, parameters_segment i, allParameters_allSegments is,
      allParameters, List.map_append]

end

/-- The parameters of the segments are those of the items, with their constraints. -/
theorem Item.allParameters_segments (items : List Item) :
    Segment.allParameters (segments table items) =
      (allParameters items).map fun p => (p.1, table.resolve p.1 p.2) := by
  rw [segments, allParameters_merge, allParameters_allSegments]

/-! ### Literals are as long as they can be -/

/-- No two literals stand side by side. -/
def Apart (ss : List Segment) : Prop := ss.IsChain fun s t => ¬ (s.isLiteral ∧ t.isLiteral)

mutual

/-- No literal in the segment is empty, and none could be longer. -/
def Whole : Segment → Prop
  | .literal text => text ≠ ""
  | .parameter _ _ => True
  | .optional children => AllWhole children ∧ Apart children

/-- No literal in one of the segments is empty, and none within one of them could be longer. -/
def AllWhole : List Segment → Prop
  | [] => True
  | s :: ss => Whole s ∧ AllWhole ss

end

theorem allWhole_iff {ss : List Segment} : AllWhole ss ↔ ∀ s ∈ ss, Whole s := by
  induction ss with
  | nil => simp [AllWhole]
  | cons s ss ih => simp [AllWhole, ih]

theorem AllWhole.join {before : List Segment} {s : Segment} (h : AllWhole before) (hs : Whole s) :
    AllWhole (join before s) := by
  unfold Pattern.join
  split
  next before rest text =>
    refine ⟨?_, h.2⟩
    rw [Whole, ne_eq, String.append_eq_empty_iff]
    exact fun hempty => hs hempty.2
  · exact ⟨hs, h⟩

theorem Apart.join {before : List Segment} (h : Apart before) (s : Segment) :
    Apart (join before s) := by
  unfold Pattern.join
  split
  · exact List.isChain_cons.2 (List.isChain_cons.1 h)
  next hne =>
    refine List.isChain_cons.2 ⟨?_, h⟩
    rintro t ht ⟨hs, hliteral⟩
    cases before with
    | nil => simp at ht
    | cons u rest =>
      obtain rfl : u = t := by simpa using ht
      cases s <;> cases u <;> simp [Segment.isLiteral] at hs hliteral
      exact hne _ _ _ rfl rfl

/-- When segments have been joined, no literal could be longer. -/
theorem whole_merge {ss : List Segment} (h : AllWhole ss) :
    AllWhole (merge ss) ∧ Apart (merge ss) := by
  have hjoined : ∀ {ss before : List Segment}, AllWhole ss → AllWhole before → Apart before →
      AllWhole (ss.foldl join before) ∧ Apart (ss.foldl join before) := by
    intro ss
    induction ss with
    | nil => exact fun _ hbefore hapart => ⟨hbefore, hapart⟩
    | cons s ss ih => exact fun hss hbefore hapart => ih hss.2 (hbefore.join hss.1) (hapart.join s)
  have hnil : AllWhole [] := trivial
  obtain ⟨hwhole, hapart⟩ := hjoined h hnil .nil
  refine ⟨allWhole_iff.2 fun s hs => allWhole_iff.1 hwhole s (List.mem_reverse.1 hs), ?_⟩
  exact List.isChain_reverse.2 (hapart.imp fun s t hst hboth => hst hboth.symm)

mutual

theorem Item.whole_segment : ∀ i : Item, Whole (i.segment table)
  | .char c => by simp [segment, Whole]
  | .group items => whole_merge (allWhole_allSegments items)
  | .parameter _ _ => trivial

theorem Item.allWhole_allSegments : ∀ is : List Item, AllWhole (allSegments table is)
  | [] => trivial
  | i :: is => ⟨whole_segment i, allWhole_allSegments is⟩

end

/-- The literals of a pattern are as long as they can be, in its groups, too. -/
theorem Item.whole_segments (items : List Item) :
    AllWhole (segments table items) ∧ Apart (segments table items) :=
  whole_merge (allWhole_allSegments items)

/-- Two characters outside of the group are one literal, and the one in it is another. -/
example : Item.segments .empty [.char 'a', .char 'b', .group [.char '/', .parameter "id" none]] =
    [.literal "ab", .optional [.literal "/", .parameter "id" defaultConstraint]] :=
  rfl

end Routing.Pattern
