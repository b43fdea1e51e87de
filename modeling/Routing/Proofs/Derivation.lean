import Routing.Proofs.Grammar
import Routing.Proofs.Representation

/-!
The reader of patterns and their grammar. When the reader has taken the characters of some items, it
has the segments of these items; the items of a part that is still open stand apart from those
around it.

    taken       a(/<id>b        the parts, from the inside      / <id> b        a
                                the segments of each            "/" id "b"      "a"

So the reader takes exactly the patterns that can be derived, and it gives the segments of their
items. A pattern is compiled if, besides, the constraints and the expression of the route can be
read.
-/

namespace Routing

namespace Pattern

open Text

/-! ### The reader after items -/

/-- The names of the parameters of items. -/
def Item.names (items : List Item) : List String := (allParameters items).map (·.1)

/-- The reader after the items of the innermost open part, with those of the parts around it. -/
def Reader.of (table : ConstraintTable) (stack : List (List Item)) (done : List Item) : Reader where
  place := .text
  current := (Item.segments table done).reverse
  outer := stack.map fun items => (Item.segments table items).reverse
  names := Item.names (stack.reverse.flatten ++ done)

variable {table : ConstraintTable} {stack : List (List Item)} {done : List Item}

theorem Item.names_append (is js : List Item) : names (is ++ js) = names is ++ names js := by
  rw [names, allParameters_append, List.map_append]
  rfl

/-- One more item is one more segment, or a longer literal. -/
theorem Reader.of_append_singleton (i : Item) : Reader.of table stack (done ++ [i]) =
    { Reader.of table stack done with
      current := join (Item.segments table done).reverse (i.segment table)
      names := Item.names (stack.reverse.flatten ++ done) ++ Item.names [i] } := by
  rw [Reader.of, Item.segments_append_singleton, ← List.append_assoc, Item.names_append]
  rfl

theorem step_char {c : Char} (h : (Item.char c).WellFormed) :
    (Reader.of table stack done).step table c =
      .ok (Reader.of table stack (done ++ [.char c])) := by
  obtain ⟨hopen, hclose, hstart⟩ := h
  rw [Reader.of_append_singleton, Item.segment, join_singleton]
  simp [Reader.step, Reader.of, hopen, hclose, hstart, Item.names, Item.allParameters,
    Item.parameters]

theorem step_open : (Reader.of table stack done).step table '(' =
    .ok (Reader.of table (done :: stack) []) := by
  simp [Reader.step, Reader.of, Item.segments, Item.allSegments, merge]

theorem step_close {around : List Item} : (Reader.of table (around :: stack) done).step table ')' =
    .ok (Reader.of table stack (around ++ [.group done])) := by
  rw [Reader.of_append_singleton, Item.segment, join_optional]
  simp [Reader.step, Reader.of, Item.names, Item.allParameters, Item.parameters, Item.segments,
    Item.allParameters_append]

theorem step_start : (Reader.of table stack done).step table '<' =
    .ok { Reader.of table stack done with place := .name [] } := by
  simp [Reader.step, Reader.of]

theorem pushParameter_of (place : Place) (name : String) (inline : Option String) :
    { Reader.of table stack done with place }.pushParameter table name inline =
      Reader.of table stack (done ++ [.parameter name inline]) := by
  rw [Reader.of_append_singleton, Item.segment, join_parameter]
  rfl

/-! ### Constraints -/

/-- A fragment can be a constraint: it is not empty, and it is an expression between anchors. -/
def IsConstraint (fragment : String) : Prop :=
  fragment ≠ "" ∧ ∃ rx, Regex.ofString (anchored fragment) = .ok rx

theorem checkConstraint_eq_ok {name fragment : String} :
    checkConstraint name fragment = .ok () ↔ IsConstraint fragment := by
  unfold checkConstraint IsConstraint
  split
  next hempty => simp [hempty]
  next hempty =>
    rw [map_eq_ok]
    constructor
    · rintro ⟨rx, hread, -⟩
      exact ⟨hempty, rx, readConstraint_spec hread⟩
    · rintro ⟨-, rx, hrx⟩
      exact ⟨rx, by rw [readConstraint, hrx], rfl⟩

/-- The fragments that parameters are given can be constraints. -/
def Item.Constrained (ps : List (String × Option String)) : Prop :=
  ∀ p ∈ ps, ∀ fragment ∈ p.2, IsConstraint fragment

/-! ### Parameters -/

theorem checkName_eq_ok {names : List String} {read : List Char} {name : String} :
    checkName names read = .ok name ↔
      name.toList = read.reverse ∧ Item.IsName name ∧ name ∉ names := by
  have hread : name.toList = read.reverse ↔ name = String.ofList read.reverse :=
    ⟨fun h => by rw [← h, String.ofList_toList], fun h => by rw [h, String.toList_ofList]⟩
  have hempty : String.ofList read.reverse ≠ "" ↔ ¬ read.isEmpty := by
    simp [← String.toList_inj]
  have hall : (∀ c ∈ (String.ofList read.reverse).toList, isNameChar c) ↔ read.all isNameChar := by
    simp
  rw [hread]
  unfold checkName
  dsimp only
  split_ifs with hnone hchars hnew
  · simp only [false_iff]
    rintro ⟨rfl, ⟨hne, -⟩, -⟩
    exact hempty.1 hne hnone
  · simp only [false_iff]
    rintro ⟨rfl, ⟨-, hname⟩, -⟩
    simp [hall.1 hname] at hchars
  · simp only [false_iff]
    rintro ⟨rfl, -, hfresh⟩
    exact hfresh (List.contains_iff_mem.1 hnew)
  · rw [Except.ok.injEq]
    constructor
    · rintro rfl
      refine ⟨rfl, ⟨hempty.2 hnone, hall.2 (by simpa using hchars)⟩, fun hmem => hnew ?_⟩
      exact List.contains_iff_mem.2 hmem
    · exact fun h => h.1.symm

/-- In a fragment, with what guards the next character. -/
def Place.guarded (name : String) (read : List Char) (g : Guard) : Place :=
  .fragment name read g.depth g.inClass g.escaped

/-- A character ends a name, with its parameter or with a fragment to come, or the name goes on. -/
theorem step_name (table : ConstraintTable) (r : Reader) (read : List Char) (c : Char) :
    Reader.step table { r with place := .name read } c =
      if c = '>' then do
        let name ← checkName r.names read
        return { r with place := .name read }.pushParameter table name none
      else if c = ':' then do
        let name ← checkName r.names read
        return { r with place := .guarded name [] .none }
      else .ok { r with place := .name (c :: read) } := by
  simp only [Reader.step, beq_iff_eq]
  rfl

/-- Characters that do not end a name, whatever else they are. -/
def Unended (cs : List Char) : Prop := ∀ c ∈ cs, c ≠ '>' ∧ c ≠ ':'

theorem Item.IsName.unended {name : String} (h : IsName name) : Unended name.toList := by
  intro c hc
  have hname := h.2 c hc
  constructor <;> rintro rfl <;> exact absurd hname (by decide)

/-- The characters of a name are collected. -/
theorem foldlM_name {r : Reader} : ∀ {cs read : List Char}, Unended cs →
    cs.foldlM (Reader.step table) { r with place := .name read } =
      .ok { r with place := .name (cs.reverse ++ read) }
  | [], _, _ => rfl
  | c :: cs, read, h => by
    obtain ⟨hend, hcs⟩ := List.forall_mem_cons.1 h
    have hstep : Reader.step table { r with place := .name read } c =
        .ok { r with place := .name (c :: read) } := by
      rw [step_name, if_neg hend.1, if_neg hend.2]
    rw [List.reverse_cons, List.append_assoc]
    exact foldlM_cons_eq_ok.2 ⟨_, hstep, foldlM_name hcs⟩

/-- A character ends a fragment, or the fragment goes on. -/
theorem step_fragment (table : ConstraintTable) (r : Reader) (name : String) (read : List Char)
    (g : Guard) (c : Char) :
    Reader.step table { r with place := .guarded name read g } c =
      if g = .none ∧ c = '>' then do
        checkConstraint name (String.ofList read.reverse)
        return { r with place := .guarded name read g }.pushParameter table name
          (some (String.ofList read.reverse))
      else .ok { r with place := .guarded name (c :: read) (g.next c) } := by
  obtain ⟨depth, inClass, escaped⟩ := g
  simp only [Reader.step, Place.guarded, Guard.next, Guard.none]
  cases escaped with
  | true => simp
  | false =>
    cases inClass with
    | true => by_cases hslash : c = '\\' <;> simp [hslash]
    | false =>
      by_cases hend : c = '>'
      · simp [hend]
      · simp only [hend, and_false, if_false]
        split_ifs <;> simp_all

/-- The characters of a fragment are collected as long as it does not end. -/
theorem foldlM_fragment {r : Reader} {name : String} {cs : List Char} (h : Guarded cs) :
    cs.foldlM (Reader.step table) { r with place := .guarded name [] .none } =
      .ok { r with place := .guarded name cs.reverse (.after cs) } := by
  induction cs using List.reverseRecOn with
  | nil => rfl
  | append_singleton cs c ih =>
    obtain ⟨hcs, hc⟩ := guarded_append_singleton.1 h
    have hend : ¬ (Guard.after cs = .none ∧ c = '>') := fun ⟨hnone, heq⟩ => hc heq hnone
    have hstep := step_fragment table r name cs.reverse (.after cs) c
    rw [if_neg hend, ← Guard.after_append_singleton] at hstep
    rw [List.reverse_append]
    exact foldlM_append_eq_ok.2 ⟨_, ih hcs, foldlM_singleton_eq_ok.2 hstep⟩

/-! ### What is derived is read -/

/-- The characters of a name are collected behind its bracket. -/
theorem foldlM_start {cs : List Char} (h : Unended cs) :
    ('<' :: cs).foldlM (Reader.step table) (Reader.of table stack done) =
      .ok { Reader.of table stack done with place := .name cs.reverse } := by
  refine foldlM_cons_eq_ok.2 ⟨_, step_start, ?_⟩
  rw [foldlM_name h, List.append_nil]

section
variable {name : String} (hname : Item.IsName name)
  (hfresh : name ∉ Item.names (stack.reverse.flatten ++ done))

include hname hfresh

/-- The name is one that the next parameter can have. -/
theorem checkName_of_fresh :
    checkName (Reader.of table stack done).names name.toList.reverse = .ok name := by
  rw [checkName_eq_ok, List.reverse_reverse]
  exact ⟨rfl, hname, hfresh⟩

/-- The characters of a fragment are collected behind the name of its parameter. -/
theorem foldlM_inline {cs : List Char} (h : Guarded cs) :
    ('<' :: (name.toList ++ ':' :: cs)).foldlM (Reader.step table) (Reader.of table stack done) =
      .ok { Reader.of table stack done with
        place := .guarded name cs.reverse (.after cs) } := by
  have hcolon : Reader.step table
      { Reader.of table stack done with place := .name name.toList.reverse } ':' =
        .ok { Reader.of table stack done with place := .guarded name [] .none } := by
    rw [step_name, if_neg (by decide), if_pos rfl, checkName_of_fresh hname hfresh]
    rfl
  rw [← List.cons_append]
  refine foldlM_append_eq_ok.2 ⟨_, foldlM_start hname.unended, ?_⟩
  exact foldlM_cons_eq_ok.2 ⟨_, hcolon, foldlM_fragment h⟩

end

theorem foldlM_parameter {name : String} {inline : Option String}
    (h : (Item.parameter name inline).WellFormed)
    (hfresh : name ∉ Item.names (stack.reverse.flatten ++ done))
    (hinline : ∀ fragment ∈ inline, IsConstraint fragment) :
    (Item.parameter name inline).chars.foldlM (Reader.step table) (Reader.of table stack done) =
      .ok (Reader.of table stack (done ++ [.parameter name inline])) := by
  obtain ⟨hname, hclosed⟩ := h
  let r := Reader.of table stack done
  cases inline with
  | none =>
    have hend : Reader.step table { r with place := .name name.toList.reverse } '>' =
        .ok (Reader.of table stack (done ++ [.parameter name none])) := by
      rw [step_name, if_pos rfl, checkName_of_fresh hname hfresh,
        ← pushParameter_of (.name name.toList.reverse)]
      rfl
    rw [Item.chars, ← List.cons_append]
    exact foldlM_append_eq_ok.2
      ⟨_, foldlM_start hname.unended, foldlM_singleton_eq_ok.2 hend⟩
  | some fragment =>
    obtain ⟨hguarded, hnone⟩ := hclosed fragment rfl
    have hfragment : checkConstraint name fragment = .ok () :=
      checkConstraint_eq_ok.2 (hinline fragment rfl)
    have hend : Reader.step table
        { r with place := .guarded name fragment.toList.reverse (.after fragment.toList) } '>' =
          .ok (Reader.of table stack (done ++ [.parameter name (some fragment)])) := by
      rw [step_fragment, if_pos ⟨hnone, rfl⟩, List.reverse_reverse, String.ofList_toList,
        hfragment, pushParameter_of]
      rfl
    have hchars : (Item.parameter name (some fragment)).chars =
        '<' :: (name.toList ++ ':' :: fragment.toList) ++ ['>'] := by
      simp [Item.chars]
    rw [hchars]
    exact foldlM_append_eq_ok.2
      ⟨_, foldlM_inline hname hfresh hguarded, foldlM_singleton_eq_ok.2 hend⟩

mutual

/-- The reader takes an item. -/
theorem foldlM_chars : ∀ {i : Item} {stack : List (List Item)} {done : List Item}, i.WellFormed →
    (Item.names (stack.reverse.flatten ++ (done ++ [i]))).Nodup → Item.Constrained i.parameters →
    i.chars.foldlM (Reader.step table) (Reader.of table stack done) =
      .ok (Reader.of table stack (done ++ [i]))
  | .char c, _, _, h, _, _ => by
    exact foldlM_singleton_eq_ok.2 (step_char h)
  | .group items, stack, done, h, hnodup, hvalid => by
    -- The items of the group are taken with the items before it on the stack.
    have hnames : Item.names ((done :: stack).reverse.flatten ++ ([] ++ items)) =
        Item.names (stack.reverse.flatten ++ (done ++ [.group items])) := by
      simp [Item.names, Item.allParameters_append, Item.allParameters, Item.parameters]
    have hitems : (Item.allChars items).foldlM (Reader.step table)
        (Reader.of table (done :: stack) []) =
          .ok (Reader.of table (done :: stack) ([] ++ items)) :=
      foldlM_allChars h (hnames ▸ hnodup) hvalid
    refine foldlM_cons_eq_ok.2 ⟨_, step_open, ?_⟩
    exact foldlM_append_eq_ok.2 ⟨_, hitems, foldlM_singleton_eq_ok.2 step_close⟩
  | .parameter name inline, stack, done, h, hnodup, hvalid => by
    refine foldlM_parameter h ?_ (hvalid (name, inline) List.mem_cons_self)
    rw [← List.append_assoc, Item.names_append] at hnodup
    intro hmem
    exact (List.nodup_append.1 hnodup).2.2 name hmem name List.mem_cons_self rfl

/-- The reader takes items one after another. -/
theorem foldlM_allChars : ∀ {is : List Item} {stack : List (List Item)} {done : List Item},
    Item.AllWellFormed is → (Item.names (stack.reverse.flatten ++ (done ++ is))).Nodup →
    Item.Constrained (Item.allParameters is) →
    (Item.allChars is).foldlM (Reader.step table) (Reader.of table stack done) =
      .ok (Reader.of table stack (done ++ is))
  | [], _, done, _, _, _ => by
    rw [List.append_nil]
    rfl
  | i :: is, stack, done, h, hnodup, hvalid => by
    rw [List.append_cons] at hnodup
    have hfirst : (Item.names (stack.reverse.flatten ++ (done ++ [i]))).Nodup := by
      rw [← List.append_assoc, Item.names_append] at hnodup
      exact (List.nodup_append.1 hnodup).1
    obtain ⟨hi, his⟩ := List.forall_mem_append.1 hvalid
    rw [List.append_cons done i is]
    exact foldlM_append_eq_ok.2 ⟨_, foldlM_chars h.1 hfirst hi, foldlM_allChars h.2 hnodup his⟩

end

/-! ### What is read is derived -/

/-- The characters up to the innermost open part. -/
def opened (stack : List (List Item)) : List Char :=
  stack.reverse.flatMap fun items => Item.allChars items ++ ['(']

/-- The items of all parts are well-formed, and the fragments in them can be constraints. -/
structure Laid (stack : List (List Item)) (done : List Item) : Prop where
  wellFormed : Item.AllWellFormed (stack.reverse.flatten ++ done)
  constrained : Item.Constrained (Item.allParameters (stack.reverse.flatten ++ done))

/-- What the characters that have been read are: items, and it may be the beginning of a
parameter. -/
inductive Reader.Derived (table : ConstraintTable) : List Char → Reader → Prop
  | text {stack : List (List Item)} {done : List Item} : Laid stack done →
      Derived table (opened stack ++ Item.allChars done) (Reader.of table stack done)
  | name {stack : List (List Item)} {done : List Item} (read : List Char) : Laid stack done →
      Derived table (opened stack ++ Item.allChars done ++ '<' :: read.reverse)
        { Reader.of table stack done with place := .name read }
  | fragment {stack : List (List Item)} {done : List Item} {name : String} (read : List Char) :
      Laid stack done → Item.IsName name → Guarded read.reverse →
      Derived table
        (opened stack ++ Item.allChars done ++ '<' :: (name.toList ++ ':' :: read.reverse))
        { Reader.of table stack done with place := .guarded name read (.after read.reverse) }

/-- One more item has been read. -/
theorem Laid.append (h : Laid stack done) {i : Item} (hi : i.WellFormed)
    (hvalid : Item.Constrained i.parameters) : Laid stack (done ++ [i]) where
  wellFormed := by
    rw [← List.append_assoc, Item.allWellFormed_append]
    exact ⟨h.wellFormed, hi, trivial⟩
  constrained := by
    rw [← List.append_assoc, Item.allParameters_append]
    refine List.forall_mem_append.2 ⟨h.constrained, ?_⟩
    rwa [Item.allParameters, Item.allParameters, List.append_nil]

/-- A part is opened. -/
theorem Laid.openPart (h : Laid stack done) : Laid (done :: stack) [] := by
  have hitems : (done :: stack).reverse.flatten ++ [] = stack.reverse.flatten ++ done := by simp
  exact ⟨hitems ▸ h.wellFormed, hitems ▸ h.constrained⟩

/-- A part is closed. -/
theorem Laid.closePart {around : List Item} (h : Laid (around :: stack) done) :
    Laid stack (around ++ [.group done]) where
  wellFormed := by
    have hall := h.wellFormed
    simp only [List.reverse_cons, List.flatten_append, List.flatten_cons, List.flatten_nil,
      List.append_nil, Item.allWellFormed_append] at hall
    simp only [Item.allWellFormed_append]
    exact ⟨hall.1.1, hall.1.2, hall.2, trivial⟩
  constrained := by
    have hall := h.constrained
    simpa [Item.allParameters_append, Item.allParameters, Item.parameters] using hall

/-- The item that has been read stands at the end. -/
theorem Reader.Derived.item (h : Laid stack done) {i : Item} (hi : i.WellFormed)
    (hvalid : Item.Constrained i.parameters) :
    Reader.Derived table (opened stack ++ Item.allChars done ++ i.chars)
      (Reader.of table stack (done ++ [i])) := by
  have hchars : opened stack ++ Item.allChars done ++ i.chars =
      opened stack ++ Item.allChars (done ++ [i]) := by
    rw [Item.allChars_append, Item.allChars, Item.allChars, List.append_nil, List.append_assoc]
  exact hchars ▸ .text (h.append hi hvalid)

/-- A character is read where text is expected. -/
theorem Reader.Derived.step_text (h : Laid stack done) {c : Char} {r : Reader}
    (hs : (Reader.of table stack done).step table c = .ok r) :
    r.Derived table (opened stack ++ Item.allChars done ++ [c]) := by
  by_cases hclose : c = ')'
  · subst hclose
    -- With no part open, the bracket is refused.
    cases stack with
    | nil => simp [Reader.step, Reader.of] at hs
    | cons around stack =>
      rw [step_close] at hs
      obtain rfl := Except.ok.inj hs
      have hchars : opened (around :: stack) ++ Item.allChars done ++ [')'] =
          opened stack ++ Item.allChars (around ++ [.group done]) := by
        simp [opened, Item.allChars_append, Item.allChars, Item.chars]
      exact hchars ▸ .text h.closePart
  by_cases hopen : c = '('
  · subst hopen
    rw [step_open] at hs
    obtain rfl := Except.ok.inj hs
    have hchars : opened stack ++ Item.allChars done ++ ['('] =
        opened (done :: stack) ++ Item.allChars [] := by
      simp [opened, Item.allChars]
    exact hchars ▸ .text h.openPart
  by_cases hstart : c = '<'
  · subst hstart
    rw [step_start] at hs
    obtain rfl := Except.ok.inj hs
    exact .name [] h
  · have hchar : (Item.char c).WellFormed := ⟨hopen, hclose, hstart⟩
    rw [step_char hchar] at hs
    obtain rfl := Except.ok.inj hs
    exact .item h hchar fun p hp => absurd hp List.not_mem_nil

/-- A character is read in the name of a parameter. -/
theorem Reader.Derived.step_name (h : Laid stack done) {read : List Char} {c : Char} {r : Reader}
    (hs : { Reader.of table stack done with place := .name read }.step table c = .ok r) :
    r.Derived table (opened stack ++ Item.allChars done ++ '<' :: read.reverse ++ [c]) := by
  rw [Pattern.step_name] at hs
  split_ifs at hs with hend hcolon
  · subst hend
    obtain ⟨name, hcheck, hs⟩ := bind_eq_ok.1 hs
    obtain ⟨hread, hname, -⟩ := checkName_eq_ok.1 hcheck
    rw [pushParameter_of] at hs
    obtain rfl := Except.ok.inj hs
    have hitem : (Item.parameter name none).WellFormed := ⟨hname, by simp⟩
    have hvalid : Item.Constrained (Item.parameter name none).parameters := by
      simp [Item.Constrained, Item.parameters]
    have hchars : opened stack ++ Item.allChars done ++ '<' :: read.reverse ++ ['>'] =
        opened stack ++ Item.allChars done ++ (Item.parameter name none).chars := by
      simp [Item.chars, hread]
    exact hchars ▸ .item h hitem hvalid
  · subst hcolon
    obtain ⟨name, hcheck, hs⟩ := bind_eq_ok.1 hs
    obtain ⟨hread, hname, -⟩ := checkName_eq_ok.1 hcheck
    obtain rfl := Except.ok.inj hs
    have hchars : opened stack ++ Item.allChars done ++ '<' :: read.reverse ++ [':'] =
        opened stack ++ Item.allChars done ++ '<' :: (name.toList ++ ':' :: [].reverse) := by
      simp [hread]
    exact hchars ▸ .fragment [] h hname guarded_nil
  · obtain rfl := Except.ok.inj hs
    have hchars : opened stack ++ Item.allChars done ++ '<' :: read.reverse ++ [c] =
        opened stack ++ Item.allChars done ++ '<' :: (c :: read).reverse := by
      simp
    exact hchars ▸ .name (c :: read) h

/-- A character is read in the fragment of a parameter. -/
theorem Reader.Derived.step_fragment (h : Laid stack done) {name : String} {read : List Char}
    (hname : Item.IsName name) (hguarded : Guarded read.reverse) {c : Char} {r : Reader}
    (hs : Reader.step table { Reader.of table stack done with
      place := .guarded name read (.after read.reverse) } c = .ok r) :
    r.Derived table (opened stack ++ Item.allChars done ++
      '<' :: (name.toList ++ ':' :: read.reverse) ++ [c]) := by
  rw [Pattern.step_fragment] at hs
  split at hs
  next hend =>
    obtain ⟨hnone, rfl⟩ := hend
    obtain ⟨⟨⟩, hcheck, hs⟩ := bind_eq_ok.1 hs
    rw [pushParameter_of] at hs
    obtain rfl := Except.ok.inj hs
    let i : Item := .parameter name (some (String.ofList read.reverse))
    have hitem : i.WellFormed := ⟨hname, by simpa [Closed] using ⟨hguarded, hnone⟩⟩
    have hvalid : Item.Constrained i.parameters := by
      simpa [i, Item.Constrained, Item.parameters] using checkConstraint_eq_ok.1 hcheck
    have hchars : opened stack ++ Item.allChars done ++
        '<' :: (name.toList ++ ':' :: read.reverse) ++ ['>'] =
          opened stack ++ Item.allChars done ++ i.chars := by
      simp [i, Item.chars]
    exact hchars ▸ .item h hitem hvalid
  next hend =>
    obtain rfl := Except.ok.inj hs
    have hmore : Guarded (c :: read).reverse := by
      rw [List.reverse_cons, guarded_append_singleton]
      exact ⟨hguarded, fun heq hnone => hend ⟨hnone, heq⟩⟩
    have hchars : opened stack ++ Item.allChars done ++
        '<' :: (name.toList ++ ':' :: read.reverse) ++ [c] = opened stack ++ Item.allChars done ++
          '<' :: (name.toList ++ ':' :: (c :: read).reverse) := by
      simp
    have hguard : (Guard.after read.reverse).next c = .after (c :: read).reverse := by
      rw [List.reverse_cons, Guard.after_append_singleton]
    rw [hchars, hguard]
    exact .fragment (c :: read) h hname hmore

theorem Reader.Derived.step {consumed : List Char} {r r' : Reader} (h : r.Derived table consumed)
    {c : Char} (hs : r.step table c = .ok r') : r'.Derived table (consumed ++ [c]) := by
  cases h with
  | text h => exact .step_text h hs
  | name read h => exact .step_name h hs
  | fragment read h hname hguarded => exact .step_fragment h hname hguarded hs

theorem Reader.derived_of_foldlM {cs : List Char} {r : Reader}
    (h : cs.foldlM (Reader.step table) .start = .ok r) : r.Derived table cs := by
  have hlaid : Laid [] [] := ⟨trivial, fun p hp => absurd hp List.not_mem_nil⟩
  have hstart : Reader.start.Derived table [] := .text hlaid
  exact foldlM_keeps (fun hderived hs => hderived.step hs) hstart h

/-- Items as which a pattern is written. -/
structure Item.Derives (items : List Item) (pattern : String) : Prop where
  chars : allChars items = pattern.toList
  wellFormed : AllWellFormed items

/-- What is left when all parts are closed. -/
theorem Reader.Derived.finish {consumed : List Char} {r : Reader} (h : r.Derived table consumed)
    {segments : List Segment} {names : List String} (hs : r.finish = .ok (segments, names)) :
    ∃ items, Item.allChars items = consumed ∧ Laid [] items ∧
      segments = Item.segments table items ∧ names = Item.names items := by
  cases h with
  | @text stack items h =>
    cases stack with
    | nil =>
      obtain ⟨rfl, rfl⟩ := Prod.mk.inj (Except.ok.inj hs)
      exact ⟨items, rfl, h, List.reverse_reverse _, rfl⟩
    | cons around stack => simp [Reader.finish, Reader.of] at hs
  | name read h => simp [Reader.finish] at hs
  | fragment read h hname hguarded => simp [Reader.finish, Place.guarded] at hs

/-- What is read of a pattern are the segments of its items, no two of which have the same name, and
whose fragments can be constraints. -/
theorem read_eq_ok_iff {pattern : String} {segments : List Segment} {names : List String} :
    read table pattern = .ok (segments, names) ↔
      ∃ items, Item.Derives items pattern ∧ (Item.names items).Nodup ∧
        Item.Constrained (Item.allParameters items) ∧ segments = Item.segments table items ∧
        names = Item.names items := by
  constructor
  · intro h
    obtain ⟨-, hnodup, -⟩ := read_spec h
    obtain ⟨r, hr, hfinish⟩ := bind_eq_ok.1 h
    obtain ⟨items, hchars, hlaid, rfl, rfl⟩ := (Reader.derived_of_foldlM hr).finish hfinish
    exact ⟨items, ⟨hchars, hlaid.wellFormed⟩, hnodup, hlaid.constrained, rfl, rfl⟩
  · rintro ⟨items, ⟨hchars, hformed⟩, hnodup, hvalid, rfl, rfl⟩
    have hread : (Item.allChars items).foldlM (Reader.step table) (Reader.of table [] []) =
        .ok (Reader.of table [] ([] ++ items)) := foldlM_allChars hformed hnodup hvalid
    have hfinish : (Reader.of table [] items).finish =
        .ok (Item.segments table items, Item.names items) := by
      rw [Reader.finish, Reader.of, List.reverse_reverse]
      rfl
    rw [hchars] at hread
    exact bind_eq_ok.2 ⟨_, hread, hfinish⟩

end Pattern

/-! ### Compiling -/

theorem isConstraint_default : Pattern.IsConstraint defaultConstraint :=
  ⟨by decide, by decide +kernel⟩

namespace ConstraintTable

open Pattern

theorem check_eq_ok {table : ConstraintTable} :
    table.check = .ok () ↔ ∀ e ∈ table.entries, IsConstraint e.2 := by
  rw [check, List.forM_eq_forM, forM_eq_ok]
  simp only [checkConstraint_eq_ok]

/-- Where the table and the pattern give constraints, every parameter has one. -/
theorem isConstraint_resolve {table : ConstraintTable} (h : ∀ e ∈ table.entries, IsConstraint e.2)
    {name : String} {inline : Option String}
    (hinline : ∀ fragment ∈ inline, IsConstraint fragment) :
    IsConstraint (table.resolve name inline) := by
  unfold resolve
  cases hget : table.get? name with
  | some fragment => exact h (name, fragment) (Dict.get?_eq_some_iff.1 hget)
  | none =>
    cases inline with
    | some fragment => exact hinline fragment rfl
    | none => exact isConstraint_default

end ConstraintTable

/-- So the constraints of all parameters of the segments can be read. -/
theorem Pattern.Item.exists_check_of_segments {table : ConstraintTable} {items : List Item}
    (htable : ∀ e ∈ table.entries, IsConstraint e.2) (h : Constrained (allParameters items)) :
    ∀ p ∈ Segment.allParameters (segments table items),
      ∃ check, Regex.ofString (anchored p.2) = .ok check := by
  rw [allParameters_segments]
  intro p hp
  obtain ⟨q, hq, rfl⟩ := List.mem_map.1 hp
  exact (ConstraintTable.isConstraint_resolve htable (h q hq)).2

namespace Route

open Pattern

theorem compile_eq_ok_iff_reason {pattern : String} {options : RouteOptions} {r : Route} :
    compile pattern options = .ok r ↔ compileReason pattern options = .ok r := by
  unfold compile
  split
  next route hroute => rw [hroute, Except.ok.injEq, Except.ok.injEq]
  next reason hreason => simp [hreason]

theorem compile_eq_error_iff_reason {pattern : String} {options : RouteOptions} {fault : Fault} :
    compile pattern options = .error fault ↔
      ∃ reason, fault = .pattern pattern reason ∧ compileReason pattern options = .error reason := by
  unfold compile
  cases compileReason pattern options <;> simp [eq_comm]

/-- What a route is compiled of: constraints that can be read, and a pattern that is read. -/
theorem compile_eq_ok_iff {pattern : String} {options : RouteOptions} {r : Route} :
    compile pattern options = .ok r ↔
      (∀ e ∈ options.constraints.entries, IsConstraint e.2) ∧
      ∃ items, Item.Derives items pattern ∧ (Item.names items).Nodup ∧
        Item.Constrained (Item.allParameters items) ∧
        assemble pattern (Item.segments options.constraints items)
          (Segment.expression (Item.segments options.constraints items)) options.defaults
          (Item.names items) = .ok r := by
  rw [compile_eq_ok_iff_reason, ← ConstraintTable.check_eq_ok]
  constructor
  · intro h
    obtain ⟨⟨⟩, hcheck, h⟩ := bind_eq_ok.1 h
    obtain ⟨⟨segments, names⟩, hread, h⟩ := bind_eq_ok.1 h
    obtain ⟨items, hderives, hnodup, hvalid, rfl, rfl⟩ := read_eq_ok_iff.1 hread
    exact ⟨hcheck, items, hderives, hnodup, hvalid, h⟩
  · rintro ⟨hcheck, items, hderives, hnodup, hvalid, h⟩
    have hread : Pattern.read options.constraints pattern =
        .ok (Item.segments options.constraints items, Item.names items) :=
      read_eq_ok_iff.2 ⟨items, hderives, hnodup, hvalid, rfl, rfl⟩
    exact bind_eq_ok.2 ⟨(), hcheck, bind_eq_ok.2 ⟨_, hread, h⟩⟩

/-- A pattern is compiled exactly if it can be derived, with names that are all different and
fragments that can be constraints, if the constraints of the table can be, and if the expression of
the route can be read and has a group for each parameter. There is one derivation at most. The
segments of the route are those of the derivation, with literals that are not empty and could not be
longer, and every parameter has the constraint of the table, else its own, else the common one. -/
theorem compile_iff_derives (pattern : String) (options : RouteOptions) :
    ((∃ r, compile pattern options = .ok r) ↔
      (∀ e ∈ options.constraints.entries, IsConstraint e.2) ∧
      ∃ items, Item.Derives items pattern ∧ (Item.names items).Nodup ∧
        Item.Constrained (Item.allParameters items) ∧
        ∃ rx, Regex.ofString
            (Segment.expression (Item.segments options.constraints items)) = .ok rx ∧
          ∀ i < (Item.names items).length, (rx.group? (Segment.groupName i)).isSome) ∧
    (∀ items items', Item.Derives items pattern → Item.Derives items' pattern → items = items') ∧
    ∀ r items, compile pattern options = .ok r → Item.Derives items pattern →
      r.segments = Item.segments options.constraints items ∧
      AllWhole r.segments ∧ Apart r.segments ∧
      Segment.allParameters r.segments = (Item.allParameters items).map fun p =>
        (p.1, ((options.constraints.get? p.1).or p.2).getD defaultConstraint) := by
  have hunique : ∀ items items', Item.Derives items pattern → Item.Derives items' pattern →
      items = items' := fun items items' h h' =>
    Item.allChars_injective h.wellFormed h'.wellFormed (h.chars.trans h'.chars.symm)
  refine ⟨?_, hunique, fun r items hr hderives => ?_⟩
  · constructor
    · rintro ⟨r, hr⟩
      obtain ⟨htable, items, hderives, hnodup, hvalid, hassemble⟩ := compile_eq_ok_iff.1 hr
      have hchecks := Item.exists_check_of_segments htable hvalid
      have hexpression := (exists_assemble_iff hchecks).1 ⟨r, hassemble⟩
      exact ⟨htable, items, hderives, hnodup, hvalid, hexpression⟩
    · rintro ⟨htable, items, hderives, hnodup, hvalid, hexpression⟩
      have hchecks := Item.exists_check_of_segments htable hvalid
      obtain ⟨r, hassemble⟩ := (exists_assemble_iff hchecks).2 hexpression
      exact ⟨r, compile_eq_ok_iff.2 ⟨htable, items, hderives, hnodup, hvalid, hassemble⟩⟩
  · obtain ⟨-, items', hderives', -, -, hassemble⟩ := compile_eq_ok_iff.1 hr
    obtain rfl := hunique items items' hderives hderives'
    obtain ⟨rx, slots, checks, rfl, -⟩ := assemble_spec hassemble
    have hwhole : AllWhole (Item.segments options.constraints items) ∧
        Apart (Item.segments options.constraints items) := Item.whole_segments items
    exact ⟨rfl, hwhole.1, hwhole.2, Item.allParameters_segments items⟩

end Route

end Routing
