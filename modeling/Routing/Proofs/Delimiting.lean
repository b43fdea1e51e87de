import Routing.Proofs.Derivation
import Routing.Proofs.Regex.Enclosing
import Routing.Proofs.Regex.Tokens

/-!
Where the fragment of a parameter ends. The reader of patterns does not know expressions. It counts
round brackets, takes what stands between a `[` and the next `]` for a class, and steps over what a
backslash escapes; the first `>` outside of all that ends the fragment. Expressions have more than
that:

    [^>]>         a class, and then the end
    []>]          the first ] is part of the class       the reader leaves the class before the >
    [[:alpha:]>]  a class in a class                     so it does here
    (?<a[>b)      a name with a bracket                  the reader comes into a class

Where an expression is flat, without such things, both agree on every token of it: the reader has as
many groups open as the expression, and it is in no class.
-/

namespace Routing

namespace Pattern

open Regex

/-! ### Flat expressions -/

/-- Goes through the text of a class, from each `[` to the next `]` and out again at the end. What
stands between these pieces must not be a round bracket, a backslash or, unless there are groups
around, a `>`. -/
def closes (deep : Bool) : (inside : Bool) → List Char → Bool
  | inside, [] => !inside
  | true, '\\' :: _ :: cs => closes deep true cs
  | true, c :: cs => closes deep (c != ']') cs
  | false, c :: cs => c != '\\' && c != '(' && c != ')' && (c != '>' || deep) &&
      closes deep (c == '[') cs

/-- A class is closed by the reader of patterns, too; a group has no bracket in its name; and there
is no comment after the first character. -/
def flatText (deep : Bool) : List Char → Bool
  | [] => true
  | '[' :: body => closes deep true body
  | '(' :: more => !more.contains '[' && !more.contains '#'
  | '\\' :: _ :: more => !more.contains '#'
  | _ :: more => !more.contains '#'

/-- Nor does a comment before it have a bracket or a backslash. -/
def IsFlat (t : Token) : Prop :=
  (∀ c ∈ t.blanks, Quiet c) ∧ flatText (t.depth != 0) t.text = true

instance (t : Token) : Decidable (IsFlat t) :=
  have := List.decidableBAll Quiet t.blanks
  inferInstanceAs (Decidable (_ ∧ _))

/-! ### What is exposed -/

/-- The guard where so many groups are open. -/
def Guard.inGroups (depth : Nat) : Guard := ⟨depth, false, false⟩

/-- The characters that nothing guards. -/
def Guard.exposed : Guard → List Char → List Char
  | _, [] => []
  | g, c :: cs => if g = .none then c :: exposed (g.next c) cs else exposed (g.next c) cs

theorem Guard.exposed_append : ∀ (g : Guard) (cs ds : List Char),
    g.exposed (cs ++ ds) = g.exposed cs ++ (cs.foldl next g).exposed ds
  | _, [], _ => rfl
  | g, c :: cs, ds => by
    rw [List.cons_append, exposed, exposed, exposed_append (g.next c) cs ds, List.foldl_cons]
    split <;> rfl

theorem Guard.mem_exposed_iff : ∀ (g : Guard) (cs : List Char) (c : Char),
    c ∈ g.exposed cs ↔ ∃ before rest, cs = before ++ c :: rest ∧ before.foldl next g = .none
  | _, [], _ => by simp [exposed]
  | g, d :: cs, c => by
    have hsplit : (∃ before rest, d :: cs = before ++ c :: rest ∧ before.foldl next g = .none) ↔
        (c = d ∧ g = .none) ∨
          ∃ before rest, cs = before ++ c :: rest ∧ before.foldl next (g.next d) = .none := by
      constructor
      · rintro ⟨before, rest, heq, hnone⟩
        cases before with
        | nil => exact .inl ⟨(List.cons.inj heq).1.symm, hnone⟩
        | cons b before =>
          obtain ⟨rfl, htail⟩ := List.cons.inj heq
          exact .inr ⟨before, rest, htail, hnone⟩
      · rintro (⟨rfl, hnone⟩ | ⟨before, rest, rfl, hnone⟩)
        · exact ⟨[], cs, rfl, hnone⟩
        · exact ⟨d :: before, rest, rfl, hnone⟩
    rw [hsplit, ← mem_exposed_iff, exposed]
    split
    next hnone => simp [hnone]
    next hnone => simp [hnone]

theorem guarded_iff {cs : List Char} : Guarded cs ↔ '>' ∉ Guard.none.exposed cs := by
  rw [Guard.mem_exposed_iff]
  simp only [Guarded, not_exists, not_and]
  rfl

/-- Over some characters the reader goes from as many open groups to others, and what it finds
exposed of the characters `>` are those in `bare`. -/
structure Scans (depth depth' : Nat) (cs bare : List Char) : Prop where
  guard : cs.foldl Guard.next (.inGroups depth) = .inGroups depth'
  exposed : '>' ∈ (Guard.inGroups depth).exposed cs ↔ '>' ∈ bare

section
variable {depth depth' depth'' : Nat}

theorem Scans.append {cs cs' bare bare' : List Char} (h : Scans depth depth' cs bare)
    (h' : Scans depth' depth'' cs' bare') : Scans depth depth'' (cs ++ cs') (bare ++ bare') where
  guard := by rw [List.foldl_append, h.guard, h'.guard]
  exposed := by
    rw [Guard.exposed_append, List.mem_append, List.mem_append, h.guard, h.exposed, h'.exposed]

theorem scans_nil (depth : Nat) : Scans depth depth [] [] := ⟨rfl, Iff.rfl⟩

theorem Guard.inGroups_eq_none : inGroups depth = .none ↔ depth = 0 := by
  simp [inGroups, none]

theorem Guard.next_quiet {c : Char} (hc : Quiet c) : (inGroups depth).next c = inGroups depth := by
  simp only [Quiet, List.mem_cons, List.not_mem_nil, or_false, not_or] at hc
  simp [inGroups, next, hc]

theorem scans_quiet_char {c : Char} (hc : Quiet c) :
    Scans depth depth [c] (if depth = 0 then [c] else []) where
  guard := Guard.next_quiet hc
  exposed := by simp [Guard.exposed, Guard.inGroups_eq_none]

/-- Quiet characters change nothing, and are exposed where no group is open. -/
theorem scans_quiet : ∀ {cs : List Char}, (∀ c ∈ cs, Quiet c) →
    Scans depth depth cs (if depth = 0 then cs else [])
  | [], _ => by simpa using scans_nil depth
  | c :: cs, h => by
    obtain ⟨hc, hcs⟩ := List.forall_mem_cons.1 h
    have hboth := (scans_quiet_char hc).append (scans_quiet hcs)
    split at hboth
    next h0 => simpa [h0] using hboth
    next h0 => simpa [h0] using hboth

theorem scans_open : Scans depth (depth + 1) ['('] [] where
  guard := by simp [Guard.inGroups, Guard.next]
  exposed := by
    simp only [Guard.exposed]
    split <;> simp

theorem scans_close : Scans (depth + 1) depth [')'] [] where
  guard := by simp [Guard.inGroups, Guard.next]
  exposed := by simp [Guard.exposed, Guard.inGroups_eq_none]

/-- What a backslash escapes is not exposed. -/
theorem scans_escape (c : Char) : Scans depth depth ['\\', c] [] where
  guard := by simp [Guard.inGroups, Guard.next]
  exposed := by
    have hescaped : (Guard.inGroups depth).next '\\' ≠ .none := by
      simp [Guard.inGroups, Guard.next, Guard.none]
    simp only [Guard.exposed, if_neg hescaped]
    split <;> simp

/-- In a class that is closed by the reader no `>` is exposed. -/
theorem exposed_of_closes {inside : Bool} {cs : List Char} (h : closes (depth != 0) inside cs) :
    cs.foldl Guard.next ⟨depth, inside, false⟩ = .inGroups depth ∧
      '>' ∉ Guard.exposed ⟨depth, inside, false⟩ cs := by
  fun_induction closes (depth != 0) inside cs with
  | case1 inside =>
    obtain rfl : inside = false := by simpa using h
    exact ⟨rfl, List.not_mem_nil⟩
  | case2 c cs ih =>
    simpa [Guard.exposed, Guard.next, Guard.none] using ih h
  | case3 c cs hescape ih =>
    have hc : c ≠ '\\' := by
      rintro rfl
      cases cs with
      | nil => simp [closes] at h
      | cons d cs => exact hescape d cs rfl rfl
    simpa [Guard.exposed, Guard.next, Guard.none, hc] using ih h
  | case4 c cs ih =>
    simp only [Bool.and_eq_true, Bool.or_eq_true, bne_iff_ne] at h
    obtain ⟨⟨⟨⟨hescape, hopen⟩, hclose⟩, hend⟩, hcs⟩ := h
    obtain ⟨hguard, hexposed⟩ := ih hcs
    have hnext : Guard.next ⟨depth, false, false⟩ c = ⟨depth, c == '[', false⟩ := by
      by_cases hc : c = '['
      · simp [Guard.next, hc]
      · simp [Guard.next, hescape, hopen, hclose, hc]
    rw [List.foldl_cons, Guard.exposed, hnext]
    refine ⟨hguard, ?_⟩
    split
    next hnone =>
      have hdepth : depth = 0 := congrArg Guard.depth hnone
      have hne : c ≠ '>' := hend.resolve_right (not_not.2 hdepth)
      exact List.not_mem_cons_of_ne_of_not_mem hne.symm hexposed
    · exact hexposed

theorem scans_class {body : List Char} (h : closes (depth != 0) true body) :
    Scans depth depth ('[' :: body) [] := by
  obtain ⟨hguard, hexposed⟩ := exposed_of_closes h
  have hnext : (Guard.inGroups depth).next '[' = ⟨depth, true, false⟩ := by
    simp [Guard.inGroups, Guard.next]
  refine ⟨by rw [List.foldl_cons, hnext, hguard], ?_⟩
  rw [Guard.exposed, hnext]
  split <;> simpa using hexposed

theorem flatText_quiet {deep : Bool} {c : Char} (hc : Quiet c) (more : List Char) :
    flatText deep (c :: more) = !more.contains '#' := by
  unfold flatText
  split <;> simp_all [Quiet]

theorem bareText_quiet {c : Char} (hc : Quiet c) (more : List Char) :
    Token.bareText (c :: more) = c :: more := by
  unfold Token.bareText
  split <;> simp_all [Quiet]

/-- A flat token is scanned from the groups that are open before it to those that are open after
it. -/
theorem scans_text {p q : Progress} {c : Char} {taken : List Char} (h : p.Takes q c taken)
    (hflat : flatText (p.below.length != 0) (c :: taken)) :
    Scans p.below.length q.below.length (c :: taken)
      (if p.below.length = 0 then Token.bareText (c :: taken) else []) := by
  cases h with
  | opens h =>
    have hbare : ∀ depth, (if depth = 0 then Token.bareText ('(' :: taken) else []) = [] :=
      fun depth => ite_self _
    simp only [flatText, Bool.and_eq_true, Bool.not_eq_true', List.contains_eq_mem,
      decide_eq_false_iff_not] at hflat
    rw [hbare]
    rcases h hflat.1 hflat.2 with ⟨hbelow, hquiet⟩ | ⟨hbelow, flags, rfl, hquiet⟩
    · rw [hbelow, List.length_cons]
      exact scans_open.append (scans_quiet hquiet)
    · rw [hbelow]
      exact scans_open.append ((scans_quiet hquiet).append scans_close)
  | closes hbelow =>
    rw [hbelow, List.length_cons, if_neg (Nat.succ_ne_zero _)]
    exact scans_close
  | «class» hbelow =>
    rw [hbelow, Token.bareText, ite_self]
    exact scans_class hflat
  | @escape d more hbelow hquiet =>
    have hhash : '#' ∉ more := by simpa [flatText] using hflat
    rw [hbelow]
    exact (scans_escape d).append (scans_quiet (hquiet hhash))
  | other hc hbelow hquiet =>
    have hhash : '#' ∉ taken := by simpa [flatText_quiet hc] using hflat
    rw [hbelow, bareText_quiet hc]
    exact scans_quiet (List.forall_mem_cons.2 ⟨hc, hquiet hhash⟩)

end

/-- The tokens of a flat text are scanned one after another. -/
theorem scans_tokens : ∀ (fuel : Nat) {p r : Progress} {cs : List Char}, cs.length < fuel →
    p.run fuel cs = .ok r → (∀ t ∈ p.tokens fuel cs, IsFlat t) →
    Scans p.below.length r.below.length cs ((p.tokens fuel cs).flatMap Token.bare)
  | 0, _, _, _, hlen, _, _ => absurd hlen (Nat.not_lt_zero _)
  | fuel + 1, p, r, cs, hlen, h, hflat => by
    rw [Progress.run] at h
    split at h
    next hskip =>
      obtain rfl := Except.ok.inj h
      rw [Progress.tokens_end fuel hskip] at hflat ⊢
      have hquiet : ∀ c ∈ cs, Quiet c := (hflat _ (.head _)).1
      have hscans : Scans p.below.length p.below.length cs
          (if p.below.length = 0 then cs else []) := scans_quiet hquiet
      simpa only [List.flatMap_singleton, Token.bare, Token.bareText, List.append_nil] using hscans
    next c cs' hskip =>
      obtain ⟨⟨q, rest⟩, hstep, h⟩ := bind_eq_ok.1 h
      obtain ⟨blanks, taken, rfl, htakes, htokens⟩ := Progress.tokens_step fuel hskip hstep
      have hshort : rest.length < fuel := by
        simp only [List.length_append, List.length_cons] at hlen
        omega
      rw [htokens] at hflat ⊢
      obtain ⟨⟨hblanks, htext⟩, hrest⟩ := List.forall_mem_cons.1 hflat
      have htoken := (scans_quiet hblanks).append (scans_text htakes htext)
      have hbare : (Token.mk p.below.length blanks (c :: taken)).bare =
          (if p.below.length = 0 then blanks else []) ++
            (if p.below.length = 0 then Token.bareText (c :: taken) else []) := by
        unfold Token.bare
        split <;> rfl
      rw [List.flatMap_cons, hbare]
      exact htoken.append (scans_tokens fuel hshort h hrest)

/-- A flat expression is a fragment whose parameter ends with the next `>` exactly if none of its
own is bare. -/
theorem closed_iff_bare {fragment : String} {rx : Regex} (h : Regex.ofString fragment = .ok rx)
    (hflat : ∀ t ∈ tokens fragment, IsFlat t) :
    Closed fragment.toList ↔ '>' ∉ bare fragment := by
  obtain ⟨p, hrun, -, hbelow, -⟩ := readsAll_of_ofString h
  have hscans := scans_tokens _ (Nat.lt_succ_self _) hrun hflat
  rw [hbelow] at hscans
  have hafter : Guard.after fragment.toList = .none := hscans.guard
  rw [Closed, guarded_iff, and_iff_left hafter]
  exact not_congr hscans.exposed

/-! ### A pattern of one parameter -/

theorem toList_inline (name fragment : String) : ("<" ++ name ++ ":" ++ fragment ++ ">").toList =
    (Item.parameter name (some fragment)).chars := by
  simp [Item.chars]

/-- A parameter whose fragment ends with the pattern makes up the pattern. -/
theorem Item.derives_parameter {name fragment : String} (hname : Item.IsName name)
    (hclosed : Closed fragment.toList) :
    Item.Derives [.parameter name (some fragment)] ("<" ++ name ++ ":" ++ fragment ++ ">") := by
  refine ⟨?_, ⟨hname, fun f hf => Option.some.inj hf ▸ hclosed⟩, trivial⟩
  rw [toList_inline]
  exact List.append_nil _

/-- A pattern that starts with a parameter and its fragment is read so. -/
theorem Item.Derives.starts_with {name fragment : String} {items : List Item}
    (h : Item.Derives items ("<" ++ name ++ ":" ++ fragment ++ ">")) (hname : Item.IsName name) :
    ∃ fragment' rest, items = .parameter name (some fragment') :: rest := by
  have hgt : ¬ isNameChar '>' := by decide
  have hcolon : ¬ isNameChar ':' := by decide
  have hchars := h.chars
  rw [toList_inline, Item.chars] at hchars
  cases items with
  | nil => simp [Item.allChars] at hchars
  | cons i rest =>
    obtain ⟨hi, -⟩ := h.wellFormed
    rw [Item.allChars] at hchars
    cases i with
    | char c => exact absurd (List.cons.inj hchars).1 hi.2.2
    | group items => exact absurd (List.cons.inj hchars).1 (by decide)
    | parameter name' inline =>
      cases inline with
      | none =>
        have htail : name'.toList ++ '>' :: Item.allChars rest =
            name.toList ++ ':' :: (fragment.toList ++ ['>']) := by simpa [Item.chars] using hchars
        exact absurd (Item.eq_of_name hi.1.2 hname.2 hgt hcolon htail).2.1 (by decide)
      | some fragment' =>
        have htail : name'.toList ++ ':' :: (fragment'.toList ++ '>' :: Item.allChars rest) =
            name.toList ++ ':' :: (fragment.toList ++ ['>']) := by simpa [Item.chars] using hchars
        have heq := (Item.eq_of_name hi.1.2 hname.2 hcolon hcolon htail).1
        exact ⟨fragment', rest, by rw [String.toList_inj.1 heq]⟩

end Pattern

/-- Two ranges of which the second one begins first. -/
theorem Text.RangeList.ofRanges_pair {a b : CodeRange} (h : b.lo < a.lo) :
    ofRanges [a, b] = joinFrom b [a] := by
  simp [ofRanges, List.mergeSort, h]

namespace Route

open Pattern Regex

/-- The expression with one parameter has its group. -/
theorem isSome_group_parameter {name fragment : String} {rx : Regex} (hfragment : Fragment fragment)
    (hrx : Regex.ofString (Segment.expression [.parameter name fragment]) = .ok rx) :
    ∀ i < [name].length, (rx.group? (Segment.groupName i)).isSome := by
  have hfragments : ∀ e ∈ Segment.allParameters [.parameter name fragment], Fragment e.2 :=
    List.forall_mem_singleton.2 hfragment
  have hslots : findSlots rx 0 [name] = .ok _ := findSlots_expression hfragments hrx rfl
  intro i hi
  obtain ⟨slot, -, hgroup⟩ := exists_slot_of_findSlots hslots hi
  exact Option.isSome_iff_exists.2 ⟨slot, hgroup⟩

/-- A pattern of one parameter gives this parameter exactly if its fragment ends with the pattern,
and the expression can be read. -/
theorem exists_compile_inline_iff {name fragment : String} (hname : Item.IsName name)
    (hfragment : Fragment fragment) (hne : fragment ≠ "") :
    (∃ r, compile ("<" ++ name ++ ":" ++ fragment ++ ">") ⟨.empty, .empty⟩ = .ok r ∧
        r.segments = [.parameter name fragment]) ↔
      Closed fragment.toList ∧
        ∃ rx, Regex.ofString (Segment.expression [.parameter name fragment]) = .ok rx := by
  constructor
  · rintro ⟨r, hr, hsegments⟩
    obtain ⟨-, items, hderives, -, -, hassemble⟩ := compile_eq_ok_iff.1 hr
    obtain ⟨rx, slots, checks, rfl, hrx, -⟩ := assemble_spec hassemble
    obtain ⟨fragment', rest, rfl⟩ := hderives.starts_with hname
    have hparams := congrArg Segment.allParameters hsegments
    rw [Item.allParameters_segments] at hparams
    have hsame : fragment' = fragment := (Prod.mk.inj (List.cons.inj hparams).1).2
    rw [show Item.segments _ _ = _ from hsegments] at hrx
    exact ⟨hsame ▸ hderives.wellFormed.1.2 fragment' rfl, rx, hrx⟩
  · rintro ⟨hclosed, rx, hrx⟩
    let items : List Item := [.parameter name (some fragment)]
    have hsegments : Item.segments .empty items = [.parameter name fragment] := rfl
    have hvalid : Item.Constrained (Item.allParameters items) := by
      simpa [items, Item.Constrained, Item.allParameters, Item.parameters, IsConstraint] using
        And.intro hne hfragment.bracketed
    have htable : ∀ e ∈ (Dict.empty : ConstraintTable).entries, IsConstraint e.2 :=
      List.forall_mem_nil _
    have hchecks := Item.exists_check_of_segments htable hvalid
    obtain ⟨r, hassemble⟩ :=
      (exists_assemble_iff hchecks).2 ⟨rx, hrx, isSome_group_parameter hfragment hrx⟩
    refine ⟨r, compile_eq_ok_iff.2 ⟨htable, items, Item.derives_parameter hname hclosed,
      List.nodup_singleton _, hvalid, hassemble⟩, ?_⟩
    obtain ⟨_, _, _, rfl, -⟩ := assemble_spec hassemble
    exact hsegments

/-- A pattern of one parameter whose fragment is a flat expression gives this parameter exactly if
no `>` of the fragment is bare, so that all of them stand in a group or a class, or after a
backslash; if the fragment has no group with the name that the group of the parameter gets; and if
it leaves room for this group. -/
theorem compile_inline_iff {name fragment : String} (hname : Item.IsName name)
    (hregex : ∃ rx, Regex.ofString fragment = .ok rx) (hconstraint : IsConstraint fragment)
    (hflat : ∀ t ∈ tokens fragment, IsFlat t) :
    (∃ r, compile ("<" ++ name ++ ":" ++ fragment ++ ">") ⟨.empty, .empty⟩ = .ok r ∧
        r.segments = [.parameter name fragment]) ↔
      '>' ∉ bare fragment ∧ Segment.groupName 0 ∉ (ownProgress fragment).names ∧
        (ownNode fragment).cost + 4 * stateSize ≤ costLimit := by
  have hfragment : Fragment fragment := ⟨hregex, hconstraint.2⟩
  obtain ⟨rx, hrx⟩ := hregex
  rw [exists_compile_inline_iff hname hfragment hconstraint.1, closed_iff_bare hrx hflat,
    hfragment.readable_iff]

/-- Here a `>` stands in a class, with a bracket, in a named group, and another one after a
backslash. -/
theorem compile_inline_iff_tag : ∃ r,
    compile ("<" ++ "tag" ++ ":" ++ "(?<t>[(->])*\\>" ++ ">") ⟨.empty, .empty⟩ = .ok r ∧
      r.segments = [.parameter "tag" "(?<t>[(->])*\\>"] :=
  (compile_inline_iff ⟨by decide, List.all_eq_true.1 (by decide)⟩ (by decide +kernel)
    ⟨by decide, by decide +kernel⟩ (by decide +kernel)).2 (by decide +kernel)

/-- The class of all of these characters is an expression by itself and passes the check, and its
`>` stands in the class. But the first `]` is part of the class, and the reader of patterns takes it
for its end. -/
theorem compile_inline_bracket : Item.IsName "a" ∧ (∃ rx, Regex.ofString "[]>]" = .ok rx) ∧
    IsConstraint "[]>]" ∧ '>' ∉ bare "[]>]" ∧
    compile ("<" ++ "a" ++ ":" ++ "[]>]" ++ ">") ⟨.empty, .empty⟩ =
      .error (.pattern "<a:[]>]>" (.badConstraint "a")) := by
  -- The ranges of the class stand out of order, and its size is that of the sorted ones.
  have hranges : (CharClass.union (.range ']' ']') (.range '>' '>')).ranges =
      [⟨62, 62⟩, ⟨93, 93⟩] := Text.RangeList.ofRanges_pair (by decide)
  have hcost : (CharClass.union (.range ']' ']') (.range '>' '>')).cost = 80 := by
    simp [CharClass.cost, hranges, stateSize]
  have hnode : (ownNode "[]>]").cost = 80 := hcost
  have hanchored : (ownNode (anchored "[]>]")).cost = 32 + (80 + 32) :=
    congrArg (fun cost => 32 + (cost + 32)) hcost
  have hregex : ∃ rx, Regex.ofString "[]>]" = .ok rx :=
    exists_ofString_of_run rfl rfl (by decide) (hnode ▸ by decide)
  have hbracketed : ∃ rx, Regex.ofString (anchored "[]>]") = .ok rx :=
    exists_ofString_of_run rfl rfl (by decide) (hanchored ▸ by decide)
  exact ⟨⟨by decide, List.all_eq_true.1 (by decide)⟩, hregex, ⟨by decide, hbracketed⟩,
    by decide +kernel, by decide +kernel⟩

end Route

end Routing
