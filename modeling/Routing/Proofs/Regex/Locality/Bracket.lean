import Routing.Proofs.Regex.Locality.Escape

/-!
The readers of classes are local. A class has to be closed in the text, so nothing that follows the
text is ever looked at, apart from the look ahead for the name of a class and for the end of a
range: neither of them can be misled by a closing parenthesis.
-/

namespace Routing.Regex

open Text

section
variable {m : Mode}

/-! ### The name of a class -/

/-- No name of a class holds a parenthesis. -/
theorem ofPosixName_bracket {front back : List Char} :
    CharClass.ofPosixName (String.ofList (front ++ ')' :: back)) = none := by
  unfold CharClass.ofPosixName
  split
  all_goals first
    | rfl
    | rename_i heq
      have hmem : ')' ∈ (String.ofList (front ++ ')' :: back)).toList := by simp
      rw [heq] at hmem
      exact absurd hmem (by decide)

/-- The part up to a character, when that character is found. -/
theorem dropWhile_append_of_ne_nil {p : Char → Bool} {cs : List Char} (h : cs.dropWhile p ≠ [])
    (t : List Char) : (cs ++ t).dropWhile p = cs.dropWhile p ++ t ∧
      (cs ++ t).takeWhile p = cs.takeWhile p := by
  induction cs with
  | nil => simp at h
  | cons c cs ih =>
    by_cases hc : p c
    · simpa [hc] using ih (by simpa [hc] using h)
    · simp [hc]

theorem dropWhile_append_of_eq_nil {p : Char → Bool} {cs : List Char} (h : cs.dropWhile p = [])
    (t : List Char) : (cs ++ t).dropWhile p = t.dropWhile p ∧
      (cs ++ t).takeWhile p = cs ++ t.takeWhile p := by
  induction cs with
  | nil => simp
  | cons c cs ih =>
    by_cases hc : p c
    · simpa [hc] using ih (by simpa [hc] using h)
    · simp [hc] at h

/-- The name of a class and what follows it, after the colon and the sign. -/
def readPosixName (negated : Bool) (cs : List Char) : Option (CharClass × Bool × List Char) :=
  match cs.dropWhile (· != ':') with
  | ':' :: ']' :: rest =>
    (CharClass.ofPosixName (String.ofList (cs.takeWhile (· != ':')))).map (·, negated, rest)
  | _ => none

theorem readPosixName_append (negated : Bool) (cs t : List Char) :
    readPosixName negated (cs ++ ')' :: t) =
      (readPosixName negated cs).map fun r => (r.1, r.2.1, r.2.2 ++ ')' :: t) := by
  unfold readPosixName
  by_cases hnil : cs.dropWhile (· != ':') = []
  · obtain ⟨-, htake⟩ := dropWhile_append_of_eq_nil hnil (')' :: t)
    rw [htake, hnil]
    simp only [List.takeWhile_cons, bne_iff_ne, ne_eq, Char.reduceEq, not_false_eq_true, if_true,
      ofPosixName_bracket]
    split <;> rfl
  · obtain ⟨hdrop, htake⟩ := dropWhile_append_of_ne_nil hnil (')' :: t)
    rw [hdrop, htake]
    obtain ⟨c, rest, hrest⟩ := List.exists_cons_of_ne_nil hnil
    rw [hrest]
    cases rest with
    | nil => simp
    | cons d rest =>
      by_cases hcd : c = ':' ∧ d = ']'
      · obtain ⟨rfl, rfl⟩ := hcd
        simp [Function.comp_def]
      · have hne : ∀ ds : List Char, c :: d :: ds ≠ ':' :: ']' :: rest := by simp_all
        simp only [List.cons_append]
        split
        · simp_all
        · split
          · simp_all
          · rfl

theorem length_readPosixName {negated sign : Bool} {cs rest : List Char} {cls : CharClass}
    (h : readPosixName negated cs = some (cls, sign, rest)) : rest.length ≤ cs.length := by
  unfold readPosixName at h
  split at h
  next rest' heq =>
    have hlen := (List.dropWhile_suffix (· != ':') (l := cs)).length_le
    rw [heq] at hlen
    obtain ⟨_, -, heq⟩ := Option.map_eq_some_iff.1 h
    simp only [Prod.mk.injEq] at heq
    rw [← heq.2.2]
    simp only [List.length_cons] at hlen
    omega
  · simp at h

theorem readPosixClass_plain {cs : List Char} (h : ∀ ds, cs ≠ '^' :: ds) :
    readPosixClass (':' :: cs) = readPosixName false cs := by
  rw [readPosixClass]
  · rfl
  · exact h

theorem readPosixClass_other {c : Char} (hc : c ≠ ':') (cs : List Char) :
    readPosixClass (c :: cs) = none := by
  rw [readPosixClass]
  rintro _ heq
  exact hc (List.cons.inj heq).1

theorem readPosixClass_append (cs t : List Char) : readPosixClass (cs ++ ')' :: t) =
    (readPosixClass cs).map fun r => (r.1, r.2.1, r.2.2 ++ ')' :: t) := by
  cases cs with
  | nil => rfl
  | cons c cs =>
    by_cases hc : c = ':'
    · subst hc
      rw [List.cons_append]
      cases cs with
      | nil =>
        rw [readPosixClass_plain (by simp), readPosixClass_plain (by simp)]
        exact readPosixName_append false [] t
      | cons d cs =>
        by_cases hd : d = '^'
        · subst hd
          exact readPosixName_append true cs t
        · rw [readPosixClass_plain (by simp [hd]), readPosixClass_plain (by simp [hd])]
          exact readPosixName_append false (d :: cs) t
    · rw [List.cons_append, readPosixClass_other hc, readPosixClass_other hc]
      rfl

theorem length_readPosixClass {cs rest : List Char} {cls : CharClass} {negated : Bool}
    (h : readPosixClass cs = some (cls, negated, rest)) : rest.length ≤ cs.length := by
  cases cs with
  | nil => simp [readPosixClass] at h
  | cons c cs =>
    by_cases hc : c = ':'
    · subst hc
      by_cases hd : ∃ ds, cs = '^' :: ds
      · obtain ⟨ds, rfl⟩ := hd
        have hlen := length_readPosixName h
        simp only [List.length_cons]
        omega
      · rw [readPosixClass_plain (fun ds heq => hd ⟨ds, heq⟩)] at h
        exact (length_readPosixName h).trans (Nat.le_succ _)
    · simp [readPosixClass_other hc] at h

/-! ### The start of a bracket -/

theorem readHyphens_append : ∀ (fuel fuel' : Nat) (b : Bracket) (cs : List Char) {b' rest},
    readHyphens m fuel b cs = .ok (b', rest) → fuel ≤ fuel' →
    rest.length ≤ cs.length ∧ rest ≠ [] ∧
      ∀ t, readHyphens m fuel' b (cs ++ t) = .ok (b', rest ++ t)
  | 0, _, _, _, _, _, h, _ => by simp [readHyphens] at h
  | _ + 1, 0, _, _, _, _, _, hle => absurd hle (Nat.not_succ_le_zero _)
  | _ + 1, _ + 1, _, [], _, _, h, _ => by simp [readHyphens] at h
  | fuel + 1, fuel' + 1, b, c :: cs, b', rest, h, hle => by
    rw [readHyphens] at h
    split at h
    next hc =>
      have hskip := m.length_skip_le cs
      obtain ⟨hshort, hrest, happ⟩ := readHyphens_append fuel fuel' _ _ h
        (Nat.le_of_succ_le_succ hle)
      refine ⟨hshort.trans (hskip.trans (Nat.le_succ _)), hrest, fun t => ?_⟩
      have hne : m.skip cs ≠ [] := ne_nil_of_length_le hshort hrest
      rw [List.cons_append, readHyphens, if_pos hc, m.skip_append hne, happ]
    next hc =>
      obtain ⟨rfl, rfl⟩ := Prod.mk.inj (Except.ok.inj h)
      refine ⟨le_rfl, by simp, fun t => ?_⟩
      rw [List.cons_append, readHyphens, if_neg hc]

/-- The sign of a bracket, and what follows it. -/
def readSign (m : Mode) (cs : List Char) : Bool × List Char :=
  match m.skip cs with
  | '^' :: cs => (true, m.skip cs)
  | cs => (false, cs)

theorem readSign_caret {cs cs' : List Char} (h : m.skip cs = '^' :: cs') :
    readSign m cs = (true, m.skip cs') := by
  simp only [readSign, h]

theorem readSign_plain {cs : List Char} (h : ∀ cs', m.skip cs ≠ '^' :: cs') :
    readSign m cs = (false, m.skip cs) := by
  rw [readSign]
  split
  next heq => exact absurd heq (h _)
  next => rfl

theorem readSign_append {cs : List Char} (h : (readSign m cs).2 ≠ []) (t : List Char) :
    readSign m (cs ++ t) = ((readSign m cs).1, (readSign m cs).2 ++ t) := by
  by_cases hc : ∃ cs', m.skip cs = '^' :: cs'
  · obtain ⟨cs', hskip⟩ := hc
    rw [readSign_caret hskip] at h ⊢
    rw [readSign_caret (m.skip_cons_append hskip t), m.skip_append h]
  · have hplain : ∀ cs', m.skip cs ≠ '^' :: cs' := fun cs' heq => hc ⟨cs', heq⟩
    rw [readSign_plain hplain] at h ⊢
    have hskip := m.skip_append h t
    obtain ⟨c, cs', heq⟩ := List.exists_cons_of_ne_nil (show m.skip cs ≠ [] from h)
    rw [readSign_plain, hskip]
    rw [hskip, heq]
    exact fun ds hds => hplain cs' (by rw [heq, (List.cons.inj hds).1])

theorem length_readSign_le (cs : List Char) : (readSign m cs).2.length ≤ cs.length := by
  have hle := m.length_skip_le cs
  rw [readSign]
  split
  next cs' heq =>
    rw [heq] at hle
    exact (m.length_skip_le cs').trans ((Nat.le_succ _).trans hle)
  next => exact hle

/-- What stands after the hyphens of a bracket: perhaps a closing bracket that stands for itself. -/
def readFirst (m : Mode) (b : Bracket) (cs : List Char) : Except Fault (WithRest Bracket) :=
  match b.items, cs with
  | [], ']' :: cs =>
    match m.skip cs with
    | [] => .error .classOpen
    | cs => .ok (b.push (.single ']') 0, cs)
  | _, cs => .ok (b, cs)

theorem openBracket_eq (cs : List Char) : openBracket m cs =
    readHyphens m ((readSign m cs).2.length + 1) ⟨(readSign m cs).1, none, []⟩ (readSign m cs).2 >>=
      fun r => readFirst m r.1 r.2 := by
  simp only [openBracket, readSign, readFirst]
  rfl

theorem readFirst_append {b b' : Bracket} {cs rest : List Char}
    (h : readFirst m b cs = .ok (b', rest)) (hcs : cs ≠ []) :
    rest.length ≤ cs.length ∧ ∀ t, readFirst m b (cs ++ t) = .ok (b', rest ++ t) := by
  unfold readFirst at h
  split at h
  next cs' hitems =>
    split at h
    · simp at h
    next hne =>
      obtain ⟨rfl, rfl⟩ := Prod.mk.inj (Except.ok.inj h)
      refine ⟨(m.length_skip_le cs').trans (Nat.le_succ _), fun t => ?_⟩
      have hskip := m.skip_append hne t
      simp only [readFirst, hitems, List.cons_append, hskip]
      split
      next heq => exact absurd (List.append_eq_nil_iff.1 heq).1 hne
      next => rfl
  next hother =>
    obtain ⟨rfl, rfl⟩ := Prod.mk.inj (Except.ok.inj h)
    refine ⟨le_rfl, fun t => ?_⟩
    obtain ⟨c, cs', rfl⟩ := List.exists_cons_of_ne_nil hcs
    rw [readFirst]
    exact fun ds hitems heq => hother cs' hitems (by rw [(List.cons.inj heq).1])

theorem openBracket_append {b : Bracket} {cs rest : List Char}
    (h : openBracket m cs = .ok (b, rest)) :
    rest.length ≤ cs.length ∧ ∀ t, openBracket m (cs ++ t) = .ok (b, rest ++ t) := by
  rw [openBracket_eq, bind_eq_ok] at h
  obtain ⟨⟨b', mid⟩, hhyphens, hfirst⟩ := h
  obtain ⟨hshort, hmid, -⟩ := readHyphens_append _ _ _ _ hhyphens le_rfl
  obtain ⟨hrest, happ⟩ := readFirst_append hfirst hmid
  have hsign : (readSign m cs).2 ≠ [] := ne_nil_of_length_le hshort hmid
  refine ⟨hrest.trans (hshort.trans (length_readSign_le cs)), fun t => ?_⟩
  rw [openBracket_eq, readSign_append hsign, bind_eq_ok]
  exact ⟨(b', mid ++ t), (readHyphens_append _ _ _ _ hhyphens (by simp)).2.2 t, happ t⟩

/-! ### Items and ranges -/

theorem local_readItem {cs rest : List Char} {a : Atom} (h : readItem m cs = .ok (a, rest)) :
    Local (readItem m) cs a rest := by
  unfold readItem at h
  split at h
  · simp at h
  next cs => exact (local_readEscape h).cons fun ds r hr => by rw [readItem, hr]
  next c cs hc =>
    obtain ⟨rfl, rfl⟩ := Prod.mk.inj (Except.ok.inj h)
    refine .sure (Nat.le_succ _) fun t => ?_
    rw [List.cons_append, readItem]
    exact hc

theorem skip_of_blank : ∀ {cs : List Char}, (∀ c ∈ cs, isWhiteSpace c) →
    skipBlank cs = [] ∧ skipComment cs = []
  | [], _ => ⟨by rw [skipBlank], by rw [skipComment]⟩
  | c :: cs, h => by
    obtain ⟨hc, hcs⟩ := List.forall_mem_cons.1 h
    obtain ⟨hblank, hcomment⟩ := skip_of_blank hcs
    exact ⟨by simp [skipBlank, hc, hblank], by simp [skipComment, hblank, hcomment]⟩

/-- The look ahead in a comment stays in the text, unless only blanks are left of it. -/
theorem peekSkip_comment (whole whole' cs : List Char) :
    (∀ t, peekSkip.go whole' true (cs ++ t) = peekSkip.go whole true cs) ∨
      peekSkip.go whole true cs = whole.head? ∧ ∀ c ∈ cs, isWhiteSpace c := by
  induction cs with
  | nil => exact .inr ⟨rfl, by simp⟩
  | cons c cs ih =>
    by_cases hc : isWhiteSpace c
    · refine ih.imp (fun h t => ?_) fun h => ?_
      · simpa [peekSkip.go, hc] using h t
      · exact ⟨by simpa [peekSkip.go, hc] using h.1, List.forall_mem_cons.2 ⟨hc, h.2⟩⟩
    · exact .inl fun t => by simp [peekSkip.go, hc]

theorem peekSkip_blank (whole whole' cs : List Char) :
    (∀ t, peekSkip.go whole' false (cs ++ t) = peekSkip.go whole false cs) ∨
      peekSkip.go whole false cs = whole.head? ∧ skipBlank cs = [] := by
  induction cs with
  | nil => exact .inr ⟨rfl, by rw [skipBlank]⟩
  | cons c cs ih =>
    by_cases hc : isWhiteSpace c
    · simpa [peekSkip.go, skipBlank, hc] using ih
    · by_cases hh : c = '#'
      · subst hh
        refine (peekSkip_comment whole whole' cs).imp (fun h t => ?_) fun h => ?_
        · simpa [peekSkip.go, hc] using h t
        · exact ⟨by simpa [peekSkip.go, hc] using h.1, by simp [skipBlank, hc, skip_of_blank h.2]⟩
      · exact .inl fun t => by simp [peekSkip.go, hc, hh]

theorem peekSkip_append (cs : List Char) :
    (∀ t, peekSkip m (cs ++ t) = peekSkip m cs) ∨
      peekSkip m cs = cs.head? ∧ m.skip cs = [] := by
  unfold peekSkip Mode.skip
  split
  next hx =>
    by_cases h : peekSkip.go cs false cs = cs.head? ∧ skipBlank cs = []
    · exact .inr h
    · exact .inl fun t => ((peekSkip_blank cs (cs ++ t) cs).resolve_right h) t
  next hx =>
    cases cs with
    | nil => exact .inr ⟨rfl, rfl⟩
    | cons c cs => exact .inl fun t => rfl

/-- No character with a meaning in a class is left out. -/
theorem head?_of_skip {cs : List Char} (h : m.skip cs = []) :
    cs.head? ≠ some ']' ∧ cs.head? ≠ some '-' := by
  have hw₁ : isWhiteSpace ']' = false := by decide +kernel
  have hw₂ : isWhiteSpace '-' = false := by decide +kernel
  cases cs with
  | nil => simp
  | cons c cs =>
    unfold Mode.skip at h
    split at h
    · constructor <;>
      · rintro heq
        obtain rfl := Option.some.inj heq
        simp [skipBlank, hw₁, hw₂] at h
    · simp at h

/-- Does an item stand alone, before this character and what follows it? -/
def standsAlone (m : Mode) (c : Char) (cs : List Char) : Bool :=
  c != '-' || peekSkip m cs == some ']' || peekSkip m cs == some '-'

theorem standsAlone_append {c : Char} {cs : List Char}
    (h : standsAlone m c cs = true ∨ m.skip cs ≠ []) (t : List Char) :
    standsAlone m c (cs ++ t) = standsAlone m c cs := by
  by_cases hc : c = '-'
  · rcases peekSkip_append (m := m) cs with happ | ⟨hpeek, hskip⟩
    · rw [standsAlone, standsAlone, happ]
    · rcases h with h | h
      · obtain ⟨h₁, h₂⟩ := head?_of_skip hskip
        simp [standsAlone, hc, hpeek, h₁, h₂] at h
      · exact absurd hskip h
  · have hne : (c != '-') = true := bne_iff_ne.2 hc
    simp only [standsAlone, hne, Bool.true_or]

/-- What an item that stands alone gives. -/
def aloneClass (m : Mode) : Atom → Except Fault CharClass
  | .literal a => do return .single (← bracketChar m a)
  | .set cls => .ok cls
  | .look _ => .error .badClassItem

/-- What two items with a hyphen between them give. -/
def rangeClass (m : Mode) : Atom → Atom → Except Fault CharClass
  | .literal a, .literal b => do
    let a ← bracketChar m a
    let b ← bracketChar m b
    if a.toNat ≤ b.toNat then return .range a b else .error .badRange
  | _, _ => .error .badRange

/-- An item that stands alone. -/
theorem readRange_alone {cs mid cs' : List Char} {first : Atom} {c : Char}
    (hitem : readItem m cs = .ok (first, mid)) (hskip : m.skip mid = c :: cs')
    (halone : standsAlone m c cs' = true) :
    readRange m cs = aloneClass m first >>= fun cls => .ok (cls, c :: cs') := by
  unfold standsAlone at halone
  rw [readRange, hitem]
  simp only [bind, Except.bind, hskip, halone, if_true]
  cases first with
  | literal a =>
    dsimp only [aloneClass]
    cases bracketChar m a <;> rfl
  | set cls => rfl
  | look test => rfl

/-- A range. -/
theorem readRange_range {cs mid cs' : List Char} {first : Atom} {c : Char}
    (hitem : readItem m cs = .ok (first, mid)) (hskip : m.skip mid = c :: cs')
    (halone : standsAlone m c cs' = false) (hne : m.skip cs' ≠ []) :
    readRange m cs = readItem m (m.skip cs') >>= fun r =>
      rangeClass m first r.1 >>= fun cls => .ok (cls, r.2) := by
  unfold standsAlone at halone
  rw [readRange, hitem]
  simp only [bind, Except.bind, hskip, halone, Bool.false_eq_true, if_false]
  obtain ⟨d, ds, hnext⟩ := List.exists_cons_of_ne_nil hne
  rw [hnext]
  cases readItem m (d :: ds) with
  | error e => rfl
  | ok r =>
    obtain ⟨last, rest⟩ := r
    cases first with
    | literal a =>
      cases last with
      | literal b =>
        dsimp only [rangeClass]
        cases bracketChar m a <;> cases bracketChar m b <;> try rfl
        dsimp only [bind, Except.bind]
        split <;> rfl
      | set cls | look test => rfl
    | set cls | look test => rfl

theorem local_readRange {cs rest : List Char} {cls : CharClass}
    (h : readRange m cs = .ok (cls, rest)) : Local (readRange m) cs cls rest := by
  have hread := h
  rw [readRange, bind_eq_ok] at h
  obtain ⟨⟨first, mid⟩, hitem, h⟩ := h
  have hlocal := local_readItem hitem
  cases hskip : m.skip mid with
  | nil => simp [hskip] at h
  | cons c cs' =>
    have hmid : mid ≠ [] := by
      rintro rfl
      simp at hskip
    have hfirst := hlocal.within hmid
    have hlen := (m.length_lt_of_skip hskip).trans_le hlocal.shorter
    have hskip' := fun t => m.skip_cons_append hskip (')' :: t)
    cases halone : standsAlone m c cs' with
    | true =>
      rw [readRange_alone hitem hskip halone, bind_eq_ok] at hread
      obtain ⟨cls', hcls, hread⟩ := hread
      obtain ⟨rfl, rfl⟩ := Prod.mk.inj (Except.ok.inj hread)
      refine ⟨hlen, fun _ t => ?_, fun hnil => absurd hnil (by simp)⟩
      have hstand := standsAlone_append (.inl halone) (')' :: t)
      rw [readRange_alone (hfirst t) (hskip' t) (hstand.trans halone), bind_eq_ok]
      exact ⟨cls', hcls, rfl⟩
    | false =>
      have hne : m.skip cs' ≠ [] := by
        intro hnil
        unfold standsAlone at halone
        simp [hskip, halone, hnil] at h
      rw [readRange_range hitem hskip halone hne, bind_eq_ok] at hread
      obtain ⟨⟨last, rest'⟩, hlast, hread⟩ := hread
      obtain ⟨cls', hcls, hread⟩ := bind_eq_ok.1 hread
      obtain ⟨rfl, rfl⟩ := Prod.mk.inj (Except.ok.inj hread)
      refine (local_readItem hlast).of ((m.length_skip_le cs').trans hlen.le) fun t r hr => ?_
      have hstand := standsAlone_append (m := m) (c := c) (.inr hne) (')' :: t)
      rw [readRange_range (hfirst t) (hskip' t) (hstand.trans halone)
        (by simp [m.skip_append hne]), m.skip_append hne, hr]
      exact bind_eq_ok.2 ⟨_, rfl, bind_eq_ok.2 ⟨cls', hcls, rfl⟩⟩

/-! ### Brackets -/

/-- A class of its own name, or the complement of it. -/
def signedClass (m : Mode) (negated : Bool) (cls : CharClass) : Except Fault CharClass :=
  if negated then m.negate (m.fold cls) else .ok (m.fold cls)

/-- One step of `readBrackets`: the class of the outermost bracket, or the brackets that are open
then. -/
def bracketStep (m : Mode) (b : Bracket) (outer : List Bracket) (cs : List Char) :
    Except Fault (WithRest (ClassPart ⊕ Bracket × List Bracket)) :=
  match m.skip cs with
  | [] => .error .classOpen
  | '[' :: cs =>
    match readPosixClass cs with
    | some (cls, negated, rest) => do
      return (.inr (b.push (← signedClass m negated cls) 0, outer), rest)
    | none => do
      let (inner, rest) ← openBracket m cs
      return (.inr (inner, b :: outer), rest)
  | ']' :: cs => do
    let part ← b.close m
    match outer with
    | [] => return (.inl part, cs)
    | b :: outer => return (.inr (b.push part.cls part.height, outer), cs)
  | '&' :: '&' :: cs => return (.inr (b.operate m .inter, outer), cs)
  | '-' :: '-' :: cs => return (.inr (b.operate m .diff, outer), cs)
  | '~' :: '~' :: cs => return (.inr (b.operate m .symmDiff, outer), cs)
  | cs => do
    let (cls, rest) ← readRange m cs
    return (.inr (b.push cls 0, outer), rest)

/-- A bracket opens the name of a class or a class inside the class. -/
theorem bracketStep_of_open {b : Bracket} {outer : List Bracket} {cs ds : List Char}
    (h : m.skip cs = '[' :: ds) : bracketStep m b outer cs =
      match readPosixClass ds with
      | some (cls, negated, rest) =>
        signedClass m negated cls >>= fun cls => .ok (.inr (b.push cls 0, outer), rest)
      | none => openBracket m ds >>= fun r => .ok (.inr (r.1, b :: outer), r.2) := by
  rw [bracketStep, h]
  cases hposix : readPosixClass ds <;> simp only [hposix] <;> rfl

/-- What is no sign of its own begins a range. -/
theorem bracketStep_of_range {b : Bracket} {outer : List Bracket} {cs : List Char}
    (h₁ : m.skip cs = [] → False) (h₂ : ∀ ds, m.skip cs = '[' :: ds → False)
    (h₃ : ∀ ds, m.skip cs = ']' :: ds → False) (h₄ : ∀ ds, m.skip cs = '&' :: '&' :: ds → False)
    (h₅ : ∀ ds, m.skip cs = '-' :: '-' :: ds → False)
    (h₆ : ∀ ds, m.skip cs = '~' :: '~' :: ds → False) :
    bracketStep m b outer cs =
      readRange m (m.skip cs) >>= fun r => .ok (.inr (b.push r.1 0, outer), r.2) := by
  rw [bracketStep]
  split
  next h => exact (h₁ h).elim
  next h => exact (h₂ _ h).elim
  next h => exact (h₃ _ h).elim
  next h => exact (h₄ _ h).elim
  next h => exact (h₅ _ h).elim
  next h => exact (h₆ _ h).elim
  next => rfl

theorem readBrackets_succ (fuel : Nat) (b : Bracket) (outer : List Bracket) (cs : List Char) :
    readBrackets m (fuel + 1) b outer cs = bracketStep m b outer cs >>= fun r =>
      match r.1 with
      | .inl part => .ok (part, r.2)
      | .inr (b, outer) => readBrackets m fuel b outer r.2 := by
  rw [readBrackets]
  split
  next h =>
    rw [bracketStep, h]
    rfl
  next ds h =>
    rw [bracketStep_of_open h]
    cases readPosixClass ds with
    | none => cases openBracket m ds <;> rfl
    | some r =>
      obtain ⟨cls, negated, rest⟩ := r
      cases negated with
      | true =>
        dsimp only [signedClass]
        cases m.negate (m.fold cls) <;> rfl
      | false => rfl
  next ds h =>
    rw [bracketStep, h]
    dsimp only
    cases b.close m with
    | error e => rfl
    | ok part => cases outer <;> rfl
  next h =>
    rw [bracketStep, h]
    rfl
  next h =>
    rw [bracketStep, h]
    rfl
  next h =>
    rw [bracketStep, h]
    rfl
  next h₁ h₂ h₃ h₄ h₅ h₆ =>
    rw [bracketStep_of_range h₁ h₂ h₃ h₄ h₅ h₆]
    cases readRange m (m.skip cs) <;> rfl

/-- A doubled sign is not made by a parenthesis that follows. -/
theorem doubled_of_append {c : Char} (hc : c ≠ ')') {cs t ds : List Char} (hcs : cs ≠ [])
    (h : cs ++ ')' :: t = c :: c :: ds) : ∃ es, cs = c :: c :: es := by
  match cs, hcs with
  | [_], _ => exact absurd (List.cons.inj (List.cons.inj h).2).1.symm hc
  | d :: e :: es, _ => simp_all

theorem local_bracketStep_of_open {b : Bracket} {outer : List Bracket} {cs ds rest : List Char} {a}
    (hskip : m.skip cs = '[' :: ds) (h : bracketStep m b outer cs = .ok (a, rest)) :
    Local (bracketStep m b outer) cs a rest := by
  have hlen := m.length_lt_of_skip hskip
  rw [bracketStep_of_open hskip] at h
  cases hposix : readPosixClass ds with
  | some r =>
    obtain ⟨cls, negated, rest'⟩ := r
    rw [hposix] at h
    obtain ⟨cls', hcls, h⟩ := bind_eq_ok.1 h
    obtain ⟨rfl, rfl⟩ := Prod.mk.inj (Except.ok.inj h)
    have hshort := length_readPosixClass hposix
    refine .sure (by omega) fun t => ?_
    rw [bracketStep_of_open (m.skip_cons_append hskip _), readPosixClass_append, hposix]
    exact bind_eq_ok.2 ⟨cls', hcls, rfl⟩
  | none =>
    rw [hposix] at h
    obtain ⟨⟨inner, rest'⟩, hinner, h⟩ := bind_eq_ok.1 h
    obtain ⟨rfl, rfl⟩ := Prod.mk.inj (Except.ok.inj h)
    obtain ⟨hshort, happ⟩ := openBracket_append hinner
    refine .sure (hshort.trans hlen.le) fun t => ?_
    rw [bracketStep_of_open (m.skip_cons_append hskip _), readPosixClass_append, hposix]
    exact bind_eq_ok.2 ⟨_, happ _, rfl⟩

theorem local_bracketStep {b : Bracket} {outer : List Bracket} {cs rest : List Char} {a}
    (h : bracketStep m b outer cs = .ok (a, rest)) : Local (bracketStep m b outer) cs a rest := by
  have hread := h
  rw [bracketStep] at h
  split at h
  · simp at h
  next ds hskip => exact local_bracketStep_of_open hskip hread
  next ds hskip =>
    have hlen := m.length_lt_of_skip hskip
    obtain ⟨part', hpart, h⟩ := bind_eq_ok.1 h
    cases outer with
    | nil | cons =>
      obtain ⟨rfl, rfl⟩ := Prod.mk.inj (Except.ok.inj h)
      refine .sure hlen.le fun t => ?_
      simp only [bracketStep, m.skip_cons_append hskip, hpart]
      rfl
  case h_4 ds hskip | h_5 ds hskip | h_6 ds hskip =>
    have hlen := m.length_lt_of_skip hskip
    obtain ⟨rfl, rfl⟩ := Prod.mk.inj (Except.ok.inj h)
    refine .sure ((Nat.le_succ _).trans hlen.le) fun t => ?_
    simp only [bracketStep, m.skip_cons_append hskip, List.cons_append]
    rfl
  next h₁ h₂ h₃ h₄ h₅ h₆ =>
    obtain ⟨⟨cls, rest'⟩, hrange, h⟩ := bind_eq_ok.1 h
    obtain ⟨rfl, rfl⟩ := Prod.mk.inj (Except.ok.inj h)
    refine (local_readRange hrange).of (m.length_skip_le cs) fun t r hr => ?_
    have hne : m.skip cs ≠ [] := h₁
    have happ := m.skip_append hne (')' :: t)
    -- What follows makes no other sign of the first two characters.
    have hsingle : ∀ c, (∀ ds, m.skip cs = c :: ds → False) →
        ∀ ds, m.skip (cs ++ ')' :: t) = c :: ds → False := by
      intro c hc ds heq
      obtain ⟨d, es, hskip⟩ := List.exists_cons_of_ne_nil hne
      rw [happ, hskip] at heq
      exact hc es (by rw [hskip, (List.cons.inj heq).1])
    have hdouble : ∀ c, c ≠ ')' → (∀ ds, m.skip cs = c :: c :: ds → False) →
        ∀ ds, m.skip (cs ++ ')' :: t) = c :: c :: ds → False := by
      intro c hc hcs ds heq
      obtain ⟨es, hes⟩ := doubled_of_append hc hne (happ ▸ heq)
      exact hcs es hes
    rw [bracketStep_of_range (by rw [happ]; simp) (hsingle _ h₂) (hsingle _ h₃)
      (hdouble _ (by decide) h₄) (hdouble _ (by decide) h₅) (hdouble _ (by decide) h₆), happ, hr]
    rfl

theorem readBrackets_mono : ∀ {fuel fuel' : Nat} {b : Bracket} {outer : List Bracket}
    {cs : List Char} {r}, fuel ≤ fuel' → readBrackets m fuel b outer cs = .ok r →
    readBrackets m fuel' b outer cs = .ok r
  | 0, _, _, _, _, _, _, h => by simp [readBrackets] at h
  | _ + 1, 0, _, _, _, _, hle, _ => absurd hle (Nat.not_succ_le_zero _)
  | fuel + 1, fuel' + 1, b, outer, cs, r, hle, h => by
    rw [readBrackets_succ, bind_eq_ok] at h ⊢
    obtain ⟨⟨a, rest⟩, hstep, h⟩ := h
    refine ⟨_, hstep, ?_⟩
    cases a with
    | inl part => exact h
    | inr bs => exact readBrackets_mono (Nat.le_of_succ_le_succ hle) h

theorem local_readBrackets : ∀ (fuel : Nat) (b : Bracket) (outer : List Bracket) (cs : List Char)
    {part rest}, readBrackets m fuel b outer cs = .ok (part, rest) →
    Local (readBrackets m fuel b outer) cs part rest
  | 0, _, _, _, _, _, h => by simp [readBrackets] at h
  | fuel + 1, b, outer, cs, part, rest, h => by
    rw [readBrackets_succ, bind_eq_ok] at h
    obtain ⟨⟨a, mid⟩, hstep, h⟩ := h
    cases a with
    | inl part =>
      obtain ⟨rfl, rfl⟩ := Prod.mk.inj (Except.ok.inj h)
      refine (local_bracketStep hstep).of le_rfl fun t r hr => ?_
      rw [readBrackets_succ, hr]
      rfl
    | inr bs =>
      refine (local_bracketStep hstep).andThen (local_readBrackets fuel _ _ _ h) h
        fun ds mid hr => ?_
      rw [readBrackets_succ, hr]
      rfl

theorem local_readClass {cs rest : List Char} {part : ClassPart}
    (h : readClass m cs = .ok (part, rest)) : Local (readClass m) cs part rest := by
  rw [readClass, bind_eq_ok] at h
  obtain ⟨⟨b, mid⟩, hopen, h⟩ := h
  obtain ⟨hshort, happ⟩ := openBracket_append hopen
  refine (local_readBrackets _ _ _ _ h).of hshort fun t r hr => ?_
  rw [readClass, happ]
  exact readBrackets_mono (by simp) hr

end

end Routing.Regex
