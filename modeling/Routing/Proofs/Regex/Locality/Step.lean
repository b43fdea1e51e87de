import Routing.Proofs.Regex.Locality.Bracket

/-!
The step from one item to the next is local. It is the only reader that may come to the end of the
text in a comment, since blanks may stand after its last character.
-/

namespace Routing.Regex

open Text

section
variable {m : Mode}

/-! ### Openings -/

theorem readFlags_append : ∀ {m : Mode} {on last : Bool} {seen cs : List Char} {g : Mode.FlagGroup},
    m.readFlags on last seen cs = .ok g → g.rest.length ≤ cs.length ∧
      ∀ t, m.readFlags on last seen (cs ++ t) = .ok { g with rest := g.rest ++ t }
  | _, _, _, _, [], _, h => by simp [Mode.readFlags] at h
  | m, on, last, seen, c :: cs, g, h => by
    simp only [List.cons_append, Mode.readFlags] at h ⊢
    split_ifs at h with hend hlast hhyphen hon hseen
    · obtain rfl := Except.ok.inj h
      exact ⟨Nat.le_succ _, fun t => by simp [hend, hlast]⟩
    · obtain ⟨hshort, happ⟩ := readFlags_append h
      exact ⟨hshort.trans (Nat.le_succ _), fun t => by simp [hend, hhyphen, hon, happ]⟩
    · split at h
      next m' hset =>
        obtain ⟨hshort, happ⟩ := readFlags_append h
        refine ⟨hshort.trans (Nat.le_succ _), fun t => ?_⟩
        rw [if_neg hend, if_neg hhyphen, if_neg hseen]
        exact happ t
      · simp at h

theorem readGroupName_append {cs rest : List Char} {name : String}
    (h : readGroupName cs = .ok (name, rest)) : rest.length ≤ cs.length ∧
      ∀ t, readGroupName (cs ++ t) = .ok (name, rest ++ t) := by
  unfold readGroupName at h
  split at h
  next c ds d rest' htake hdrop =>
    split at h
    next hname =>
      obtain ⟨rfl, rfl⟩ := Prod.mk.inj (Except.ok.inj h)
      have hlen := (List.dropWhile_suffix (· != '>') (l := cs)).length_le
      rw [hdrop] at hlen
      have hne : cs.dropWhile (· != '>') ≠ [] := by simp [hdrop]
      refine ⟨(Nat.le_succ _).trans hlen, fun t => ?_⟩
      obtain ⟨hdrop', htake'⟩ := dropWhile_append_of_ne_nil hne t
      simp only [readGroupName, hdrop', htake', htake, hdrop, List.cons_append, if_pos hname]
    · simp at h
  · simp at h

theorem openNamed_append {p q : Progress} {cs rest : List Char}
    (h : p.openNamed cs = .ok (q, rest)) : rest.length ≤ cs.length ∧
      ∀ t, p.openNamed (cs ++ t) = .ok (q, rest ++ t) := by
  obtain ⟨⟨name, rest'⟩, hname, h⟩ := bind_eq_ok.1 h
  obtain ⟨hshort, happ⟩ := readGroupName_append hname
  dsimp only at h
  split at h
  · simp at h
  next hnew =>
    obtain ⟨rfl, rfl⟩ := Prod.mk.inj (Except.ok.inj h)
    refine ⟨hshort, fun t => bind_eq_ok.2 ⟨_, happ t, ?_⟩⟩
    dsimp only
    rw [if_neg hnew]
    rfl

/-- What stands after the question mark of a group without a name. -/
def readFlagged (p : Progress) (cs : List Char) : Except Fault (WithRest Progress) := do
  let flags ← p.mode.readFlags true false [] cs
  if flags.opens then return (p.openGroup .plain flags.mode, flags.rest)
  else if flags.any then
    return ({ p.push ⟨.empty, 0, false⟩ with mode := flags.mode }, flags.rest)
  else .error .nothingToRepeat

theorem readFlagged_append {p q : Progress} {cs rest : List Char}
    (h : readFlagged p cs = .ok (q, rest)) : rest.length ≤ cs.length ∧
      ∀ t, readFlagged p (cs ++ t) = .ok (q, rest ++ t) := by
  obtain ⟨flags, hflags, h⟩ := bind_eq_ok.1 h
  obtain ⟨hshort, happ⟩ := readFlags_append hflags
  split_ifs at h with hopens hany
  · obtain ⟨rfl, rfl⟩ := Prod.mk.inj (Except.ok.inj h)
    exact ⟨hshort, fun t => bind_eq_ok.2 ⟨_, happ t, by rw [if_pos hopens]; rfl⟩⟩
  · obtain ⟨rfl, rfl⟩ := Prod.mk.inj (Except.ok.inj h)
    exact ⟨hshort, fun t => bind_eq_ok.2 ⟨_, happ t, by rw [if_neg hopens, if_pos hany]; rfl⟩⟩

theorem readOpening_angle {p : Progress} {cs ds : List Char}
    (hskip : p.mode.skip cs = '?' :: '<' :: ds)
    (h₁ : ds.head? ≠ some '=') (h₂ : ds.head? ≠ some '!') : p.readOpening cs = p.openNamed ds := by
  unfold Progress.readOpening
  rw [hskip]
  split <;> grind

theorem readOpening_flagged {p : Progress} {cs ds : List Char} {c : Char}
    (hskip : p.mode.skip cs = '?' :: c :: ds) (hc : c ∉ ['=', '!', '<', 'P']) :
    p.readOpening cs = readFlagged p (c :: ds) := by
  unfold Progress.readOpening
  rw [hskip]
  split <;> simp_all [readFlagged]

theorem readOpening_plain {p : Progress} {cs : List Char} (h : (p.mode.skip cs).head? ≠ some '?') :
    p.readOpening cs = .ok (p.openCapture none, p.mode.skip cs) := by
  unfold Progress.readOpening
  split <;> simp_all

/-- No flag is called `P`, so what looks like the start of a name is one. -/
theorem head_of_readFlagged {p q : Progress} {cs rest : List Char}
    (h : readFlagged p cs = .ok (q, rest)) : ∃ c ds, cs = c :: ds ∧ c ∉ ['=', '!', '<', 'P'] := by
  obtain ⟨flags, hflags, -⟩ := bind_eq_ok.1 h
  cases cs with
  | nil => simp [Mode.readFlags] at hflags
  | cons c ds =>
    refine ⟨c, ds, rfl, fun hc => ?_⟩
    simp only [List.mem_cons, List.not_mem_nil, or_false] at hc
    rcases hc with rfl | rfl | rfl | rfl <;> simp [Mode.readFlags, Mode.set?] at hflags

theorem head?_of_openNamed {p q : Progress} {cs rest : List Char}
    (h : p.openNamed cs = .ok (q, rest)) : cs ≠ [] := by
  rintro rfl
  simp [Progress.openNamed, readGroupName, bind, Except.bind] at h

theorem local_openNamed {p q : Progress} {cs ds rest : List Char}
    (hskip : p.mode.skip cs = '?' :: '<' :: ds) (h₁ : ∀ es, ds = '=' :: es → False)
    (h₂ : ∀ es, ds = '!' :: es → False) (h : p.openNamed ds = .ok (q, rest)) :
    Local p.readOpening cs q rest := by
  obtain ⟨hshort, happ⟩ := openNamed_append h
  obtain ⟨d, ds, rfl⟩ := List.exists_cons_of_ne_nil (head?_of_openNamed h)
  have hlen := p.mode.length_skip_le cs
  rw [hskip] at hlen
  simp only [List.length_cons] at hlen hshort
  refine .sure (by omega) fun t => ?_
  have hs := p.mode.skip_cons_append hskip (')' :: t)
  simp only [List.cons_append] at hs
  rw [readOpening_angle hs]
  · exact happ _
  · rintro heq
    exact h₁ ds (by rw [Option.some.inj heq])
  · rintro heq
    exact h₂ ds (by rw [Option.some.inj heq])

theorem local_openCapture {p : Progress} {cs : List Char}
    (h : (p.mode.skip cs).head? ≠ some '?') :
    Local p.readOpening cs (p.openCapture none) (p.mode.skip cs) := by
  refine ⟨p.mode.length_skip_le cs, fun hne t => ?_, fun hnil => ?_⟩
  · have hskip := p.mode.skip_append hne (')' :: t)
    obtain ⟨c, ds, heq⟩ := List.exists_cons_of_ne_nil hne
    rw [readOpening_plain, hskip]
    rw [hskip, heq]
    simpa [heq] using h
  · refine (p.mode.skip_end hnil).imp (fun hend t => ?_) fun hend => ?_
    · rw [readOpening_plain, hend]
      simp [hend]
    · rw [readOpening_plain, hend]
      simp [hend]

theorem local_readOpening {p q : Progress} {cs rest : List Char}
    (h : p.readOpening cs = .ok (q, rest)) : Local p.readOpening cs q rest := by
  unfold Progress.readOpening at h
  split at h
  · simp at h
  · simp at h
  · simp at h
  · simp at h
  next ds hskip =>
    obtain ⟨hshort, happ⟩ := openNamed_append h
    have hlen := p.mode.length_skip_le cs
    rw [hskip] at hlen
    simp only [List.length_cons] at hlen
    refine .sure (by omega) fun t => ?_
    simp only [Progress.readOpening, p.mode.skip_cons_append hskip, List.cons_append, happ]
  next ds h₁ h₂ hskip => exact local_openNamed hskip h₁ h₂ h
  next ds h₁ h₂ h₃ h₄ h₅ h₆ hskip =>
    have hflagged : readFlagged p ds = .ok (q, rest) := h
    obtain ⟨c, ds, rfl, hc⟩ := head_of_readFlagged hflagged
    obtain ⟨hshort, happ⟩ := readFlagged_append hflagged
    refine .sure (hshort.trans (p.mode.length_lt_of_skip hskip).le) fun t => ?_
    rw [readOpening_flagged (p.mode.skip_cons_append hskip _) hc]
    exact happ _
  next hplain =>
    obtain ⟨rfl, rfl⟩ := Prod.mk.inj (Except.ok.inj h)
    refine local_openCapture fun hhead => ?_
    obtain ⟨ds, hskip⟩ := List.head?_eq_some_iff.1 hhead
    exact hplain ds hskip

/-! ### Counts -/

/-- The digits of a count end before the text does. -/
theorem readDigits_append : ∀ (fuel fuel' : Nat) (digits cs : List Char) {ds rest},
    readDigits m fuel digits cs = (ds, rest) → rest ≠ [] → cs.length ≤ fuel → fuel ≤ fuel' →
    rest.length ≤ cs.length ∧ ∀ t, readDigits m fuel' digits (cs ++ t) = (ds, rest ++ t)
  | 0, _, _, cs, _, _, h, hrest, hlen, _ => by
    obtain rfl := List.eq_nil_of_length_eq_zero (Nat.le_zero.1 hlen)
    exact absurd (Prod.mk.inj h).2.symm hrest
  | _ + 1, 0, _, _, _, _, _, _, _, hle => absurd hle (Nat.not_succ_le_zero _)
  | _ + 1, _ + 1, _, [], _, _, h, hrest, _, _ => absurd (Prod.mk.inj h).2.symm hrest
  | fuel + 1, fuel' + 1, digits, c :: cs, ds, rest, h, hrest, hlen, hle => by
    rw [readDigits] at h
    split at h
    next hc =>
      have hskip := m.length_skip_le cs
      obtain ⟨hshort, happ⟩ := readDigits_append fuel fuel' _ _ h hrest
        (hskip.trans (Nat.le_of_succ_le_succ hlen)) (Nat.le_of_succ_le_succ hle)
      refine ⟨hshort.trans (hskip.trans (Nat.le_succ _)), fun t => ?_⟩
      have hne : m.skip cs ≠ [] := ne_nil_of_length_le hshort hrest
      rw [List.cons_append, readDigits, if_pos hc, m.skip_append hne, happ]
    next hc =>
      obtain ⟨rfl, rfl⟩ := Prod.mk.inj h
      refine ⟨le_rfl, fun t => ?_⟩
      rw [List.cons_append, readDigits, if_neg hc]

theorem skipAround_append : ∀ (fuel fuel' : Nat) (cs : List Char), skipAround m fuel cs ≠ [] →
    cs.length ≤ fuel → fuel ≤ fuel' → (skipAround m fuel cs).length ≤ cs.length ∧
      ∀ t, skipAround m fuel' (cs ++ t) = skipAround m fuel cs ++ t
  | 0, _, cs, hrest, hlen, _ => by
    obtain rfl := List.eq_nil_of_length_eq_zero (Nat.le_zero.1 hlen)
    exact absurd rfl hrest
  | _ + 1, 0, _, _, _, hle => absurd hle (Nat.not_succ_le_zero _)
  | _ + 1, _ + 1, [], hrest, _, _ => absurd rfl hrest
  | fuel + 1, fuel' + 1, c :: cs, hrest, hlen, hle => by
    rw [skipAround] at hrest ⊢
    split
    next hc =>
      have hskip := m.length_skip_le cs
      rw [if_pos hc] at hrest
      obtain ⟨hshort, happ⟩ := skipAround_append fuel fuel' _ hrest
        (hskip.trans (Nat.le_of_succ_le_succ hlen)) (Nat.le_of_succ_le_succ hle)
      refine ⟨hshort.trans (hskip.trans (Nat.le_succ _)), fun t => ?_⟩
      have hne : m.skip cs ≠ [] := ne_nil_of_length_le hshort hrest
      rw [List.cons_append, skipAround, if_pos hc, m.skip_append hne, happ]
    next hc =>
      refine ⟨le_rfl, fun t => ?_⟩
      rw [List.cons_append, skipAround, if_neg hc]

/-- A count, when its digits have been read. -/
def countOf (digits : List Char) : Except Fault (Option Nat) :=
  if digits.isEmpty then .ok none
  else
    let n := digits.foldl (fun n c => n * 10 + hexValue c) 0
    if n < 0x100000000 then .ok (some n) else .error .badCount

/-- The digits after the blanks of a count. -/
def digitsOf (m : Mode) (cs : List Char) : List Char × List Char :=
  readDigits m ((cs.dropWhile isWhiteSpace).length + 1) [] (cs.dropWhile isWhiteSpace)

theorem readCount_eq (cs : List Char) : readCount m cs =
    (countOf (digitsOf m cs).1).map
      (·, skipAround m ((digitsOf m cs).2.length + 1) (digitsOf m cs).2) := by
  simp only [readCount, digitsOf]
  generalize readDigits m ((cs.dropWhile isWhiteSpace).length + 1) []
    (cs.dropWhile isWhiteSpace) = r
  by_cases hnone : r.1.isEmpty
  · rw [if_pos hnone, countOf, if_pos hnone]
    rfl
  · by_cases hlt : r.1.foldl (fun n c => n * 10 + hexValue c) 0 < 0x100000000
    · rw [if_neg hnone, if_pos hlt, countOf, if_neg hnone, if_pos hlt]
      rfl
    · rw [if_neg hnone, if_neg hlt, countOf, if_neg hnone, if_neg hlt]
      rfl

theorem digitsOf_append {cs : List Char} (h : (digitsOf m cs).2 ≠ []) :
    (digitsOf m cs).2.length ≤ cs.length ∧
      ∀ t, digitsOf m (cs ++ t) = ((digitsOf m cs).1, (digitsOf m cs).2 ++ t) := by
  have hlen := (List.dropWhile_suffix isWhiteSpace (l := cs)).length_le
  have hshort := (readDigits_append _ _ _ _ (Prod.eta (digitsOf m cs)).symm h (by simp) le_rfl).1
  refine ⟨hshort.trans hlen, fun t => ?_⟩
  obtain ⟨hdrop, -⟩ := dropWhile_append_of_ne_nil (ne_nil_of_length_le hshort h) t
  unfold digitsOf at h ⊢
  rw [hdrop]
  exact (readDigits_append _ _ _ _ rfl h (by simp) (by simp)).2 t

theorem readCount_append {cs rest : List Char} {n : Option Nat}
    (h : readCount m cs = .ok (n, rest)) (hrest : rest ≠ []) : rest.length ≤ cs.length ∧
      ∀ t, readCount m (cs ++ t) = .ok (n, rest ++ t) := by
  rw [readCount_eq] at h
  cases hcount : countOf (digitsOf m cs).1 with
  | error e => simp [hcount, Except.map] at h
  | ok n' =>
    rw [hcount] at h
    obtain ⟨rfl, rfl⟩ := Prod.mk.inj (Except.ok.inj h)
    obtain ⟨hshort, -⟩ := skipAround_append _ _ _ hrest (Nat.le_succ _) le_rfl
    obtain ⟨hlen, happ⟩ := digitsOf_append (ne_nil_of_length_le hshort hrest)
    refine ⟨hshort.trans hlen, fun t => ?_⟩
    rw [readCount_eq, happ, hcount, (skipAround_append _ _ _ hrest (Nat.le_succ _) (by simp)).2 t]
    rfl

/-- What stands after the comma of two counts. -/
def readUpper (m : Mode) (lo : Nat) (cs : List Char) :
    Except Fault (WithRest (Nat × Option Nat)) := do
  match m.skip cs with
  | '\x7D' :: rest => return ((lo, none), rest)
  | cs =>
    match ← readCount m cs with
    | (some hi, '\x7D' :: rest) =>
      if lo ≤ hi then return ((lo, some hi), rest) else .error .badCount
    | _ => .error .badCount

theorem readUpper_of_count {lo : Nat} {cs : List Char}
    (h : ∀ ds, m.skip cs = '\x7D' :: ds → False) {hi : Nat} {rest : List Char}
    (hcount : readCount m (m.skip cs) = .ok (some hi, '\x7D' :: rest)) (hle : lo ≤ hi) :
    readUpper m lo cs = .ok ((lo, some hi), rest) := by
  rw [readUpper]
  split
  next ds heq => exact (h ds heq).elim
  next =>
    rw [hcount]
    exact if_pos hle

theorem readUpper_append {lo : Nat} {cs rest : List Char} {counts : Nat × Option Nat}
    (h : readUpper m lo cs = .ok (counts, rest)) : rest.length ≤ cs.length ∧
      ∀ t, readUpper m lo (cs ++ t) = .ok (counts, rest ++ t) := by
  rw [readUpper] at h
  split at h
  next rest' hbrace =>
    obtain ⟨rfl, rfl⟩ := Prod.mk.inj (Except.ok.inj h)
    refine ⟨(m.length_lt_of_skip hbrace).le, fun t => ?_⟩
    rw [readUpper, m.skip_cons_append hbrace]
    rfl
  next hbrace =>
    obtain ⟨⟨hi, mid⟩, hcount, h⟩ := bind_eq_ok.1 h
    split at h
    next hi rest' heq =>
      obtain ⟨rfl, rfl⟩ := Prod.mk.inj heq
      split_ifs at h with hle
      obtain ⟨rfl, rfl⟩ := Prod.mk.inj (Except.ok.inj h)
      obtain ⟨hshort, happ⟩ := readCount_append hcount (by simp)
      have hne : m.skip cs ≠ [] := ne_nil_of_length_le hshort (by simp)
      refine ⟨(Nat.le_succ _).trans (hshort.trans (m.length_skip_le cs)), fun t => ?_⟩
      have hskip := m.skip_append hne t
      refine readUpper_of_count (fun ds heq => ?_) (by rw [hskip, happ]; rfl) hle
      obtain ⟨d, es, hes⟩ := List.exists_cons_of_ne_nil hne
      rw [hskip, hes] at heq
      exact hbrace es (by rw [hes, (List.cons.inj heq).1])
    · simp at h

theorem readCounts_append {cs rest : List Char} {counts : Nat × Option Nat}
    (h : readCounts m cs = .ok (counts, rest)) : rest.length ≤ cs.length ∧
      ∀ t, readCounts m (cs ++ t) = .ok (counts, rest ++ t) := by
  obtain ⟨⟨first, mid⟩, hfirst, h⟩ := bind_eq_ok.1 h
  have hskip := m.length_skip_le cs
  split at h
  · simp at h
  next lo rest' heq =>
    obtain ⟨rfl, rfl⟩ := Prod.mk.inj heq
    obtain ⟨rfl, rfl⟩ := Prod.mk.inj (Except.ok.inj h)
    obtain ⟨hshort, happ⟩ := readCount_append hfirst (by simp)
    have hne := ne_nil_of_length_le hshort (by simp)
    refine ⟨(Nat.le_succ _).trans (hshort.trans hskip), fun t => ?_⟩
    rw [readCounts, m.skip_append hne, happ]
    rfl
  next lo ds heq =>
    obtain ⟨rfl, rfl⟩ := Prod.mk.inj heq
    obtain ⟨hshort, happ⟩ := readCount_append hfirst (by simp)
    have hne := ne_nil_of_length_le hshort (by simp)
    have hupper : readUpper m lo ds = .ok (counts, rest) := h
    obtain ⟨hshort', happ'⟩ := readUpper_append hupper
    refine ⟨hshort'.trans ((Nat.le_succ _).trans (hshort.trans hskip)), fun t => ?_⟩
    rw [readCounts, m.skip_append hne, happ]
    exact happ' t
  · simp at h

/-- Whether a question mark follows. -/
theorem local_readLazy (cs : List Char) :
    Local (fun cs => .ok (readLazy cs)) cs (readLazy cs).1 (readLazy cs).2 := by
  cases cs with
  | nil => exact ⟨le_rfl, fun h => absurd rfl h, fun _ => .inl fun _ => rfl⟩
  | cons c cs =>
    by_cases hc : c = '?'
    · subst hc
      exact .sure (Nat.le_succ _) fun t => rfl
    · have hplain : ∀ ds, readLazy (c :: ds) = (false, c :: ds) := by
        intro ds
        rw [readLazy]
        exact fun es heq => hc (List.cons.inj heq).1
      rw [hplain]
      refine .sure le_rfl fun t => ?_
      rw [List.cons_append, hplain]

end

/-! ### The step -/

namespace Progress

/-- The characters that mean something outside of classes. -/
def isSign (c : Char) : Bool :=
  ['(', ')', '|', '[', '?', '*', '+', '\x7B', '\\', '.', '^', '$'].contains c

theorem step_plain {c : Char} (hc : isSign c = false) (p : Progress) (cs : List Char) :
    p.step c cs = .ok (p.pushNode (literal p.mode c), cs) := by
  unfold step
  split <;> first
    | rfl
    | exact absurd hc (by decide)

theorem step_close (p : Progress) (cs : List Char) :
    p.step ')' cs = p.closeGroup.map (·, cs) := by
  change (p.closeGroup >>= fun q => pure (q, cs)) = _
  cases p.closeGroup <;> rfl

theorem step_point (p : Progress) (cs : List Char) :
    p.step '.' cs = (point p.mode).map fun node => (p.pushNode node, cs) := by
  change (point p.mode >>= fun node => pure (p.pushNode node, cs)) = _
  cases point p.mode <;> rfl

/-- The sign of a repetition, and what it stands for. -/
theorem step_repeat {c : Char} {lo : Nat} {hi : Option Nat}
    (hc : (c, lo, hi) ∈ [('?', 0, some 1), ('*', 0, none), ('+', 1, none)]) (p : Progress)
    (cs : List Char) : p.step c cs =
      (p.repeatLast lo hi (readLazy cs).1).map (·, (readLazy cs).2) := by
  simp only [List.mem_cons, Prod.mk.injEq, List.not_mem_nil, or_false] at hc
  rcases hc with ⟨rfl, rfl, rfl⟩ | ⟨rfl, rfl, rfl⟩ | ⟨rfl, rfl, rfl⟩
  · change (p.repeatLast 0 (some 1) (readLazy cs).1 >>= fun q => pure (q, (readLazy cs).2)) = _
    cases p.repeatLast 0 (some 1) (readLazy cs).1 <;> rfl
  · change (p.repeatLast 0 none (readLazy cs).1 >>= fun q => pure (q, (readLazy cs).2)) = _
    cases p.repeatLast 0 none (readLazy cs).1 <;> rfl
  · change (p.repeatLast 1 none (readLazy cs).1 >>= fun q => pure (q, (readLazy cs).2)) = _
    cases p.repeatLast 1 none (readLazy cs).1 <;> rfl

/-- A repetition with counts. -/
theorem step_counts {cs rest : List Char} {lo : Nat} {hi : Option Nat} (p : Progress)
    (h : readCounts p.mode cs = .ok ((lo, hi), rest)) : p.step '\x7B' cs =
      (p.repeatLast lo hi (readLazy (p.mode.skip rest)).1).map
        (·, (readLazy (p.mode.skip rest)).2) := by
  change (readCounts p.mode cs >>= fun r => p.repeatLast r.1.1 r.1.2 (readLazy (p.mode.skip r.2)).1
    >>= fun q => pure (q, (readLazy (p.mode.skip r.2)).2)) = _
  rw [h]
  change (p.repeatLast lo hi _ >>= fun q => pure (q, _)) = _
  cases p.repeatLast lo hi (readLazy (p.mode.skip rest)).1 <;> rfl

/-- What an escape adds. -/
def atomNode (m : Mode) : Atom → Node
  | .literal c => literal m c
  | .set cls => .char cls
  | .look test => .look test

theorem step_escape (p : Progress) (cs : List Char) : p.step '\\' cs =
    (readEscape p.mode cs).map fun r => (p.pushNode (atomNode p.mode r.1), r.2) := by
  change (readEscape p.mode cs >>= fun r => _) = _
  cases readEscape p.mode cs with
  | error e => rfl
  | ok r => obtain ⟨a, rest⟩ := r; cases a <;> rfl

theorem step_class (p : Progress) (cs : List Char) : p.step '[' cs =
    (readClass p.mode cs).map fun r => (p.push ⟨.char r.1.cls, r.1.height, true⟩, r.2) := by
  change (readClass p.mode cs >>= fun r => _) = _
  cases readClass p.mode cs <;> rfl

/-- A step that takes no more than its character. -/
theorem local_of_const {p q : Progress} {c : Char} {cs rest : List Char} (x : Except Fault Progress)
    (hstep : ∀ ds, p.step c ds = x.map (·, ds)) (h : p.step c cs = .ok (q, rest)) :
    Local (p.step c) cs q rest := by
  cases x with
  | error e => simp [hstep, Except.map] at h
  | ok r =>
    rw [hstep] at h
    obtain ⟨rfl, rfl⟩ := Prod.mk.inj (Except.ok.inj h)
    exact .sure le_rfl fun t => hstep _

/-- A step that takes what another reader takes. -/
theorem local_of_map {α : Type} {p q : Progress} {c : Char} {cs rest : List Char}
    {read : List Char → Except Fault (WithRest α)} (f : α → Progress)
    (hstep : ∀ ds, p.step c ds = (read ds).map fun r => (f r.1, r.2))
    (hlocal : ∀ {a rest}, read cs = .ok (a, rest) → Local read cs a rest)
    (h : p.step c cs = .ok (q, rest)) : Local (p.step c) cs q rest := by
  rw [hstep] at h
  cases hread : read cs with
  | error e => simp [hread, Except.map] at h
  | ok r =>
    rw [hread] at h
    obtain ⟨rfl, rfl⟩ := Prod.mk.inj (Except.ok.inj h)
    refine (hlocal hread).of le_rfl fun t r hr => ?_
    rw [hstep, hr]
    rfl

/-- The end of a repetition, which may be lazy. -/
theorem local_repeat {p q : Progress} {lo : Nat} {hi : Option Nat} {cs rest : List Char}
    (h : (p.repeatLast lo hi (readLazy cs).1).map (·, (readLazy cs).2) = .ok (q, rest)) :
    Local (fun ds => (p.repeatLast lo hi (readLazy ds).1).map (·, (readLazy ds).2)) cs q rest := by
  cases hq : p.repeatLast lo hi (readLazy cs).1 with
  | error e => simp [hq, Except.map] at h
  | ok r =>
    rw [hq] at h
    obtain ⟨rfl, rfl⟩ := Prod.mk.inj (Except.ok.inj h)
    refine (local_readLazy cs).of le_rfl fun t r hr => ?_
    have hread : readLazy (cs ++ ')' :: t) = ((readLazy cs).1, r) := Except.ok.inj hr
    rw [hread, hq]
    rfl

theorem local_step {p q : Progress} {c : Char} {cs rest : List Char}
    (h : p.step c cs = .ok (q, rest)) : Local (p.step c) cs q rest := by
  by_cases hc : isSign c = false
  · exact local_of_const (.ok _) (step_plain hc p) h
  · simp only [isSign, List.contains_eq_mem, List.mem_cons, List.not_mem_nil, or_false,
      decide_eq_false_iff_not, not_not] at hc
    have hrepeat : ∀ {lo hi}, (c, lo, hi) ∈ [('?', 0, some 1), ('*', 0, none), ('+', 1, none)] →
        Local (p.step c) cs q rest := by
      intro lo hi hmem
      rw [step_repeat hmem] at h
      refine (local_repeat h).of le_rfl fun t r hr => ?_
      rw [step_repeat hmem, hr]
    rcases hc with rfl | rfl | rfl | rfl | rfl | rfl | rfl | rfl | rfl | rfl | rfl | rfl
    · exact local_readOpening h
    · exact local_of_const _ p.step_close h
    · exact local_of_const (.ok _) (fun _ => rfl) h
    · exact local_of_map (fun a => p.push ⟨.char a.cls, a.height, true⟩) p.step_class
        local_readClass h
    · exact hrepeat (.head _)
    · exact hrepeat (.tail _ (.head _))
    · exact hrepeat (.tail _ (.tail _ (.head _)))
    · obtain ⟨⟨⟨lo, hi⟩, mid⟩, hcounts, -⟩ := bind_eq_ok.1 h
      obtain ⟨hshort, happ⟩ := readCounts_append hcounts
      rw [step_counts p hcounts] at h
      refine ((local_repeat h).afterSkip p.mode h).of hshort fun t r hr => ?_
      rw [step_counts p (happ _), hr]
    · exact local_of_map (fun a => p.pushNode (atomNode p.mode a)) p.step_escape local_readEscape h
    · refine local_of_const ((point p.mode).map p.pushNode) (fun ds => ?_) h
      rw [step_point]
      cases point p.mode <;> rfl
    · exact local_of_const (.ok _) (fun _ => rfl) h
    · exact local_of_const (.ok _) (fun _ => rfl) h

end Progress

end Routing.Regex
