import Routing.Proofs.Regex.Locality.Step

/-!
Reading an expression without fuel, step by step, and up to any place of its text.

    start ──step──▶ p₁ ──step──▶ … ──step──▶ pₙ      nothing but blanks is left

Reading is deterministic, so whoever has read a part of a text is on the way to its end. What is
read of a text up to its end is also read before a closing bracket, unless a comment ends it.
-/

namespace Routing.Regex

/-- Some steps of reading: from where to where, with the texts that are left. -/
inductive Reads : Progress → List Char → Progress → List Char → Prop
  | refl (p cs) : Reads p cs p cs
  | step {p q r cs cs' mid rest c} : p.mode.skip cs = c :: cs' → p.step c cs' = .ok (q, mid) →
      Reads q mid r rest → Reads p cs r rest

/-- A text is read up to its end. -/
def ReadsAll (p : Progress) (cs : List Char) (r : Progress) : Prop :=
  ∃ rest, Reads p cs r rest ∧ r.mode.skip rest = []

theorem Reads.trans {p q r : Progress} {cs mid rest : List Char} (h : Reads p cs q mid)
    (h' : Reads q mid r rest) : Reads p cs r rest := by
  induction h with
  | refl => exact h'
  | step hskip hstep _ ih => exact .step hskip hstep (ih h')

/-- One step of reading. -/
theorem Reads.one {p q : Progress} {cs cs' rest : List Char} {c : Char}
    (hskip : p.mode.skip cs = c :: cs') (hstep : p.step c cs' = .ok (q, rest)) :
    Reads p cs q rest :=
  .step hskip hstep (.refl _ _)

/-- Before the end of a text a step is taken. -/
theorem ReadsAll.step_of_skip {p r : Progress} {cs cs' : List Char} {c : Char}
    (h : ReadsAll p cs r) (hskip : p.mode.skip cs = c :: cs') :
    ∃ q mid, p.step c cs' = .ok (q, mid) ∧ ReadsAll q mid r := by
  obtain ⟨rest, hreads, hend⟩ := h
  cases hreads with
  | refl => simp [hskip] at hend
  | @step _ q _ _ _ mid _ _ hskip' hstep hrest =>
    obtain ⟨rfl, rfl⟩ := List.cons.inj (hskip'.symm.trans hskip)
    exact ⟨q, mid, hstep, rest, hrest, hend⟩

/-- Whoever has read a part of a text goes on to its end. -/
theorem ReadsAll.after {p q r : Progress} {cs mid : List Char} (h : ReadsAll p cs r)
    (hpart : Reads p cs q mid) : ReadsAll q mid r := by
  induction hpart with
  | refl => exact h
  | step hskip hstep _ ih =>
    obtain ⟨q', mid', hstep', hrest⟩ := h.step_of_skip hskip
    obtain ⟨rfl, rfl⟩ := Prod.mk.inj (Except.ok.inj (hstep'.symm.trans hstep))
    exact ih hrest

theorem ReadsAll.eq_of_end {p r : Progress} {cs : List Char} (h : ReadsAll p cs r)
    (hend : p.mode.skip cs = []) : r = p := by
  obtain ⟨rest, hreads, -⟩ := h
  cases hreads with
  | refl => rfl
  | step hskip => simp [hend] at hskip

/-- With fuel for its characters a text is read up to its end. -/
theorem readsAll_of_run : ∀ (fuel : Nat) {p r : Progress} {cs : List Char}, cs.length < fuel →
    p.run fuel cs = .ok r → ReadsAll p cs r
  | 0, _, _, _, hlen, _ => absurd hlen (Nat.not_lt_zero _)
  | fuel + 1, p, r, cs, hlen, h => by
    rw [Progress.run] at h
    split at h
    next hskip =>
      obtain rfl := Except.ok.inj h
      exact ⟨cs, .refl _ _, hskip⟩
    next c cs' hskip =>
      obtain ⟨⟨q, mid⟩, hstep, h⟩ := bind_eq_ok.1 h
      have hshort := (Progress.local_step hstep).shorter
      have hlt := p.mode.length_lt_of_skip hskip
      obtain ⟨rest, hreads, hend⟩ := readsAll_of_run fuel (by omega) h
      exact ⟨rest, .step hskip hstep hreads, hend⟩

/-- What is read up to the end of a text is read before a closing bracket, too; or the bracket is
part of a comment, and so is an end that is put after it. -/
theorem ReadsAll.before_bracket {p r : Progress} {cs : List Char} (h : ReadsAll p cs r) :
    (∀ t, ∃ rest, Reads p (cs ++ ')' :: t) r rest ∧ r.mode.skip rest = ')' :: t) ∨
      ReadsAll p (cs ++ [')', '$']) r := by
  obtain ⟨rest, hreads, hend⟩ := h
  induction hreads with
  | refl p cs =>
    exact (p.mode.skip_end hend).imp (fun h t => ⟨_, .refl _ _, h t⟩) fun h => ⟨_, .refl _ _, h⟩
  | @step p q r cs cs' mid rest c hskip hstep hreads ih =>
    have hlocal := Progress.local_step hstep
    have hskip' := fun t => p.mode.skip_cons_append hskip (')' :: t)
    by_cases hmid : mid = []
    · subst hmid
      obtain rfl := ReadsAll.eq_of_end ⟨rest, hreads, hend⟩ (by simp)
      exact (hlocal.atEnd rfl).imp
        (fun h t => ⟨_, .one (hskip' t) (h t), r.mode.skip_bracket t⟩)
        fun h => ⟨[], .one (hskip' _) h, by simp⟩
    · have hwithin := hlocal.within hmid
      refine (ih hend).imp (fun h t => ?_) fun ⟨rest', hrest, hend'⟩ => ?_
      · obtain ⟨rest', hrest, hend'⟩ := h t
        exact ⟨rest', .step (hskip' t) (hwithin t) hrest, hend'⟩
      · exact ⟨rest', .step (hskip' _) (hwithin _) hrest, hend'⟩

end Routing.Regex
