import Routing.Proofs.Regex.Locality

/-!
The readers of what stands after a backslash are local. Those with fuel read the same with more of
it, since a text that is longer gives them more.
-/

namespace Routing.Regex

open Text

section
variable {m : Mode}

theorem local_readFixedCode : ∀ (n code : Nat) (cs : List Char) {a rest},
    readFixedCode m n code cs = .ok (a, rest) → Local (readFixedCode m n code) cs a rest
  | 0, code, cs, a, rest, h => by
    simp only [readFixedCode, Except.ok.injEq, Prod.mk.injEq] at h
    obtain ⟨rfl, rfl⟩ := h
    exact .sure le_rfl fun t => rfl
  | n + 1, code, [], a, rest, h => by simp [readFixedCode] at h
  | n + 1, code, c :: cs, a, rest, h => by
    rw [readFixedCode] at h
    split at h
    next hc =>
      refine ((local_readFixedCode n _ _ h).afterSkip m h).cons fun cs r hr => ?_
      rw [readFixedCode, if_pos hc, hr]
    · simp at h

theorem readBracedCode_mono : ∀ {fuel fuel' code : Nat} {any : Bool} {cs : List Char} {r},
    fuel ≤ fuel' → readBracedCode m fuel code any cs = .ok r →
    readBracedCode m fuel' code any cs = .ok r
  | 0, _, _, _, _, _, _, h => by simp [readBracedCode] at h
  | _ + 1, 0, _, _, _, _, hle, _ => absurd hle (Nat.not_succ_le_zero _)
  | fuel + 1, fuel' + 1, _, _, [], _, _, h => by simp [readBracedCode] at h
  | fuel + 1, fuel' + 1, code, any, c :: cs, r, hle, h => by
    have ih := @readBracedCode_mono fuel fuel' (code * 16 + hexValue c) true (m.skip cs) r
      (Nat.le_of_succ_le_succ hle)
    simp only [readBracedCode] at h ⊢
    split_ifs at h ⊢ <;> simp_all

theorem local_readBracedCode : ∀ (fuel code : Nat) (any : Bool) (cs : List Char) {a rest},
    readBracedCode m fuel code any cs = .ok (a, rest) →
    Local (readBracedCode m fuel code any) cs a rest
  | 0, _, _, _, _, _, h => by simp [readBracedCode] at h
  | _ + 1, _, _, [], _, _, h => by simp [readBracedCode] at h
  | fuel + 1, code, any, c :: cs, a, rest, h => by
    rw [readBracedCode] at h
    split at h
    next hc =>
      split at h
      next hany =>
        obtain ⟨rfl, rfl⟩ := Prod.mk.inj (Except.ok.inj h)
        refine (m.local_skip code cs).cons fun cs r hr => ?_
        rw [readBracedCode, if_pos hc, if_pos hany, hr]
      · simp at h
    next hc =>
      split at h
      next hx =>
        refine ((local_readBracedCode fuel _ _ _ h).afterSkip m h).cons fun cs r hr => ?_
        rw [readBracedCode, if_neg hc, if_pos hx, hr]
      · simp at h

theorem local_readCode {letter : Char} {cs rest : List Char} {a : Atom}
    (h : readCode m letter cs = .ok (a, rest)) : Local (readCode m letter) cs a rest := by
  rw [readCode] at h
  split at h
  · simp at h
  next cs' hskip =>
    simp only [bind_eq_ok, pure_eq_ok, Prod.mk.injEq] at h
    obtain ⟨⟨code, rest⟩, hread, c, hc, rfl, rfl⟩ := h
    refine ((local_readBracedCode _ _ _ _ hread).afterSkip m hread).skipTo hskip
      fun t r hs hr => ?_
    simp only [readCode, hs, bind_eq_ok, pure_eq_ok]
    exact ⟨_, readBracedCode_mono (by simp) hr, c, hc, rfl⟩
  next hne hbrace =>
    simp only [bind_eq_ok, pure_eq_ok, Prod.mk.injEq] at h
    obtain ⟨⟨code, rest⟩, hread, c, hc, rfl, rfl⟩ := h
    obtain ⟨d, ds, hskip⟩ := List.exists_cons_of_ne_nil hne
    refine (local_readFixedCode _ _ _ hread).of (m.length_skip_le cs) fun t r hr => ?_
    have hd : d ≠ '\x7B' := fun hd => hbrace ds (hd ▸ hskip)
    rw [hskip] at hr
    simp only [readCode, m.skip_cons_append hskip]
    split
    next heq => simp at heq
    next heq => exact absurd (List.cons.inj heq).1 hd
    next =>
      simp only [bind_eq_ok, pure_eq_ok]
      exact ⟨_, hr, c, hc, rfl⟩

theorem readPropertyName_mono : ∀ {fuel fuel' : Nat} {name cs : List Char} {r},
    fuel ≤ fuel' → readPropertyName m fuel name cs = .ok r →
    readPropertyName m fuel' name cs = .ok r
  | 0, _, _, _, _, _, h => by simp [readPropertyName] at h
  | _ + 1, 0, _, _, _, hle, _ => absurd hle (Nat.not_succ_le_zero _)
  | fuel + 1, fuel' + 1, _, [], _, _, h => by simp [readPropertyName] at h
  | fuel + 1, fuel' + 1, name, c :: cs, r, hle, h => by
    have ih := @readPropertyName_mono fuel fuel' (c :: name) (m.skip cs) r
      (Nat.le_of_succ_le_succ hle)
    simp only [readPropertyName] at h ⊢
    split_ifs at h ⊢ <;> simp_all

theorem local_readPropertyName : ∀ (fuel : Nat) (name cs : List Char) {a rest},
    readPropertyName m fuel name cs = .ok (a, rest) →
    Local (readPropertyName m fuel name) cs a rest
  | 0, _, _, _, _, h => by simp [readPropertyName] at h
  | _ + 1, _, [], _, _, h => by simp [readPropertyName] at h
  | fuel + 1, name, c :: cs, a, rest, h => by
    rw [readPropertyName] at h
    split at h
    next hc =>
      obtain ⟨rfl, rfl⟩ := Prod.mk.inj (Except.ok.inj h)
      exact .sure (Nat.le_succ _) fun t => by rw [List.cons_append, readPropertyName, if_pos hc]
    next hc =>
      refine ((local_readPropertyName fuel _ _ h).afterSkip m h).cons fun cs r hr => ?_
      rw [readPropertyName, if_neg hc, hr]

theorem local_readProperty {negated : Bool} {cs rest : List Char} {a : Atom}
    (h : readProperty m negated cs = .ok (a, rest)) : Local (readProperty m negated) cs a rest := by
  rw [readProperty] at h
  split at h
  · simp [bind, Except.bind] at h
  next cs' hskip =>
    simp only [bind_eq_ok, pure_eq_ok, exists_eq_left'] at h
    obtain ⟨⟨name, rest'⟩, hread, named, hname, h⟩ := h
    split at h
    · simp at h
    next hu =>
      obtain ⟨rfl, rfl⟩ := Prod.mk.inj (Except.ok.inj h)
      refine ((local_readPropertyName _ _ _ hread).afterSkip m hread).skipTo hskip
        fun t r hs hr => ?_
      simp only [readProperty, hs, bind_eq_ok, pure_eq_ok, exists_eq_left', if_neg hu]
      exact ⟨_, readPropertyName_mono (by simp) hr, named, hname, rfl⟩
  next c cs' hbrace hskip =>
    split at h
    · simp [bind, Except.bind] at h
    next hc =>
      simp only [bind_eq_ok, pure_eq_ok, exists_eq_left'] at h
      obtain ⟨cls, hcls, h⟩ := h
      split at h
      · simp at h
      next hu =>
        obtain ⟨rfl, rfl⟩ := Prod.mk.inj (Except.ok.inj h)
        refine (m.local_skip () cs').skipTo hskip fun t r hs hr => ?_
        obtain ⟨-, rfl⟩ := Prod.mk.inj (Except.ok.inj hr)
        simp only [readProperty, hs, if_neg hc, bind_eq_ok, pure_eq_ok, exists_eq_left', if_neg hu]
        exact ⟨cls, hcls, rfl⟩

/-- The letters of a boundary end before the text does, so what follows them is not looked at. -/
theorem readBoundaryName_append : ∀ (fuel fuel' : Nat) (name cs : List Char) {a rest},
    readBoundaryName m fuel name cs = (a, rest) → rest ≠ [] → cs.length ≤ fuel → fuel ≤ fuel' →
    rest.length ≤ cs.length ∧ ∀ t, readBoundaryName m fuel' name (cs ++ t) = (a, rest ++ t)
  | 0, _, _, cs, _, _, h, hrest, hlen, _ => by
    obtain rfl := List.eq_nil_of_length_eq_zero (Nat.le_zero.1 hlen)
    exact absurd (Prod.mk.inj h).2.symm hrest
  | _ + 1, 0, _, _, _, _, _, _, _, hle => absurd hle (Nat.not_succ_le_zero _)
  | _ + 1, _ + 1, _, [], _, _, h, hrest, _, _ => absurd (Prod.mk.inj h).2.symm hrest
  | fuel + 1, fuel' + 1, name, c :: cs, a, rest, h, hrest, hlen, hle => by
    rw [readBoundaryName] at h
    split at h
    next hc =>
      have hskip := m.length_skip_le cs
      obtain ⟨hshort, happ⟩ := readBoundaryName_append fuel fuel' _ _ h hrest
        (hskip.trans (Nat.le_of_succ_le_succ hlen)) (Nat.le_of_succ_le_succ hle)
      refine ⟨hshort.trans (hskip.trans (Nat.le_succ _)), fun t => ?_⟩
      have hne : m.skip cs ≠ [] := ne_nil_of_length_le hshort hrest
      rw [List.cons_append, readBoundaryName, if_pos hc, m.skip_append hne, happ]
    next hc =>
      obtain ⟨rfl, rfl⟩ := Prod.mk.inj h
      refine ⟨le_rfl, fun t => ?_⟩
      rw [List.cons_append, readBoundaryName, if_neg hc]

theorem local_readBoundary {cs rest : List Char} {a : Look}
    (h : readBoundary m cs = .ok (a, rest)) : Local (readBoundary m) cs a rest := by
  unfold readBoundary at h
  split at h
  next inner =>
    split at h
    · simp at h
    next c after hskip =>
      split at h
      next hc =>
        split at h
        next name rest' hname =>
          have happ := fun t => (readBoundaryName_append _ ((after ++ t).length + 1) _ _ hname
            (by simp) (by simp) (by simp)).2 t
          have hshort := (readBoundaryName_append _ _ _ _ hname (by simp) (by simp) le_rfl).1
          have hlen := m.length_lt_of_skip hskip
          simp only [List.length_cons] at hshort
          split at h
          all_goals first
            | rename_i heq
              obtain ⟨rfl, rfl⟩ := Prod.mk.inj (Except.ok.inj h)
              refine .sure (by simp only [List.length_cons]; omega) fun t => ?_
              have happ := happ (')' :: t)
              simp only [List.cons_append] at happ
              simp only [readBoundary, List.cons_append, m.skip_cons_append hskip, if_pos hc, happ,
                heq]
            | cases h
        · simp at h
      next hc =>
        obtain ⟨rfl, rfl⟩ := Prod.mk.inj (Except.ok.inj h)
        refine .sure le_rfl fun t => ?_
        simp only [readBoundary, List.cons_append, m.skip_cons_append hskip, if_neg hc]
  next hbrace =>
    obtain ⟨rfl, rfl⟩ := Prod.mk.inj (Except.ok.inj h)
    cases cs with
    | nil => exact ⟨le_rfl, fun h => absurd rfl h, fun _ => .inl fun t => rfl⟩
    | cons c cs =>
      refine .sure le_rfl fun t => ?_
      rw [List.cons_append, readBoundary]
      rintro _ heq
      exact hbrace cs (by rw [(List.cons.inj heq).1])

theorem local_readEscape {cs rest : List Char} {a : Atom} (h : readEscape m cs = .ok (a, rest)) :
    Local (readEscape m) cs a rest := by
  cases cs with
  | nil => simp [readEscape] at h
  | cons c cs =>
    simp only [readEscape] at h
    split_ifs at h with hdigit hcode hproperty hletter hplain
    · exact (local_readCode h).cons fun ds r hr => by
        simp only [readEscape, if_neg hdigit, if_pos hcode, hr]
    · exact (local_readProperty h).cons fun ds r hr => by
        simp only [readEscape, if_neg hdigit, if_neg hcode, if_pos hproperty, hr]
    · simp only [bind_eq_ok, pure_eq_ok, Prod.mk.injEq] at h
      obtain ⟨cls, hcls, rfl, rfl⟩ := h
      refine .sure (Nat.le_succ _) fun t => ?_
      simp only [readEscape, List.cons_append, if_neg hdigit, if_neg hcode, if_neg hproperty,
        if_pos hletter, bind_eq_ok, pure_eq_ok]
      exact ⟨cls, hcls, rfl⟩
    · obtain ⟨rfl, rfl⟩ := Prod.mk.inj (Except.ok.inj h)
      refine .sure (Nat.le_succ _) fun t => ?_
      simp only [readEscape, List.cons_append, if_neg hdigit, if_neg hcode, if_neg hproperty,
        if_neg hletter, if_pos hplain]
    · split at h
      case h_9 =>
        simp only [bind_eq_ok, pure_eq_ok, Prod.mk.injEq] at h
        obtain ⟨⟨test, rest⟩, hread, rfl, rfl⟩ := h
        refine (local_readBoundary hread).cons fun ds r hr => ?_
        simp only [readEscape, if_neg hdigit, if_neg hcode, if_neg hproperty, if_neg hletter,
          if_neg hplain, bind_eq_ok, pure_eq_ok]
        exact ⟨_, hr, rfl⟩
      all_goals first
        | obtain ⟨rfl, rfl⟩ := Prod.mk.inj (Except.ok.inj h)
          refine .sure (Nat.le_succ _) fun t => ?_
          simp only [readEscape, List.cons_append, if_neg hdigit, if_neg hcode, if_neg hproperty,
            if_neg hletter, if_neg hplain]
        | cases h

end

end Routing.Regex
