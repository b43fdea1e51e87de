import Mathlib.Order.Nat
import Routing.Proofs.Outcome
import Routing.Regex.Parser

/-!
What a reader has read does not depend on the text that follows. There is one exception. Where
blanks are left out, a comment at the end of a text takes in what is put after it.

    (?x)a b      )…     the bracket stands where the text was left
    (?x)a #b     )…     the bracket is part of the comment

So a reader that comes to the end of a text either stops there also before a closing bracket, or it
runs through `)$` to the end. A reader that stops before the end stops there whatever follows the
bracket.
-/

namespace Routing.Regex

open Text

/-- A list that is no shorter than one with members has members. -/
theorem ne_nil_of_length_le {α : Type} {as bs : List α} (h : as.length ≤ bs.length) (ha : as ≠ []) :
    bs ≠ [] := by
  rintro rfl
  exact ha (List.eq_nil_of_length_eq_zero (Nat.le_zero.1 h))

/-- What a reader that has read `cs` up to `rest` does where a closing bracket follows. -/
structure Local {α : Type} (read : List Char → Except Fault (WithRest α)) (cs : List Char) (a : α)
    (rest : List Char) : Prop where
  shorter : rest.length ≤ cs.length
  within : rest ≠ [] → ∀ t, read (cs ++ ')' :: t) = .ok (a, rest ++ ')' :: t)
  atEnd : rest = [] → (∀ t, read (cs ++ ')' :: t) = .ok (a, ')' :: t)) ∨
    read (cs ++ [')', '$']) = .ok (a, [])

namespace Local

variable {α β : Type} {f : List Char → Except Fault (WithRest α)}
  {g : List Char → Except Fault (WithRest β)} {cs mid rest : List Char} {a : α} {b : β}

/-- A reader that never looks beyond what it takes. -/
theorem sure (hle : rest.length ≤ cs.length)
    (h : ∀ t, f (cs ++ ')' :: t) = .ok (a, rest ++ ')' :: t)) : Local f cs a rest where
  shorter := hle
  within _ := h
  atEnd hrest := .inl fun t => by rw [h, hrest, List.nil_append]

/-- A reader that does on the text what another one does on a part of it. -/
theorem of (hf : Local f mid a rest) (hle : mid.length ≤ cs.length)
    (h : ∀ t r, f (mid ++ ')' :: t) = .ok (a, r) → g (cs ++ ')' :: t) = .ok (b, r)) :
    Local g cs b rest where
  shorter := hf.shorter.trans hle
  within hrest t := h t _ (hf.within hrest t)
  atEnd hrest := (hf.atEnd hrest).imp (fun hend t => h _ _ (hend t)) (h _ _)

/-- One reader after another. -/
theorem andThen {k : List Char → Except Fault (WithRest β)} (hf : Local f cs a mid)
    (hg : Local g mid b rest) (hread : g mid = .ok (b, rest))
    (hk : ∀ cs mid, f cs = .ok (a, mid) → k cs = g mid) : Local k cs b rest where
  shorter := hg.shorter.trans hf.shorter
  within hrest t := by
    have hmid : mid ≠ [] := ne_nil_of_length_le hg.shorter hrest
    rw [hk _ _ (hf.within hmid t), hg.within hrest t]
  atEnd hrest := by
    by_cases hmid : mid = []
    · subst hmid
      rcases hf.atEnd rfl with hend | hend
      · refine (hg.atEnd hrest).imp (fun h t => ?_) fun h => ?_
        · rw [hk _ _ (hend t)]
          exact h t
        · rw [hk _ _ (hend ['$'])]
          exact h
      · refine .inr ?_
        rw [hk _ _ hend, hread, hrest]
    · refine (hg.atEnd hrest).imp (fun h t => ?_) fun h => ?_
      · rw [hk _ _ (hf.within hmid _), h]
      · rw [hk _ _ (hf.within hmid _), h]

end Local

/-! ### Blanks -/

mutual

theorem length_skipBlank_le : ∀ cs : List Char, (skipBlank cs).length ≤ cs.length
  | [] => by simp [skipBlank]
  | c :: cs => by
    have h₁ := length_skipBlank_le cs
    have h₂ := length_skipComment_le cs
    rw [skipBlank]
    split
    · exact h₁.trans (Nat.le_succ _)
    · split
      · exact h₂.trans (Nat.le_succ _)
      · exact le_rfl

theorem length_skipComment_le : ∀ cs : List Char, (skipComment cs).length ≤ cs.length
  | [] => by simp [skipComment]
  | c :: cs => by
    have h₁ := length_skipBlank_le cs
    have h₂ := length_skipComment_le cs
    rw [skipComment]
    split
    · exact h₁.trans (Nat.le_succ _)
    · exact h₂.trans (Nat.le_succ _)

end

mutual

theorem skipBlank_append (t : List Char) : ∀ cs : List Char, skipBlank cs ≠ [] →
    skipBlank (cs ++ t) = skipBlank cs ++ t
  | [], h => by simp [skipBlank] at h
  | c :: cs, h => by
    rw [skipBlank] at h
    rw [List.cons_append, skipBlank, skipBlank]
    split
    next hw => exact skipBlank_append t cs (by simpa [hw] using h)
    next hw =>
      split
      next hc => exact skipComment_append t cs (by simpa [hw, hc] using h)
      · rfl

theorem skipComment_append (t : List Char) : ∀ cs : List Char, skipComment cs ≠ [] →
    skipComment (cs ++ t) = skipComment cs ++ t
  | [], h => by simp [skipComment] at h
  | c :: cs, h => by
    rw [skipComment] at h
    rw [List.cons_append, skipComment, skipComment]
    split
    next hn => exact skipBlank_append t cs (by simpa [hn] using h)
    next hn => exact skipComment_append t cs (by simpa [hn] using h)

end

theorem skipBlank_bracket (t : List Char) : skipBlank (')' :: t) = ')' :: t := by
  have hw : isWhiteSpace ')' = false := by decide +kernel
  rw [skipBlank]
  simp [hw]

theorem skipComment_bracket : skipComment [')', '$'] = [] := by simp [skipComment]

mutual

theorem skipBlank_end : ∀ cs : List Char, skipBlank cs = [] →
    (∀ t, skipBlank (cs ++ ')' :: t) = ')' :: t) ∨ skipBlank (cs ++ [')', '$']) = []
  | [], _ => .inl skipBlank_bracket
  | c :: cs, h => by
    simp only [List.cons_append, skipBlank] at h ⊢
    split at h
    next hw => simpa [hw] using skipBlank_end cs h
    next hw =>
      split at h
      next hc => simpa [hw, hc] using skipComment_end cs h
      · simp at h

theorem skipComment_end : ∀ cs : List Char, skipComment cs = [] →
    (∀ t, skipComment (cs ++ ')' :: t) = ')' :: t) ∨ skipComment (cs ++ [')', '$']) = []
  | [], _ => .inr skipComment_bracket
  | c :: cs, h => by
    simp only [List.cons_append, skipComment] at h ⊢
    split at h
    next hn => simpa [hn] using skipBlank_end cs h
    next hn => simpa [hn] using skipComment_end cs h

end

namespace Mode

variable (m : Mode)

theorem length_skip_le (cs : List Char) : (m.skip cs).length ≤ cs.length := by
  rw [skip]
  split
  · exact length_skipBlank_le cs
  · exact le_rfl

@[simp] theorem skip_nil : m.skip [] = [] := by simp [skip, skipBlank]

theorem skip_append {cs : List Char} (h : m.skip cs ≠ []) (t : List Char) :
    m.skip (cs ++ t) = m.skip cs ++ t := by
  unfold skip at h ⊢
  split
  next hx => exact skipBlank_append t cs (by simpa [hx] using h)
  · rfl

theorem skip_bracket (t : List Char) : m.skip (')' :: t) = ')' :: t := by
  rw [skip]
  split
  · exact skipBlank_bracket t
  · rfl

theorem skip_end {cs : List Char} (h : m.skip cs = []) :
    (∀ t, m.skip (cs ++ ')' :: t) = ')' :: t) ∨ m.skip (cs ++ [')', '$']) = [] := by
  unfold skip at h ⊢
  split at h
  next hx => simpa [hx] using skipBlank_end cs h
  next hx => exact .inl (by simp [hx, h])

/-- What follows a character that blanks lead to. -/
theorem skip_cons_append {cs cs' : List Char} {c : Char} (h : m.skip cs = c :: cs')
    (t : List Char) : m.skip (cs ++ t) = c :: (cs' ++ t) := by
  rw [m.skip_append (by simp [h]), h, List.cons_append]

theorem length_lt_of_skip {cs cs' : List Char} {c : Char} (h : m.skip cs = c :: cs') :
    cs'.length < cs.length := by
  have hle := m.length_skip_le cs
  rw [h] at hle
  exact hle

/-- Stepping over blanks at the end of what is read. -/
theorem local_skip {α : Type} (a : α) (cs : List Char) :
    Local (fun cs => .ok (a, m.skip cs)) cs a (m.skip cs) where
  shorter := m.length_skip_le cs
  within h t := by simp [m.skip_append h]
  atEnd h := (m.skip_end h).imp (fun h t => by simp [h]) fun h => by simp [h]

end Mode

/-- A reader that steps over blanks first. -/
theorem Local.afterSkip {α : Type} {g : List Char → Except Fault (WithRest α)} {cs rest : List Char}
    {a : α} (m : Mode) (hg : Local g (m.skip cs) a rest) (hread : g (m.skip cs) = .ok (a, rest)) :
    Local (fun cs => g (m.skip cs)) cs a rest :=
  (m.local_skip () cs).andThen hg hread fun cs mid h => by
    rw [(Prod.mk.inj (Except.ok.inj h)).2]

/-- A reader that takes one character and goes on. -/
theorem Local.cons {α β : Type} {f : List Char → Except Fault (WithRest α)}
    {g : List Char → Except Fault (WithRest β)} {cs rest : List Char} {a : α} {b : β} {c : Char}
    (hf : Local f cs a rest) (h : ∀ cs r, f cs = .ok (a, r) → g (c :: cs) = .ok (b, r)) :
    Local g (c :: cs) b rest :=
  hf.of (Nat.le_succ _) fun _ _ => h _ _

/-- A reader that goes on after blanks and the character behind them. -/
theorem Local.skipTo {α β : Type} {f : List Char → Except Fault (WithRest α)}
    {g : List Char → Except Fault (WithRest β)} {m : Mode} {cs cs' rest : List Char} {a : α} {b : β}
    {c : Char}
    (hf : Local f cs' a rest) (hskip : m.skip cs = c :: cs')
    (h : ∀ t r, m.skip (cs ++ t) = c :: (cs' ++ t) → f (cs' ++ t) = .ok (a, r) →
      g (cs ++ t) = .ok (b, r)) : Local g cs b rest :=
  hf.of (m.length_lt_of_skip hskip).le fun _ _ => h _ _ (m.skip_cons_append hskip _)

end Routing.Regex
