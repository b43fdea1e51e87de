import Routing.Proofs.Regex.Extent
import Routing.Proofs.Regex.Fragment

/-!
The text of an expression, token by token. A token is what one step of reading takes, with the
blanks before it, and the number of groups that are open there.

    a(?<x>[(>]|\>)*      a        (?<x>      [(>]     |        \>       )        *
                         depth 0  depth 0    depth 1  depth 1  depth 1  depth 1  depth 0

A character is bare if it stands in no group and in no class, and not right after a backslash. The
bracket of a group belongs to the group with all that is read with it, its name for one.
-/

namespace Routing.Regex

/-- A step of reading. -/
structure Token where
  /-- The number of groups that are open before it. -/
  depth : Nat
  /-- What is left out before it. -/
  blanks : List Char
  /-- What it takes; nothing at the end of the text. -/
  text : List Char
  deriving DecidableEq, Repr

namespace Token

/-- The characters of a token without those that stand in a group or in a class, or right after a
backslash. -/
def bareText : List Char → List Char
  | '(' :: _ | '[' :: _ => []
  | '\\' :: _ :: more => more
  | cs => cs

/-- The characters of a token that are bare. -/
def bare (t : Token) : List Char := if t.depth = 0 then t.blanks ++ bareText t.text else []

end Token

/-- The tokens that are read from here on. The fuel is that of reading. -/
def Progress.tokens : (fuel : Nat) → Progress → List Char → List Token
  | 0, _, _ => []
  | fuel + 1, p, cs =>
    let text := p.mode.skip cs
    let blanks := cs.take (cs.length - text.length)
    match text with
    | [] => [⟨p.below.length, blanks, []⟩]
    | c :: cs' =>
      match p.step c cs' with
      | .error _ => []
      | .ok (q, rest) =>
        ⟨p.below.length, blanks, text.take (text.length - rest.length)⟩ :: q.tokens fuel rest

/-- The tokens of the text of an expression. -/
def tokens (source : String) : List Token :=
  Progress.start.tokens (source.toList.length + 1) source.toList

/-- The characters of the text of an expression that are bare. -/
def bare (source : String) : List Char := (tokens source).flatMap Token.bare

/-! ### A step -/

namespace Progress

variable {p q : Progress} {cs rest : List Char}

/-- A group is opened with its name, which is quiet if it has no bracket. -/
theorem openNamed_takes (h : p.openNamed cs = .ok (q, rest)) : ∃ taken, cs = taken ++ rest ∧
    q.below = p.top :: p.below ∧ ('[' ∉ taken → ∀ c ∈ taken, Quiet c) := by
  obtain ⟨⟨name, rest'⟩, hname, hok⟩ := bind_eq_ok.1 h
  obtain ⟨taken, hcs, hquiet⟩ := past_readGroupName hname
  dsimp only at hok
  split at hok
  · simp at hok
  · obtain ⟨rfl, rfl⟩ := Prod.mk.inj (Except.ok.inj hok)
    exact ⟨taken, hcs, rfl, hquiet⟩

/-- An opening bracket opens a group, or it is closed again after flags. What follows it is quiet,
if it has no comment and no bracket in the name of a group. -/
theorem readOpening_takes (h : p.readOpening cs = .ok (q, rest)) :
    ∃ taken, cs = taken ++ rest ∧ ('[' ∉ taken → '#' ∉ taken →
      (q.below = p.top :: p.below ∧ ∀ c ∈ taken, Quiet c) ∨
        q.below = p.below ∧ ∃ flags, taken = flags ++ [')'] ∧ ∀ c ∈ flags, Quiet c) := by
  obtain ⟨blanks, hcs, hblanks⟩ := p.mode.past_skip cs
  have hnamed : ∀ (sign : List Char) {ds : List Char}, p.mode.skip cs = sign ++ ds →
      (∀ c ∈ sign, Quiet c) → p.openNamed ds = .ok (q, rest) → ∃ taken, cs = taken ++ rest ∧
        ('[' ∉ taken → '#' ∉ taken → q.below = p.top :: p.below ∧ ∀ c ∈ taken, Quiet c) := by
    intro sign ds hskip hsign hopen
    obtain ⟨taken, hds, hbelow, hquiet⟩ := openNamed_takes hopen
    refine ⟨blanks ++ (sign ++ taken), by rw [hcs, hskip, hds]; simp, fun hbracket hhash => ?_⟩
    simp only [List.mem_append, not_or] at hbracket hhash
    refine ⟨hbelow, ?_⟩
    simp only [List.forall_mem_append]
    exact ⟨hblanks hhash.1, hsign, hquiet hbracket.2.2⟩
  unfold readOpening at h
  split at h
  · simp at h
  · simp at h
  · simp at h
  · simp at h
  next ds hskip =>
    obtain ⟨taken, heq, htaken⟩ := hnamed ['?', 'P', '<'] hskip (quiet_of_all (by decide)) h
    exact ⟨taken, heq, fun hbracket hhash => .inl (htaken hbracket hhash)⟩
  next ds _ _ hskip =>
    obtain ⟨taken, heq, htaken⟩ := hnamed ['?', '<'] hskip (quiet_of_all (by decide)) h
    exact ⟨taken, heq, fun hbracket hhash => .inl (htaken hbracket hhash)⟩
  next ds _ _ _ _ _ _ hskip =>
    obtain ⟨flags, hflags, h⟩ := bind_eq_ok.1 h
    obtain ⟨taken, htaken, hquiet⟩ := past_readFlags hflags
    split_ifs at h with hopens hany
    · obtain ⟨rfl, rfl⟩ := Prod.mk.inj (Except.ok.inj h)
      rw [if_pos hopens] at htaken
      refine ⟨blanks ++ '?' :: taken ++ [':'], by rw [hcs, hskip, htaken]; simp,
        fun _ hhash => .inl ⟨rfl, ?_⟩⟩
      simp only [List.mem_append, not_or] at hhash
      simp only [List.forall_mem_append, List.forall_mem_cons]
      exact ⟨⟨hblanks hhash.1.1, by decide, hquiet⟩, by decide, by simp⟩
    · obtain ⟨rfl, rfl⟩ := Prod.mk.inj (Except.ok.inj h)
      rw [if_neg hopens] at htaken
      refine ⟨blanks ++ '?' :: taken ++ [')'], by rw [hcs, hskip, htaken]; simp,
        fun _ hhash => .inr ⟨rfl, _, rfl, ?_⟩⟩
      simp only [List.mem_append, not_or] at hhash
      simp only [List.forall_mem_append, List.forall_mem_cons]
      exact ⟨hblanks hhash.1.1, by decide, hquiet⟩
  · obtain ⟨rfl, rfl⟩ := Prod.mk.inj (Except.ok.inj h)
    exact ⟨blanks, hcs, fun _ hhash => .inl ⟨rfl, hblanks hhash⟩⟩

theorem below_of_repeatLast {lo : Nat} {hi : Option Nat} {lazy : Bool}
    (h : p.repeatLast lo hi lazy = .ok q) : q.below = p.below := by
  unfold repeatLast at h
  split at h
  · simp at h
  · split at h
    · rw [← Except.ok.inj h]
    · simp at h

theorem below_of_closeGroup (h : p.closeGroup = .ok q) : ∃ l, p.below = l :: q.below := by
  unfold closeGroup at h
  split at h
  · simp at h
  next l ls hbelow =>
    obtain rfl := Except.ok.inj h
    exact ⟨l, hbelow⟩

/-- What a step takes, by its first character, and what becomes of the open groups. -/
inductive Takes (p q : Progress) : Char → List Char → Prop
  | opens {taken} : ('[' ∉ taken → '#' ∉ taken →
      (q.below = p.top :: p.below ∧ ∀ c ∈ taken, Quiet c) ∨
        q.below = p.below ∧ ∃ flags, taken = flags ++ [')'] ∧ ∀ c ∈ flags, Quiet c) →
      Takes p q '(' taken
  | closes {l} : p.below = l :: q.below → Takes p q ')' []
  | class {taken} : q.below = p.below → Takes p q '[' taken
  | escape {c taken} : q.below = p.below → ('#' ∉ taken → ∀ c ∈ taken, Quiet c) →
      Takes p q '\\' (c :: taken)
  | other {c taken} : Quiet c → q.below = p.below → ('#' ∉ taken → ∀ c ∈ taken, Quiet c) →
      Takes p q c taken

/-- A step takes a first part of the text. -/
theorem takes_of_step {c : Char} (h : p.step c cs = .ok (q, rest)) :
    ∃ taken, cs = taken ++ rest ∧ Takes p q c taken := by
  have hother : ∀ {q' : Progress} {mid : List Char}, Quiet c → (q', mid) = (q, rest) →
      q'.below = p.below → Past cs mid → ∃ taken, cs = taken ++ rest ∧ Takes p q c taken := by
    rintro q' mid hc heq hbelow ⟨taken, rfl, hquiet⟩
    obtain ⟨rfl, rfl⟩ := Prod.mk.inj heq
    exact ⟨taken, rfl, .other hc hbelow hquiet⟩
  by_cases hc : isSign c = false
  · rw [step_plain hc] at h
    have hquiet : Quiet c := quiet_of_test (p := (! isSign ·)) (by decide) (by simp [hc])
    exact hother hquiet (Except.ok.inj h) rfl (.refl _)
  · simp only [isSign, List.contains_eq_mem, List.mem_cons, List.not_mem_nil, or_false,
      decide_eq_false_iff_not, not_not] at hc
    have hrepeat : ∀ {lo hi}, (c, lo, hi) ∈ [('?', 0, some 1), ('*', 0, none), ('+', 1, none)] →
        ∃ taken, cs = taken ++ rest ∧ Takes p q c taken := by
      intro lo hi hmem
      have hquiet : ∀ e ∈ [('?', 0, some 1), ('*', 0, none), ('+', 1, none)], Quiet e.1 := by decide
      rw [step_repeat hmem, map_eq_ok] at h
      obtain ⟨r, hr, heq⟩ := h
      exact hother (hquiet _ hmem) heq (below_of_repeatLast hr) (past_readLazy cs)
    rcases hc with rfl | rfl | rfl | rfl | rfl | rfl | rfl | rfl | rfl | rfl | rfl | rfl
    · obtain ⟨taken, hcs, htaken⟩ := readOpening_takes h
      exact ⟨taken, hcs, .opens htaken⟩
    · rw [step_close, map_eq_ok] at h
      obtain ⟨r, hr, heq⟩ := h
      obtain ⟨rfl, rfl⟩ := Prod.mk.inj heq
      obtain ⟨l, hbelow⟩ := below_of_closeGroup hr
      exact ⟨[], rfl, .closes hbelow⟩
    · exact hother (by decide) (Except.ok.inj h) rfl (.refl _)
    · rw [step_class, map_eq_ok] at h
      obtain ⟨r, hr, heq⟩ := h
      obtain ⟨rfl, rfl⟩ := Prod.mk.inj heq
      obtain ⟨taken, rfl⟩ := suffix_readClass hr
      exact ⟨taken, rfl, .class rfl⟩
    · exact hrepeat (.head _)
    · exact hrepeat (.tail _ (.head _))
    · exact hrepeat (.tail _ (.tail _ (.head _)))
    · obtain ⟨⟨⟨lo, hi⟩, mid⟩, hcounts, -⟩ := bind_eq_ok.1 h
      rw [step_counts p hcounts, map_eq_ok] at h
      obtain ⟨r, hr, heq⟩ := h
      have hpast := (past_readCounts hcounts).trans ((p.mode.past_skip mid).trans (past_readLazy _))
      exact hother (by decide) heq (below_of_repeatLast hr) hpast
    · rw [step_escape, map_eq_ok] at h
      obtain ⟨r, hr, heq⟩ := h
      obtain ⟨rfl, rfl⟩ := Prod.mk.inj heq
      cases cs with
      | nil => simp [readEscape] at hr
      | cons d ds =>
        obtain ⟨taken, rfl, hquiet⟩ := past_readEscape hr
        exact ⟨d :: taken, rfl, .escape rfl hquiet⟩
    · rw [step_point, map_eq_ok] at h
      obtain ⟨node, -, heq⟩ := h
      exact hother (by decide) heq rfl (.refl _)
    · exact hother (by decide) (Except.ok.inj h) rfl (.refl _)
    · exact hother (by decide) (Except.ok.inj h) rfl (.refl _)

/-! ### All steps -/

/-- At the end of a text there is one token, without a character. -/
theorem tokens_end (fuel : Nat) (h : p.mode.skip cs = []) :
    p.tokens (fuel + 1) cs = [⟨p.below.length, cs, []⟩] := by
  simp [tokens, h]

/-- Before the end of a text a step gives a token. -/
theorem tokens_step (fuel : Nat) {cs' : List Char} {c : Char} (hskip : p.mode.skip cs = c :: cs')
    (h : p.step c cs' = .ok (q, rest)) : ∃ blanks taken, cs = blanks ++ c :: taken ++ rest ∧
      Takes p q c taken ∧
      p.tokens (fuel + 1) cs = ⟨p.below.length, blanks, c :: taken⟩ :: q.tokens fuel rest := by
  obtain ⟨blanks, hcs⟩ := p.mode.skip_suffix cs
  obtain ⟨taken, rfl, htakes⟩ := takes_of_step h
  rw [hskip] at hcs
  have hblanks : cs.take (cs.length - (c :: (taken ++ rest)).length) = blanks := by
    rw [← hcs, List.length_append, Nat.add_sub_cancel, List.take_left]
  have htext : (c :: (taken ++ rest)).take ((c :: (taken ++ rest)).length - rest.length) =
      c :: taken := by
    rw [← List.cons_append, List.length_append, Nat.add_sub_cancel, List.take_left]
  refine ⟨blanks, taken, by rw [← hcs]; simp, htakes, ?_⟩
  rw [tokens, hskip]
  simp only [h, hblanks, htext]

end Progress

end Routing.Regex
