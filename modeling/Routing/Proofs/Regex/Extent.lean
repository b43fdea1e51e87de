import Routing.Proofs.Regex.Locality.Step
import Routing.Proofs.Regex.Property

/-!
What a reader takes of a text. It takes a first part of it and leaves the rest. Outside of classes
and of the brackets of groups what it takes is quiet, unless there is a comment in it.

    \p{ Greek }x      takes { Greek }      quiet        leaves x
    \x{ 4#)⏎1 }x      takes { 4#)⏎1 }      a comment    leaves x
-/

namespace Routing.Regex

open Text

/-- What is left of a text after a part that is quiet, unless there is a comment in it. -/
def Past (cs rest : List Char) : Prop :=
  ∃ taken, cs = taken ++ rest ∧ ('#' ∉ taken → ∀ c ∈ taken, Quiet c)

section
variable {cs mid rest : List Char} {c : Char}

theorem Past.refl (cs : List Char) : Past cs cs := ⟨[], rfl, by simp⟩

theorem Past.trans (h : Past cs mid) (h' : Past mid rest) : Past cs rest := by
  obtain ⟨taken, rfl, hquiet⟩ := h
  obtain ⟨taken', rfl, hquiet'⟩ := h'
  refine ⟨taken ++ taken', (List.append_assoc ..).symm, fun hhash => ?_⟩
  rw [List.mem_append, not_or] at hhash
  exact List.forall_mem_append.2 ⟨hquiet hhash.1, hquiet' hhash.2⟩

theorem Past.cons (hc : Quiet c) (h : Past cs rest) : Past (c :: cs) rest := by
  obtain ⟨taken, rfl, hquiet⟩ := h
  refine ⟨c :: taken, rfl, fun hhash => List.forall_mem_cons.2 ⟨hc, hquiet fun hmem => ?_⟩⟩
  exact hhash (.tail _ hmem)

/-- A comment may hold anything. -/
theorem Past.comment (h : rest <:+ cs) : Past ('#' :: cs) rest := by
  obtain ⟨taken, rfl⟩ := h
  exact ⟨'#' :: taken, rfl, fun hhash => absurd (.head _) hhash⟩

theorem Past.suffix (h : Past cs rest) : rest <:+ cs := by
  obtain ⟨taken, rfl, -⟩ := h
  exact List.suffix_append _ _

end

/-! ### Blanks -/

theorem quiet_of_isWhiteSpace {c : Char} (h : isWhiteSpace c = true) : Quiet c :=
  quiet_of_test (by decide +kernel) h

mutual

theorem skipBlank_suffix : ∀ cs : List Char, skipBlank cs <:+ cs
  | [] => by simp [skipBlank]
  | c :: cs => by
    rw [skipBlank]
    split
    · exact (skipBlank_suffix cs).trans (List.suffix_cons _ _)
    · split
      · exact (skipComment_suffix cs).trans (List.suffix_cons _ _)
      · exact List.suffix_rfl

theorem skipComment_suffix : ∀ cs : List Char, skipComment cs <:+ cs
  | [] => by simp [skipComment]
  | c :: cs => by
    rw [skipComment]
    split
    · exact (skipBlank_suffix cs).trans (List.suffix_cons _ _)
    · exact (skipComment_suffix cs).trans (List.suffix_cons _ _)

end

theorem past_skipBlank : ∀ cs : List Char, Past cs (skipBlank cs)
  | [] => by
    rw [skipBlank]
    exact .refl _
  | c :: cs => by
    rw [skipBlank]
    split
    next hblank => exact (past_skipBlank cs).cons (quiet_of_isWhiteSpace hblank)
    · split
      next hhash =>
        rw [beq_iff_eq.1 hhash]
        exact .comment (skipComment_suffix cs)
      · exact .refl _

namespace Mode

variable (m : Mode)

theorem past_skip (cs : List Char) : Past cs (m.skip cs) := by
  rw [skip]
  split
  · exact past_skipBlank cs
  · exact .refl _

theorem skip_suffix (cs : List Char) : m.skip cs <:+ cs := (m.past_skip cs).suffix

/-- A character behind blanks. -/
theorem past_of_skip {cs cs' : List Char} {c : Char} (h : m.skip cs = c :: cs') (hc : Quiet c) :
    Past cs cs' :=
  (m.past_skip cs).trans (h ▸ (Past.refl cs').cons hc)

end Mode

/-! ### Escapes -/

section
variable {m : Mode}

theorem quiet_of_isHexDigit {c : Char} (h : isHexDigit c = true) : Quiet c :=
  quiet_of_test (by decide) h

theorem past_readFixedCode : ∀ {n code : Nat} {cs rest : List Char} {code' : Nat},
    readFixedCode m n code cs = .ok (code', rest) → Past cs rest
  | 0, _, cs, _, _, h => by
    obtain ⟨-, rfl⟩ := Prod.mk.inj (Except.ok.inj h)
    exact .refl _
  | _ + 1, _, [], _, _, h => by simp [readFixedCode] at h
  | n + 1, code, c :: cs, _, _, h => by
    rw [readFixedCode] at h
    split at h
    next hdigit =>
      exact ((m.past_skip cs).trans (past_readFixedCode h)).cons (quiet_of_isHexDigit hdigit)
    · simp at h

theorem past_readBracedCode : ∀ {fuel code : Nat} {any : Bool} {cs rest : List Char} {code' : Nat},
    readBracedCode m fuel code any cs = .ok (code', rest) → Past cs rest
  | 0, _, _, _, _, _, h => by simp [readBracedCode] at h
  | _ + 1, _, _, [], _, _, h => by simp [readBracedCode] at h
  | fuel + 1, code, any, c :: cs, _, _, h => by
    rw [readBracedCode] at h
    split at h
    next hbrace =>
      split at h
      · obtain ⟨-, rfl⟩ := Prod.mk.inj (Except.ok.inj h)
        exact (m.past_skip cs).cons (by rw [beq_iff_eq.1 hbrace]; decide)
      · simp at h
    · split at h
      next hdigit =>
        exact ((m.past_skip cs).trans (past_readBracedCode h)).cons (quiet_of_isHexDigit hdigit)
      · simp at h

theorem past_readCode {letter : Char} {cs rest : List Char} {a : Atom}
    (h : readCode m letter cs = .ok (a, rest)) : Past cs rest := by
  rw [readCode] at h
  split at h
  · simp at h
  next cs' hskip =>
    obtain ⟨⟨code, rest'⟩, hread, h⟩ := bind_eq_ok.1 h
    obtain ⟨c, -, h⟩ := bind_eq_ok.1 h
    obtain ⟨-, rfl⟩ := Prod.mk.inj (Except.ok.inj h)
    exact (m.past_of_skip hskip (by decide)).trans
      ((m.past_skip cs').trans (past_readBracedCode hread))
  · obtain ⟨⟨code, rest'⟩, hread, h⟩ := bind_eq_ok.1 h
    obtain ⟨c, -, h⟩ := bind_eq_ok.1 h
    obtain ⟨-, rfl⟩ := Prod.mk.inj (Except.ok.inj h)
    exact (m.past_skip cs).trans (past_readFixedCode hread)

/-- The name of a property has all characters that stand before its closing brace, apart from
blanks. -/
theorem past_readPropertyName : ∀ {fuel : Nat} {read cs name rest : List Char},
    readPropertyName m fuel read cs = .ok (name, rest) →
      (∀ c ∈ read, c ∈ name) ∧ ((∀ c ∈ name, Quiet c) → Past cs rest)
  | 0, _, _, _, _, h => by simp [readPropertyName] at h
  | _ + 1, _, [], _, _, h => by simp [readPropertyName] at h
  | fuel + 1, read, c :: cs, name, rest, h => by
    rw [readPropertyName] at h
    split at h
    next hbrace =>
      obtain ⟨rfl, rfl⟩ := Prod.mk.inj (Except.ok.inj h)
      refine ⟨fun d hd => List.mem_reverse.2 hd, fun _ => (Past.refl cs).cons ?_⟩
      rw [beq_iff_eq.1 hbrace]
      decide
    · obtain ⟨hread, hpast⟩ := past_readPropertyName h
      refine ⟨fun d hd => hread d (.tail _ hd), fun hquiet => ?_⟩
      exact ((m.past_skip cs).trans (hpast hquiet)).cons (hquiet c (hread c (.head _)))

theorem past_readProperty {negated : Bool} {cs rest : List Char} {a : Atom}
    (h : readProperty m negated cs = .ok (a, rest)) : Past cs rest := by
  rw [readProperty] at h
  split at h
  · simp [bind, Except.bind] at h
  next cs' hskip =>
    simp only [bind_eq_ok, pure_eq_ok, exists_eq_left'] at h
    obtain ⟨⟨name, rest'⟩, hread, named, hnamed, h⟩ := h
    obtain ⟨-, hpast⟩ := past_readPropertyName hread
    split at h
    · simp at h
    · obtain ⟨-, rfl⟩ := Prod.mk.inj (Except.ok.inj h)
      exact (m.past_of_skip hskip (by decide)).trans
        ((m.past_skip cs').trans (hpast (quiet_of_propertyNamed hnamed)))
  next c cs' _ hskip =>
    split at h
    · simp [bind, Except.bind] at h
    · simp only [bind_eq_ok, pure_eq_ok, exists_eq_left'] at h
      obtain ⟨cls, hcls, h⟩ := h
      have hc : Quiet c := quiet_of_bareProperty hcls c (by simp)
      split at h
      · simp at h
      · obtain ⟨-, rfl⟩ := Prod.mk.inj (Except.ok.inj h)
        exact (m.past_of_skip hskip hc).trans (m.past_skip cs')

theorem quiet_of_isBoundaryLetter {c : Char} (h : isBoundaryLetter c = true) : Quiet c :=
  quiet_of_test (by decide) h

theorem past_readBoundaryName : ∀ {fuel : Nat} {read cs name rest : List Char},
    readBoundaryName m fuel read cs = (name, rest) → Past cs rest
  | 0, _, cs, _, _, h => by
    obtain ⟨-, rfl⟩ := Prod.mk.inj h
    exact .refl _
  | _ + 1, _, [], _, _, h => by
    obtain ⟨-, rfl⟩ := Prod.mk.inj h
    exact .refl _
  | fuel + 1, read, c :: cs, _, _, h => by
    rw [readBoundaryName] at h
    split at h
    next hletter =>
      exact ((m.past_skip cs).trans (past_readBoundaryName h)).cons
        (quiet_of_isBoundaryLetter hletter)
    · obtain ⟨-, rfl⟩ := Prod.mk.inj h
      exact .refl _

theorem past_readBoundary {cs rest : List Char} {test : Look}
    (h : readBoundary m cs = .ok (test, rest)) : Past cs rest := by
  unfold readBoundary at h
  split at h
  next inner =>
    split at h
    · simp at h
    next c after hskip =>
      split at h
      · split at h
        next name rest' hname =>
          have hpast : Past ('\x7B' :: inner) rest' := by
            have hafter := (m.past_skip inner).trans (hskip ▸ past_readBoundaryName hname)
            exact (hafter.trans ((Past.refl rest').cons (by decide))).cons (by decide)
          split at h
          all_goals first
            | obtain ⟨-, rfl⟩ := Prod.mk.inj (Except.ok.inj h)
              exact hpast
            | simp at h
        · simp at h
      · obtain ⟨-, rfl⟩ := Prod.mk.inj (Except.ok.inj h)
        exact .refl _
  · obtain ⟨-, rfl⟩ := Prod.mk.inj (Except.ok.inj h)
    exact .refl _

/-- What an escape takes after the character that is escaped. -/
theorem past_readEscape {c : Char} {cs rest : List Char} {a : Atom}
    (h : readEscape m (c :: cs) = .ok (a, rest)) : Past cs rest := by
  simp only [readEscape] at h
  split_ifs at h with hdigit hcode hproperty hletter hplain
  · exact past_readCode h
  · exact past_readProperty h
  · obtain ⟨cls, -, h⟩ := bind_eq_ok.1 h
    obtain ⟨-, rfl⟩ := Prod.mk.inj (Except.ok.inj h)
    exact .refl _
  · obtain ⟨-, rfl⟩ := Prod.mk.inj (Except.ok.inj h)
    exact .refl _
  · split at h
    case h_9 =>
      obtain ⟨⟨test, rest'⟩, hread, h⟩ := bind_eq_ok.1 h
      obtain ⟨-, rfl⟩ := Prod.mk.inj (Except.ok.inj h)
      exact past_readBoundary hread
    all_goals first
      | obtain ⟨-, rfl⟩ := Prod.mk.inj (Except.ok.inj h)
        exact .refl _
      | simp at h

theorem suffix_readEscape {cs rest : List Char} {a : Atom} (h : readEscape m cs = .ok (a, rest)) :
    rest <:+ cs := by
  cases cs with
  | nil => simp [readEscape] at h
  | cons c cs => exact (past_readEscape h).suffix.trans (List.suffix_cons _ _)

/-! ### Counts -/

theorem quiet_of_isAsciiDigit {c : Char} (h : isAsciiDigit c = true) : Quiet c :=
  quiet_of_test (by decide) h

theorem past_dropWhile : ∀ cs : List Char, Past cs (cs.dropWhile isWhiteSpace)
  | [] => .refl _
  | c :: cs => by
    rw [List.dropWhile_cons]
    split
    next hblank => exact (past_dropWhile cs).cons (quiet_of_isWhiteSpace hblank)
    · exact .refl _

theorem past_readDigits : ∀ (fuel : Nat) (digits cs : List Char),
    Past cs (readDigits m fuel digits cs).2
  | 0, _, _ => .refl _
  | _ + 1, _, [] => .refl _
  | fuel + 1, digits, c :: cs => by
    rw [readDigits]
    split
    next hdigit =>
      exact ((m.past_skip cs).trans (past_readDigits fuel _ _)).cons (quiet_of_isAsciiDigit hdigit)
    · exact .refl _

theorem past_skipAround : ∀ (fuel : Nat) (cs : List Char), Past cs (skipAround m fuel cs)
  | 0, _ => .refl _
  | _ + 1, [] => .refl _
  | fuel + 1, c :: cs => by
    rw [skipAround]
    split
    next hblank =>
      exact ((m.past_skip cs).trans (past_skipAround fuel _)).cons (quiet_of_isWhiteSpace hblank)
    · exact .refl _

theorem past_readCount {cs rest : List Char} {n : Option Nat}
    (h : readCount m cs = .ok (n, rest)) : Past cs rest := by
  rw [readCount_eq, map_eq_ok] at h
  obtain ⟨_, -, heq⟩ := h
  obtain ⟨-, rfl⟩ := Prod.mk.inj heq
  exact (past_dropWhile cs).trans ((past_readDigits _ _ _).trans (past_skipAround _ _))

theorem past_readUpper {lo : Nat} {cs rest : List Char} {counts : Nat × Option Nat}
    (h : readUpper m lo cs = .ok (counts, rest)) : Past cs rest := by
  rw [readUpper] at h
  split at h
  next rest' hskip =>
    obtain ⟨-, rfl⟩ := Prod.mk.inj (Except.ok.inj h)
    exact m.past_of_skip hskip (by decide)
  · obtain ⟨⟨n, mid⟩, hcount, h⟩ := bind_eq_ok.1 h
    split at h
    next hi rest' heq =>
      obtain ⟨rfl, rfl⟩ := Prod.mk.inj heq
      split at h
      · obtain ⟨-, rfl⟩ := Prod.mk.inj (Except.ok.inj h)
        exact (m.past_skip cs).trans
          ((past_readCount hcount).trans ((Past.refl _).cons (by decide)))
      · simp at h
    · simp at h

theorem past_readCounts {cs rest : List Char} {counts : Nat × Option Nat}
    (h : readCounts m cs = .ok (counts, rest)) : Past cs rest := by
  obtain ⟨⟨first, mid⟩, hfirst, h⟩ := bind_eq_ok.1 h
  have hpast := (m.past_skip cs).trans (past_readCount hfirst)
  split at h
  · simp at h
  next lo rest' heq =>
    obtain ⟨rfl, rfl⟩ := Prod.mk.inj heq
    obtain ⟨-, rfl⟩ := Prod.mk.inj (Except.ok.inj h)
    exact hpast.trans ((Past.refl _).cons (by decide))
  next lo cs' heq =>
    obtain ⟨rfl, rfl⟩ := Prod.mk.inj heq
    have hupper : readUpper m lo cs' = .ok (counts, rest) := h
    exact hpast.trans ((past_readUpper hupper).cons (by decide))
  · simp at h

theorem past_readLazy (cs : List Char) : Past cs (readLazy cs).2 := by
  unfold readLazy
  split
  · exact (Past.refl _).cons (by decide)
  · exact .refl _

/-! ### Classes -/

theorem suffix_readPosixName {negated sign : Bool} {cs rest : List Char} {cls : CharClass}
    (h : readPosixName negated cs = some (cls, sign, rest)) : rest <:+ cs := by
  unfold readPosixName at h
  split at h
  next rest' hdrop =>
    obtain ⟨_, -, heq⟩ := Option.map_eq_some_iff.1 h
    simp only [Prod.mk.injEq] at heq
    rw [← heq.2.2]
    have hsuffix : ':' :: ']' :: rest' <:+ cs := hdrop ▸ List.dropWhile_suffix _
    exact ((List.suffix_cons _ _).trans (List.suffix_cons _ _)).trans hsuffix
  · simp at h

theorem suffix_readPosixClass {cs rest : List Char} {cls : CharClass} {negated : Bool}
    (h : readPosixClass cs = some (cls, negated, rest)) : rest <:+ cs := by
  cases cs with
  | nil => simp [readPosixClass] at h
  | cons c cs =>
    by_cases hc : c = ':'
    · subst hc
      by_cases hsign : ∃ ds, cs = '^' :: ds
      · obtain ⟨ds, rfl⟩ := hsign
        exact (suffix_readPosixName h).trans
          ((List.suffix_cons _ _).trans (List.suffix_cons _ _))
      · rw [readPosixClass_plain fun ds heq => hsign ⟨ds, heq⟩] at h
        exact (suffix_readPosixName h).trans (List.suffix_cons _ _)
    · simp [readPosixClass_other hc] at h

theorem suffix_readHyphens : ∀ {fuel : Nat} {b b' : Bracket} {cs rest : List Char},
    readHyphens m fuel b cs = .ok (b', rest) → rest <:+ cs
  | 0, _, _, _, _, h => by simp [readHyphens] at h
  | _ + 1, _, _, [], _, h => by simp [readHyphens] at h
  | fuel + 1, b, b', c :: cs, rest, h => by
    rw [readHyphens] at h
    split at h
    · exact (suffix_readHyphens h).trans ((m.skip_suffix cs).trans (List.suffix_cons _ _))
    · obtain ⟨-, rfl⟩ := Prod.mk.inj (Except.ok.inj h)
      exact List.suffix_rfl

theorem suffix_of_skip {cs cs' : List Char} {c : Char} (h : m.skip cs = c :: cs') : cs' <:+ cs :=
  (List.suffix_cons c cs').trans (h ▸ m.skip_suffix cs)

theorem suffix_readSign (cs : List Char) : (readSign m cs).2 <:+ cs := by
  rw [readSign]
  split
  next cs' hskip => exact (m.skip_suffix cs').trans (suffix_of_skip hskip)
  · exact m.skip_suffix cs

theorem suffix_readFirst {b b' : Bracket} {cs rest : List Char}
    (h : readFirst m b cs = .ok (b', rest)) : rest <:+ cs := by
  unfold readFirst at h
  split at h
  next cs' _ =>
    split at h
    · simp at h
    · obtain ⟨-, rfl⟩ := Prod.mk.inj (Except.ok.inj h)
      exact (m.skip_suffix cs').trans (List.suffix_cons _ _)
  · obtain ⟨-, rfl⟩ := Prod.mk.inj (Except.ok.inj h)
    exact List.suffix_rfl

theorem suffix_openBracket {b : Bracket} {cs rest : List Char}
    (h : openBracket m cs = .ok (b, rest)) : rest <:+ cs := by
  rw [openBracket_eq, bind_eq_ok] at h
  obtain ⟨⟨b', mid⟩, hhyphens, hfirst⟩ := h
  exact (suffix_readFirst hfirst).trans ((suffix_readHyphens hhyphens).trans (suffix_readSign cs))

theorem suffix_readItem {cs rest : List Char} {a : Atom} (h : readItem m cs = .ok (a, rest)) :
    rest <:+ cs := by
  unfold readItem at h
  split at h
  · simp at h
  · exact (suffix_readEscape h).trans (List.suffix_cons _ _)
  · obtain ⟨-, rfl⟩ := Prod.mk.inj (Except.ok.inj h)
    exact List.suffix_cons _ _

theorem suffix_readRange {cs rest : List Char} {cls : CharClass}
    (h : readRange m cs = .ok (cls, rest)) : rest <:+ cs := by
  have hread := h
  rw [readRange, bind_eq_ok] at hread
  obtain ⟨⟨first, mid⟩, hitem, hread⟩ := hread
  cases hskip : m.skip mid with
  | nil => simp [hskip] at hread
  | cons c cs' =>
    have hmid := (m.skip_suffix mid).trans (suffix_readItem hitem)
    rw [hskip] at hmid
    by_cases halone : standsAlone m c cs' = true
    · rw [readRange_alone hitem hskip halone, bind_eq_ok] at h
      obtain ⟨_, -, h⟩ := h
      obtain ⟨-, rfl⟩ := Prod.mk.inj (Except.ok.inj h)
      exact hmid
    · have hrange : standsAlone m c cs' = false := by simpa using halone
      by_cases hnext : m.skip cs' = []
      · unfold standsAlone at hrange
        simp [hskip, hrange, hnext] at hread
      · rw [readRange_range hitem hskip hrange hnext, bind_eq_ok] at h
        obtain ⟨⟨last, rest'⟩, hlast, h⟩ := h
        obtain ⟨_, -, h⟩ := bind_eq_ok.1 h
        obtain ⟨-, rfl⟩ := Prod.mk.inj (Except.ok.inj h)
        exact (suffix_readItem hlast).trans
          ((m.skip_suffix cs').trans ((List.suffix_cons _ _).trans hmid))

theorem suffix_bracketStep {b : Bracket} {outer : List Bracket} {cs rest : List Char} {a}
    (h : bracketStep m b outer cs = .ok (a, rest)) : rest <:+ cs := by
  have hread := h
  rw [bracketStep] at h
  split at h
  · simp at h
  next ds hskip =>
    rw [bracketStep_of_open hskip] at hread
    refine List.IsSuffix.trans ?_ (suffix_of_skip hskip)
    split at hread
    next hposix =>
      obtain ⟨_, -, hread⟩ := bind_eq_ok.1 hread
      obtain ⟨-, rfl⟩ := Prod.mk.inj (Except.ok.inj hread)
      exact suffix_readPosixClass hposix
    · obtain ⟨r, hopen, hread⟩ := bind_eq_ok.1 hread
      obtain ⟨-, rfl⟩ := Prod.mk.inj (Except.ok.inj hread)
      exact suffix_openBracket hopen
  next ds hskip =>
    refine List.IsSuffix.trans ?_ (suffix_of_skip hskip)
    obtain ⟨part, -, h⟩ := bind_eq_ok.1 h
    split at h
    · obtain ⟨-, rfl⟩ := Prod.mk.inj (Except.ok.inj h)
      exact List.suffix_rfl
    · obtain ⟨-, rfl⟩ := Prod.mk.inj (Except.ok.inj h)
      exact List.suffix_rfl
  next ds hskip =>
    obtain ⟨-, rfl⟩ := Prod.mk.inj (Except.ok.inj h)
    exact (List.suffix_cons _ _).trans (suffix_of_skip hskip)
  next ds hskip =>
    obtain ⟨-, rfl⟩ := Prod.mk.inj (Except.ok.inj h)
    exact (List.suffix_cons _ _).trans (suffix_of_skip hskip)
  next ds hskip =>
    obtain ⟨-, rfl⟩ := Prod.mk.inj (Except.ok.inj h)
    exact (List.suffix_cons _ _).trans (suffix_of_skip hskip)
  · obtain ⟨⟨cls, rest'⟩, hrange, h⟩ := bind_eq_ok.1 h
    obtain ⟨-, rfl⟩ := Prod.mk.inj (Except.ok.inj h)
    exact (suffix_readRange hrange).trans (m.skip_suffix cs)

theorem suffix_readBrackets : ∀ {fuel : Nat} {b : Bracket} {outer : List Bracket}
    {cs rest : List Char} {part : ClassPart},
    readBrackets m fuel b outer cs = .ok (part, rest) → rest <:+ cs
  | 0, _, _, _, _, _, h => by simp [readBrackets] at h
  | fuel + 1, b, outer, cs, rest, part, h => by
    rw [readBrackets_succ, bind_eq_ok] at h
    obtain ⟨⟨a, mid⟩, hstep, h⟩ := h
    have hmid := suffix_bracketStep hstep
    cases a with
    | inl part' =>
      obtain ⟨-, rfl⟩ := Prod.mk.inj (Except.ok.inj h)
      exact hmid
    | inr open' => exact (suffix_readBrackets h).trans hmid

theorem suffix_readClass {cs rest : List Char} {part : ClassPart}
    (h : readClass m cs = .ok (part, rest)) : rest <:+ cs := by
  rw [readClass, bind_eq_ok] at h
  obtain ⟨⟨b, mid⟩, hopen, h⟩ := h
  exact (suffix_readBrackets h).trans (suffix_openBracket hopen)

/-! ### Groups -/

/-- Flags are quiet, and so is the colon after them; only the bracket that may stand there instead
is not. -/
theorem past_readFlags : ∀ {m : Mode} {on last : Bool} {seen cs : List Char} {g : Mode.FlagGroup},
    m.readFlags on last seen cs = .ok g →
      ∃ taken, cs = taken ++ (if g.opens then ':' else ')') :: g.rest ∧ ∀ c ∈ taken, Quiet c
  | _, _, _, _, [], _, h => by simp [Mode.readFlags] at h
  | m, on, last, seen, c :: cs, g, h => by
    simp only [Mode.readFlags] at h
    split_ifs at h with hend hlast hhyphen hon hseen
    · obtain rfl := Except.ok.inj h
      refine ⟨[], ?_, by simp⟩
      rcases (Bool.or_eq_true_iff.1 hend).imp beq_iff_eq.1 beq_iff_eq.1 with rfl | rfl <;> rfl
    · obtain ⟨taken, rfl, hquiet⟩ := past_readFlags h
      refine ⟨c :: taken, rfl, List.forall_mem_cons.2 ⟨?_, hquiet⟩⟩
      rw [beq_iff_eq.1 hhyphen]
      decide
    · split at h
      next m' hset =>
        obtain ⟨taken, rfl, hquiet⟩ := past_readFlags h
        refine ⟨c :: taken, rfl, List.forall_mem_cons.2 ⟨fun hsign => ?_, hquiet⟩⟩
        have hsigns : ∀ c ∈ ['\\', '[', '(', ')'], m.set? c on = none := by simp [Mode.set?]
        simp [hsigns c hsign] at hset
      · simp at h

/-- The name of a group has no brackets that are round, and no backslashes. -/
theorem past_readGroupName {cs rest : List Char} {name : String}
    (h : readGroupName cs = .ok (name, rest)) :
    ∃ taken, cs = taken ++ rest ∧ ('[' ∉ taken → ∀ c ∈ taken, Quiet c) := by
  unfold readGroupName at h
  split at h
  next c ds d rest' htake hdrop =>
    split at h
    next hname =>
      obtain ⟨-, rfl⟩ := Prod.mk.inj (Except.ok.inj h)
      have hd : d = '>' := by
        have hne : cs.dropWhile (· != '>') ≠ [] := by simp [hdrop]
        have hnot := List.head_dropWhile_not (· != '>') hne
        simpa [hdrop] using hnot
      subst hd
      have hcs : cs = c :: ds ++ ['>'] ++ rest' := by
        rw [List.append_assoc, List.singleton_append, ← htake, ← hdrop,
          List.takeWhile_append_dropWhile]
      refine ⟨c :: ds ++ ['>'], hcs, fun hbracket => ?_⟩
      obtain ⟨hc, hds⟩ := Bool.and_eq_true_iff.1 hname
      have hfirst : Quiet c := quiet_of_test (by decide +kernel) hc
      refine List.forall_mem_append.2 ⟨List.forall_mem_cons.2 ⟨hfirst, fun e he => ?_⟩,
        quiet_of_all (by decide)⟩
      have hletter : isNameChar false e = true := List.all_eq_true.1 hds e he
      have hopen : e ≠ '[' := by
        rintro rfl
        exact hbracket (List.mem_append_left _ (.tail _ he))
      have htest : (isNameChar false e && e != '[') = true := by simp [hletter, hopen]
      exact quiet_of_test (p := fun c => isNameChar false c && c != '[') (by decide +kernel) htest
    · simp at h
  · simp at h

end

end Routing.Regex
