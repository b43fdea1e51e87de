import Mathlib.Data.List.Forall2

/-!
Computations that may fail. One that has succeeded can be taken apart.
-/

namespace Routing

section
variable {ε α β : Type}

/-- If a computation succeeds, so do its parts. -/
theorem bind_eq_ok {x : Except ε α} {f : α → Except ε β} {b : β} :
    x >>= f = .ok b ↔ ∃ a, x = .ok a ∧ f a = .ok b := by
  cases x with
  | error e => exact ⟨fun h => (nomatch h), fun ⟨_, h, _⟩ => (nomatch h)⟩
  | ok a => exact ⟨fun h => ⟨a, rfl, h⟩, fun ⟨_, h, hf⟩ => Except.ok.inj h ▸ hf⟩

theorem map_eq_ok {x : Except ε α} {f : α → β} {b : β} :
    x.map f = .ok b ↔ ∃ a, x = .ok a ∧ f a = b := by
  cases x with
  | error e => exact ⟨fun h => (nomatch h), fun ⟨_, h, _⟩ => (nomatch h)⟩
  | ok a => exact ⟨fun h => ⟨a, rfl, Except.ok.inj h⟩, fun ⟨_, h, hf⟩ => Except.ok.inj h ▸ hf ▸ rfl⟩

/-- If a computation fails, its first part does, or what is done with the result of it. -/
theorem bind_eq_error {x : Except ε α} {f : α → Except ε β} {e : ε} :
    x >>= f = .error e ↔ x = .error e ∨ ∃ a, x = .ok a ∧ f a = .error e := by
  cases x <;> simp [bind, Except.bind]

theorem map_eq_error {x : Except ε α} {f : α → β} {e : ε} :
    x.map f = .error e ↔ x = .error e := by
  cases x <;> simp [Except.map]

theorem bind_pure_eq_error {x : Except ε α} {f : α → β} {e : ε} :
    (x >>= fun a => pure (f a)) = .error e ↔ x = .error e := by
  cases x <;> simp [bind, Except.bind, pure, Except.pure]

theorem pure_eq_ok {a b : α} : (pure a : Except ε α) = .ok b ↔ a = b :=
  ⟨Except.ok.inj, congrArg _⟩

instance decidableExistsOk (x : Except ε α) : Decidable (∃ a, x = .ok a) :=
  match x with
  | .ok a => isTrue ⟨a, rfl⟩
  | .error _ => isFalse (by simp)

instance decidableExistsOkAnd (x : Except ε α) (P : α → Prop) [DecidablePred P] :
    Decidable (∃ a, x = .ok a ∧ P a) :=
  match x with
  | .ok a => decidable_of_iff (P a) (by simp)
  | .error _ => isFalse (by simp)

instance decidableForallOk (x : Except ε α) (P : α → Prop) [DecidablePred P] :
    Decidable (∀ a, x = .ok a → P a) :=
  match x with
  | .ok a => decidable_of_iff (P a) (by simp)
  | .error _ => isTrue (by simp)

end

/-- A map succeeds if it does on every element. -/
theorem forall₂_of_mapM {ε α β : Type} {f : α → Except ε β} : ∀ {as : List α} {bs : List β},
    as.mapM f = .ok bs → List.Forall₂ (fun a b => f a = .ok b) as bs
  | [], bs, h => by
    obtain rfl := Except.ok.inj h
    exact .nil
  | a :: as, bs, h => by
    rw [List.mapM_cons] at h
    obtain ⟨b, hb, h⟩ := bind_eq_ok.1 h
    obtain ⟨bs', hbs, h⟩ := bind_eq_ok.1 h
    obtain rfl := Except.ok.inj h
    exact .cons hb (forall₂_of_mapM hbs)

theorem mapM_of_forall₂ {ε α β : Type} {f : α → Except ε β} {as : List α} {bs : List β}
    (h : List.Forall₂ (fun a b => f a = .ok b) as bs) : as.mapM f = .ok bs := by
  induction h with
  | nil => rfl
  | cons hab _ ih =>
    rw [List.mapM_cons, hab, ih]
    rfl

section
variable {ε α σ : Type} {f : σ → α → Except ε σ}

theorem foldlM_cons_eq_ok {a : α} {as : List α} {s s' : σ} :
    (a :: as).foldlM f s = .ok s' ↔ ∃ mid, f s a = .ok mid ∧ as.foldlM f mid = .ok s' := by
  rw [List.foldlM_cons, bind_eq_ok]

theorem foldlM_append_eq_ok {as bs : List α} {s s' : σ} :
    (as ++ bs).foldlM f s = .ok s' ↔ ∃ mid, as.foldlM f s = .ok mid ∧ bs.foldlM f mid = .ok s' := by
  rw [List.foldlM_append, bind_eq_ok]

theorem foldlM_singleton_eq_ok {a : α} {s s' : σ} :
    [a].foldlM f s = .ok s' ↔ f s a = .ok s' := by
  simp

/-- A run fails at the first element whose step fails. -/
theorem foldlM_eq_error {e : ε} : ∀ {as : List α} {s : σ}, as.foldlM f s = .error e ↔
    ∃ before a rest mid, as = before ++ a :: rest ∧ before.foldlM f s = .ok mid ∧
      f mid a = .error e
  | [], s => by simp [pure, Except.pure]
  | a :: as, s => by
    rw [List.foldlM_cons, bind_eq_error]
    constructor
    · rintro (h | ⟨mid, hmid, h⟩)
      · exact ⟨[], a, as, s, rfl, rfl, h⟩
      · obtain ⟨before, b, rest, last, rfl, hlast, h⟩ := foldlM_eq_error.1 h
        exact ⟨a :: before, b, rest, last, rfl, foldlM_cons_eq_ok.2 ⟨mid, hmid, hlast⟩, h⟩
    · rintro ⟨before, b, rest, last, heq, hlast, h⟩
      cases before with
      | nil =>
        obtain ⟨rfl, rfl⟩ := List.cons.inj heq
        obtain rfl := Except.ok.inj hlast
        exact .inl h
      | cons a' before =>
        obtain ⟨rfl, rfl⟩ := List.cons.inj heq
        obtain ⟨mid, hmid, hlast⟩ := foldlM_cons_eq_ok.1 hlast
        exact .inr ⟨mid, hmid, foldlM_eq_error.2 ⟨before, b, rest, last, rfl, hlast, h⟩⟩

/-- What every step keeps, a whole run keeps. The elements that were taken may be spoken of. -/
theorem foldlM_keeps {P : List α → σ → Prop}
    (hstep : ∀ {taken s a s'}, P taken s → f s a = .ok s' → P (taken ++ [a]) s') :
    ∀ {as taken : List α} {s s' : σ}, P taken s → as.foldlM f s = .ok s' → P (taken ++ as) s'
  | [], taken, s, s', h, hs => by
    obtain rfl := Except.ok.inj hs
    rwa [List.append_nil]
  | a :: as, taken, s, s', h, hs => by
    obtain ⟨mid, hmid, hs⟩ := foldlM_cons_eq_ok.1 hs
    rw [List.append_cons]
    exact foldlM_keeps hstep (hstep h hmid) hs

end

section
variable {ε α : Type} {f : α → Except ε Unit}

theorem forM_eq_foldlM (as : List α) : forM as f = as.foldlM (fun _ a => f a) () := by
  induction as with
  | nil => rfl
  | cons a as ih => rw [List.forM_cons, List.foldlM_cons, ih]

theorem forM_eq_ok {as : List α} : forM as f = .ok () ↔ ∀ a ∈ as, f a = .ok () := by
  induction as with
  | nil => simp [pure, Except.pure]
  | cons a as ih =>
    rw [List.forall_mem_cons, ← ih, List.forM_cons, bind_eq_ok]
    exact ⟨fun ⟨(), ha, has⟩ => ⟨ha, has⟩, fun ⟨ha, has⟩ => ⟨(), ha, has⟩⟩

/-- What is done with one element after another fails at the first one with which it does. -/
theorem forM_eq_error {e : ε} {as : List α} : forM as f = .error e ↔
    ∃ before a rest, as = before ++ a :: rest ∧ (∀ b ∈ before, f b = .ok ()) ∧ f a = .error e := by
  rw [forM_eq_foldlM, foldlM_eq_error]
  simp only [← forM_eq_foldlM, ← forM_eq_ok]
  constructor
  · rintro ⟨before, a, rest, ⟨⟩, h⟩
    exact ⟨before, a, rest, h⟩
  · rintro ⟨before, a, rest, h⟩
    exact ⟨before, a, rest, (), h⟩

end

theorem exists_of_forall₂ {α β : Type} {R : α → β → Prop} {as : List α} {bs : List β}
    (h : List.Forall₂ R as bs) {a : α} (ha : a ∈ as) : ∃ b, R a b := by
  induction h with
  | nil => simp at ha
  | cons hab _ ih =>
    rcases List.mem_cons.1 ha with rfl | ha
    · exact ⟨_, hab⟩
    · exact ih ha

theorem getElem?_of_forall₂ {α β : Type} {R : α → β → Prop} {as : List α} {bs : List β}
    (h : List.Forall₂ R as bs) :
    ∀ {i : Nat} {b : β}, bs[i]? = some b → ∃ a, as[i]? = some a ∧ R a b := by
  induction h with
  | nil => simp
  | cons hab _ ih =>
    intro i b hb
    cases i with
    | zero => exact ⟨_, rfl, Option.some.inj hb ▸ hab⟩
    | succ i => exact ih hb

/-! ### Two computations side by side -/

/-- Two computations end in the same way: with related results, or with the same fault. -/
inductive Both {ε α β : Type} (R : α → β → Prop) : Except ε α → Except ε β → Prop
  | ok {a b} : R a b → Both R (.ok a) (.ok b)
  | error (e) : Both R (.error e) (.error e)

namespace Both

section
variable {ε α β γ δ : Type} {R : α → β → Prop} {S : γ → δ → Prop}

theorem bind {x : Except ε α} {y : Except ε β} {f : α → Except ε γ} {g : β → Except ε δ}
    (h : Both R x y) (hfg : ∀ a b, R a b → Both S (f a) (g b)) : Both S (x >>= f) (y >>= g) := by
  cases h with
  | ok hab => exact hfg _ _ hab
  | error e => exact .error e

/-- A computation ends in the same way as itself. -/
theorem refl (x : Except ε α) : Both Eq x x := by
  cases x with
  | ok a => exact .ok rfl
  | error e => exact .error e

/-- What is done with one and the same result. -/
theorem bind_self {x : Except ε α} {f : α → Except ε γ} {g : α → Except ε δ}
    (hfg : ∀ a, Both S (f a) (g a)) : Both S (x >>= f) (x >>= g) :=
  (refl x).bind fun a _ heq => heq ▸ hfg a

/-- Steps that keep a relation are taken one after another. -/
theorem foldlM {ι : Type} {f : α → ι → Except ε α} {g : β → ι → Except ε β}
    (hstep : ∀ i a b, R a b → Both R (f a i) (g b i)) :
    ∀ (is : List ι) {a : α} {b : β}, R a b → Both R (is.foldlM f a) (is.foldlM g b)
  | [], _, _, h => .ok h
  | i :: is, a, b, h => by
    rw [List.foldlM_cons, List.foldlM_cons]
    exact (hstep i a b h).bind fun _ _ => foldlM hstep is

end

end Both

end Routing
