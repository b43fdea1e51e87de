import Routing.Json.Decode
import Routing.Proofs.Outcome

/-!
What holds of everything that is decoded. A record is filled field by field, so what every field
keeps holds of the record in the end, whatever the document is. Likewise two decoders that treat
every field in the same way have the same outcome for every document: the same fault, or results
that belong together.

    decode 0 text      a table with routes 0, 1, 2
    decode 7 text      the same table with routes 7, 8, 9
-/

namespace Routing.Json

section
variable {α β σ τ : Type}

/-! ### Decoders side by side -/

/-- Fields that are filled in the same way make records that are filled in the same way. -/
theorem both_toRecord {R : σ → τ → Prop} {names : List String}
    {field : Nat → σ → String → Tree → Decoded σ} {field' : Nat → τ → String → Tree → Decoded τ}
    (hfield : ∀ depth name t s s', R s s' → Both R (field depth s name t) (field' depth s' name t))
    {start : σ} {start' : τ} (hstart : R start start') (depth : Nat) (t : Tree) :
    Both R (t.toRecord names field start depth) (t.toRecord names field' start' depth) := by
  unfold Tree.toRecord
  split
  next depth members =>
    refine Both.foldlM (fun m s s' h => ?_) members hstart
    obtain ⟨name, t⟩ := m
    cases name with
    | none => exact .error _
    | some name =>
      dsimp only
      split
      · exact hfield depth name t s s' h
      · split
        · exact .ok h
        · exact .error _
  next depth items =>
    refine (Both.foldlM (fun m s s' h => hfield depth m.1 m.2 s s' h) _ hstart).bind
      fun s s' h => ?_
    split
    · exact .ok h
    · exact .error _
  · exact .error _

theorem both_once {R : α → β → Prop} {old : Option α} {old' : Option β}
    (hold : Option.Rel R old old') {read : Decoded α} {read' : Decoded β}
    (hread : Both R read read') :
    Both (Option.Rel R) (Tree.once old read) (Tree.once old' read') := by
  cases hold with
  | some _ => exact .error _
  | none =>
    cases hread with
    | ok h => exact .ok (.some h)
    | error e => exact .error e

theorem both_needed {R : α → β → Prop} {o : Option α} {o' : Option β} (h : Option.Rel R o o') :
    Both R (Tree.needed o) (Tree.needed o') := by
  cases h with
  | some h => exact .ok h
  | none => exact .error _

/-- Decoders that go through every tree in the same way decode every text in the same way. -/
theorem both_decode {R : α → β → Prop} {decoder : Nat → Tree → Decoded α}
    {decoder' : Nat → Tree → Decoded β}
    (h : ∀ depth t, Both R (decoder depth t) (decoder' depth t)) (text : String) :
    Both R (decode decoder text) (decode decoder' text) := by
  unfold decode
  rcases Tree.ofText text with ⟨tree, ended⟩
  refine (h maxDepth tree).bind fun a b hab => ?_
  cases ended with
  | true => exact .ok hab
  | false => exact .error _

/-! ### What is kept -/

/-- What every field keeps holds of the record. -/
theorem toRecord_keeps {P : σ → Prop} {names : List String}
    {field : Nat → σ → String → Tree → Decoded σ}
    (hfield : ∀ depth name t s s', P s → field depth s name t = .ok s' → P s') {start s : σ}
    (hstart : P start) {depth : Nat} {t : Tree} (h : t.toRecord names field start depth = .ok s) :
    P s := by
  have hkeep : ∀ depth name t s s', s = s' ∧ P s →
      Both (fun a b => a = b ∧ P a) (field depth s name t) (field depth s' name t) := by
    rintro depth name t s _ ⟨rfl, hs⟩
    cases hread : field depth s name t with
    | ok s' => exact .ok ⟨rfl, hfield depth name t s s' hs hread⟩
    | error e => exact .error e
  have hboth : Both (fun a b => a = b ∧ P a) (t.toRecord names field start depth)
      (t.toRecord names field start depth) := both_toRecord hkeep ⟨rfl, hstart⟩ depth t
  rw [h] at hboth
  cases hboth with
  | ok hs => exact hs.2

/-- Every item of a list has been decoded. -/
theorem exists_of_toList {item : Nat → Tree → Decoded α} {depth : Nat} {t : Tree} {as : List α}
    (h : t.toList depth item = .ok as) {a : α} (ha : a ∈ as) :
    ∃ depth t, item depth t = .ok a := by
  unfold Tree.toList at h
  split at h
  next depth items =>
    obtain ⟨t, ht⟩ := exists_of_forall₂ (forall₂_of_mapM h).flip ha
    exact ⟨depth, t, ht⟩
  · simp at h

/-- Each step of steps that have all succeeded has succeeded. -/
theorem exists_of_foldlM {ι : Type} {f : σ → ι → Decoded σ} : ∀ {is : List ι} {s s' : σ},
    is.foldlM f s = .ok s' → ∀ i ∈ is, ∃ u u', f u i = .ok u'
  | [], _, _, _, i, hi => absurd hi List.not_mem_nil
  | j :: is, s, s', h, i, hi => by
    rw [List.foldlM_cons] at h
    obtain ⟨u, hu, h⟩ := bind_eq_ok.1 h
    rcases List.mem_cons.1 hi with rfl | hi
    · exact ⟨s, u, hu⟩
    · exact exists_of_foldlM h i hi

/-- The tree of a field of a record: a member of its name, or the item in its place. -/
inductive Tree.Field (names : List String) (name : String) : Tree → Tree → Prop
  | member {members t} : (some name, t) ∈ members → Field names name (.object members) t
  | item {items t} : (name, t) ∈ names.zip items → Field names name (.array items) t

/-- If a record is read, so is each of its fields. -/
theorem Tree.Field.exists_of_toRecord {names : List String} {name : String} {t v : Tree}
    (hv : Field names name t v) (hname : name ∈ names)
    {field : Nat → σ → String → Tree → Decoded σ} {start s : σ} {depth : Nat}
    (h : t.toRecord names field start depth = .ok s) :
    ∃ depth u u', field depth u name v = .ok u' := by
  unfold Tree.toRecord at h
  cases hv with
  | member hmem =>
    split at h
    next depth _ heq =>
      cases heq
      obtain ⟨u, u', hread⟩ := exists_of_foldlM h _ hmem
      exact ⟨depth, u, u', by simpa [hname] using hread⟩
    next heq => cases heq
    · simp at h
  | item hmem =>
    split at h
    next heq => cases heq
    next depth _ heq =>
      cases heq
      obtain ⟨_, hfold, -⟩ := bind_eq_ok.1 h
      exact ⟨depth, exists_of_foldlM hfold _ hmem⟩
    · simp at h

/-- If a list is read, so is each of its items. -/
theorem exists_of_mem_items {item : Nat → Tree → Decoded α} {depth : Nat} {items : List Tree}
    {as : List α} (h : (Tree.array items).toList depth item = .ok as) {v : Tree}
    (hv : v ∈ items) : ∃ depth a, item depth v = .ok a := by
  unfold Tree.toList at h
  split at h
  next depth _ heq =>
    cases heq
    exact ⟨depth, exists_of_forall₂ (forall₂_of_mapM h) hv⟩
  · simp at h

/-- What a text is decoded to is decoded from its tree. -/
theorem of_decode {decoder : Nat → Tree → Decoded α} {text : String} {a : α}
    (h : decode decoder text = .ok a) : decoder maxDepth (Tree.ofText text).1 = .ok a := by
  unfold decode at h
  generalize Tree.ofText text = read at h ⊢
  obtain ⟨b, hb, h⟩ := bind_eq_ok.1 h
  split at h
  · exact Except.ok.inj h ▸ hb
  · simp at h

theorem once_eq_ok {old new : Option α} {read : Decoded α} (h : Tree.once old read = .ok new) :
    ∃ a, read = .ok a ∧ new = some a := by
  unfold Tree.once at h
  split at h
  · simp at h
  · obtain ⟨a, ha, rfl⟩ := map_eq_ok.1 h
    exact ⟨a, ha, rfl⟩

theorem needed_eq_ok {o : Option α} {a : α} : Tree.needed o = .ok a ↔ o = some a := by
  cases o <;> simp [Tree.needed]

end

end Routing.Json
