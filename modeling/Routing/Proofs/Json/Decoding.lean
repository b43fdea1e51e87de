import Routing.Proofs.Dict
import Routing.Proofs.Json.Reading
import Routing.Proofs.Outcome

/-!
Decoders that get back what was encoded. Containers may only be nested to some depth: a value that
is nested deeper is refused as a whole, however it is made up. So a decoder that recalls values has
two outcomes for the tree of an encoded value, the value itself or a fault, and it is the nesting
that decides.

    [["a"]]   nests 2 containers      depth 2   recalled
                                      depth 1   refused

Decoders of lists and records recall what their parts do.
-/

namespace Routing.Json

namespace Value

mutual

/-- The number of containers that are nested in a value. -/
def nesting : Value → Nat
  | array items => nestingAll items + 1
  | object members => nestingMembers members + 1
  | null | bool _ | number _ | text _ => 0

/-- The number of containers that are nested in one of the values. -/
def nestingAll : List Value → Nat
  | [] => 0
  | v :: vs => max v.nesting (nestingAll vs)

/-- The number of containers that are nested in one of the members. -/
def nestingMembers : List (String × Value) → Nat
  | [] => 0
  | (_, v) :: ms => max v.nesting (nestingMembers ms)

end

mutual

/-- The value with the members of each object in ascending order of their names. -/
def tidy : Value → Value
  | array items => array (tidyAll items)
  | object members => object (tidyMembers [] members)
  | null => null
  | bool b => bool b
  | number n => number n
  | text s => text s

/-- The values, each of them tidy. -/
def tidyAll : List Value → List Value
  | [] => []
  | v :: vs => v.tidy :: tidyAll vs

/-- Members among those that have been put in their order. -/
def tidyMembers (sorted : List (String × Value)) : List (String × Value) → List (String × Value)
  | [] => sorted
  | (name, v) :: ms => tidyMembers (Dict.insertEntry name v.tidy sorted) ms

end

theorem tidyAll_eq : ∀ {vs : List Value}, (∀ v ∈ vs, v.tidy = v) → tidyAll vs = vs
  | [], _ => rfl
  | v :: vs, h => by
    obtain ⟨hv, hvs⟩ := List.forall_mem_cons.1 h
    rw [tidyAll, hv, tidyAll_eq hvs]

/-- Members that come in their order are put behind those that are there. -/
theorem tidyMembers_eq : ∀ {ms sorted : List (String × Value)}, Ascending (sorted ++ ms) →
    (∀ m ∈ ms, m.2.tidy = m.2) → tidyMembers sorted ms = sorted ++ ms
  | [], sorted, _, _ => (List.append_nil sorted).symm
  | (name, v) :: ms, sorted, hascending, h => by
    obtain ⟨hv, hms⟩ := List.forall_mem_cons.1 h
    have hbefore : ∀ e ∈ sorted, e.1 < name := fun e he =>
      (List.pairwise_append.1 hascending).2.2 e he (name, v) (.head _)
    rw [List.append_cons] at hascending ⊢
    rw [tidyMembers, hv, Dict.insertEntry_of_lt hbefore, tidyMembers_eq hascending hms]

end Value

/-- The outcome for a value that nests so many containers: it is known what the value is, if the
depth allows it. -/
def within {α : Type} (nesting depth : Nat) (a : α) : Decoded α :=
  if nesting ≤ depth then .ok a else .error .malformed

/-- The decoder gets back what the value was made of, unless it is nested too deep. -/
def Recalls {α : Type} (decoder : Nat → Tree → Decoded α) (v : Value) (a : α) : Prop :=
  ∀ depth, decoder depth (Tree.ofValue v) = within v.nesting depth a

section
variable {α β σ : Type}

theorem within_bind {nesting nesting' depth : Nat} {a : α} {b : β} {f : α → Decoded β}
    (h : f a = within nesting' depth b) :
    (within nesting depth a >>= f) = within (max nesting nesting') depth b := by
  by_cases hn : nesting ≤ depth
  · have hmax : max nesting nesting' ≤ depth ↔ nesting' ≤ depth := by omega
    rw [within, if_pos hn, within]
    simp only [hmax]
    exact h
  · have hmax : ¬ max nesting nesting' ≤ depth := by omega
    rw [within, if_neg hn, within, if_neg hmax]
    rfl

/-- What is made of a value nests no more than the value does. -/
theorem within_bind_ok {nesting depth : Nat} {a : α} {b : β} {f : α → Decoded β}
    (h : f a = .ok b) : (within nesting depth a >>= f) = within nesting depth b := by
  have hzero : f a = within 0 depth b := h
  rw [within_bind hzero, Nat.max_zero]

/-- One more container is one more level. -/
theorem within_succ (nesting depth : Nat) (a : α) :
    within (nesting + 1) (depth + 1) a = within nesting depth a := by
  simp [within]

namespace Recalls

variable {decoder : Nat → Tree → Decoded α} {v : Value} {a : α}

/-- What is made of the value that is decoded. -/
theorem bind (h : Recalls decoder v a) {f : α → Decoded β} {b : β} (hf : f a = .ok b) :
    Recalls (fun depth t => decoder depth t >>= f) v b := by
  intro depth
  dsimp only
  rw [h depth, within_bind_ok hf]

/-- What a value was made of is given by the tree of the value. -/
theorem eq_of_ofValue {w : Value} {b : α} (h : Recalls decoder v a) (h' : Recalls decoder w b)
    (heq : Tree.ofValue v = Tree.ofValue w) : a = b := by
  have hread := h (max v.nesting w.nesting)
  have hread' := h' (max v.nesting w.nesting)
  rw [heq, hread', within, within, if_pos (Nat.le_max_left _ _),
    if_pos (Nat.le_max_right _ _)] at hread
  exact (Except.ok.inj hread).symm

theorem once (h : Recalls decoder v a) :
    Recalls (fun depth t => Tree.once none (decoder depth t)) v (some a) := by
  intro depth
  dsimp only
  rw [h depth]
  unfold within
  split <;> rfl

/-- A whole document is decoded if no more containers are nested than may be. -/
theorem decode_write (h : Recalls decoder v a) (hexact : v.exact) :
    decode decoder v.write = within v.nesting maxDepth a := by
  rw [Json.decode_write decoder hexact, h]

end Recalls

theorem exact_ofTexts (d : Dict String) : (Value.ofTexts d).exact := by
  refine Value.membersExact_iff.2 fun m hm => ?_
  obtain ⟨e, -, rfl⟩ := List.mem_map.1 hm
  rfl

theorem allExact_texts (ss : List String) : Value.allExact (ss.map .text) := by
  refine Value.allExact_iff.2 fun v hv => ?_
  obtain ⟨s, -, rfl⟩ := List.mem_map.1 hv
  rfl

theorem recalls_text (s : String) : Recalls (fun _ => Tree.toText) (.text s) s := fun _ => rfl

/-! ### Values -/

mutual

/-- Any value is recalled, with its members in order. -/
theorem toValue_ofValue : ∀ {v : Value}, v.exact → Recalls Tree.toValue v v.tidy
  | .null, _, _ => rfl
  | .bool _, _, _ => rfl
  | .number (.whole n), hexact, _ => by
    simp only [Value.exact, Bool.and_eq_true, decide_eq_true_eq] at hexact
    simp only [Tree.ofValue, Tree.toValue, Numeral.toNumber?_ofInt hexact.1 hexact.2]
    rfl
  | .text _, _, _ => rfl
  | .array items, hexact, 0 => by simp [Tree.ofValue, Tree.toValue, within, Value.nesting]
  | .array items, hexact, depth + 1 => by
    rw [Tree.ofValue, Tree.toValue, if_neg (Nat.succ_ne_zero depth), Nat.add_sub_cancel,
      toValues_ofValues hexact, Value.nesting, within_succ]
    exact within_bind_ok rfl
  | .object members, hexact, 0 => by simp [Tree.ofValue, Tree.toValue, within, Value.nesting]
  | .object members, hexact, depth + 1 => by
    rw [Tree.ofValue, Tree.toValue, if_neg (Nat.succ_ne_zero depth), Nat.add_sub_cancel,
      toMembers_ofMembers hexact, Value.nesting, within_succ]
    exact within_bind_ok rfl

theorem toValues_ofValues : ∀ {vs : List Value} {depth : Nat}, Value.allExact vs →
    Tree.toValues depth (Tree.ofValues vs) =
      within (Value.nestingAll vs) depth (Value.tidyAll vs)
  | [], _, _ => rfl
  | v :: vs, depth, hexact => by
    obtain ⟨hv, hvs⟩ := Bool.and_eq_true_iff.1 hexact
    rw [Tree.ofValues, Tree.toValues, toValue_ofValue hv, toValues_ofValues hvs, Value.nestingAll]
    exact within_bind (within_bind_ok rfl)

theorem toMembers_ofMembers : ∀ {ms sorted : List (String × Value)} {depth : Nat},
    Value.membersExact ms → Tree.toMembers depth sorted (Tree.ofMembers ms) =
      within (Value.nestingMembers ms) depth (Value.tidyMembers sorted ms)
  | [], _, _, _ => rfl
  | (name, v) :: ms, sorted, depth, hexact => by
    obtain ⟨hv, hms⟩ := Bool.and_eq_true_iff.1 hexact
    rw [Tree.ofMembers, Tree.toMembers, toValue_ofValue hv, Value.nestingMembers]
    exact within_bind (toMembers_ofMembers hms)

end

/-! ### Lists -/

/-- Trees are decoded one after another. -/
theorem mapM_ofValues {item : Nat → Tree → Decoded α} (depth : Nat) :
    ∀ {vs : List Value} {as : List α}, List.Forall₂ (Recalls item) vs as →
      (Tree.ofValues vs).mapM (item depth) = within (Value.nestingAll vs) depth as
  | [], _, .nil => rfl
  | v :: vs, a :: as, .cons h hs => by
    rw [Tree.ofValues, List.mapM_cons, h depth, Value.nestingAll]
    refine within_bind ?_
    rw [mapM_ofValues depth hs]
    exact within_bind_ok rfl

theorem recalls_toList {item : Nat → Tree → Decoded α} {vs : List Value} {as : List α}
    (h : List.Forall₂ (Recalls item) vs as) :
    Recalls (fun depth t => t.toList depth item) (.array vs) as
  | 0 => by simp [Tree.toList, within, Value.nesting]
  | depth + 1 => by
    rw [Value.nesting, within_succ]
    exact mapM_ofValues depth h

/-! ### Dictionaries -/

/-- The members are put into a dictionary, one after another. -/
theorem foldlM_toDict {item : Nat → Tree → Decoded α} (depth : Nat) :
    ∀ {ms : List (String × Value)} {entries : List (String × α)} (d : Dict α),
      List.Forall₂ (fun m e => m.1 = e.1 ∧ Recalls item m.2 e.2) ms entries →
        (Tree.ofMembers ms).foldlM (fun (d : Dict α) (m : Option String × Tree) =>
          match m.1 with
          | none => .error .malformed
          | some name => do return d.insert name (← item depth m.2)) d =
            within (Value.nestingMembers ms) depth (d.putAll entries)
  | [], _, _, .nil => rfl
  | (name, v) :: ms, (_, a) :: entries, d, .cons ⟨rfl, h⟩ hs => by
    have hput : (do return d.insert name (← item depth (Tree.ofValue v))) =
        within v.nesting depth (d.insert name a) := by
      rw [h depth]
      exact within_bind_ok rfl
    rw [Tree.ofMembers, List.foldlM_cons, Value.nestingMembers]
    dsimp only
    rw [hput]
    exact within_bind (foldlM_toDict depth (d.insert name a) hs)

/-- A dictionary is recalled if its values are. -/
theorem recalls_toDict {item : Nat → Tree → Decoded α} {ms : List (String × Value)} {d : Dict α}
    (h : List.Forall₂ (fun m e => m.1 = e.1 ∧ Recalls item m.2 e.2) ms d.entries) :
    Recalls (fun depth t => t.toDict depth item) (.object ms) d
  | 0 => by simp [Tree.toDict, within, Value.nesting]
  | depth + 1 => by
    have hread := foldlM_toDict depth .empty h
    rw [Dict.putAll_entries] at hread
    rw [Value.nesting, within_succ]
    exact hread

theorem recalls_toTexts (d : Dict String) :
    Recalls (fun depth t => t.toTexts depth) (.ofTexts d) d := by
  refine recalls_toDict (List.forall₂_map_left_iff.2 (List.forall₂_same.2 fun e _ => ?_))
  exact ⟨rfl, recalls_text e.2⟩

/-! ### Records -/

/-- Reading the members one after another fills the fields of a record. -/
inductive Fills (field : Nat → σ → String → Tree → Decoded σ) : σ → List (String × Value) → σ → Prop
  | nil {s} : Fills field s [] s
  | cons {s s' s'' name v ms} : Recalls (fun depth => field depth s name) v s' →
      Fills field s' ms s'' → Fills field s ((name, v) :: ms) s''

theorem foldlM_ofMembers {names : List String} {field : Nat → σ → String → Tree → Decoded σ}
    (depth : Nat) {s s' : σ} {ms : List (String × Value)} (h : Fills field s ms s') :
    (∀ m ∈ ms, m.1 ∈ names) →
    (Tree.ofMembers ms).foldlM (fun s (m : Option String × Tree) =>
      match m.1 with
      | none => .error .malformed
      | some name =>
        if names.contains name then field depth s name m.2
        else if m.2.complete then .ok s
        else .error .malformed) s = within (Value.nestingMembers ms) depth s' := by
  induction h with
  | nil => exact fun _ => rfl
  | @cons s s' s'' name v ms hfield _ ih =>
    intro hnames
    obtain ⟨hname, hnames⟩ := List.forall_mem_cons.1 hnames
    rw [Tree.ofMembers, List.foldlM_cons, Value.nestingMembers]
    dsimp only
    have hread : field depth s name (Tree.ofValue v) = within v.nesting depth s' := hfield depth
    rw [if_pos (List.contains_iff_mem.2 hname), hread]
    exact within_bind (ih hnames)

/-- A record whose members are all fields of it is filled by them. -/
theorem recalls_toRecord {names : List String} {field : Nat → σ → String → Tree → Decoded σ}
    {start s : σ} {ms : List (String × Value)} (h : Fills field start ms s)
    (hnames : ∀ m ∈ ms, m.1 ∈ names) :
    Recalls (fun depth t => t.toRecord names field start depth) (.object ms) s
  | 0 => by simp [Tree.toRecord, within, Value.nesting]
  | depth + 1 => by
    rw [Value.nesting, within_succ]
    exact foldlM_ofMembers depth h hnames

end

end Routing.Json
