import Routing.Json.Decode
import Routing.Proofs.Dict
import Routing.Proofs.Outcome

/-!
The values that documents denote. Of several members with one name the last one counts, within every
object of a document, and nothing else that is said there is lost.

    {"a": 1, "b": [2], "a": 3}   denotes   {"a": 3, "b": [2]}

A document denotes at most one value. What is decoded from it is this one: the decoder goes through
the members from left to right, and what it has gathered so far are the members that the part of the
object before that point denotes.
-/

namespace Routing.Json

/-- Objects that are entries of the dictionary have their own members in ascending order, too. -/
def Orderly (d : Dict Value) : Prop :=
  ∀ name ms, d.get? name = some (.object ms) → Ascending ms

namespace Tree

/-- The last member with this name. -/
def last? (name : String) (members : List (Option String × Tree)) : Option Tree :=
  members.reverse.lookup (some name)

/-- The document denotes the value. A member whose name is no text says nothing; a document that has
one is not decoded. -/
inductive Denotes : Tree → Value → Prop
  | null : Denotes null .null
  | bool (b : Bool) : Denotes (bool b) (.bool b)
  | number {n : Numeral} {m : Number} : n.toNumber? = some m → Denotes (number n) (.number m)
  | text (s : String) : Denotes (text (some s)) (.text s)
  | array {items : List Tree} {vs : List Value} : List.Forall₂ Denotes items vs →
      Denotes (array items) (.array vs)
  | object {members : List (Option String × Tree)} {d : Dict Value} :
      (∀ name, Option.Rel Denotes (last? name members) (d.get? name)) →
      Denotes (object members) (.object d.entries)

/-- The members denote the entries of the dictionary. -/
def Gathers (members : List (Option String × Tree)) (d : Dict Value) : Prop :=
  ∀ name, Option.Rel Denotes (last? name members) (d.get? name)

theorem last?_concat (name key : String) (t : Tree) (members : List (Option String × Tree)) :
    last? name (members ++ [(some key, t)]) =
      if key = name then some t else last? name members := by
  unfold last?
  rw [List.reverse_concat, List.lookup_cons]
  by_cases h : key = name
  · simp [h]
  · simp [h, beq_eq_false_iff_ne.2 (Ne.symm h)]

theorem mem_of_last? {name : String} {t : Tree} {members : List (Option String × Tree)}
    (h : last? name members = some t) : (some name, t) ∈ members := by
  obtain ⟨before, after, heq, -⟩ := List.lookup_eq_some_iff.1 h
  rw [← List.mem_reverse, heq]
  simp

theorem gathers_nil : Gathers [] .empty := fun _ => .none

/-- One more member replaces an earlier one of its name. -/
theorem Gathers.concat {members : List (Option String × Tree)} {d : Dict Value} {key : String}
    {t : Tree} {v : Value} (h : Gathers members d) (ht : t.Denotes v) :
    Gathers (members ++ [(some key, t)]) (d.insert key v) := by
  intro name
  rw [last?_concat, Dict.get?_insert]
  split
  · exact .some ht
  · exact h name

mutual

/-- What is decoded from a document is what it denotes. -/
theorem denotes_of_toValue : ∀ {t : Tree} {depth : Nat} {v : Value},
    t.toValue depth = .ok v → t.Denotes v
  | .broken, _, _, h => by simp [toValue] at h
  | .null, _, _, h => by
    obtain rfl := Except.ok.inj h
    exact .null
  | .bool b, _, _, h => by
    obtain rfl := Except.ok.inj h
    exact .bool b
  | .number n, _, _, h => by
    unfold toValue at h
    split at h
    next m hm =>
      obtain rfl := Except.ok.inj h
      exact .number hm
    · simp at h
  | .text (some s), _, _, h => by
    obtain rfl := Except.ok.inj h
    exact .text s
  | .text none, _, _, h => by simp [toValue] at h
  | .array items, _, _, h => by
    unfold toValue at h
    split at h
    · simp at h
    · obtain ⟨vs, hvs, h⟩ := bind_eq_ok.1 h
      obtain rfl := Except.ok.inj h
      exact .array (denotes_of_toValues hvs)
  | .object members, _, _, h => by
    unfold toValue at h
    split at h
    · simp at h
    · obtain ⟨ms, hms, h⟩ := bind_eq_ok.1 h
      obtain rfl := Except.ok.inj h
      obtain ⟨d, rfl, hd⟩ := gathers_of_toMembers gathers_nil hms
      exact .object hd

theorem denotes_of_toValues : ∀ {ts : List Tree} {depth : Nat} {vs : List Value},
    toValues depth ts = .ok vs → List.Forall₂ Denotes ts vs
  | [], _, _, h => by
    obtain rfl := Except.ok.inj h
    exact .nil
  | t :: ts, _, _, h => by
    unfold toValues at h
    obtain ⟨v, hv, h⟩ := bind_eq_ok.1 h
    obtain ⟨vs, hvs, h⟩ := bind_eq_ok.1 h
    obtain rfl := Except.ok.inj h
    exact .cons (denotes_of_toValue hv) (denotes_of_toValues hvs)

theorem gathers_of_toMembers : ∀ {members before : List (Option String × Tree)} {d : Dict Value}
    {depth : Nat} {ms : List (String × Value)}, Gathers before d →
    toMembers depth d.entries members = .ok ms →
    ∃ e : Dict Value, ms = e.entries ∧ Gathers (before ++ members) e
  | [], before, d, _, _, hbefore, h => by
    obtain rfl := Except.ok.inj h
    exact ⟨d, rfl, (List.append_nil before).symm ▸ hbefore⟩
  | (none, _) :: _, _, _, _, _, _, h => by simp [toMembers] at h
  | (some name, t) :: members, before, d, _, _, hbefore, h => by
    unfold toMembers at h
    obtain ⟨v, hv, h⟩ := bind_eq_ok.1 h
    have hstep : Gathers (before ++ [(some name, t)]) (d.insert name v) :=
      hbefore.concat (denotes_of_toValue hv)
    obtain ⟨e, heq, he⟩ := gathers_of_toMembers hstep h
    exact ⟨e, heq, List.append_cons before _ members ▸ he⟩

end

/-- Only an object denotes an object. -/
theorem Denotes.exists_dict {t : Tree} {ms : List (String × Value)} (h : t.Denotes (.object ms)) :
    ∃ members d, t = .object members ∧ ms = Dict.entries d ∧ Gathers members d := by
  generalize heq : Value.object ms = v at h
  cases h with
  | @object members d hd => exact ⟨members, d, rfl, Value.object.inj heq, hd⟩
  | null | bool _ | number _ | text _ | array _ => cases heq

theorem Gathers.orderly {members : List (Option String × Tree)} {d : Dict Value}
    (h : Gathers members d) : Orderly d := by
  intro name ms hget
  have hname := h name
  rw [hget] at hname
  generalize last? name members = found at hname
  obtain @⟨t, _, ht⟩ := hname
  obtain ⟨_, e, -, rfl, -⟩ := ht.exists_dict
  exact e.ascending

/-- Lists of values that are denoted by the same documents are the same, if each document denotes
only one value. -/
theorem forall₂_unique : ∀ {items : List Tree} {vs ws : List Value},
    (∀ t ∈ items, ∀ v w, t.Denotes v → t.Denotes w → v = w) →
    List.Forall₂ Denotes items vs → List.Forall₂ Denotes items ws → vs = ws
  | [], _, _, _, .nil, .nil => rfl
  | t :: _, _, _, h, .cons hv hvs, .cons hw hws => by
    obtain ⟨ht, hitems⟩ := List.forall_mem_cons.1 h
    rw [ht _ _ hv hw, forall₂_unique hitems hvs hws]

/-- A document denotes no more than one value. -/
theorem Denotes.unique : ∀ {t : Tree} {v w : Value}, t.Denotes v → t.Denotes w → v = w
  | _, _, _, .null, .null => rfl
  | _, _, _, .bool _, .bool _ => rfl
  | _, _, _, .number hm, .number hm' => by rw [Option.some.inj (hm.symm.trans hm')]
  | _, _, _, .text _, .text _ => rfl
  | .array items, _, _, .array hvs, .array hws => by
    have hitems : ∀ t ∈ items, ∀ v w, t.Denotes v → t.Denotes w → v = w :=
      fun t ht v w => Denotes.unique
    rw [forall₂_unique hitems hvs hws]
  | .object members, _, _, @object _ d hd, @object _ e he => by
    -- Both values have under a name what the last member of it denotes.
    have hsame : ∀ name, d.get? name = e.get? name := by
      intro name
      have hdname := hd name
      have hename := he name
      generalize d.get? name = v at hdname ⊢
      generalize e.get? name = w at hename ⊢
      generalize hlast : last? name members = found at hdname hename
      cases hdname with
      | none =>
        cases hename
        rfl
      | @some t v hv =>
        obtain @⟨_, w, hw⟩ := hename
        have hmem : (some name, t) ∈ members := mem_of_last? hlast
        exact congrArg some (Denotes.unique hv hw)
    rw [Dict.ext_get? hsame]
termination_by t => t
decreasing_by
  · have hlt := List.sizeOf_lt_of_mem ht
    simp only [array.sizeOf_spec]
    omega
  · have hlt := List.sizeOf_lt_of_mem hmem
    simp only [Prod.mk.sizeOf_spec] at hlt
    simp only [object.sizeOf_spec]
    omega

end Tree

end Routing.Json
