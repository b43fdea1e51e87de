import Routing.Definition
import Routing.Proofs.Bytes
import Routing.Proofs.Json.Decoding

/-!
Keys of definitions. The bytes that are hashed for a list of definitions are those of no other list,
since the text of each definition says itself where it ends: reading it as a document gives the
definition and leaves what follows.

    {"pattern":"blog",…}{"name":"admin",…}      read once: the first definition, and the second
                                                is left

So two lists of definitions have the same key only if the hash function collides on them.
-/

namespace Routing

open Json

/-! ### Texts that say where they end -/

/-- A value whose text starts with that of another one is the other one, if they are no numbers. -/
theorem Json.ofValue_eq_of_start {v w : Value} (hv : v.exact) (hw : w.exact)
    (hnumber : v.isNumber = false) (hnumber' : w.isNumber = false) (h : v.chars <+: w.chars) :
    Tree.ofValue v = Tree.ofValue w := by
  obtain ⟨more, hmore⟩ := h
  have hshort : v.chars.length ≤ w.chars.length := by
    rw [← hmore, List.length_append]
    exact Nat.le_add_right _ _
  have hread := Tree.readValue_chars v w.chars.length more hv hshort (by simp [hnumber])
  have hread' := Tree.readValue_chars w w.chars.length [] hw (Nat.le_refl _) (by simp [hnumber'])
  rw [List.append_nil] at hread'
  rw [hmore, hread'] at hread
  exact (congrArg Prod.fst hread).symm

namespace RouteDefinition

theorem exact_toJson (d : RouteDefinition) : d.toJson.exact := by
  cases hname : d.name <;>
    simp [toJson, hname, Value.exact, Value.membersExact, exact_ofTexts]

theorem recalls_toText? (name : String) :
    Recalls (fun _ => Tree.toText?) (.text name) (some name) := fun _ => rfl

/-- A definition is read back. A name that is left out is missing. -/
theorem recalls_decode (d : RouteDefinition) : Recalls decode d.toJson d := by
  obtain ⟨name, pattern, defaults, constraints⟩ := d
  cases name with
  | none =>
    refine Recalls.bind (a := ⟨none, some pattern, some defaults, some constraints⟩)
      (recalls_toRecord ?_ (by simp)) rfl
    refine .cons (.bind (recalls_text pattern).once rfl) ?_
    refine .cons (.bind (recalls_toTexts defaults).once rfl) ?_
    exact .cons (.bind (recalls_toTexts constraints).once rfl) .nil
  | some name =>
    refine Recalls.bind (a := ⟨some (some name), some pattern, some defaults, some constraints⟩)
      (recalls_toRecord ?_ (by simp)) rfl
    refine .cons (.bind (recalls_toText? name).once rfl) ?_
    refine .cons (.bind (recalls_text pattern).once rfl) ?_
    refine .cons (.bind (recalls_toTexts defaults).once rfl) ?_
    exact .cons (.bind (recalls_toTexts constraints).once rfl) .nil

/-- Of two definitions whose texts agree as far as both go, one is the other. -/
theorem eq_of_text {d e : RouteDefinition} {r s : List UInt8}
    (h : Bytes.ofText d.toJson.write ++ r = Bytes.ofText e.toJson.write ++ s) : d = e := by
  rw [Value.write, Value.write, Bytes.ofText_ofList, Bytes.ofText_ofList] at h
  have htree : Tree.ofValue d.toJson = Tree.ofValue e.toJson := by
    rcases Bytes.prefixFree_utf8.comparable h with h | h
    · exact ofValue_eq_of_start d.exact_toJson e.exact_toJson rfl rfl h
    · exact (ofValue_eq_of_start e.exact_toJson d.exact_toJson rfl rfl h).symm
  exact d.recalls_decode.eq_of_ofValue e.recalls_decode htree

/-- The bytes of a definition end where they end. -/
theorem prefixFree_keyBytes : Bytes.PrefixFree keyBytes := by
  intro d e r s h
  have htexts : Bytes.ofText d.toJson.write ++ r = Bytes.ofText e.toJson.write ++ s := by
    rw [keyBytes, keyBytes, List.append_assoc, List.append_assoc] at h
    exact (List.append_inj h rfl).2
  obtain rfl := eq_of_text htexts
  exact ⟨rfl, List.append_cancel_left h⟩

end RouteDefinition

/-- Definitions are given by the bytes that are hashed for them. -/
theorem keyBytes_injective : Function.Injective keyBytes :=
  RouteDefinition.prefixFree_keyBytes.flatMap_injective fun d => by
    simp [RouteDefinition.keyBytes, Bytes.littleEndian]

theorem hash_of_keyOf {ds ds' : List RouteDefinition} (h : keyOf ds = keyOf ds') :
    Bytes.Sha256.hash (keyBytes ds) = Bytes.Sha256.hash (keyBytes ds') :=
  Bytes.hex_injective h

/-- The bytes that are hashed are the same for the same definitions in the same order, and for no
others: no name, missing or not, no pattern, no default and no constraint may change, and no
definition may begin elsewhere. So the key tells definitions apart unless the hash function
collides on them. -/
theorem keyBytes_eq_iff :
    (∀ ds ds' : List RouteDefinition, keyBytes ds = keyBytes ds' ↔ ds = ds') ∧
      ∀ ds ds' : List RouteDefinition, keyOf ds = keyOf ds' ↔
        ds = ds' ∨ keyBytes ds ≠ keyBytes ds' ∧
          Bytes.Sha256.hash (keyBytes ds) = Bytes.Sha256.hash (keyBytes ds') := by
  have hbytes : ∀ ds ds' : List RouteDefinition, keyBytes ds = keyBytes ds' ↔ ds = ds' :=
    fun _ _ => keyBytes_injective.eq_iff
  refine ⟨hbytes, fun ds ds' => ⟨fun hkey => ?_, ?_⟩⟩
  · have hhash := hash_of_keyOf hkey
    by_cases heq : keyBytes ds = keyBytes ds'
    · exact .inl ((hbytes ds ds').1 heq)
    · exact .inr ⟨heq, hhash⟩
  · rintro (rfl | ⟨-, hhash⟩)
    · rfl
    · rw [keyOf, keyOf, hhash]

end Routing
