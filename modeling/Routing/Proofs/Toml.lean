import Routing.Proofs.Json.Denoting
import Routing.Toml.Json

/-!
TOML documents as JSON values. Whatever the order of the keys of a table is, and whichever headers
they stand under, the members of the objects come out in ascending order.

    b = 1           ──▶   {"a": {"x": 3, "y": 2}, "b": 1}
    [a]
    y = 2
    x = 3
-/

namespace Routing.Toml

open Json

/-- A table stands for a text or for the object of its values. -/
theorem Members.asJson_eq_some {ms : Members} {values : Option (List (String × Value))} {v : Value}
    (h : ms.asJson values = some v) :
    (∃ s, v = .text s) ∨ ∃ members, values = some members ∧ v = .object members := by
  have hobject : values.map .object = some v →
      ∃ members, values = some members ∧ v = .object members := by
    intro h
    obtain ⟨members, hmembers, rfl⟩ := Option.map_eq_some_iff.1 h
    exact ⟨members, hmembers, rfl⟩
  unfold Members.asJson at h
  split at h
  · exact .inr (hobject h)
  · split at h
    · split at h
      · obtain ⟨s, -, rfl⟩ := Option.map_eq_some_iff.1 h
        exact .inl ⟨s, rfl⟩
      · simp at h
    · exact .inr (hobject h)

/-- The values of a table are put into their order. -/
theorem exists_dict_of_membersToJson? : ∀ {ms : List (String × Item)} {d : Dict Value}
    {members : List (String × Value)}, membersToJson? d.entries ms = some members →
    ∃ e : Dict Value, members = e.entries ∧
      ∀ name v, e.get? name = some v → d.get? name = some v ∨ ∃ i : Item, i.toJson? = some v
  | [], d, _, h => ⟨d, (Option.some.inj h).symm, fun _ _ => .inl⟩
  | (key, i) :: ms, d, members, h => by
    unfold membersToJson? at h
    obtain ⟨v, hv, h⟩ := Option.bind_eq_some_iff.1 h
    have hrest : membersToJson? (d.insert key v).entries ms = some members := h
    obtain ⟨e, rfl, he⟩ := exists_dict_of_membersToJson? hrest
    refine ⟨e, rfl, fun name w hw => ?_⟩
    rcases he name w hw with hw | hw
    · rw [Dict.get?_insert] at hw
      split at hw
      · exact .inr ⟨i, hv.trans hw⟩
      · exact .inl hw
    · exact .inr hw

theorem ascending_of_toJson? {i : Item} {members : List (String × Value)}
    (h : i.toJson? = some (.object members)) : Ascending members := by
  cases i with
  | table _ ms =>
    rw [Item.toJson?] at h
    rcases Members.asJson_eq_some h with ⟨_, heq⟩ | ⟨values, hvalues, heq⟩
    · cases heq
    · obtain rfl := Value.object.inj heq
      obtain ⟨e, rfl, -⟩ := exists_dict_of_membersToJson? (d := .empty) hvalues
      exact e.ascending
  | array items => simp [Item.toJson?] at h
  | tables ts => simp [Item.toJson?] at h
  | float bits =>
    rw [Item.toJson?] at h
    split at h <;> simp at h
  | text _ | integer _ | boolean _ | datetime _ => simp [Item.toJson?] at h

/-- A document is a text or an object in which all is in its order. -/
theorem readJson_eq_some {text : String} {v : Value} (h : readJson text = some v) :
    (∃ s, v = .text s) ∨ ∃ d : Dict Value, v = .object d.entries ∧ Orderly d := by
  obtain ⟨ms, -, h⟩ := Option.bind_eq_some_iff.1 h
  rcases Members.asJson_eq_some h with htext | ⟨members, hmembers, rfl⟩
  · exact .inl htext
  · obtain ⟨d, rfl, hd⟩ := exists_dict_of_membersToJson? (d := .empty) hmembers
    refine .inr ⟨d, rfl, fun name ms hget => ?_⟩
    rcases hd name _ hget with hempty | ⟨i, hi⟩
    · cases hempty
    · exact ascending_of_toJson? hi

end Routing.Toml
