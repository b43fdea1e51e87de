import Routing.Proofs.Json.Decoding
import Routing.Proofs.Made
import Routing.Table.Json

/-!
Written routes are read back. The reader of a route derives everything again and compares it with
what was written; since all routes are sound, nothing differs.

    route ──toJson──▶ pattern, segments, expression, defaults, names ──decode──▶ route

What may keep a route from being read is how deep its optional parts are nested.
-/

namespace Routing

open Json

/-! ### Segments -/

namespace Segment

mutual

theorem exact_toJson : ∀ s : Segment, s.toJson.exact
  | literal _ => rfl
  | parameter _ _ => rfl
  | optional children => by
    simp [toJson, Value.exact, Value.membersExact, allExact_listToJson children]

theorem allExact_listToJson : ∀ ss : List Segment, Value.allExact (listToJson ss)
  | [] => rfl
  | s :: ss => by simp [listToJson, Value.allExact, exact_toJson s, allExact_listToJson ss]

end

mutual

/-- A segment is made of its tree if the depth allows it. -/
theorem ofTree_toJson : ∀ (s : Segment) {depth : Nat} (nested : Bool), s.toJson.nesting ≤ depth →
    ofTree depth nested (Tree.ofValue s.toJson) = .ok s
  | literal _, depth + 1, _, _ => rfl
  | parameter _ _, depth + 1, _, _ => rfl
  | optional children, depth + 1, nested, h => by
    have hitems : Value.nestingAll (listToJson children) ≤ depth := by
      simp only [toJson, Value.nesting, Value.nestingMembers] at h
      omega
    have hread : ofTree (depth + 1) nested (Tree.ofValue (optional children).toJson) =
        ((Tree.ofValues (listToJson children)).mapM (ofTree depth true)).map optional := rfl
    rw [hread, mapM_ofTree children hitems]
    rfl

theorem mapM_ofTree : ∀ (ss : List Segment) {depth : Nat},
    Value.nestingAll (listToJson ss) ≤ depth →
    (Tree.ofValues (listToJson ss)).mapM (ofTree depth true) = .ok ss
  | [], _, _ => rfl
  | s :: ss, depth, h => by
    obtain ⟨hs, hss⟩ := Nat.max_le.1 h
    rw [listToJson, Tree.ofValues, List.mapM_cons, ofTree_toJson s true hs, mapM_ofTree ss hss]
    rfl

end

theorem recalls_decode (s : Segment) : Recalls decode s.toJson s := by
  intro depth
  rw [decode, toValue_ofValue s.exact_toJson depth]
  by_cases h : s.toJson.nesting ≤ depth
  · simp only [within, if_pos h]
    exact ofTree_toJson s false h
  · simp only [within, if_neg h]
    rfl

theorem recalls_decodeList (ss : List Segment) :
    Recalls decodeList (.array (listToJson ss)) ss := by
  refine recalls_toList ?_
  induction ss with
  | nil => exact .nil
  | cons s ss ih => exact .cons s.recalls_decode ih

end Segment

theorem recalls_toList_text (ss : List String) :
    Recalls (fun depth t => t.toList depth fun _ => Tree.toText) (.array (ss.map .text)) ss := by
  refine recalls_toList ?_
  induction ss with
  | nil => exact .nil
  | cons s ss ih => exact .cons (recalls_text s) ih

/-! ### Routes -/

namespace RouteRecord

theorem recalls_decode (r : RouteRecord) : Recalls decode r.toJson r := by
  refine Recalls.bind (a := ⟨some r.pattern, some r.segments, some r.expression, some r.defaults,
    some r.names⟩) (recalls_toRecord ?_ (by simp)) rfl
  refine .cons (.bind (recalls_text r.pattern).once rfl) ?_
  refine .cons (.bind (Segment.recalls_decodeList r.segments).once rfl) ?_
  refine .cons (.bind (recalls_text r.expression).once rfl) ?_
  refine .cons (.bind (recalls_toTexts r.defaults).once rfl) ?_
  exact .cons (.bind (recalls_toList_text r.names).once rfl) .nil

theorem exact_toJson (r : RouteRecord) : r.toJson.exact := by
  simp [toJson, Value.exact, Value.membersExact, Segment.allExact_listToJson, exact_ofTexts,
    allExact_texts]

end RouteRecord

theorem firstRepeated_of_nodup : ∀ {names before : List String}, (before ++ names).Nodup →
    firstRepeated before names = none
  | [], _, _ => rfl
  | name :: names, before, h => by
    have hnew : name ∉ before := fun hmem =>
      (List.nodup_append.1 h).2.2 name hmem name List.mem_cons_self rfl
    rw [List.append_cons] at h
    rw [firstRepeated, if_neg (by simpa using hnew), firstRepeated_of_nodup h]

namespace Route

/-- A sound route is made of its record again. -/
theorem Sound.ofRecord_toRecord {r : Route} (h : r.Sound) : ofRecord r.toRecord = .ok r := by
  have hsource : r.expression.source = Segment.expression r.segments :=
    source_of_ofString h.expression
  have hassemble : assemble r.pattern r.segments (Segment.expression r.segments) r.defaults
      r.names = .ok r := by
    rw [assemble, h.expression]
    exact bind_eq_ok.2 ⟨_, rfl, bind_eq_ok.2 ⟨_, h.slots,
      bind_eq_ok.2 ⟨_, mapM_of_forall₂ h.checks, rfl⟩⟩⟩
  have hdistinct : firstRepeated [] r.names = none := firstRepeated_of_nodup h.nodup
  rw [ofRecord, toRecord]
  simp only [← h.names, hdistinct, hsource, hassemble]
  simp

theorem Sound.recalls_decode {r : Route} (h : r.Sound) : Recalls decode r.toJson r :=
  r.toRecord.recalls_decode.bind (by rw [h.ofRecord_toRecord])

end Route

namespace NamedRoute

theorem recalls_decode {n : NamedRoute} (h : n.route.Sound) : Recalls decode n.toJson n := by
  refine Recalls.bind (a := ⟨some n.name, some n.route⟩) (recalls_toRecord ?_ (by simp)) rfl
  refine .cons (.bind (recalls_text n.name).once rfl) ?_
  exact .cons (.bind h.recalls_decode.once rfl) .nil

theorem exact_toJson (n : NamedRoute) : n.toJson.exact := by
  simp [toJson, Value.exact, Value.membersExact, Route.toJson, RouteRecord.exact_toJson]

end NamedRoute

end Routing
