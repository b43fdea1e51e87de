import Routing.Proofs.Outcome
import Routing.Regex.Property
import Routing.Regex.Escape

/-!
The names of properties have no brackets and no backslashes. A name is looked up in tables, in a
form that keeps all such characters, and no row of a table has one in its names.

    \p{Script=Greek}      sc, greek      a row each
    \p{Gr(ee)k}           gr(ee)k        no row
-/

namespace Routing.Regex

open Text

/-- A character that neither opens nor closes anything outside of classes. -/
def Quiet (c : Char) : Prop := c ∉ ['\\', '[', '(', ')']

instance (c : Char) : Decidable (Quiet c) := inferInstanceAs (Decidable (c ∉ _))

theorem quiet_of_all {cs : List Char} (h : cs.all fun c => decide (Quiet c)) :
    ∀ c ∈ cs, Quiet c := by
  simpa using h

/-- What passes a test that none of the four passes is quiet. -/
theorem quiet_of_test {p : Char → Bool} (hsigns : ['\\', '[', '(', ')'].all (! p ·)) {c : Char}
    (h : p c = true) : Quiet c := fun hc => by
  have hnot := List.all_eq_true.1 hsigns c hc
  simp [h] at hnot

/-! ### The pieces of a text -/

theorem mem_of_extractTo {stop : String.Pos.Raw} {c : Char} : ∀ {cs : List Char}
    {i : String.Pos.Raw}, c ∈ String.Pos.Raw.extract.go₂ cs i stop → c ∈ cs
  | [], _, h => h
  | d :: cs, i, h => by
    have hgo : String.Pos.Raw.extract.go₂ (d :: cs) i stop =
        if i = stop then [] else d :: String.Pos.Raw.extract.go₂ cs (i + d) stop := rfl
    rw [hgo] at h
    split at h
    · simp at h
    · rcases List.mem_cons.1 h with rfl | h
      · exact .head _
      · exact .tail _ (mem_of_extractTo h)

theorem mem_of_extractFrom {start stop : String.Pos.Raw} {c : Char} : ∀ {cs : List Char}
    {i : String.Pos.Raw}, c ∈ String.Pos.Raw.extract.go₁ cs i start stop → c ∈ cs
  | [], _, h => h
  | d :: cs, i, h => by
    have hgo : String.Pos.Raw.extract.go₁ (d :: cs) i start stop =
        if i = start then String.Pos.Raw.extract.go₂ (d :: cs) i stop
        else String.Pos.Raw.extract.go₁ cs (i + d) start stop := rfl
    rw [hgo] at h
    split at h
    · exact mem_of_extractTo h
    · exact .tail _ (mem_of_extractFrom h)

/-- A part of a text has characters of the text. -/
theorem mem_of_extract {s : String} {start stop : String.Pos.Raw} {c : Char}
    (h : c ∈ (String.Pos.Raw.extract s start stop).toList) : c ∈ s.toList := by
  have hextract : String.Pos.Raw.extract s start stop =
      if start.byteIdx ≥ stop.byteIdx then ""
      else String.ofList (String.Pos.Raw.extract.go₁ s.toList 0 start stop) := rfl
  rw [hextract] at h
  split at h
  · simp at h
  · rw [String.toList_ofList] at h
    exact mem_of_extractFrom h

theorem mem_of_splitOnAux {s sep : String} {b i j : String.Pos.Raw} {r : List String}
    (hr : ∀ t ∈ r, ∀ c ∈ t.toList, c ∈ s.toList) :
    ∀ t ∈ s.splitOnAux sep b i j r, ∀ c ∈ t.toList, c ∈ s.toList := by
  have hpart : ∀ {start stop : String.Pos.Raw} {r : List String},
      (∀ t ∈ r, ∀ c ∈ t.toList, c ∈ s.toList) →
      ∀ t ∈ String.Pos.Raw.extract s start stop :: r, ∀ c ∈ t.toList, c ∈ s.toList :=
    fun hr => List.forall_mem_cons.2 ⟨fun _ => mem_of_extract, hr⟩
  fun_induction String.splitOnAux s sep b i j r with
  | case1 => exact fun t ht => hpart hr t (List.mem_reverse.1 ht)
  | case2 _ _ _ _ _ _ _ _ _ ih => exact ih (hpart hr)
  | case3 _ _ _ _ _ _ _ _ _ ih => exact ih hr
  | case4 _ _ _ _ _ _ ih => exact ih hr

/-- What a text is split into has the characters of the text. -/
theorem mem_of_splitOn {s sep t : String} (ht : t ∈ s.splitOn sep) {c : Char}
    (hc : c ∈ t.toList) : c ∈ s.toList := by
  unfold String.splitOn at ht
  split at ht
  · rwa [List.mem_singleton.1 ht] at hc
  · exact mem_of_splitOnAux (by simp) t ht c hc

/-! ### Tables -/

/-- The names in a table are quiet. -/
def QuietTable (tables : List (String × String)) : Prop :=
  ∀ row ∈ tables, ∀ c ∈ row.1.toList, Quiet c

/-- The characters that are not quiet are bytes of their own. -/
theorem quiet_of_bytes {s : String} (h : ∀ b ∈ s.toByteArray.data.toList, b ∉ [92, 91, 40, 41]) :
    ∀ c ∈ s.toList, Quiet c := by
  have hencoded : s.toByteArray = (s.toList.flatMap String.utf8EncodeChar).toByteArray := by
    rw [← List.utf8Encode, ← String.toByteArray_ofList, String.ofList_toList]
  have hbytes : s.toByteArray.data.toList = s.toList.flatMap String.utf8EncodeChar := by
    rw [hencoded, List.toList_data_toByteArray]
  intro c hc hsign
  obtain ⟨b, hb, hbyte⟩ : ∃ b ∈ String.utf8EncodeChar c, b ∈ [(92 : UInt8), 91, 40, 41] := by
    simp only [List.mem_cons, List.not_mem_nil, or_false] at hsign
    rcases hsign with rfl | rfl | rfl | rfl <;> decide
  exact h b (hbytes ▸ List.mem_flatMap.2 ⟨c, hc, hb⟩) hbyte

/-- The tables of properties are quiet; on bytes that is faster to see. -/
theorem quiet_tables : QuietTable scriptTables ∧ QuietTable scriptExtensionTables ∧
    QuietTable categoryTables ∧ QuietTable categoryGroups ∧ QuietTable ageTables ∧
    QuietTable binaryPropertyTables ∧ QuietTable graphemeBreakTables ∧
    QuietTable wordBreakTables ∧ QuietTable sentenceBreakTables := by
  have hall : [scriptTables, scriptExtensionTables, categoryTables, categoryGroups, ageTables,
      binaryPropertyTables, graphemeBreakTables, wordBreakTables, sentenceBreakTables].all
        (·.all fun row => row.1.toByteArray.data.toList.all
          fun b => decide (b ∉ [(92 : UInt8), 91, 40, 41])) := by
    decide +kernel
  simp only [List.all_eq_true, decide_eq_true_eq] at hall
  have hquiet : ∀ tables ∈ [scriptTables, scriptExtensionTables, categoryTables, categoryGroups,
      ageTables, binaryPropertyTables, graphemeBreakTables, wordBreakTables, sentenceBreakTables],
      QuietTable tables :=
    fun tables htables row hrow => quiet_of_bytes (hall tables htables row hrow)
  simpa only [List.forall_mem_cons, List.not_mem_nil, false_imp_iff, implies_true, and_true]
    using hquiet

section
variable {tables : List (String × String)} {key : String}

theorem quiet_of_contains {row : String} (hrow : ∀ c ∈ row.toList, Quiet c)
    (h : (row.splitOn " ").contains key) : ∀ c ∈ key.toList, Quiet c := fun c hc =>
  hrow c (mem_of_splitOn (List.contains_iff_mem.1 h) hc)

theorem quiet_of_rowNamed (h : QuietTable tables) {text : String}
    (hrow : rowNamed tables key = some text) : ∀ c ∈ key.toList, Quiet c := by
  obtain ⟨row, hfind, -⟩ := Option.map_eq_some_iff.1 hrow
  have hcontains := List.find?_some hfind
  exact quiet_of_contains (h row (List.mem_of_find?_eq_some hfind)) hcontains

theorem quiet_of_classNamed (h : QuietTable tables) {cls : CharClass}
    (hcls : classNamed tables key = some cls) : ∀ c ∈ key.toList, Quiet c := by
  obtain ⟨text, hrow, -⟩ := Option.map_eq_some_iff.1 hcls
  exact quiet_of_rowNamed h hrow

variable {cls : CharClass}

theorem quiet_of_categoryClass (h : categoryClass key = some cls) : ∀ c ∈ key.toList, Quiet c := by
  obtain ⟨-, -, hcategories, hgroups, -⟩ := quiet_tables
  unfold categoryClass at h
  split at h
  · exact quiet_of_all (by decide)
  · exact quiet_of_all (by decide)
  · exact quiet_of_all (by decide)
  · split at h
    next hnone => exact quiet_of_contains (quiet_of_all (by decide)) hnone
    · split at h
      next members hrow => exact quiet_of_rowNamed hgroups hrow
      · exact quiet_of_classNamed hcategories h

theorem quiet_of_scriptClass (h : scriptClass key = some cls) : ∀ c ∈ key.toList, Quiet c :=
  quiet_of_classNamed quiet_tables.1 h

theorem quiet_of_scriptExtensionClass (h : scriptExtensionClass key = some cls) :
    ∀ c ∈ key.toList, Quiet c := by
  rcases Option.or_eq_some_iff.1 h with h | ⟨-, h⟩
  · exact quiet_of_classNamed quiet_tables.2.1 h
  · exact quiet_of_scriptClass h

theorem quiet_of_ageClass (h : ageClass key = some cls) : ∀ c ∈ key.toList, Quiet c := by
  obtain ⟨-, -, -, -, hages, -⟩ := quiet_tables
  simp only [ageClass] at h
  split at h
  next hany =>
    obtain ⟨row, hrow, hcontains⟩ := List.any_eq_true.1 hany
    exact quiet_of_contains (hages row hrow) hcontains
  · simp at h

end

/-! ### Names -/

/-- The form in which names are compared keeps the characters that are not quiet. -/
theorem mem_propertyKey {name : String} {c : Char} (hc : ¬ Quiet c) (h : c ∈ name.toList) :
    c ∈ (propertyKey name).toList := by
  have hsign : c = '\\' ∨ c = '[' ∨ c = '(' ∨ c = ')' := by
    simpa using not_not.1 hc
  have hplain : ∀ cs : List Char, c ∈ cs →
      c ∈ (cs.filter fun c => c != ' ' && c != '_' && c != '-' && c.toNat < 128).map fun c =>
        if 'A' ≤ c ∧ c ≤ 'Z' then Char.ofNat (c.toNat + 32) else c := fun cs hmem => by
    refine List.mem_map.2 ⟨c, List.mem_filter.2 ⟨hmem, ?_⟩, ?_⟩
    · rcases hsign with rfl | rfl | rfl | rfl <;> decide
    · rcases hsign with rfl | rfl | rfl | rfl <;> decide
  simp only [propertyKey]
  split
  next a b rest hname =>
    rw [hname] at h
    split
    next his =>
      have hrest : c ∈ rest := by
        simp only [Bool.and_eq_true, Bool.or_eq_true, beq_iff_eq] at his
        rcases List.mem_cons.1 h with rfl | h
        · exact absurd hc (by rcases his.1 with rfl | rfl <;> decide)
        · rcases List.mem_cons.1 h with rfl | h
          · exact absurd hc (by rcases his.2 with rfl | rfl <;> decide)
          · exact h
      have hkey := hplain rest hrest
      split
      next heq =>
        rw [heq, List.mem_singleton] at hkey
        exact absurd hc (by rw [hkey]; decide)
      · rwa [String.toList_ofList]
    · rw [String.toList_ofList]
      exact hplain _ h
  · rw [String.toList_ofList]
    exact hplain _ h

/-- What is quiet in the form in which it is compared is quiet. -/
theorem quiet_of_propertyKey {name : String} (h : ∀ c ∈ (propertyKey name).toList, Quiet c) :
    ∀ c ∈ name.toList, Quiet c := fun c hc =>
  by_contra fun hsign => hsign (h c (mem_propertyKey hsign hc))

theorem quiet_of_bareProperty {name : String} {cls : CharClass}
    (h : bareProperty name = .ok cls) : ∀ c ∈ name.toList, Quiet c := by
  obtain ⟨-, -, -, -, -, hbinary, -⟩ := quiet_tables
  refine quiet_of_propertyKey ?_
  simp only [bareProperty] at h
  split at h
  next set hset =>
    rcases Option.or_eq_some_iff.1 hset with hset | ⟨-, hset⟩
    · rcases Option.or_eq_some_iff.1 hset with hset | ⟨-, hset⟩
      · split at hset
        · simp at hset
        · exact quiet_of_classNamed hbinary hset
      · exact quiet_of_categoryClass hset
    · exact quiet_of_scriptClass hset
  · simp at h

theorem quiet_of_propertyValue {name value : String} {cls : CharClass}
    (h : propertyValue name value = .ok cls) :
    (∀ c ∈ name.toList, Quiet c) ∧ ∀ c ∈ value.toList, Quiet c := by
  obtain ⟨-, -, -, -, -, -, hgrapheme, hword, hsentence⟩ := quiet_tables
  simp only [propertyValue] at h
  split at h
  next set hset =>
    suffices hkeys : (∀ c ∈ (propertyKey name).toList, Quiet c) ∧
        ∀ c ∈ (propertyKey value).toList, Quiet c from
      ⟨quiet_of_propertyKey hkeys.1, quiet_of_propertyKey hkeys.2⟩
    split at hset
    all_goals first
      | simp at hset
      | rename_i heq
        rw [heq]
    · exact ⟨quiet_of_all (by decide), quiet_of_categoryClass hset⟩
    · exact ⟨quiet_of_all (by decide), quiet_of_categoryClass hset⟩
    · exact ⟨quiet_of_all (by decide), quiet_of_scriptClass hset⟩
    · exact ⟨quiet_of_all (by decide), quiet_of_scriptClass hset⟩
    · exact ⟨quiet_of_all (by decide), quiet_of_scriptExtensionClass hset⟩
    · exact ⟨quiet_of_all (by decide), quiet_of_scriptExtensionClass hset⟩
    · exact ⟨quiet_of_all (by decide), quiet_of_ageClass hset⟩
    · exact ⟨quiet_of_all (by decide), quiet_of_classNamed hgrapheme hset⟩
    · exact ⟨quiet_of_all (by decide), quiet_of_classNamed hgrapheme hset⟩
    · exact ⟨quiet_of_all (by decide), quiet_of_classNamed hword hset⟩
    · exact ⟨quiet_of_all (by decide), quiet_of_classNamed hword hset⟩
    · exact ⟨quiet_of_all (by decide), quiet_of_classNamed hsentence hset⟩
    · exact ⟨quiet_of_all (by decide), quiet_of_classNamed hsentence hset⟩
  · simp at h

/-- A text is cut in two by a mark. -/
theorem eq_of_cutAt {mark : List Char} : ∀ {cs before after : List Char},
    cutAt mark cs = some (before, after) → cs = before ++ mark ++ after
  | [], _, _, h => by simp [cutAt] at h
  | c :: cs, before, after, h => by
    rw [cutAt] at h
    split at h
    next hmark =>
      obtain ⟨rest, hrest⟩ := List.isPrefixOf_iff_prefix.1 hmark
      obtain ⟨rfl, rfl⟩ := Prod.mk.inj (Option.some.inj h)
      rw [← hrest]
      simp
    · obtain ⟨⟨front, back⟩, hcut, heq⟩ := Option.map_eq_some_iff.1 h
      obtain ⟨rfl, rfl⟩ := Prod.mk.inj heq
      rw [eq_of_cutAt hcut]
      simp

/-- What stands between the braces of a property is quiet. -/
theorem quiet_of_propertyNamed {name : List Char} {r : CharClass × Bool}
    (h : propertyNamed name = .ok r) : ∀ c ∈ name, Quiet c := by
  have hvalue : ∀ {mark before after : List Char} {cls : CharClass}, (∀ c ∈ mark, Quiet c) →
      cutAt mark name = some (before, after) →
      propertyValue (String.ofList before) (String.ofList after) = .ok cls →
      ∀ c ∈ name, Quiet c := by
    intro mark before after cls hmark hcut hcls c hc
    obtain ⟨hbefore, hafter⟩ := quiet_of_propertyValue hcls
    rw [String.toList_ofList] at hbefore hafter
    rw [eq_of_cutAt hcut, List.mem_append, List.mem_append] at hc
    exact hc.elim (fun hc => hc.elim (hbefore c) (hmark c)) (hafter c)
  simp only [propertyNamed] at h
  split at h
  next parts hcut =>
    obtain ⟨cls, hcls, -⟩ := bind_eq_ok.1 h
    exact hvalue (quiet_of_all (by decide)) hcut hcls
  · split at h
    next parts hcut =>
      obtain ⟨cls, hcls, -⟩ := bind_eq_ok.1 h
      rcases Option.or_eq_some_iff.1 hcut with hcut | ⟨-, hcut⟩
      · exact hvalue (quiet_of_all (by decide)) hcut hcls
      · exact hvalue (quiet_of_all (by decide)) hcut hcls
    · obtain ⟨cls, hcls, -⟩ := bind_eq_ok.1 h
      have hbare := quiet_of_bareProperty hcls
      rwa [String.toList_ofList] at hbare

end Routing.Regex
