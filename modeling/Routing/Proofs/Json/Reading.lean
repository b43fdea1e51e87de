import Mathlib.Tactic.SplitIfs
import Routing.Json.Decode
import Routing.Proofs.Json.Numeral

/-!
What is written is read back. The text of a value, with anything after it, is read as the tree of
that value, and what comes after it is left.

    ["a\n", -7]  rest     array [text "a⏎", numeral 7 with a minus]     and  rest  is left

A number goes on as long as digits, a point or an exponent come, so after a number none of these may
follow. Binary numbers are left out: their digits are chosen by another rule. So are whole numbers
that do not fit into 64 bits, which are read as binary ones.
-/

namespace Routing.Json

open Text

namespace Value

mutual

/-- Are all numbers of the value whole, and do they fit into 64 bits? -/
def exact : Value → Bool
  | number (.whole n) => -0x8000000000000000 ≤ n && n < 0x10000000000000000
  | number (.binary _) => false
  | array items => allExact items
  | object members => membersExact members
  | null | bool _ | text _ => true

/-- Are all numbers of the values exact? -/
def allExact : List Value → Bool
  | [] => true
  | v :: vs => v.exact && allExact vs

/-- Are all numbers of the members exact? -/
def membersExact : List (String × Value) → Bool
  | [] => true
  | (_, v) :: ms => v.exact && membersExact ms

end

theorem allExact_iff : ∀ {vs : List Value}, allExact vs ↔ ∀ v ∈ vs, v.exact
  | [] => by simp [allExact]
  | v :: vs => by simp [allExact, allExact_iff]

theorem membersExact_iff : ∀ {ms : List (String × Value)}, membersExact ms ↔ ∀ m ∈ ms, m.2.exact
  | [] => by simp [membersExact]
  | (name, v) :: ms => by simp [membersExact, membersExact_iff]

/-- Is the value a number? -/
def isNumber : Value → Bool
  | number _ => true
  | _ => false

end Value

namespace Tree

/-! ### Texts -/

/-- A letter after a backslash stands for a character. -/
theorem readCodes_escaped {c e : Char} (h : unescape c = some e) (hu : c ≠ 'u') (codes : List Nat)
    (rest : List Char) :
    readCodes codes ('\\' :: c :: rest) = readCodes (e.toNat :: codes) rest := by
  rw [readCodes.eq_def]
  split
  · simp_all
  · simp_all
  · simp_all
  · next heq =>
    obtain ⟨rfl, rfl⟩ := List.cons.inj (List.cons.inj heq).2
    simp [h]
  · next hescaped heq =>
    obtain ⟨rfl, rfl⟩ := List.cons.inj heq
    exact absurd rfl (hescaped c rest rfl)

/-- A character that is not escaped stands for itself. -/
theorem readCodes_plain {c : Char} (hquote : c ≠ '"') (hslash : c ≠ '\\')
    (hcontrol : ¬ c.toNat < 32) (codes : List Nat) (rest : List Char) :
    readCodes codes (c :: rest) = readCodes (c.toNat :: codes) rest := by
  rw [readCodes.eq_def]
  split
  · simp_all
  · simp_all
  · simp_all
  · simp_all
  · next heq =>
    obtain ⟨rfl, rfl⟩ := List.cons.inj heq
    simp [hslash, hcontrol]

theorem hexValue_hexDigit :
    ∀ n < 16, isHexDigit (hexDigit n) = true ∧ hexValue (hexDigit n) = n := by
  decide

/-- A character is read back from the way it stands within quotes. -/
theorem readCodes_quoteChar (c : Char) (codes : List Nat) (rest : List Char) :
    readCodes codes (quoteChar c ++ rest) = readCodes (c.toNat :: codes) rest := by
  unfold quoteChar
  split_ifs with hquote hslash hback hform hline hreturn htab hcontrol
  · rw [eq_of_beq hquote]
    exact readCodes_escaped rfl (by decide) _ _
  · rw [eq_of_beq hslash]
    exact readCodes_escaped rfl (by decide) _ _
  · rw [eq_of_beq hback]
    exact readCodes_escaped rfl (by decide) _ _
  · rw [eq_of_beq hform]
    exact readCodes_escaped rfl (by decide) _ _
  · rw [eq_of_beq hline]
    exact readCodes_escaped rfl (by decide) _ _
  · rw [eq_of_beq hreturn]
    exact readCodes_escaped rfl (by decide) _ _
  · rw [eq_of_beq htab]
    exact readCodes_escaped rfl (by decide) _ _
  · obtain ⟨hhex, hvalue⟩ := hexValue_hexDigit (c.toNat / 16) (by omega)
    obtain ⟨hhex', hvalue'⟩ := hexValue_hexDigit (c.toNat % 16) (by omega)
    have hzero : isHexDigit '0' = true ∧ hexValue '0' = 0 := by decide
    have hcode : ((hexValue '0' * 16 + hexValue '0') * 16 +
        hexValue (hexDigit (c.toNat / 16))) * 16 + hexValue (hexDigit (c.toNat % 16)) =
          c.toNat := by
      rw [hvalue, hvalue', hzero.2]
      omega
    simp only [List.cons_append, List.nil_append, readCodes, hzero.1, hhex, hhex', Bool.and_self,
      if_true, hcode]
  · exact readCodes_plain (by simpa using hquote) (by simpa using hslash) hcontrol _ _

theorem readCodes_quoted : ∀ (cs : List Char) (codes : List Nat) (rest : List Char),
    readCodes codes (cs.flatMap quoteChar ++ '"' :: rest) =
      some ((cs.map Char.toNat).reverse ++ codes, rest)
  | [], codes, rest => by simp [readCodes]
  | c :: cs, codes, rest => by
    rw [List.flatMap_cons, List.append_assoc, readCodes_quoteChar, readCodes_quoted cs]
    simp

/-- No character is half of a surrogate pair. -/
theorem isSurrogate_toNat (c : Char) : isSurrogate c.toNat = false := by
  have hvalid : c.toNat < 0xD800 ∨ 0xDFFF < c.toNat ∧ c.toNat < 0x110000 := c.valid
  simp only [isSurrogate, Bool.and_eq_false_iff, decide_eq_false_iff_not]
  omega

theorem joinPairs_toNat : ∀ cs : List Char, joinPairs (cs.map Char.toNat) = some cs
  | [] => rfl
  | c :: cs => by
    rw [List.map_cons, joinPairs.eq_def]
    simp [isSurrogate_toNat, joinPairs_toNat cs]

/-- A text in quotes is read back. -/
theorem readText_quoted (s : String) (rest : List Char) :
    readText (s.toList.flatMap quoteChar ++ '"' :: rest) = some (some s, rest) := by
  simp [readText, readCodes_quoted, joinPairs_toNat]

/-! ### Values -/

mutual

/-- The tree of a value. -/
def ofValue : Value → Tree
  | .null => null
  | .bool b => bool b
  | .number (.whole n) => number (.ofInt n)
  | .number (.binary _) => broken
  | .text s => text (some s)
  | .array items => array (ofValues items)
  | .object members => object (ofMembers members)

/-- The trees of values. -/
def ofValues : List Value → List Tree
  | [] => []
  | v :: vs => ofValue v :: ofValues vs

/-- The trees of members. -/
def ofMembers : List (String × Value) → List (Option String × Tree)
  | [] => []
  | (name, v) :: ms => (some name, ofValue v) :: ofMembers ms

end

/-- The character can start a value. -/
def StartsValue (c : Char) : Prop :=
  c ∈ ['n', 't', 'f', '"', '[', '\x7B', '-'] ∨ isAsciiDigit c = true

theorem chars_start {v : Value} (h : v.exact) : ∃ c cs, v.chars = c :: cs ∧ StartsValue c := by
  cases v with
  | null => exact ⟨_, _, rfl, .inl (by decide)⟩
  | bool b => cases b <;> exact ⟨_, _, rfl, .inl (by decide)⟩
  | number n =>
    cases n with
    | binary bits => simp [Value.exact] at h
    | whole n =>
      obtain ⟨c, cs, hcs, hc⟩ := text_start n
      exact ⟨c, cs, hcs, hc.imp (fun h => by simp [h]) id⟩
  | text s => exact ⟨_, _, rfl, .inl (by decide)⟩
  | array items => exact ⟨_, _, rfl, .inl (by decide)⟩
  | object members => exact ⟨_, _, rfl, .inl (by decide)⟩

/-- A value does not start with white space, nor with what ends an array or an object. -/
theorem StartsValue.plain {c : Char} (h : StartsValue c) :
    isSpace c = false ∧ c ≠ ']' ∧ c ≠ '\x7D' := by
  rcases h with h | h
  · simp only [List.mem_cons, List.not_mem_nil, or_false] at h
    rcases h with rfl | rfl | rfl | rfl | rfl | rfl | rfl <;> decide
  · have hne : ∀ d, isAsciiDigit d = false → c ≠ d := by
      rintro d hd rfl
      exact absurd h (by simp [hd])
    have hspace : c ≠ ' ' ∧ c ≠ '\n' ∧ c ≠ '\t' ∧ c ≠ '\r' :=
      ⟨hne _ (by decide), hne _ (by decide), hne _ (by decide), hne _ (by decide)⟩
    refine ⟨?_, hne _ (by decide), hne _ (by decide)⟩
    simpa [isSpace, and_assoc] using hspace

theorem skipSpace_cons {c : Char} (h : isSpace c = false) (cs : List Char) :
    skipSpace (c :: cs) = c :: cs := by
  rw [skipSpace, List.dropWhile_cons_of_neg (by simp [h])]

theorem endsNumber_cons {c : Char} (h : c = ',' ∨ c = ']' ∨ c = '\x7D') (cs : List Char) :
    EndsNumber (c :: cs) := by
  intro d hd
  obtain rfl := Option.some.inj hd
  rcases h with rfl | rfl | rfl <;> decide

/-- A number is none of the other values. -/
theorem readValue_numeral {n : Numeral} {c : Char} {cs rest : List Char} (fuel : Nat)
    (hc : c = '-' ∨ isAsciiDigit c = true) (h : readNumeral (c :: cs) = some (n, rest)) :
    readValue (fuel + 1) (c :: cs) = (number n, some rest) := by
  have hstart : StartsValue c := hc.imp (fun h => by simp [h]) id
  have hne : ∀ d, d ≠ '-' → isAsciiDigit d = false → c ≠ d := by
    rintro d hminus hdigit rfl
    rcases hc with hc | hc
    · exact hminus hc
    · exact absurd hc (by simp [hdigit])
  rw [readValue, skipSpace_cons hstart.plain.1]
  split
  next heq => exact absurd (List.cons.inj heq).1 (hne _ (by decide) (by decide))
  next heq => exact absurd (List.cons.inj heq).1 (hne _ (by decide) (by decide))
  next heq => exact absurd (List.cons.inj heq).1 (hne _ (by decide) (by decide))
  next heq => exact absurd (List.cons.inj heq).1 (hne _ (by decide) (by decide))
  next heq => exact absurd (List.cons.inj heq).1 (hne _ (by decide) (by decide))
  next heq => exact absurd (List.cons.inj heq).1 (hne _ (by decide) (by decide))
  next => rw [h]

/-- The characters of a value are not all read without fuel. -/
theorem exists_fuel {v : Value} (h : v.exact) {fuel : Nat} (hfuel : v.chars.length ≤ fuel) :
    ∃ less, fuel = less + 1 := by
  obtain ⟨c, cs, hcs, -⟩ := chars_start h
  rw [hcs, List.length_cons] at hfuel
  exact ⟨fuel - 1, by omega⟩

theorem itemChars_start {v : Value} (h : v.exact) (vs : List Value) (rest : List Char) :
    ∃ c cs, commaSeparated (Value.itemChars (v :: vs)) ++ rest = c :: cs ∧ StartsValue c := by
  obtain ⟨c, cs, hcs, hc⟩ := chars_start h
  cases vs with
  | nil => exact ⟨c, cs ++ rest, by rw [← List.cons_append, ← hcs]; rfl, hc⟩
  | cons w ws =>
    refine ⟨c, cs ++ ',' :: commaSeparated (Value.itemChars (w :: ws)) ++ rest, ?_, hc⟩
    rw [← List.cons_append, ← List.cons_append, ← hcs]
    rfl

theorem memberChars_start (name : String) (v : Value) (ms : List (String × Value))
    (rest : List Char) :
    ∃ cs, commaSeparated (Value.memberChars ((name, v) :: ms)) ++ rest = '"' :: cs := by
  cases ms with
  | nil => exact ⟨_, rfl⟩
  | cons m ms => exact ⟨_, rfl⟩

mutual

/-- The text of a value is read as the tree of the value, and what follows is left. -/
theorem readValue_chars : ∀ (v : Value) (fuel : Nat) (rest : List Char), v.exact →
    v.chars.length ≤ fuel → (v.isNumber → EndsNumber rest) →
    readValue fuel (v.chars ++ rest) = (ofValue v, some rest)
  | .null, fuel, rest, hexact, hfuel, _ => by
    obtain ⟨fuel, rfl⟩ := exists_fuel hexact hfuel
    rfl
  | .bool b, fuel, rest, hexact, hfuel, _ => by
    obtain ⟨fuel, rfl⟩ := exists_fuel hexact hfuel
    cases b <;> rfl
  | .number (.whole n), fuel, rest, hexact, hfuel, hrest => by
    obtain ⟨fuel, rfl⟩ := exists_fuel hexact hfuel
    have hread := readNumeral_whole n (hrest rfl)
    obtain ⟨c, cs, hcs, hc⟩ := text_start n
    rw [hcs, List.cons_append] at hread
    rw [Value.chars, hcs, List.cons_append, readValue_numeral fuel hc hread]
    rfl
  | .text s, fuel, rest, hexact, hfuel, _ => by
    obtain ⟨fuel, rfl⟩ := exists_fuel hexact hfuel
    have hquote : (Value.text s).chars ++ rest =
        '"' :: (s.toList.flatMap quoteChar ++ '"' :: rest) := by
      simp [Value.chars, quote]
    rw [hquote, readValue, skipSpace_cons (by decide)]
    simp only [readText_quoted]
    rfl
  | .array [], fuel, rest, hexact, hfuel, _ => by
    obtain ⟨fuel, rfl⟩ := exists_fuel hexact hfuel
    rfl
  | .array (v :: vs), fuel, rest, hexact, hfuel, _ => by
    obtain ⟨fuel, rfl⟩ := exists_fuel hexact hfuel
    have hv := (Bool.and_eq_true_iff.1 hexact).1
    have hread := readItems_chars (v :: vs) fuel rest (by simp) hexact (by
      rw [Value.chars, List.length_append, List.length_cons] at hfuel
      exact Nat.le_of_succ_le_succ hfuel)
    have hchars : (Value.array (v :: vs)).chars ++ rest =
        '[' :: (commaSeparated (Value.itemChars (v :: vs)) ++ ']' :: rest) := by
      simp [Value.chars]
    obtain ⟨c, tail, hstart, hc⟩ := itemChars_start hv vs (']' :: rest)
    rw [hstart] at hread hchars
    rw [hchars, readValue, skipSpace_cons (by decide)]
    simp only [skipSpace_cons hc.plain.1]
    split
    next heq => exact absurd (List.cons.inj heq).1 hc.plain.2.1
    next => rw [hread]; rfl
  | .object [], fuel, rest, hexact, hfuel, _ => by
    obtain ⟨fuel, rfl⟩ := exists_fuel hexact hfuel
    rfl
  | .object ((name, v) :: ms), fuel, rest, hexact, hfuel, _ => by
    obtain ⟨fuel, rfl⟩ := exists_fuel hexact hfuel
    have hread := readMembers_chars ((name, v) :: ms) fuel rest (by simp) hexact (by
      rw [Value.chars, List.length_append, List.length_cons] at hfuel
      exact Nat.le_of_succ_le_succ hfuel)
    have hchars : (Value.object ((name, v) :: ms)).chars ++ rest =
        '\x7B' :: (commaSeparated (Value.memberChars ((name, v) :: ms)) ++ '\x7D' :: rest) := by
      simp [Value.chars]
    obtain ⟨tail, hstart⟩ := memberChars_start name v ms ('\x7D' :: rest)
    rw [hstart] at hread hchars
    rw [hchars, readValue, skipSpace_cons (by decide)]
    simp only [skipSpace_cons (c := '"') (by decide)]
    change (object (readMembers fuel ('"' :: tail)).1, (readMembers fuel ('"' :: tail)).2) = _
    rw [hread]
    rfl

/-- The items of an array are read up to its end. -/
theorem readItems_chars : ∀ (vs : List Value) (fuel : Nat) (rest : List Char), vs ≠ [] →
    Value.allExact vs → (commaSeparated (Value.itemChars vs)).length + 1 ≤ fuel →
    readItems fuel (commaSeparated (Value.itemChars vs) ++ ']' :: rest) = (ofValues vs, some rest)
  | [], _, _, hne, _, _ => absurd rfl hne
  | [v], fuel, rest, _, hvs, hfuel => by
    have hv := (Bool.and_eq_true_iff.1 hvs).1
    obtain ⟨fuel, rfl⟩ : ∃ less, fuel = less + 1 := ⟨fuel - 1, by omega⟩
    have hlen : v.chars.length ≤ fuel := Nat.le_of_succ_le_succ hfuel
    have hread := readValue_chars v fuel (']' :: rest) hv hlen
      fun _ => endsNumber_cons (.inr (.inl rfl)) _
    change readItems (fuel + 1) (v.chars ++ ']' :: rest) = _
    rw [readItems, hread]
    simp only [skipSpace_cons (c := ']') (by decide)]
    rfl
  | v :: w :: ws, fuel, rest, _, hvs, hfuel => by
    obtain ⟨hv, hws⟩ := Bool.and_eq_true_iff.1 hvs
    obtain ⟨fuel, rfl⟩ : ∃ less, fuel = less + 1 := ⟨fuel - 1, by omega⟩
    have hsplit : commaSeparated (Value.itemChars (v :: w :: ws)) =
        v.chars ++ ',' :: commaSeparated (Value.itemChars (w :: ws)) := rfl
    rw [hsplit, List.length_append, List.length_cons] at hfuel
    have hread := readValue_chars v fuel
      (',' :: (commaSeparated (Value.itemChars (w :: ws)) ++ ']' :: rest)) hv (by omega)
      fun _ => endsNumber_cons (.inl rfl) _
    have hrest := readItems_chars (w :: ws) fuel rest (by simp) hws (by omega)
    rw [hsplit, List.append_assoc, List.cons_append, readItems, hread]
    simp only [skipSpace_cons (c := ',') (by decide), hrest]
    rfl

/-- The members of an object are read up to its end. -/
theorem readMembers_chars : ∀ (ms : List (String × Value)) (fuel : Nat) (rest : List Char),
    ms ≠ [] → Value.membersExact ms →
    (commaSeparated (Value.memberChars ms)).length + 1 ≤ fuel →
    readMembers fuel (commaSeparated (Value.memberChars ms) ++ '\x7D' :: rest) =
      (ofMembers ms, some rest)
  | [], _, _, hne, _, _ => absurd rfl hne
  | [(name, v)], fuel, rest, _, hms, hfuel => by
    have hv := (Bool.and_eq_true_iff.1 hms).1
    obtain ⟨fuel, rfl⟩ : ∃ less, fuel = less + 1 := ⟨fuel - 1, by omega⟩
    have hchars : commaSeparated (Value.memberChars [(name, v)]) =
        '"' :: (name.toList.flatMap quoteChar ++ '"' :: (':' :: v.chars)) := by
      simp [Value.memberChars, commaSeparated, quote]
    rw [hchars] at hfuel ⊢
    simp only [List.length_cons, List.length_append] at hfuel
    have hread := readValue_chars v fuel ('\x7D' :: rest) hv (by omega)
      fun _ => endsNumber_cons (.inr (.inr rfl)) _
    rw [List.cons_append, List.append_assoc, readMembers, skipSpace_cons (by decide)]
    simp only [List.cons_append, readText_quoted, skipSpace_cons (c := ':') (by decide), hread,
      skipSpace_cons (c := '\x7D') (by decide)]
    rfl
  | (name, v) :: (name', w) :: ms, fuel, rest, _, hms, hfuel => by
    obtain ⟨hv, hms⟩ := Bool.and_eq_true_iff.1 hms
    obtain ⟨fuel, rfl⟩ : ∃ less, fuel = less + 1 := ⟨fuel - 1, by omega⟩
    have hchars : commaSeparated (Value.memberChars ((name, v) :: (name', w) :: ms)) =
        '"' :: (name.toList.flatMap quoteChar ++ '"' :: (':' :: (v.chars ++
          ',' :: commaSeparated (Value.memberChars ((name', w) :: ms))))) := by
      simp [Value.memberChars, commaSeparated, quote]
    rw [hchars] at hfuel ⊢
    simp only [List.length_cons, List.length_append] at hfuel
    have hread := readValue_chars v fuel
      (',' :: (commaSeparated (Value.memberChars ((name', w) :: ms)) ++ '\x7D' :: rest))
      hv (by omega) fun _ => endsNumber_cons (.inl rfl) _
    have hrest := readMembers_chars ((name', w) :: ms) fuel rest (by simp) hms (by omega)
    rw [List.cons_append, List.append_assoc, readMembers, skipSpace_cons (by decide)]
    simp only [List.cons_append, List.append_assoc, readText_quoted,
      skipSpace_cons (c := ':') (by decide), hread, skipSpace_cons (c := ',') (by decide), hrest]
    rfl

end

/-- A written value is read as its tree, and nothing follows it. -/
theorem ofText_write {v : Value} (h : v.exact) : ofText v.write = (ofValue v, true) := by
  have hread := readValue_chars v (2 * v.chars.length + 2) [] h (by omega)
    fun _ _ h => (nomatch h)
  rw [List.append_nil] at hread
  rw [ofText, Value.write, String.toList_ofList]
  simp only [hread]
  rfl

end Tree

/-- A decoder gets the tree of a value that was written. -/
theorem decode_write {α : Type} (decoder : Nat → Tree → Decoded α) {v : Value} (h : v.exact) :
    decode decoder v.write = decoder maxDepth (Tree.ofValue v) := by
  rw [decode, Tree.ofText_write h]
  dsimp only
  cases decoder maxDepth (Tree.ofValue v) <;> rfl

end Routing.Json
