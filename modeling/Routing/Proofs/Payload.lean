import Routing.Proofs.Bytes
import Routing.Proofs.Json.Decoding
import Routing.Session

/-!
Payloads are read back. Each of the three ways on which a payload comes about can be gone back: from
the data to its JSON, from the text to its bytes, and from the bytes to their digits.

    data           {"n":[1]}                          nests 2 containers
    bytes          7b 22 6e 22 3a 5b 31 5d 7d
    payload        eyJuIjpbMV19

Numbers with a point are left out, as they are for JSON. Data that nests too deep has a payload as
well, which is not read back, but which no other data has.
-/

namespace Routing

/-! ### Base64 -/

namespace Bytes.Base64

theorem value?_digit : ∀ n < 64, value? (digit n) = some n := by
  decide

theorem digit_ne_pad {n : Nat} (h : n < 64) : digit n ≠ '=' := by
  intro heq
  have hvalue := value?_digit n h
  rw [heq] at hvalue
  exact absurd hvalue (by simp [value?])

/-- Bytes are put together again from the digits of three of them. -/
theorem bytes_digits (a b c : UInt8) :
    bytes (a.toNat / 4) (a.toNat % 4 * 16 + b.toNat / 16) (b.toNat % 16 * 4 + c.toNat / 64)
      (c.toNat % 64) = [a, b, c] := by
  have hb := b.toNat_lt
  have hc := c.toNat_lt
  have hfirst : a.toNat / 4 * 4 + (a.toNat % 4 * 16 + b.toNat / 16) / 16 = a.toNat := by omega
  have hsecond : (a.toNat % 4 * 16 + b.toNat / 16) % 16 * 16 +
      (b.toNat % 16 * 4 + c.toNat / 64) / 4 = b.toNat := by omega
  have hthird : (b.toNat % 16 * 4 + c.toNat / 64) % 4 * 64 + c.toNat % 64 = c.toNat := by omega
  rw [bytes, hfirst, hsecond, hthird, UInt8.ofNat_toNat, UInt8.ofNat_toNat, UInt8.ofNat_toNat]

section
variable {a b c d : Nat}

theorem decode_two (ha : a < 64) (hb : b < 64) (hzero : b % 16 = 0) :
    decode [digit a, digit b, '=', '='] = some ((bytes a b 0 0).take 1) := by
  simp [decode, value?_digit a ha, value?_digit b hb, hzero]

theorem decode_three (ha : a < 64) (hb : b < 64) (hc : c < 64) (hzero : c % 4 = 0) :
    decode [digit a, digit b, digit c, '='] = some ((bytes a b c 0).take 2) := by
  rw [decode]
  · simp [value?_digit a ha, value?_digit b hb, value?_digit c hc, hzero]
  · exact digit_ne_pad hc

theorem decode_four (ha : a < 64) (hb : b < 64) (hc : c < 64) (hd : d < 64) (rest : List Char) :
    decode (digit a :: digit b :: digit c :: digit d :: rest) =
      (decode rest).map (bytes a b c d ++ ·) := by
  rw [decode]
  · simp only [value?_digit a ha, value?_digit b hb, value?_digit c hc, value?_digit d hd]
    cases decode rest <;> rfl
  · exact fun _ hpad => absurd hpad (digit_ne_pad hd)
  · exact fun hpad => absurd hpad (digit_ne_pad hd)

end

/-- Bytes are read back from their digits. -/
theorem decode_encode : ∀ bytes : List UInt8, decode (encode bytes) = some bytes
  | [] => rfl
  | [a] => by
    have ha := a.toNat_lt
    have hbytes := bytes_digits a 0 0
    have hread := decode_two (show a.toNat / 4 < 64 by omega)
      (show a.toNat % 4 * 16 + 0 / 16 < 64 by omega) (by omega)
    exact hread.trans (congrArg (fun bs => some (bs.take 1)) hbytes)
  | [a, b] => by
    have ha := a.toNat_lt
    have hb := b.toNat_lt
    have hbytes := bytes_digits a b 0
    have hread := decode_three (show a.toNat / 4 < 64 by omega)
      (show a.toNat % 4 * 16 + b.toNat / 16 < 64 by omega)
      (show b.toNat % 16 * 4 + 0 / 64 < 64 by omega) (by omega)
    exact hread.trans (congrArg (fun bs => some (bs.take 2)) hbytes)
  | a :: b :: c :: rest => by
    have ha := a.toNat_lt
    have hb := b.toNat_lt
    have hc := c.toNat_lt
    have hread := decode_four (show a.toNat / 4 < 64 by omega)
      (show a.toNat % 4 * 16 + b.toNat / 16 < 64 by omega)
      (show b.toNat % 16 * 4 + c.toNat / 64 < 64 by omega)
      (show c.toNat % 64 < 64 by omega) (encode rest)
    rw [decode_encode rest, bytes_digits a b c] at hread
    exact hread

end Bytes.Base64

open Json

/-! ### Values -/

namespace Json

/-- The values that stay what they are when they are written and read: no number has a point, each
fits into 64 bits, with a sign or without, and the members of each object have different names, in
ascending order. -/
inductive Value.Plain : Value → Prop
  | null : Plain .null
  | bool (b : Bool) : Plain (.bool b)
  | whole {n : Int} : -0x8000000000000000 ≤ n → n < 0x10000000000000000 →
      Plain (.number (.whole n))
  | text (s : String) : Plain (.text s)
  | array {items : List Value} : (∀ v ∈ items, v.Plain) → Plain (.array items)
  | object {members : List (String × Value)} : Ascending members → (∀ m ∈ members, m.2.Plain) →
      Plain (.object members)

theorem Value.Plain.exact {v : Value} (h : v.Plain) : v.exact := by
  induction h with
  | null => rfl
  | bool b => rfl
  | whole hlow hhigh => simp [Value.exact, hlow, hhigh]
  | text s => rfl
  | array _ ih => exact allExact_iff.2 ih
  | object _ _ ih => exact membersExact_iff.2 ih

theorem Value.Plain.tidy_eq {v : Value} (h : v.Plain) : v.tidy = v := by
  induction h with
  | null => rfl
  | bool b => rfl
  | whole _ _ => rfl
  | text s => rfl
  | array _ ih => rw [tidy, tidyAll_eq ih]
  | @object members hascending _ ih =>
    have hnil : Ascending ([] ++ members) := hascending
    rw [tidy, tidyMembers_eq hnil ih, List.nil_append]

end Json

/-! ### Session data -/

namespace SessionData

section
variable {data : SessionData} (hexact : data.toJson.exact)
  (htidy : ∀ e ∈ data.entries, e.2.tidy = e.2)

include hexact htidy

/-- The data is recalled from its JSON. -/
theorem recalls_toJson : Recalls (fun depth t => t.toDict depth Tree.toValue) data.toJson data := by
  refine recalls_toDict (List.forall₂_same.2 fun e he => ⟨rfl, ?_⟩)
  have hvalue := toValue_ofValue (Value.membersExact_iff.1 hexact e he)
  rwa [htidy e he] at hvalue

/-- The data is read back from its payload, unless it nests too deep. -/
theorem decode_encode_eq : SessionData.decode data.encode =
    if data.toJson.nesting ≤ maxDepth then .ok data else .error (.data .badPayload) := by
  have hread : ofJsonText data.toJson.write = within data.toJson.nesting maxDepth data :=
    (recalls_toJson hexact htidy).decode_write hexact
  rw [SessionData.decode, encode, String.toList_ofList, Bytes.Base64.decode_encode]
  dsimp only
  rw [Bytes.toText?_ofText, Option.map_some, hread]
  by_cases hnesting : data.toJson.nesting ≤ maxDepth
  · rw [within, if_pos hnesting, if_pos hnesting]
  · rw [within, if_neg hnesting, if_neg hnesting]

end

/-- The payload tells the tree of the data. -/
theorem ofValue_eq_of_encode {data other : SessionData} (h : data.toJson.exact)
    (h' : other.toJson.exact) (heq : data.encode = other.encode) :
    Tree.ofValue data.toJson = Tree.ofValue other.toJson := by
  have hdigits : Bytes.Base64.encode (Bytes.ofText data.toJson.write) =
      Bytes.Base64.encode (Bytes.ofText other.toJson.write) := by
    simpa [encode] using congrArg String.toList heq
  have hbytes := congrArg Bytes.Base64.decode hdigits
  rw [Bytes.Base64.decode_encode, Bytes.Base64.decode_encode] at hbytes
  have htext := congrArg Bytes.toText? (Option.some.inj hbytes)
  rw [Bytes.toText?_ofText, Bytes.toText?_ofText] at htext
  have htree := congrArg Tree.ofText (Option.some.inj htext)
  rw [Tree.ofText_write h, Tree.ofText_write h'] at htree
  exact congrArg Prod.fst htree

/-- Data that a payload can stand for: its numbers are whole, it does not nest too deep, and, as
always, the members of its objects stand in their order. -/
structure Plain (data : SessionData) : Prop where
  exact : data.toJson.exact
  tidy : ∀ e ∈ data.entries, e.2.tidy = e.2
  shallow : data.toJson.nesting ≤ maxDepth

/-- The data is read back from its payload. -/
theorem Plain.decode_encode {data : SessionData} (h : data.Plain) :
    SessionData.decode data.encode = .ok data := by
  rw [decode_encode_eq h.exact h.tidy, if_pos h.shallow]

/-- Data of plain values, under whatever names, is read back from its payload exactly if it nests no
more containers than may be, its own object among them; if it nests more, the payload is refused. In
any case the payload tells the data: no other data has the same one. -/
theorem payload_of_plain (data : SessionData) (hplain : ∀ e ∈ data.entries, e.2.Plain) :
    SessionData.decode data.encode =
      (if data.toJson.nesting ≤ maxDepth then .ok data else .error (.data .badPayload)) ∧
    ∀ other : SessionData, (∀ e ∈ other.entries, e.2.Plain) →
      data.encode = other.encode → data = other := by
  have hexact : ∀ data : SessionData, (∀ e ∈ data.entries, e.2.Plain) → data.toJson.exact :=
    fun data hplain => Value.membersExact_iff.2 fun e he => (hplain e he).exact
  have hrecalls : ∀ data : SessionData, (∀ e ∈ data.entries, e.2.Plain) →
      Recalls (fun depth t => t.toDict depth Tree.toValue) data.toJson data :=
    fun data hplain => recalls_toJson (hexact data hplain) fun e he => (hplain e he).tidy_eq
  refine ⟨decode_encode_eq (hexact data hplain) fun e he => (hplain e he).tidy_eq, ?_⟩
  intro other hother heq
  have htree := ofValue_eq_of_encode (hexact data hplain) (hexact other hother) heq
  exact (hrecalls data hplain).eq_of_ofValue (hrecalls other hother) htree

/-- Keys and texts hold any characters, and numbers the least and the greatest of 64 bits. -/
theorem payload_of_plain_numbers :
    let least : Value :=
      .object [("", .text "\\\x00"), ("\"", .number (.whole (-0x8000000000000000)))]
    let data : SessionData :=
      .ofList [("é😀\n", .array [.null, least]), ("n", .number (.whole 0xFFFFFFFFFFFFFFFF))]
    let other : SessionData := data.insert "n" (.text "18446744073709551615")
    (∀ e ∈ data.entries, e.2.Plain) ∧ (∀ e ∈ other.entries, e.2.Plain) ∧
      SessionData.decode data.encode = .ok data ∧ data.encode ≠ other.encode := by
  intro least data other
  have hleast : least.Plain := .object (by decide) (by simp [Value.Plain.text, Value.Plain.whole])
  have harray : (Value.array [.null, least]).Plain := .array (by simp [Value.Plain.null, hleast])
  have hplain : ∀ e ∈ data.entries, e.2.Plain := by
    have hentries : data.entries =
        [("n", .number (.whole 0xFFFFFFFFFFFFFFFF)), ("é😀\n", .array [.null, least])] := by
      decide +kernel
    simp [hentries, harray, Value.Plain.whole]
  have hother : ∀ e ∈ other.entries, e.2.Plain := by
    have hentries : other.entries =
        [("n", .text "18446744073709551615"), ("é😀\n", .array [.null, least])] := by
      decide +kernel
    simp [hentries, harray, Value.Plain.text]
  have hdiffer : data ≠ other := by decide +kernel
  obtain ⟨hdecode, htells⟩ := payload_of_plain data hplain
  refine ⟨hplain, hother, ?_, fun heq => hdiffer (htells other hother heq)⟩
  rw [hdecode, if_pos (by decide +kernel)]

end SessionData

/-- A session that is started with such a payload has the data. -/
theorem Session.dataOf_encode {data : SessionData} (h : data.Plain) :
    dataOf (some data.encode) = data := by
  rw [dataOf, Option.map_some, h.decode_encode]

end Routing
