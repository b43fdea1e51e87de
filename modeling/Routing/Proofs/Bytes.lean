import Mathlib.Data.List.Infix
import Routing.Bytes.Hex

/-!
What bytes stand for. A code is free of prefixes if it is always clear where the code of a thing
ends; then a list of things is given by the codes of them all, one after another.

    c3 a9 | 21        é, !      no code of a character starts with the code of another one
-/

namespace Routing.Bytes

section
variable {α β : Type} {f : α → List β}

/-- Codes that end where they end, whatever follows them. -/
def PrefixFree (f : α → List β) : Prop := ∀ a b r s, f a ++ r = f b ++ s → a = b ∧ r = s

theorem PrefixFree.of_length (width : Nat) (hlength : ∀ a, (f a).length = width)
    (hinjective : Function.Injective f) : PrefixFree f := by
  intro a b r s h
  obtain ⟨hcode, hrest⟩ := List.append_inj h ((hlength a).trans (hlength b).symm)
  exact ⟨hinjective hcode, hrest⟩

/-- Of two lists of codes that agree as far as both go, one is the start of the other. -/
theorem PrefixFree.comparable (h : PrefixFree f) : ∀ {as bs : List α} {r s : List β},
    as.flatMap f ++ r = bs.flatMap f ++ s → as <+: bs ∨ bs <+: as
  | [], _, _, _, _ => .inl List.nil_prefix
  | _ :: _, [], _, _, _ => .inr List.nil_prefix
  | a :: as, b :: bs, r, s, heq => by
    rw [List.flatMap_cons, List.flatMap_cons, List.append_assoc, List.append_assoc] at heq
    obtain ⟨rfl, hrest⟩ := h a b _ _ heq
    exact (h.comparable hrest).imp (List.cons_prefix_cons.2 ⟨rfl, ·⟩)
      (List.cons_prefix_cons.2 ⟨rfl, ·⟩)

theorem eq_nil_of_flatMap_eq_nil (hne : ∀ a, f a ≠ []) :
    ∀ {as : List α}, as.flatMap f = [] → as = []
  | [], _ => rfl
  | a :: _, h => absurd (List.append_eq_nil_iff.1 h).1 (hne a)

/-- A list is given by its codes. -/
theorem PrefixFree.flatMap_injective (h : PrefixFree f) (hne : ∀ a, f a ≠ []) :
    Function.Injective (List.flatMap f) := by
  intro as bs heq
  have hagree : as.flatMap f ++ [] = bs.flatMap f ++ [] := by rw [heq]
  rcases h.comparable hagree with ⟨more, rfl⟩ | ⟨more, rfl⟩
  · have hmore : more.flatMap f = [] := by simpa using heq
    rw [eq_nil_of_flatMap_eq_nil hne hmore, List.append_nil]
  · have hmore : more.flatMap f = [] := by simpa using heq
    rw [eq_nil_of_flatMap_eq_nil hne hmore, List.append_nil]

end

/-! ### Texts -/

theorem toList_eq (bytes : ByteArray) : bytes.toList = bytes.data.toList := by
  have hloop : ∀ (left i : Nat) (read : List UInt8), bytes.size - i = left →
      ByteArray.toList.loop bytes i read = read.reverse ++ bytes.data.toList.drop i := by
    intro left
    induction left with
    | zero =>
      intro i read hleft
      have hend : ¬ i < bytes.size := by omega
      have hdrop : bytes.data.toList.length ≤ i := Nat.le_of_not_lt hend
      rw [ByteArray.toList.loop, if_neg hend, List.drop_eq_nil_of_le hdrop, List.append_nil]
    | succ left ih =>
      intro i read hleft
      have hlt : i < bytes.size := by omega
      have hlt' : i < bytes.data.toList.length := hlt
      have hget : bytes.get! i = bytes.data.toList[i] := getElem!_pos bytes.data i hlt
      rw [ByteArray.toList.loop, if_pos hlt, ih (i + 1) _ (by omega),
        List.drop_eq_getElem_cons hlt', hget]
      simp
  rw [ByteArray.toList, hloop _ 0 [] rfl]
  simp

/-- The bytes of a text are those of no other one. -/
theorem toText?_ofText (s : String) : toText? (ofText s) = some s := by
  have hbytes : (⟨(ofText s).toArray⟩ : ByteArray) = s.toByteArray := by
    rw [ofText, toList_eq, Array.toArray_toList]
    rfl
  rw [toText?, hbytes, String.fromUTF8?, dif_pos s.isValidUTF8]
  rfl

theorem ofText_ofList (cs : List Char) :
    ofText (String.ofList cs) = cs.flatMap String.utf8EncodeChar := by
  rw [ofText, String.toUTF8, String.toByteArray_ofList, toList_eq, List.utf8Encode,
    List.toList_data_toByteArray]

/-- No character starts with the bytes of another one. -/
theorem prefixFree_utf8 : PrefixFree String.utf8EncodeChar := by
  intro c d r s h
  have hc := ByteArray.utf8DecodeChar?_utf8EncodeChar_append (b := r.toByteArray) (c := c)
  have hd := ByteArray.utf8DecodeChar?_utf8EncodeChar_append (b := s.toByteArray) (c := d)
  rw [← List.toByteArray_append] at hc hd
  rw [h, hd] at hc
  obtain rfl := Option.some.inj hc
  exact ⟨rfl, List.append_cancel_left h⟩

/-! ### Hexadecimal digits -/

theorem hexChar_injective {m n : UInt8} (hm : m.toNat < 16) (hn : n.toNat < 16)
    (h : hexChar m = hexChar n) : m = n := by
  have hall : ∀ k < 16, ∀ l < 16, hexChar (UInt8.ofNat k) = hexChar (UInt8.ofNat l) → k = l := by
    decide
  have hnat := hall m.toNat hm n.toNat hn
  rw [UInt8.ofNat_toNat, UInt8.ofNat_toNat] at hnat
  exact UInt8.toNat_inj.1 (hnat h)

theorem hexByte_injective : Function.Injective hexByte := by
  intro a b h
  have hfits : ∀ c : UInt8, (c / 16).toNat < 16 ∧ (c % 16).toNat < 16 := by
    intro c
    have hlt := c.toNat_lt
    simp only [UInt8.toNat_div, UInt8.toNat_mod, UInt8.reduceToNat]
    omega
  obtain ⟨hhigh, hlow⟩ :
      hexChar (a / 16) = hexChar (b / 16) ∧ hexChar (a % 16) = hexChar (b % 16) := by
    simpa [hexByte] using h
  have hdiv := congrArg UInt8.toNat (hexChar_injective (hfits a).1 (hfits b).1 hhigh)
  have hmod := congrArg UInt8.toNat (hexChar_injective (hfits a).2 (hfits b).2 hlow)
  simp only [UInt8.toNat_div, UInt8.toNat_mod, UInt8.reduceToNat] at hdiv hmod
  exact UInt8.toNat_inj.1 (by omega)

/-- Bytes are given by their digits. -/
theorem hex_injective : Function.Injective hex := by
  intro a b h
  have hfree : PrefixFree hexByte := .of_length 2 (fun _ => rfl) hexByte_injective
  have hne : ∀ b, hexByte b ≠ [] := fun b => List.cons_ne_nil _ _
  exact hfree.flatMap_injective hne (String.ofList_injective h)

end Routing.Bytes
