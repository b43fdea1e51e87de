import Routing.Cache
import Routing.Proofs.Bytes
import Routing.Proofs.Files

/-!
The paths of entries. A name without a slash that is put behind a path is its last piece, whatever
the path looks like. The names of entries and of the directories that they are in are of this kind.

    ""        join "3f"      3f           pieces  3f
    c/        join "3f"      c/3f         pieces  c, 3f
    c/.       join "3f"      c/./3f       pieces  c, 3f
-/

namespace Routing

namespace Files

/-! ### Joined paths -/

/-- A text that is a piece by itself and does not lead back. -/
structure Named (name : String) : Prop where
  counts : isIdle name = false
  forward : name ≠ ".."
  whole : '/' ∉ name.toList

/-- A name that is a piece by itself and leads further down. -/
structure Plain (name : String) : Prop extends Named name where
  short : name.utf8ByteSize ≤ nameLimit

/-- A text in which there is more than points is neither idle nor does it lead back. -/
theorem named_of_mem {name : String} {c : Char} (hc : c ∈ name.toList) (hpoint : c ≠ '.')
    (hwhole : '/' ∉ name.toList) : Named name := by
  have hne : ∀ points : String, c ∉ points.toList → name ≠ points := fun points hpoints heq =>
    hpoints (heq ▸ hc)
  refine ⟨?_, hne ".." (by simpa using hpoint), hwhole⟩
  simp [isIdle, hne "" (by simp), hne "." (by simpa using hpoint)]

theorem Plain.enter? {name : String} (h : Plain name) (here : Parts) :
    here.enter? name = some (here ++ [name]) := by
  rw [Parts.enter?, if_neg h.forward, if_pos h.short]

/-- Such a name is taken in the directory above it. -/
theorem Plain.walk_cons {name : String} (h : Plain name) {t : Tree} {here p : Parts}
    {rest : List String} : t.walk here (name :: rest) = .ok p ↔
      t.HasDirectory here ∧ t.walk (here ++ [name]) rest = .ok p := by
  rw [Tree.walk_cons, h.enter?]
  simp

theorem splitParts_append (cs : List Char) {name : List Char} (h : '/' ∉ name) :
    splitParts (cs ++ '/' :: name) = splitParts cs ++ [String.ofList name] := by
  rw [splitParts, List.splitOn_append_cons_self, List.splitOn_eq_singleton h, List.map_append]
  rfl

/-- The parts of a joined path: the name, and before it what counts of the path. -/
theorem splitParts_join (dir : String) {name : String} (h : '/' ∉ name.toList) :
    ∃ parts, splitParts (join dir name).toList = parts ++ [name] ∧
      parts.filter (fun p => !isIdle p) = pieces dir := by
  have hstart : ¬ name.startsWith "/" := by
    rw [String.startsWith_string_iff]
    exact fun hpre => h (hpre.subset (List.mem_singleton_self '/'))
  rw [join, if_neg hstart]
  split
  next hend =>
    by_cases hdir : dir = ""
    · refine ⟨[], ?_, by subst hdir; decide⟩
      rw [hdir, splitParts]
      simp [List.splitOn_eq_singleton h]
    · -- The path ends with a slash, and nothing stands behind it.
      have hslash : dir.endsWith "/" := by simpa [hdir] using hend
      rw [String.endsWith, String.Slice.endsWith_string_iff, String.copy_toSlice] at hslash
      obtain ⟨cs, hcs⟩ := hslash
      have hcs' : dir.toList = cs ++ ['/'] := hcs.symm
      refine ⟨splitParts cs, ?_, ?_⟩
      · rw [String.toList_append, hcs', List.append_assoc]
        simpa using splitParts_append cs h
      · rw [pieces, hcs', splitParts_append cs List.not_mem_nil]
        simp [isIdle]
  · refine ⟨splitParts dir.toList, ?_, rfl⟩
    rw [String.toList_append, String.toList_append, List.append_assoc]
    simpa using splitParts_append dir.toList h

variable {name : String}

/-- A name that is put behind a path is its last piece. -/
theorem Named.pieces_join (h : Named name) (dir : String) :
    pieces (join dir name) = pieces dir ++ [name] := by
  obtain ⟨parts, hparts, hpieces⟩ := splitParts_join dir h.whole
  rw [pieces, hparts, List.filter_append, hpieces]
  simp [h.counts]

theorem lastPart_join (h : '/' ∉ name.toList) (dir : String) : lastPart (join dir name) = name := by
  obtain ⟨parts, hparts, -⟩ := splitParts_join dir h
  rw [lastPart, hparts]
  simp

theorem Named.asksDirectory_join (h : Named name) (dir : String) :
    asksDirectory (join dir name) = false := by
  simp [asksDirectory, lastPart_join h.whole dir, h.counts, h.forward]

/-- A file has a name of its own. -/
theorem named_of_asksDirectory {dir : String} (h : '/' ∉ name.toList)
    (hfile : asksDirectory (join dir name) = false) : Named name := by
  obtain ⟨hidle, hback⟩ : isIdle name = false ∧ name ≠ ".." := by
    simpa [asksDirectory, lastPart_join h dir] using hfile
  exact ⟨hidle, hback, h⟩

theorem Named.endsInPoint_join (h : Named name) (dir : String) :
    endsInPoint (join dir name) = false := by
  obtain ⟨parts, hparts, -⟩ := splitParts_join dir h.whole
  obtain ⟨hempty, hpoint⟩ : name ≠ "" ∧ name ≠ "." := by simpa [isIdle] using h.counts
  simp [endsInPoint, hparts, hempty, hpoint]

end Files

/-! ### Names that are hashes -/

namespace Bytes

/-- The digits that bytes are written with. -/
def hexDigits : List Char :=
  ['0', '1', '2', '3', '4', '5', '6', '7', '8', '9', 'a', 'b', 'c', 'd', 'e', 'f']

theorem mem_hex {bytes : List UInt8} : ∀ c ∈ (hex bytes).toList, c ∈ hexDigits := by
  have hall : ∀ k < 16, hexChar (UInt8.ofNat k) ∈ hexDigits := by decide
  have hdigit : ∀ n : UInt8, n.toNat < 16 → hexChar n ∈ hexDigits := by
    intro n hn
    have hmem := hall n.toNat hn
    rwa [UInt8.ofNat_toNat] at hmem
  intro c hc
  rw [hex, String.toList_ofList, List.mem_flatMap] at hc
  obtain ⟨b, -, hb⟩ := hc
  have hlt := b.toNat_lt
  rcases List.mem_cons.1 hb with rfl | hb
  · refine hdigit _ ?_
    simp only [UInt8.toNat_div, UInt8.reduceToNat]
    omega
  · obtain rfl := List.mem_singleton.1 hb
    refine hdigit _ ?_
    simp only [UInt8.toNat_mod, UInt8.reduceToNat]
    omega

theorem length_hex (bytes : List UInt8) : (hex bytes).toList.length = 2 * bytes.length := by
  rw [hex, String.toList_ofList, List.length_flatMap]
  simp [hexByte, Nat.mul_comm]

theorem length_bigEndian : ∀ count n, (bigEndian count n).length = count := by
  have hlittle : ∀ count n, (littleEndian count n).length = count := by
    intro count
    induction count with
    | zero => exact fun _ => rfl
    | succ count ih => exact fun n => congrArg Nat.succ (ih (n / 256))
  intro count n
  rw [bigEndian, List.length_reverse, hlittle]

theorem Sha256.length_hash (message : List UInt8) : (hash message).length = 32 := by
  simp [hash, length_bigEndian]

end Bytes

/-- A text of digits has one byte for each of them. -/
theorem utf8ByteSize_digits : ∀ {cs : List Char}, (∀ c ∈ cs, c ∈ Bytes.hexDigits) →
    (String.ofList cs).utf8ByteSize = cs.length
  | [], _ => rfl
  | c :: cs, h => by
    obtain ⟨hc, hcs⟩ := List.forall_mem_cons.1 h
    have hsize : ∀ d ∈ Bytes.hexDigits, d.utf8Size = 1 := by simp [Bytes.hexDigits, Char.utf8Size]
    have happend : String.ofList (c :: cs) = String.singleton c ++ String.ofList cs := by
      rw [← String.toList_inj]
      simp
    rw [happend, String.utf8ByteSize_append, utf8ByteSize_digits hcs, String.utf8ByteSize_singleton,
      hsize c hc, List.length_cons, Nat.add_comm]

namespace RouteCache

/-- The name of the file that the entry of a key is. -/
def fileName (key : String) : String := hashOf key ++ ".json"

theorem mem_hashOf (key : String) : ∀ c ∈ (hashOf key).toList, c ∈ Bytes.hexDigits :=
  Bytes.mem_hex

theorem length_hashOf (key : String) : (hashOf key).toList.length = 64 := by
  rw [hashOf, Bytes.length_hex, Bytes.Sha256.length_hash]

theorem toList_shelfOf (hash : String) : (shelfOf hash).toList = hash.toList.take 2 :=
  String.toList_ofList

theorem mem_shelfOf (key : String) :
    ∀ c ∈ (shelfOf (hashOf key)).toList, c ∈ Bytes.hexDigits := by
  intro c hc
  rw [toList_shelfOf] at hc
  exact mem_hashOf key c (List.mem_of_mem_take hc)

theorem length_shelfOf (key : String) : (shelfOf (hashOf key)).toList.length = 2 := by
  rw [toList_shelfOf, List.length_take, length_hashOf]
  rfl

/-- The directory of an entry is one of those that are cleared. -/
theorem isShelf_shelfOf (key : String) : isShelf (shelfOf (hashOf key)) := by
  have hdigit : ∀ c ∈ Bytes.hexDigits,
      c.isDigit || ('a' ≤ c && c ≤ 'f') || ('A' ≤ c && c ≤ 'F') :=
    List.all_eq_true.1 (by decide)
  have hlen : (shelfOf (hashOf key)).length = 2 := by
    rw [← String.length_toList, length_shelfOf]
  rw [isShelf, hlen, Bool.and_eq_true]
  exact ⟨rfl, List.all_eq_true.2 fun c hc => hdigit c (mem_shelfOf key c hc)⟩

/-- A name with a digit in it is neither idle nor does it lead back. -/
theorem plain_of_digit {name : String} {c : Char} (hc : c ∈ name.toList)
    (hdigit : c ∈ Bytes.hexDigits) (hwhole : '/' ∉ name.toList)
    (hshort : name.utf8ByteSize ≤ Files.nameLimit) : Files.Plain name := by
  have hpoint : c ≠ '.' := by
    rintro rfl
    exact absurd hdigit (by decide)
  exact ⟨Files.named_of_mem hc hpoint hwhole, hshort⟩

theorem plain_shelfOf (key : String) : Files.Plain (shelfOf (hashOf key)) := by
  have hlen := length_shelfOf key
  have hpos : 0 < (shelfOf (hashOf key)).toList.length := hlen.symm ▸ Nat.two_pos
  obtain ⟨c, hc⟩ := List.exists_mem_of_length_pos hpos
  refine plain_of_digit hc (mem_shelfOf key c hc) (fun hslash => ?_) ?_
  · exact absurd (mem_shelfOf key _ hslash) (by decide)
  · have hsize := utf8ByteSize_digits (mem_shelfOf key)
    rw [String.ofList_toList, hlen] at hsize
    rw [hsize]
    decide

theorem plain_fileName (key : String) : Files.Plain (fileName key) := by
  have hlen := length_hashOf key
  have hpos : 0 < (hashOf key).toList.length := hlen.symm ▸ Nat.succ_pos 63
  obtain ⟨c, hc⟩ := List.exists_mem_of_length_pos hpos
  have hchars : (fileName key).toList = (hashOf key).toList ++ ".json".toList :=
    String.toList_append
  refine plain_of_digit (c := c) ?_ (mem_hashOf key c hc) (fun hslash => ?_) ?_
  · rw [hchars]
    exact List.mem_append_left _ hc
  · rw [hchars] at hslash
    rcases List.mem_append.1 hslash with hslash | hslash
    · exact absurd (mem_hashOf key _ hslash) (by decide)
    · exact absurd hslash (by decide)
  · have hsize := utf8ByteSize_digits (mem_hashOf key)
    rw [String.ofList_toList, hlen] at hsize
    rw [fileName, String.utf8ByteSize_append, hsize]
    decide

/-- An entry is counted when its directory is cleared. -/
theorem extension?_fileName (key : String) : Files.extension? (fileName key) = some "json" := by
  have hlen := length_hashOf key
  have hreversed : (fileName key).toList.reverse =
      ['n', 'o', 's', 'j', '.'] ++ (hashOf key).toList.reverse := by
    rw [fileName, String.toList_append, List.reverse_append]
    rfl
  have hplain := (plain_fileName key).forward
  rw [Files.extension?, hreversed]
  cases hhash : (hashOf key).toList.reverse with
  | nil =>
    rw [← List.length_reverse, hhash] at hlen
    exact absurd hlen (by decide)
  | cons c cs => simp [hplain]

end RouteCache

end Routing
