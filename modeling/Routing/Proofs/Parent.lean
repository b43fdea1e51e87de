import Mathlib.Data.List.DropRight
import Routing.Proofs.Listing

/-!
The path above a file. Parts that count for nothing are left out at its end, so it leads to the
directory that the file is in, and to nothing that has still to be made.

    c/x          above      c         pieces  c
    c/./x                   c
    c/../d//x               c/../d    pieces  c, .., d
    x                       (none)    pieces  (none)
-/

namespace Routing.Files

/-! ### Parts of texts -/

/-- What lies between slashes has none. -/
theorem not_mem_of_mem_splitOn {c : Char} : ∀ {cs part : List Char}, part ∈ cs.splitOn c → c ∉ part
  | [], part, h => by
    obtain rfl : part = [] := by simpa using h
    exact List.not_mem_nil
  | d :: cs, part, h => by
    rw [List.splitOn_cons_eq_if_modifyHead] at h
    split at h
    · rcases List.mem_cons.1 h with rfl | h
      · exact List.not_mem_nil
      · exact not_mem_of_mem_splitOn h
    next hne =>
      cases hrest : cs.splitOn c with
      | nil => exact absurd hrest (List.splitOn_ne_nil c cs)
      | cons first rest =>
        have hall : ∀ {p}, p ∈ first :: rest → c ∉ p := fun hp =>
          not_mem_of_mem_splitOn (hrest ▸ hp)
        rw [hrest, List.modifyHead_cons] at h
        rcases List.mem_cons.1 h with rfl | h
        · have hcd : c ≠ d := fun heq => hne (by simp [heq])
          simpa [hcd] using hall List.mem_cons_self
        · exact hall (List.mem_cons_of_mem first h)

theorem intercalate_splitParts (path : String) :
    "/".intercalate (splitParts path.toList) = path := by
  rw [← String.toList_inj, String.toList_intercalate, splitParts, List.map_map]
  simp [Function.comp_def, List.intercalate_splitOn]

/-- Parts of a path that are put together are the parts of what is put together. -/
theorem splitParts_intercalate (path : String) {parts : List String} (hne : parts ≠ [])
    (hparts : ∀ p ∈ parts, p ∈ splitParts path.toList) :
    splitParts ("/".intercalate parts).toList = parts := by
  have hwhole : ∀ cs ∈ parts.map String.toList, '/' ∉ cs := by
    intro cs hcs
    obtain ⟨p, hp, rfl⟩ := List.mem_map.1 hcs
    obtain ⟨part, hpart, rfl⟩ := List.mem_map.1 (hparts p hp)
    rw [String.toList_ofList]
    exact not_mem_of_mem_splitOn hpart
  have hsplit := List.splitOn_intercalate '/' hwhole (by simpa using hne)
  rw [splitParts, String.toList_intercalate]
  rw [show "/".toList = ['/'] from rfl, hsplit, List.map_map]
  simp

/-! ### The path above -/

/-- The parts of the path above a file. Those that were left out count for nothing. -/
theorem parent_of_file {path : String} (h : asksDirectory path = false) :
    ∃ above idle name, splitParts path.toList = above ++ idle ++ [name] ∧
      (∀ p ∈ idle, isIdle p = true) ∧ (∀ hne : above ≠ [], isIdle (above.getLast hne) = false) ∧
      isIdle name = false ∧ parent path = "/".intercalate above := by
  obtain ⟨ps, name, hparts, hidle, -⟩ := parts_of_file h
  refine ⟨dropIdle ps, ps.rtakeWhile isIdle, name, ?_, fun p hp => List.mem_rtakeWhile_imp hp,
    fun hne => Bool.not_eq_true _ ▸ List.rdropWhile_last_not isIdle ps hne, hidle, ?_⟩
  · rw [hparts]
    congr 1
    exact List.rdropWhile_append_rtakeWhile.symm
  · have hkeep : dropIdle (ps ++ [name]) = ps ++ [name] :=
      List.rdropWhile_concat_neg isIdle ps name (by simp [hidle])
    rw [parent, hparts, hkeep, List.dropLast_concat]

variable {path : String}

theorem pieces_parent (h : asksDirectory path = false) :
    ∃ name, pieces path = pieces (parent path) ++ [name] := by
  obtain ⟨above, idle, name, hparts, hidle, -, hname, hparent⟩ := parent_of_file h
  have hnone : idle.filter (fun p => !isIdle p) = [] := by
    simpa [List.filter_eq_nil_iff] using hidle
  have habove : pieces (parent path) = above.filter fun p => !isIdle p := by
    rw [hparent, pieces]
    rcases eq_or_ne above [] with rfl | hne
    · decide
    · rw [splitParts_intercalate path hne fun p hp => by simp [hparts, hp]]
  refine ⟨name, ?_⟩
  rw [habove, pieces, hparts, List.filter_append, List.filter_append, hnone, List.append_nil]
  simp [hname]

theorem endsInPoint_parent (h : asksDirectory path = false) :
    endsInPoint (parent path) = false := by
  obtain ⟨above, idle, name, hparts, -, hlast, -, hparent⟩ := parent_of_file h
  rw [hparent]
  rcases eq_or_ne above [] with rfl | hne
  · decide
  · have hcounts : above.getLast hne ≠ "" ∧ above.getLast hne ≠ "." := by
      simpa [isIdle] using hlast hne
    rw [endsInPoint, splitParts_intercalate path hne fun p hp => by simp [hparts, hp]]
    conv_lhs => rw [← List.dropLast_append_getLast hne, List.filter_append]
    simp [hcounts]

theorem isPassable_parent (h : asksDirectory path = false) (hpass : isPassable path) :
    isPassable (parent path) := by
  obtain ⟨above, idle, name, hparts, -, -, -, hparent⟩ := parent_of_file h
  obtain ⟨rest, hrest⟩ : ∃ rest, path = parent path ++ rest := by
    rw [hparent]
    rcases eq_or_ne above [] with rfl | hne
    · exact ⟨path, by simp⟩
    · refine ⟨"/" ++ "/".intercalate (idle ++ [name]), ?_⟩
      rw [← String.append_assoc, ← String.intercalate_append_of_ne_nil hne (by simp),
        ← List.append_assoc, ← hparts, intercalate_splitParts]
  generalize parent path = above at hrest ⊢
  subst hrest
  simp only [isPassable, String.utf8ByteSize_append, String.toList_append, Bool.and_eq_true,
    decide_eq_true_eq, Bool.not_eq_true', List.contains_eq_mem, decide_eq_false_iff_not,
    List.mem_append, not_or] at hpass ⊢
  exact ⟨by omega, hpass.2.1⟩

namespace Tree

/-- Above a file that can be read no directory is missing. -/
theorem makeDirectories_parent {t : Tree} {content : String} (h : t.read path = .ok content) :
    t.makeDirectories (parent path) = (t, true) := by
  obtain ⟨hasks, p, hp, -⟩ := read_eq_ok.1 h
  obtain ⟨hpass, hwalk⟩ := locate_eq_ok.1 hp
  obtain ⟨name, hpieces⟩ := pieces_parent hasks
  rw [hpieces, walk_append] at hwalk
  obtain ⟨above, habove, hlast⟩ := hwalk
  obtain ⟨hdir, -⟩ := walk_cons.1 hlast
  rw [makeDirectories, isPassable_parent hasks hpass, endsInPoint_parent hasks]
  simpa using makeWay_of_walk hdir habove

end Tree

end Routing.Files
