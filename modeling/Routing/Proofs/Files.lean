import Mathlib.Data.List.Infix
import Routing.Files.Tree
import Routing.Proofs.Outcome

/-!
What operations on files leave as it is, and what they change. Whatever is done at a place, only
that place changes and what is below it; directories that are made hide no file.

    put c/x, then ask for     c/x     the new node
                              c       the same directory
                              d/y     what was there

The place that a path leads to does not depend on the tree, as long as the path can be gone at all.
So what is written under a path is read under it.
-/

namespace Routing.Files

/-! ### Places of paths -/

/-- The place at the end of pieces, whatever is there. -/
def Parts.enterAll? (here : Parts) (pieces : List String) : Option Parts :=
  pieces.foldlM Parts.enter? here

/-- The place of a path, whatever is there. -/
def place? (path : String) : Option Parts := Parts.enterAll? [] (pieces path)

/-- A path that cannot only lead to a directory ends in a part that leads further down. -/
theorem parts_of_file {path : String} (h : asksDirectory path = false) :
    ∃ ps name, splitParts path.toList = ps ++ [name] ∧ isIdle name = false ∧ name ≠ ".." := by
  obtain ⟨hidle, hback⟩ : isIdle (lastPart path) = false ∧ lastPart path ≠ ".." := by
    simpa [asksDirectory] using h
  have hparts : splitParts path.toList ≠ [] := by
    intro hnil
    have hlast : lastPart path = "" := by rw [lastPart, hnil]; rfl
    rw [hlast] at hidle
    exact absurd hidle (by decide)
  have hlast : lastPart path = (splitParts path.toList).getLast hparts := by
    rw [lastPart, List.getLastD_eq_getLast?, List.getLast?_eq_getLast_of_ne_nil hparts]
    rfl
  refine ⟨(splitParts path.toList).dropLast, lastPart path, ?_, hidle, hback⟩
  rw [hlast, List.dropLast_append_getLast]

theorem pieces_of_file {path : String} (h : asksDirectory path = false) :
    ∃ ps name, pieces path = ps ++ [name] ∧ name ≠ ".." := by
  obtain ⟨ps, name, hparts, hidle, hback⟩ := parts_of_file h
  refine ⟨ps.filter fun p => !isIdle p, name, ?_, hback⟩
  rw [pieces, hparts, List.filter_append]
  simp [hidle]

namespace Tree

/-! ### What stands at a place -/

/-- The content, if this is a file. -/
def content? : Tree → Option String
  | file content => some content
  | directory _ => none

/-- What kind of thing stands at a place: nothing, a directory, or a file with its content. -/
def at? (t : Tree) (place : Parts) : Option (Option String) := (t.find? place).map content?

/-- The content of the file at a place. -/
def fileAt? (t : Tree) (place : Parts) : Option String := (t.at? place).join

/-- Is there a directory at a place? -/
def HasDirectory (t : Tree) (place : Parts) : Prop := t.at? place = some none

theorem find?_append (p q : Parts) :
    ∀ t : Tree, t.find? (p ++ q) = (t.find? p).bind (·.find? q) := by
  induction p with
  | nil => exact fun t => by simp [find?]
  | cons name p ih =>
    intro t
    cases t with
    | file content => rfl
    | directory entries =>
      rw [List.cons_append, find?, find?]
      cases entries.lookup name with
      | none => rfl
      | some t => exact ih t

theorem find?_file (content : String) {p : Parts} (h : p ≠ []) : (file content).find? p = none := by
  cases p with
  | nil => exact absurd rfl h
  | cons name p => rfl

@[simp] theorem fileAt?_empty (p : Parts) : empty.fileAt? p = none := by
  cases p with
  | nil => rfl
  | cons name p => rfl

theorem hasDirectory_iff {t : Tree} {p : Parts} :
    t.HasDirectory p ↔ ∃ entries, t.find? p = some (directory entries) := by
  rw [HasDirectory, at?]
  cases t.find? p with
  | none => simp
  | some node => cases node <;> simp [content?]

/-- Above what is there stand directories. -/
theorem hasDirectory_of_isSome {t : Tree} {p q : Parts} (hq : q ≠ [])
    (h : (t.at? (p ++ q)).isSome) : t.HasDirectory p := by
  rw [at?, find?_append, Option.isSome_map] at h
  cases hp : t.find? p with
  | none => simp [hp] at h
  | some node =>
    cases node with
    | file content => simp [hp, find?_file content hq] at h
    | directory entries => exact hasDirectory_iff.2 ⟨entries, hp⟩

/-! ### Setting what stands at a place -/

/-- Another name in a directory is not concerned. -/
theorem lookup_filter_append {entries new : List (String × Tree)} {name other : String}
    (hother : other ≠ name) (hnew : ∀ e ∈ new, e.1 = name) :
    (entries.filter (·.1 != name) ++ new).lookup other = entries.lookup other := by
  have hnone : new.lookup other = none := by
    rw [List.lookup_eq_none_iff]
    intro e he
    rw [hnew e he]
    simpa using hother
  rw [List.lookup_append, hnone, Option.or_none]
  induction entries with
  | nil => rfl
  | cons e entries ih =>
    obtain ⟨n, t⟩ := e
    by_cases hn : n = name
    · subst hn
      simpa [List.lookup_cons, beq_eq_false_iff_ne.2 hother] using ih
    · by_cases ho : other = n
      · simp [hn, ho]
      · simp [hn, List.lookup_cons, beq_eq_false_iff_ne.2 ho, ih]

/-- A name in a directory after it has been given anew. -/
theorem lookup_filter_self (entries new : List (String × Tree)) (name : String) :
    (entries.filter (·.1 != name) ++ new).lookup name = new.lookup name := by
  have hnone : (entries.filter (·.1 != name)).lookup name = none := by
    rw [List.lookup_eq_none_iff]
    intro e he
    simpa [Ne.symm] using fun heq : name = e.1 => by simp [heq] at he
  rw [List.lookup_append, hnone, Option.none_or]

/-- Below a directory that is there, the directory is given anew. -/
theorem set_cons {node : Option Tree} {name : String} {p : Parts} (hp : p ≠ [])
    (entries : List (String × Tree)) : set node (name :: p) (directory entries) =
      match entries.lookup name with
      | some t => directory (entries.filter (·.1 != name) ++ [(name, t.set node p)])
      | none => directory entries := by
  cases p with
  | nil => exact absurd rfl hp
  | cons next p => rfl

/-- Nothing changes but the place and what is below it. -/
theorem at?_set {node : Option Tree} : ∀ {p q : Parts} {t : Tree}, ¬ p <+: q →
    (t.set node p).at? q = t.at? q
  | [], q, t, h => absurd List.nil_prefix h
  | _ :: _, q, file content, _ => rfl
  | [name], [], directory entries, _ => rfl
  | [name], other :: q, directory entries, h => by
    have hother : other ≠ name := by
      rintro rfl
      exact h (by simp)
    rw [at?, at?, set, find?, find?, lookup_filter_append hother (by simp)]
  | name :: next :: p, q, directory entries, h => by
    rw [set_cons (List.cons_ne_nil next p)]
    cases hlookup : entries.lookup name with
    | none => rfl
    | some t =>
      cases q with
      | nil => rfl
      | cons other q =>
        rw [at?, at?, find?, find?]
        by_cases hother : other = name
        · subst hother
          have hnot : ¬ next :: p <+: q := fun hpre => h (List.cons_prefix_cons.2 ⟨rfl, hpre⟩)
          have ih : (t.set node (next :: p)).at? q = t.at? q := at?_set hnot
          simpa [lookup_filter_self, hlookup, at?] using ih
        · rw [lookup_filter_append hother (by simp)]

/-- At the place itself stands what was set, unless there is no directory for it. -/
theorem find?_set {node : Option Tree} {name : String} : ∀ {p : Parts} {t : Tree},
    (t.set node (p ++ [name])).find? (p ++ [name]) =
      if t.at? p = some none then node else none
  | [], file content => rfl
  | [], directory entries => by
    have hlookup := lookup_filter_self entries (node.toList.map fun t => (name, t)) name
    rw [List.nil_append, set, find?, hlookup]
    cases node <;> simp [at?, find?, content?]
  | first :: p, file content => rfl
  | first :: p, directory entries => by
    have hne : p ++ [name] ≠ [] := List.append_ne_nil_of_right_ne_nil p (List.cons_ne_nil name [])
    rw [List.cons_append, set_cons hne]
    cases hlookup : entries.lookup first with
    | none => simp [find?, at?, hlookup]
    | some t =>
      have ih : (t.set node (p ++ [name])).find? (p ++ [name]) =
        if t.at? p = some none then node else none := find?_set
      simpa [find?, at?, lookup_filter_self, hlookup] using ih

/-- The files after something has been set: those that were there, and those that were set. -/
theorem fileAt?_set (node : Option Tree) (p q : Parts) (t : Tree) :
    (t.set node p).fileAt? q = t.fileAt? q ∨ (t.set node p).fileAt? q = none ∨
      ∃ new r, node = some new ∧ (t.set node p).fileAt? q = new.fileAt? r := by
  by_cases hpre : p <+: q
  · obtain ⟨r, rfl⟩ := hpre
    rcases List.eq_nil_or_concat' p with rfl | ⟨p, name, rfl⟩
    · exact .inl (by rw [List.nil_append, set])
    · refine .inr ?_
      rw [fileAt?, at?, find?_append, find?_set]
      split
      · cases node with
        | none => exact .inl rfl
        | some new => exact .inr ⟨new, r, rfl, rfl⟩
      · exact .inl rfl
  · exact .inl (by rw [fileAt?, fileAt?, at?_set hpre])

theorem fileAt?_put_file (content : String) (p q : Parts) (t : Tree) :
    (t.put p (file content)).fileAt? q = t.fileAt? q ∨
      (t.put p (file content)).fileAt? q = none ∨
        (t.put p (file content)).fileAt? q = some content := by
  rw [put]
  rcases fileAt?_set (some (file content)) p q t with h | h | ⟨_, r, ⟨⟩, h⟩
  · exact .inl h
  · exact .inr (.inl h)
  · rw [h]
    cases r with
    | nil => exact .inr (.inr rfl)
    | cons name r => exact .inr (.inl rfl)

/-- Files have been removed, and no other file has changed. -/
def Loses (t t' : Tree) : Prop := ∀ p, t'.fileAt? p = t.fileAt? p ∨ t'.fileAt? p = none

theorem Loses.refl (t : Tree) : t.Loses t := fun _ => .inl rfl

theorem Loses.trans {t t' t'' : Tree} (h : t.Loses t') (h' : t'.Loses t'') : t.Loses t'' := by
  intro p
  rcases h' p with heq | hnone
  · rw [heq]
    exact h p
  · exact .inr hnone

theorem loses_prune (t : Tree) (p : Parts) : t.Loses (t.prune p) := by
  intro q
  refine (fileAt?_set none p q t).imp_right fun h => h.elim id ?_
  rintro ⟨_, _, ⟨⟩, _⟩

/-! ### Making directories -/

/-- Directories have been made, and nothing else has changed. -/
def Grows (t t' : Tree) : Prop :=
  ∀ p, t'.at? p = t.at? p ∨ t.at? p = none ∧ t'.at? p = some none

namespace Grows

variable {t t' : Tree}

theorem refl (t : Tree) : t.Grows t := fun _ => .inl rfl

theorem trans {t'' : Tree} (h : t.Grows t') (h' : t'.Grows t'') : t.Grows t'' := by
  intro p
  rcases h p with heq | ⟨hnone, hmade⟩
  · rw [← heq]
    exact h' p
  · rcases h' p with heq | ⟨hnone', -⟩
    · exact .inr ⟨hnone, heq.trans hmade⟩
    · simp [hmade] at hnone'

theorem fileAt?_eq (h : t.Grows t') (p : Parts) : t'.fileAt? p = t.fileAt? p := by
  rcases h p with heq | ⟨hnone, hmade⟩
  · rw [fileAt?, fileAt?, heq]
  · rw [fileAt?, fileAt?, hnone, hmade]
    rfl

end Grows

theorem grows_put_empty {t : Tree} {p : Parts} (hp : t.find? p = none) :
    t.Grows (t.put p empty) := by
  intro q
  by_cases hpre : p <+: q
  · obtain ⟨r, rfl⟩ := hpre
    have hnone : t.at? (p ++ r) = none := by rw [at?, find?_append, hp]; rfl
    rcases List.eq_nil_or_concat' p with rfl | ⟨p, name, rfl⟩
    · simp [find?] at hp
    · rw [hnone, at?, put, find?_append, find?_set]
      split
      · cases r with
        | nil => exact .inr ⟨rfl, rfl⟩
        | cons first r => exact .inl rfl
      · exact .inl rfl
  · exact .inl (at?_set hpre)

theorem grows_makeWay : ∀ (pieces : List String) (t : Tree) (here : Parts),
    t.Grows (t.makeWay here pieces).1
  | [], t, _ => .refl t
  | piece :: rest, t, here => by
    rw [makeWay]
    split
    · exact .refl t
    next there _ =>
      split
      · exact grows_makeWay rest t there
      · exact .refl t
      next hnone => exact (grows_put_empty hnone).trans (grows_makeWay rest _ there)

theorem grows_makeDirectories (t : Tree) (path : String) : t.Grows (t.makeDirectories path).1 := by
  unfold makeDirectories
  split
  · exact .refl t
  · split
    · have hway := grows_makeWay (pieces (parent path)) t []
      split
      next heq => rwa [heq] at hway
    · exact grows_makeWay (pieces path) t []

/-! ### Going along a path -/

/-- The place that is reached does not depend on what is there. -/
theorem enterAll?_of_walk {t : Tree} : ∀ {pieces : List String} {here p : Parts},
    t.walk here pieces = .ok p → Parts.enterAll? here pieces = some p
  | [], _, _, h => congrArg some (Except.ok.inj h)
  | piece :: rest, here, p, h => by
    rw [walk] at h
    split at h
    · simp at h
    next there _ hthere =>
      rw [Parts.enterAll?, List.foldlM_cons, hthere]
      exact enterAll?_of_walk h
    · simp at h

/-- One piece is taken after the other, each in a directory. -/
theorem walk_cons {t : Tree} {here p : Parts} {piece : String} {rest : List String} :
    t.walk here (piece :: rest) = .ok p ↔
      t.HasDirectory here ∧
        ∃ there, here.enter? piece = some there ∧ t.walk there rest = .ok p := by
  rw [walk, hasDirectory_iff]
  cases hfind : t.find? here with
  | none => simp
  | some node =>
    cases node with
    | file content => simp
    | directory entries =>
      cases here.enter? piece with
      | none => simp
      | some there => simp

theorem walk_append {t : Tree} {qs : List String} {p : Parts} : ∀ {ps : List String} {here : Parts},
    t.walk here (ps ++ qs) = .ok p ↔ ∃ mid, t.walk here ps = .ok mid ∧ t.walk mid qs = .ok p
  | [], here => by simp [walk]
  | piece :: ps, here => by
    rw [List.cons_append, walk_cons]
    constructor
    · rintro ⟨hdir, there, hthere, hrest⟩
      obtain ⟨mid, hps, hqs⟩ := walk_append.1 hrest
      exact ⟨mid, walk_cons.2 ⟨hdir, there, hthere, hps⟩, hqs⟩
    · rintro ⟨mid, hps, hqs⟩
      obtain ⟨hdir, there, hthere, hrest⟩ := walk_cons.1 hps
      exact ⟨hdir, there, hthere, walk_append.2 ⟨mid, hrest, hqs⟩⟩

/-- Where there are no fewer directories, a path leads to the same place. -/
theorem walk_of_hasDirectory {t t' : Tree} (hmore : ∀ p, t.HasDirectory p → t'.HasDirectory p) :
    ∀ {pieces : List String} {here p : Parts}, t.walk here pieces = .ok p →
      t'.walk here pieces = .ok p
  | [], _, _, h => h
  | piece :: rest, here, p, h => by
    obtain ⟨hdir, there, hthere, hrest⟩ := walk_cons.1 h
    exact walk_cons.2 ⟨hmore here hdir, there, hthere, walk_of_hasDirectory hmore hrest⟩

theorem locate_eq_ok {t : Tree} {path : String} {p : Parts} :
    t.locate path = .ok p ↔ isPassable path ∧ t.walk [] (pieces path) = .ok p := by
  rw [locate]
  split <;> simp [*]

theorem place?_of_locate {t : Tree} {path : String} {p : Parts} (h : t.locate path = .ok p) :
    place? path = some p :=
  enterAll?_of_walk (locate_eq_ok.1 h).2

/-! ### Reading and writing -/

theorem look_eq_ok {t node : Tree} {path : String} : t.look path = .ok node ↔
    ∃ p, t.locate path = .ok p ∧ t.find? p = some node ∧
      (asksDirectory path → node.content? = none) := by
  rw [look, bind_eq_ok]
  refine exists_congr fun p => and_congr_right fun _ => ?_
  constructor
  · intro h
    split at h
    next content hfind =>
      split at h
      · simp at h
      next hasks =>
        obtain rfl := Except.ok.inj h
        exact ⟨hfind, fun hdir => absurd hdir hasks⟩
    next entries hfind =>
      obtain rfl := Except.ok.inj h
      exact ⟨hfind, fun _ => rfl⟩
    · simp at h
  · rintro ⟨hfind, hasks⟩
    rw [hfind]
    cases node with
    | directory entries => rfl
    | file content =>
      have hfile : ¬ asksDirectory path := fun hdir => by simpa [content?] using hasks hdir
      simp [hfile]

/-- What is read is the content of the file to which the path leads. -/
theorem read_eq_ok {t : Tree} {path content : String} : t.read path = .ok content ↔
    asksDirectory path = false ∧ ∃ p, t.locate path = .ok p ∧ t.fileAt? p = some content := by
  rw [read, bind_eq_ok]
  constructor
  · rintro ⟨node, hlook, h⟩
    obtain ⟨p, hp, hfind, hasks⟩ := look_eq_ok.1 hlook
    split at h
    · obtain rfl := Except.ok.inj h
      refine ⟨by simpa [content?] using hasks, p, hp, ?_⟩
      rw [fileAt?, at?, hfind]
      rfl
    · simp at h
  · rintro ⟨hasks, p, hp, hfile⟩
    rw [fileAt?, at?] at hfile
    refine ⟨file content, look_eq_ok.2 ⟨p, hp, ?_, by simp [hasks]⟩, rfl⟩
    cases hfind : t.find? p with
    | none => simp [hfind] at hfile
    | some node => cases node <;> simp_all [content?]

theorem write_eq_ok {t t' : Tree} {path content : String} : t.write path content = .ok t' ↔
    asksDirectory path = false ∧
      ∃ p, t.locate path = .ok p ∧ ¬ t.HasDirectory p ∧ t' = t.put p (file content) := by
  rw [write, bind_eq_ok, ← exists_and_left]
  refine exists_congr fun p => ?_
  rw [hasDirectory_iff]
  cases asksDirectory path with
  | true => cases t.find? p with
    | none => simp
    | some node => cases node <;> simp
  | false => cases t.find? p with
    | none => simp [eq_comm]
    | some node => cases node <;> simp [eq_comm]

/-- A file takes the place of no directory. -/
theorem hasDirectory_of_write {t t' : Tree} {path content : String}
    (h : t.write path content = .ok t') {q : Parts} (hq : t.HasDirectory q) :
    t'.HasDirectory q := by
  obtain ⟨-, p, -, hnot, rfl⟩ := write_eq_ok.1 h
  have hpre : ¬ p <+: q := by
    rintro ⟨r, rfl⟩
    rcases eq_or_ne r [] with rfl | hr
    · exact hnot (by simpa using hq)
    · exact hnot (hasDirectory_of_isSome hr (by rw [hq]; rfl))
  rw [HasDirectory, put, at?_set hpre]
  exact hq

/-- What is written is read. -/
theorem read_write {t t' : Tree} {path content : String} (h : t.write path content = .ok t') :
    t'.read path = .ok content := by
  have hmore : ∀ q, t.HasDirectory q → t'.HasDirectory q := fun q => hasDirectory_of_write h
  obtain ⟨hasks, p, hlocate, -, rfl⟩ := write_eq_ok.1 h
  obtain ⟨hpassable, hwalk⟩ := locate_eq_ok.1 hlocate
  obtain ⟨ps, name, hpieces, hback⟩ := pieces_of_file hasks
  rw [hpieces, walk_append] at hwalk
  obtain ⟨mid, -, hlast⟩ := hwalk
  obtain ⟨hdir, there, hthere, hdone⟩ := walk_cons.1 hlast
  obtain rfl := Except.ok.inj hdone
  have hplace : there = mid ++ [name] := by
    unfold Parts.enter? at hthere
    rw [if_neg hback] at hthere
    split at hthere
    · exact (Option.some.inj hthere).symm
    · simp at hthere
  refine read_eq_ok.2 ⟨hasks, there, ?_, ?_⟩
  · exact locate_eq_ok.2 ⟨hpassable, walk_of_hasDirectory hmore (locate_eq_ok.1 hlocate).2⟩
  · rw [hplace, fileAt?, at?, put, find?_set, if_pos (show t.at? mid = some none from hdir)]
    rfl

/-- All other files stay as they are. -/
theorem fileAt?_write {t t' : Tree} {path content : String} (h : t.write path content = .ok t')
    {q : Parts} (hq : place? path ≠ some q) : t'.fileAt? q = t.fileAt? q := by
  obtain ⟨-, p, hlocate, hnot, rfl⟩ := write_eq_ok.1 h
  have hne : p ≠ q := fun heq => hq (heq ▸ place?_of_locate hlocate)
  by_cases hpre : p <+: q
  · -- Below the file there is nothing, and there was nothing before, either.
    obtain ⟨r, rfl⟩ := hpre
    have hr : r ≠ [] := fun hnil => hne (by simp [hnil])
    have hbefore : t.at? (p ++ r) = none := by
      by_contra hsome
      exact hnot (hasDirectory_of_isSome hr (Option.ne_none_iff_isSome.1 hsome))
    have hafter : (t.put p (file content)).at? (p ++ r) = none := by
      by_contra hsome
      have hdir := hasDirectory_of_isSome hr (Option.ne_none_iff_isSome.1 hsome)
      rcases List.eq_nil_or_concat' p with rfl | ⟨p, name, rfl⟩
      · exact hnot (by simpa [put, set] using hdir)
      · rw [HasDirectory, at?, put, find?_set] at hdir
        split at hdir <;> simp [content?] at hdir
    rw [fileAt?, fileAt?, hbefore, hafter]
  · rw [fileAt?, fileAt?, put, at?_set hpre]

/-! ### Removing -/

theorem loses_removeFile {t t' : Tree} {path : String} (h : t.removeFile path = .ok t') :
    t.Loses t' := by
  obtain ⟨node, -, h⟩ := bind_eq_ok.1 h
  split at h
  · obtain ⟨p, -, h⟩ := bind_eq_ok.1 h
    obtain rfl := Except.ok.inj h
    exact loses_prune t p
  · simp at h

theorem loses_removeDirectory {t t' : Tree} {path : String} (h : t.removeDirectory path = .ok t') :
    t.Loses t' := by
  obtain ⟨node, -, h⟩ := bind_eq_ok.1 h
  split at h
  · simp at h
  · obtain ⟨p, -, h⟩ := bind_eq_ok.1 h
    obtain rfl := Except.ok.inj h
    exact loses_prune t p

end Tree

end Routing.Files
