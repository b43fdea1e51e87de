import Mathlib.Data.List.Nodup
import Routing.Proofs.Files

/-!
What is in a directory. The list of a directory changes when something is set in it, and the nodes
in it change when something is set further down. Directories to the left and to the right stay as
they are.

    set c/3f/x, then list     c/3f     x is given anew
                              c        3f is given anew, the names are the same
                              c/a0     what was there
-/

namespace Routing.Files

/-- The places in which pieces are taken, one after another. -/
def Parts.way (here : Parts) : (pieces : List String) → List Parts
  | [] => []
  | piece :: rest => here ::
    match here.enter? piece with
    | some there => there.way rest
    | none => []

/-- What is in a directory is not above it. -/
theorem not_child_prefix (p : Parts) (name : String) : ¬ p ++ [name] <+: p := by
  intro hpre
  have hlen := hpre.length_le
  rw [List.length_append, List.length_singleton] at hlen
  omega

namespace Tree

/-! ### Setting something elsewhere -/

/-- Neither above nor below the place anything changes. -/
theorem find?_set_apart {node : Option Tree} : ∀ {p q : Parts} {t : Tree}, ¬ p <+: q → ¬ q <+: p →
    (t.set node p).find? q = t.find? q
  | [], _, _, h, _ => absurd List.nil_prefix h
  | _, [], _, _, h => absurd List.nil_prefix h
  | _ :: _, _ :: _, file content, _, _ => rfl
  | [name], other :: q, directory entries, h, _ => by
    have hother : other ≠ name := by
      rintro rfl
      exact h (by simp)
    rw [set, find?, find?, lookup_filter_append hother (by simp)]
  | name :: next :: p, other :: q, directory entries, h, h' => by
    rw [set_cons (List.cons_ne_nil next p)]
    cases hlookup : entries.lookup name with
    | none => rfl
    | some t =>
      rw [find?, find?]
      by_cases hother : other = name
      · subst hother
        have hnot : ¬ next :: p <+: q := fun hpre => h (List.cons_prefix_cons.2 ⟨rfl, hpre⟩)
        have hnot' : ¬ q <+: next :: p := fun hpre => h' (List.cons_prefix_cons.2 ⟨rfl, hpre⟩)
        simpa [lookup_filter_self, hlookup] using find?_set_apart (t := t) hnot hnot'
      · rw [lookup_filter_append hother (by simp)]

/-- Above the place, what stands there is changed further down. -/
theorem find?_set_above {node : Option Tree} {r : Parts} (hr : r ≠ []) : ∀ {q : Parts} {t : Tree},
    (t.set node (q ++ r)).find? q = (t.find? q).map (·.set node r)
  | [], t => rfl
  | name :: q, file content => rfl
  | name :: q, directory entries => by
    rw [List.cons_append, set_cons (List.append_ne_nil_of_right_ne_nil q hr)]
    cases hlookup : entries.lookup name with
    | none => simp [find?, hlookup]
    | some t =>
      simpa [find?, lookup_filter_self, hlookup] using find?_set_above hr (q := q) (t := t)

/-! ### Lists of directories -/

/-- What is in the directory at a place. -/
def listing (t : Tree) (place : Parts) : List (String × Tree) :=
  match t.find? place with
  | some (directory entries) => entries
  | _ => []

theorem listing_of_find? {t : Tree} {p : Parts} {entries : List (String × Tree)}
    (h : t.find? p = some (directory entries)) : t.listing p = entries := by
  rw [listing, h]

/-- Where there is no directory, nothing is listed. -/
theorem listing_eq_nil {t : Tree} {p : Parts} (h : ¬ t.HasDirectory p) : t.listing p = [] := by
  rw [listing]
  split
  next entries hfind => exact absurd (hasDirectory_iff.2 ⟨entries, hfind⟩) h
  · rfl

theorem find?_child (t : Tree) (p : Parts) (name : String) :
    t.find? (p ++ [name]) = (t.listing p).lookup name := by
  rw [find?_append, listing]
  cases t.find? p with
  | none => rfl
  | some node =>
    cases node with
    | file content => rfl
    | directory entries =>
      simp only [Option.bind_some, find?]
      cases entries.lookup name <;> rfl

theorem hasDirectory_of_child {t : Tree} {p : Parts} {name : String} {node : Tree}
    (h : t.find? (p ++ [name]) = some node) : t.HasDirectory p :=
  hasDirectory_of_isSome (List.cons_ne_nil name []) (by rw [at?, h]; rfl)

/-- A directory is in a directory. -/
theorem hasDirectory_of_below {t : Tree} {p : Parts} {name : String}
    (h : t.HasDirectory (p ++ [name])) : t.HasDirectory p := by
  obtain ⟨entries, hentries⟩ := hasDirectory_iff.1 h
  exact hasDirectory_of_child hentries

/-- In the directory itself the name is given anew. -/
theorem listing_set_self {t : Tree} {p : Parts} (h : t.HasDirectory p) (node : Option Tree)
    (name : String) : (t.set node (p ++ [name])).listing p =
      (t.listing p).filter (·.1 != name) ++ node.toList.map fun t => (name, t) := by
  obtain ⟨entries, hentries⟩ := hasDirectory_iff.1 h
  have hset : (t.set node (p ++ [name])).find? p = some ((directory entries).set node [name]) := by
    rw [find?_set_above (List.cons_ne_nil name []), hentries]
    rfl
  rw [listing_of_find? hset, listing_of_find? hentries]

/-- In the directory above, what stands under the name is changed further down. -/
theorem listing_set_below {t : Tree} {p : Parts} {name : String} {below : Tree}
    (h : t.find? (p ++ [name]) = some below) (node : Option Tree) {r : Parts} (hr : r ≠ []) :
    (t.set node (p ++ name :: r)).listing p =
      (t.listing p).filter (·.1 != name) ++ [(name, below.set node r)] := by
  obtain ⟨entries, hentries⟩ := hasDirectory_iff.1 (hasDirectory_of_child h)
  rw [find?_child, listing_of_find? hentries] at h
  have hset : (t.set node (p ++ name :: r)).find? p =
      some ((directory entries).set node (name :: r)) := by
    rw [find?_set_above (List.cons_ne_nil name r), hentries]
    rfl
  rw [set_cons hr, h] at hset
  rw [listing_of_find? hset, listing_of_find? hentries]

/-- The other names in the directory are not concerned. -/
theorem filter_listing_set {t : Tree} {node : Option Tree} {p r : Parts} {name : String} :
    ((t.set node (p ++ name :: r)).listing p).filter (·.1 != name) =
      (t.listing p).filter (·.1 != name) := by
  rw [listing, listing, find?_set_above (List.cons_ne_nil name r)]
  cases t.find? p with
  | none => rfl
  | some above =>
    cases above with
    | file content => rfl
    | directory entries =>
      rw [Option.map_some]
      cases r with
      | nil => cases node <;> simp [set]
      | cons next r =>
        rw [set_cons (List.cons_ne_nil next r)]
        cases entries.lookup name <;> simp

theorem listing_set_apart {t : Tree} {node : Option Tree} {p q : Parts} (h : ¬ p <+: q)
    (h' : ¬ q <+: p) : (t.set node p).listing q = t.listing q := by
  rw [listing, listing, find?_set_apart h h']

/-! ### Going the same way -/

/-- A path leads to the same place if the same directories are on the way. -/
theorem walk_congr {t t' : Tree} {p : Parts} : ∀ {pieces : List String} {here : Parts},
    (∀ q ∈ here.way pieces, t'.at? q = t.at? q) →
      (t'.walk here pieces = .ok p ↔ t.walk here pieces = .ok p)
  | [], here, _ => Iff.rfl
  | piece :: rest, here, h => by
    obtain ⟨hhere, hrest⟩ := List.forall_mem_cons.1 h
    rw [walk_cons, walk_cons, HasDirectory, HasDirectory, hhere]
    refine and_congr_right fun _ => exists_congr fun there => and_congr_right fun hthere => ?_
    rw [hthere] at hrest
    exact walk_congr hrest

/-! ### Making directories -/

/-- A new directory changes nothing but its own place. -/
theorem at?_put_empty {t : Tree} {p q : Parts} (hp : t.find? p = none) (hq : q ≠ p) :
    (t.put p empty).at? q = t.at? q := by
  by_cases hpre : p <+: q
  · obtain ⟨r, rfl⟩ := hpre
    have hr : r ≠ [] := by
      rintro rfl
      exact hq (List.append_nil p)
    rw [at?, at?, put, find?_append, find?_append, hp]
    rcases List.eq_nil_or_concat' p with rfl | ⟨p, name, rfl⟩
    · simp [find?] at hp
    · rw [find?_set]
      split
      · cases r with
        | nil => exact absurd rfl hr
        | cons next r => rfl
      · rfl
  · exact at?_set hpre

/-- A new directory is seen in no list but that of the directory that it is in. -/
theorem listing_put_empty {t : Tree} {p q : Parts} (hp : t.find? p = none) (hq : ¬ q <+: p) :
    (t.put p empty).listing q = t.listing q := by
  by_cases hpre : p <+: q
  · have hne : q ≠ p := by
      rintro rfl
      exact hq hpre
    have hnone : t.at? q = none := by
      obtain ⟨r, rfl⟩ := hpre
      rw [at?, find?_append, hp]
      rfl
    have hafter : (t.put p empty).at? q = none := (at?_put_empty hp hne).trans hnone
    rw [listing_eq_nil (by simp [HasDirectory, hafter]),
      listing_eq_nil (by simp [HasDirectory, hnone])]
  · exact listing_set_apart hpre hq

/-- There is nothing in a new directory. -/
theorem listing_put_self {t : Tree} {p : Parts} (hp : t.find? p = none) :
    (t.put p empty).listing p = [] := by
  rcases List.eq_nil_or_concat' p with rfl | ⟨p, name, rfl⟩
  · simp [find?] at hp
  · rw [listing, put, find?_set]
    split
    next entries heq =>
      split at heq
      · exact (directory.inj (Option.some.inj heq)).symm
      · simp at heq
    · rfl

/-- Where everything is there, nothing is made. -/
theorem makeWay_of_walk {t : Tree} {p : Parts} (hp : t.HasDirectory p) :
    ∀ {pieces : List String} {here : Parts}, t.walk here pieces = .ok p →
      t.makeWay here pieces = (t, true)
  | [], _, _ => rfl
  | piece :: rest, here, h => by
    obtain ⟨-, there, hthere, hrest⟩ := walk_cons.1 h
    have hdir : t.HasDirectory there := by
      cases rest with
      | nil => exact Except.ok.inj hrest ▸ hp
      | cons piece rest => exact (walk_cons.1 hrest).1
    obtain ⟨entries, hentries⟩ := hasDirectory_iff.1 hdir
    rw [makeWay, hthere]
    simp only [hentries]
    exact makeWay_of_walk hp hrest

/-- One way is made after the other. -/
theorem makeWay_append {t' : Tree} {qs : List String} : ∀ {ps : List String} {t : Tree}
    {here : Parts}, t.makeWay here (ps ++ qs) = (t', true) →
      ∃ place, Parts.enterAll? here ps = some place ∧
        (t.makeWay here ps).1.makeWay place qs = (t', true)
  | [], t, here, h => ⟨here, rfl, h⟩
  | piece :: ps, t, here, h => by
    rw [List.cons_append, makeWay] at h
    rw [makeWay, Parts.enterAll?, List.foldlM_cons]
    cases hthere : here.enter? piece with
    | none => simp [hthere] at h
    | some there =>
      rw [hthere] at h
      dsimp only at h ⊢
      split at h
      · exact makeWay_append h
      · simp at h
      · exact makeWay_append h

/-- Unless a path ends in a point, its directories are made one after another. -/
theorem makeDirectories_eq {t t' : Tree} {path : String} (hpoint : endsInPoint path = false)
    (h : t.makeDirectories path = (t', true)) :
    isPassable path ∧ t.makeWay [] (pieces path) = (t', true) := by
  unfold makeDirectories at h
  rw [hpoint] at h
  cases hpass : isPassable path with
  | false => simp [hpass] at h
  | true => simpa [hpass] using h

/-! ### Operations on what is there -/

theorem fileAt?_eq_some_iff {t : Tree} {p : Parts} {content : String} :
    t.fileAt? p = some content ↔ t.find? p = some (file content) := by
  rw [fileAt?, at?]
  cases t.find? p with
  | none => simp
  | some node => cases node <;> simp [content?]

theorem isFile_iff {t : Tree} {path : String} :
    t.isFile path ↔ ∃ content, t.read path = .ok content := by
  rw [isFile, read]
  cases t.look path with
  | error refusal => simp [bind, Except.bind]
  | ok node => cases node <;> simp [bind, Except.bind]

theorem look_eq_directory {t : Tree} {path : String} {entries : List (String × Tree)} :
    t.look path = .ok (directory entries) ↔
      ∃ p, t.locate path = .ok p ∧ t.find? p = some (directory entries) := by
  simp [look_eq_ok, content?]

/-- The names in a directory are listed in their order. -/
theorem list_eq_ok {t : Tree} {path : String} {names : List String} : t.list path = .ok names ↔
    ∃ p, t.locate path = .ok p ∧ t.HasDirectory p ∧ (t.listing p).map (·.1) = names := by
  rw [list, bind_eq_ok]
  constructor
  · rintro ⟨node, hlook, h⟩
    cases node with
    | file content => simp at h
    | directory entries =>
      obtain ⟨p, hp, hfind⟩ := look_eq_directory.1 hlook
      refine ⟨p, hp, hasDirectory_iff.2 ⟨entries, hfind⟩, ?_⟩
      rw [listing_of_find? hfind]
      exact Except.ok.inj h
  · rintro ⟨p, hp, hdir, rfl⟩
    obtain ⟨entries, hfind⟩ := hasDirectory_iff.1 hdir
    refine ⟨directory entries, look_eq_directory.2 ⟨p, hp, hfind⟩, ?_⟩
    rw [listing_of_find? hfind]

/-- What can be read can be removed, and nothing else. -/
theorem removeFile_eq_ok {t t' : Tree} {path : String} : t.removeFile path = .ok t' ↔
    (∃ content, t.read path = .ok content) ∧ ∃ p, t.locate path = .ok p ∧ t' = t.prune p := by
  rw [removeFile, read, bind_eq_ok]
  constructor
  · rintro ⟨node, hlook, h⟩
    cases node with
    | directory entries => simp at h
    | file content =>
      obtain ⟨p, hp, h⟩ := bind_eq_ok.1 h
      exact ⟨⟨content, bind_eq_ok.2 ⟨_, hlook, rfl⟩⟩, p, hp, (Except.ok.inj h).symm⟩
  · rintro ⟨⟨content, hread⟩, p, hp, rfl⟩
    obtain ⟨node, hlook, h⟩ := bind_eq_ok.1 hread
    cases node with
    | directory entries => simp at h
    | file content => exact ⟨file content, hlook, bind_eq_ok.2 ⟨p, hp, rfl⟩⟩

theorem removeDirectory_eq_ok {t t' : Tree} {path : String} : t.removeDirectory path = .ok t' ↔
    ∃ p, t.locate path = .ok p ∧ t.HasDirectory p ∧ t' = t.prune p := by
  rw [removeDirectory, bind_eq_ok]
  constructor
  · rintro ⟨node, hlook, h⟩
    cases node with
    | file content => simp at h
    | directory entries =>
      obtain ⟨p, hp, h⟩ := bind_eq_ok.1 h
      obtain ⟨p', hp', hfind⟩ := look_eq_directory.1 hlook
      obtain rfl := Except.ok.inj (hp.symm.trans hp')
      exact ⟨p, hp, hasDirectory_iff.2 ⟨entries, hfind⟩, (Except.ok.inj h).symm⟩
  · rintro ⟨p, hp, hdir, rfl⟩
    obtain ⟨entries, hfind⟩ := hasDirectory_iff.1 hdir
    exact ⟨directory entries, look_eq_directory.2 ⟨p, hp, hfind⟩, bind_eq_ok.2 ⟨p, hp, rfl⟩⟩

end Tree

end Routing.Files
