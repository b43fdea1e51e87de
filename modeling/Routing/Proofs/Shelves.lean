import Mathlib.Data.List.Perm.Basic
import Routing.Proofs.Cache
import Routing.Proofs.Dict
import Routing.Proofs.Listing
import Routing.Proofs.Paths

/-!
The directory of a cache while tables are saved and cleared. Each directory in it whose name is two
hexadecimal digits is a shelf. It holds the entries whose hashes start with its name, and nothing
else; it stays when its last entry is cleared.

    blog, shop, wiki are kept       <dir>/3f/3f8a….json     text of blog
                                          a0/a012….json     text of shop
                                             a0ff….json     text of wiki
                                          77/

The way to the directory may lead through other directories in it, but not through a shelf, since
shelves are cleared.

    <dir>  =  x/logs/..     x/logs stays
    <dir>  =  x/3f/..       when x/3f has been cleared, there is no x/3f/../a0
-/

namespace Routing.RouteCache

open Files Files.Tree

/-- The place of a cache's directory. The way to it does not lead through a shelf in it. -/
structure LiesAt (c : RouteCache) (base : Parts) : Prop where
  place : place? c.dir = some base
  apart : ∀ q ∈ Parts.way [] (pieces c.dir), ∀ shelf, isShelf shelf → ¬ base ++ [shelf] <+: q

/-- Different keys have different hashes. -/
def Separate (keys : List String) : Prop :=
  ∀ key ∈ keys, ∀ key' ∈ keys, hashOf key = hashOf key' → key = key'

/-! ### Entries on their shelves -/

/-- The entries that belong in the directory of this name, as they are listed. -/
def onShelf (kept : List (String × RouteTable)) (shelf : String) : List (String × Tree) :=
  (kept.filter fun e => shelfOf (hashOf e.1) == shelf).map fun e =>
    (fileName e.1, .file (entryValue e.1 e.2).write)

theorem hashOf_of_fileName {key key' : String} (h : fileName key = fileName key') :
    hashOf key = hashOf key' := by
  have hchars := congrArg String.toList h
  rw [fileName, fileName, String.toList_append, String.toList_append] at hchars
  exact String.toList_inj.1 (List.append_cancel_right hchars)

theorem mem_onShelf {kept : List (String × RouteTable)} {shelf : String} {e : String × Tree} :
    e ∈ onShelf kept shelf ↔ ∃ k ∈ kept, shelfOf (hashOf k.1) = shelf ∧
      (fileName k.1, .file (entryValue k.1 k.2).write) = e := by
  simp [onShelf, and_assoc]

theorem onShelf_perm {kept kept' : List (String × RouteTable)} (h : kept.Perm kept')
    (shelf : String) : (onShelf kept shelf).Perm (onShelf kept' shelf) :=
  (h.filter _).map _

theorem onShelf_append (kept new : List (String × RouteTable)) (shelf : String) :
    onShelf (kept ++ new) shelf = onShelf kept shelf ++ onShelf new shelf := by
  simp [onShelf]

/-- What is saved under a key stands on its shelf, and on no other one. -/
theorem onShelf_saved (key : String) (saved : Option RouteTable) (shelf : String) :
    onShelf (saved.toList.map fun table => (key, table)) shelf =
      if shelfOf (hashOf key) = shelf then
        (saved.map fun table => Tree.file (entryValue key table).write).toList.map fun node =>
          (fileName key, node)
      else [] := by
  cases saved with
  | none => simp [onShelf]
  | some table => by_cases h : shelfOf (hashOf key) = shelf <;> simp [onShelf, h]

/-- A file that is missing on another shelf is not missed. -/
theorem filter_onShelf {kept : List (String × RouteTable)} {key shelf : String}
    (h : shelfOf (hashOf key) ≠ shelf) :
    (onShelf kept shelf).filter (·.1 != fileName key) = onShelf kept shelf := by
  refine List.filter_eq_self.2 fun e he => bne_iff_ne.2 fun heq => ?_
  obtain ⟨k, -, hk, rfl⟩ := mem_onShelf.1 he
  exact h (hashOf_of_fileName heq ▸ hk)

/-- What does not stand on a shelf stands on the other ones as before. -/
theorem onShelf_others (kept : List (String × RouteTable)) (shelf other : String) :
    onShelf (kept.filter fun e => shelfOf (hashOf e.1) != shelf) other =
      if shelf = other then [] else onShelf kept other := by
  rw [onShelf, List.filter_filter]
  split
  next hsame =>
    subst hsame
    rw [List.map_eq_nil_iff, List.filter_eq_nil_iff]
    intro e _
    simp
  next hother =>
    have hkeep : ∀ e ∈ kept, (shelfOf (hashOf e.1) == other && shelfOf (hashOf e.1) != shelf) =
        (shelfOf (hashOf e.1) == other) := by
      intro e _
      by_cases h : shelfOf (hashOf e.1) = other
      · simp [h, Ne.symm hother]
      · simp [h]
    rw [List.filter_congr hkeep, onShelf]

/-- Whatever is kept stands on the shelf of its key. -/
theorem eq_nil_of_onShelf {kept : List (String × RouteTable)}
    (h : ∀ key, onShelf kept (shelfOf (hashOf key)) = []) : kept = [] := by
  rw [List.eq_nil_iff_forall_not_mem]
  intro e he
  have hmem : (fileName e.1, .file (entryValue e.1 e.2).write) ∈
      onShelf kept (shelfOf (hashOf e.1)) := mem_onShelf.2 ⟨e, he, rfl, rfl⟩
  rw [h] at hmem
  exact List.not_mem_nil hmem

/-- What stands on one shelf, and all the rest. -/
theorem length_onShelf_add (kept : List (String × RouteTable)) (shelf : String) :
    (onShelf kept shelf).length + (kept.filter fun e => shelfOf (hashOf e.1) != shelf).length =
      kept.length := by
  have hlen := (List.filter_append_perm (fun e => shelfOf (hashOf e.1) == shelf) kept).length_eq
  rw [List.length_append] at hlen
  rw [onShelf, List.length_map]
  exact hlen

section
variable {keys : List String} {kept : List (String × RouteTable)}

/-- Without the entry of a key its file is missing. -/
theorem onShelf_filter (hkeys : Separate keys) (hknown : ∀ e ∈ kept, e.1 ∈ keys) {key : String}
    (hkey : key ∈ keys) (shelf : String) : onShelf (kept.filter (·.1 != key)) shelf =
      (onShelf kept shelf).filter (·.1 != fileName key) := by
  rw [onShelf, onShelf, List.filter_map, List.filter_filter, List.filter_filter]
  have hfilter : ∀ e ∈ kept, (shelfOf (hashOf e.1) == shelf && e.1 != key) =
      (fileName e.1 != fileName key && shelfOf (hashOf e.1) == shelf) := by
    intro e he
    rw [Bool.and_comm]
    by_cases heq : e.1 = key
    · rw [heq, bne_self_eq_false, bne_self_eq_false]
    · have hne : fileName e.1 ≠ fileName key := fun h =>
        heq (hkeys _ (hknown e he) _ hkey (hashOf_of_fileName h))
      rw [bne_iff_ne.2 heq, bne_iff_ne.2 hne]
  rw [List.filter_congr hfilter]
  rfl

theorem nodup_onShelf (hkeys : Separate keys) (hknown : ∀ e ∈ kept, e.1 ∈ keys)
    (hnodup : (kept.map (·.1)).Nodup) (shelf : String) :
    ((onShelf kept shelf).map (·.1)).Nodup := by
  rw [onShelf, List.map_map]
  refine List.Nodup.map_on ?_ (hnodup.of_map.filter _)
  intro e he e' he' h
  have hmem := List.mem_of_mem_filter he
  have hmem' := List.mem_of_mem_filter he'
  exact List.inj_on_of_nodup_map hnodup hmem hmem'
    (hkeys _ (hknown e hmem) _ (hknown e' hmem') (hashOf_of_fileName h))

end

/-- What holds of all entries, and of the one that is given anew. -/
theorem forall_mem_given {α : Type} {P : String × α → Prop} {entries : List (String × α)}
    (h : ∀ e ∈ entries, P e) {name : String} (new : Option α) (hnew : ∀ a ∈ new, P (name, a)) :
    ∀ e ∈ entries.filter (·.1 != name) ++ new.toList.map fun a => (name, a), P e := by
  intro e he
  rcases List.mem_append.1 he with he | he
  · exact h e (List.mem_of_mem_filter he)
  · obtain ⟨a, ha, rfl⟩ := List.mem_map.1 he
    exact hnew a (Option.mem_toList.1 ha)

/-- A name that is given anew stands there once. -/
theorem nodup_given {α : Type} {entries : List (String × α)} (h : (entries.map (·.1)).Nodup)
    (name : String) (new : Option α) : ((entries.filter (·.1 != name) ++
      new.toList.map fun a => (name, a)).map (·.1)).Nodup := by
  have hfilter : ((entries.filter (·.1 != name)).map (·.1)).Nodup :=
    h.sublist (List.filter_sublist.map _)
  cases new with
  | none => simpa using hfilter
  | some a =>
    rw [List.map_append]
    refine List.nodup_append.2 ⟨hfilter, List.pairwise_singleton _ _, fun k hk k' hk' heq => ?_⟩
    obtain ⟨e, he, rfl⟩ := List.mem_map.1 hk
    obtain rfl := List.mem_singleton.1 hk'
    simpa [heq] using (List.mem_filter.1 he).2

theorem lookup_filter {α : Type} {p : String → Bool} {name : String} (hname : p name) :
    ∀ entries : List (String × α), (entries.filter fun e => p e.1).lookup name = entries.lookup name
  | [] => rfl
  | (k, v) :: entries => by
    have ih := lookup_filter hname entries
    by_cases hk : p k
    · simp only [List.filter_cons, hk, if_true, List.lookup_cons, ih]
    · have hne : name ≠ k := by
        rintro rfl
        exact hk hname
      simp [List.lookup_cons, beq_eq_false_iff_ne.2 hne, hk, ih]

theorem lookup_eq_some_iff {α : Type} {name : String} {a : α} : ∀ {entries : List (String × α)},
    (entries.map (·.1)).Nodup → (entries.lookup name = some a ↔ (name, a) ∈ entries)
  | [], _ => by simp
  | (k, v) :: entries, h => by
    obtain ⟨hk, hentries⟩ := List.nodup_cons.1 h
    have ih : entries.lookup name = some a ↔ (name, a) ∈ entries := lookup_eq_some_iff hentries
    rw [List.lookup_cons, List.mem_cons, Prod.mk.injEq, ← ih]
    by_cases hname : name = k
    · subst hname
      have hnot : ¬ entries.lookup name = some a := fun hmem =>
        hk (List.mem_map.2 ⟨_, ih.1 hmem, rfl⟩)
      simp [hnot, eq_comm]
    · simp [hname, beq_eq_false_iff_ne.2 hname]

/-! ### Shelves as they are listed -/

/-- The shelves in a directory, as they are listed. -/
def shelves (files : Tree) (base : Parts) : List (String × Tree) :=
  (files.listing base).filter fun e => isShelf e.1

section
variable {files : Tree} {base : Parts} {shelf : String}

theorem find?_shelf (hshelf : isShelf shelf) :
    files.find? (base ++ [shelf]) = (shelves files base).lookup shelf := by
  rw [find?_child, shelves, lookup_filter hshelf]

/-- A shelf is given anew among the others. -/
theorem filter_given (hshelf : isShelf shelf) (entries : List (String × Tree))
    (new : Option Tree) :
    (entries.filter (·.1 != shelf) ++ new.toList.map fun t => (shelf, t)).filter
        (fun e => isShelf e.1) =
      (entries.filter fun e => isShelf e.1).filter (·.1 != shelf) ++
        new.toList.map fun t => (shelf, t) := by
  have hnew : (new.toList.map fun t => (shelf, t)).filter (fun e => isShelf e.1) =
      new.toList.map fun t => (shelf, t) := by
    refine List.filter_eq_self.2 fun e he => ?_
    obtain ⟨t, -, rfl⟩ := List.mem_map.1 he
    exact hshelf
  rw [List.filter_append, hnew, List.filter_comm]

theorem shelves_set_self (hbase : files.HasDirectory base) (hshelf : isShelf shelf)
    (node : Option Tree) : shelves (files.set node (base ++ [shelf])) base =
      (shelves files base).filter (·.1 != shelf) ++ node.toList.map fun t => (shelf, t) := by
  rw [shelves, listing_set_self hbase, filter_given hshelf, shelves]

theorem shelves_set_below {below : Tree} (h : files.find? (base ++ [shelf]) = some below)
    (hshelf : isShelf shelf) (node : Option Tree) {r : Parts} (hr : r ≠ []) :
    shelves (files.set node (base ++ shelf :: r)) base =
      (shelves files base).filter (·.1 != shelf) ++ [(shelf, below.set node r)] := by
  rw [shelves, listing_set_below h node hr]
  exact filter_given hshelf _ (some _)

/-- A new directory that is neither a shelf nor on one is not seen on the shelves. -/
theorem shelves_put_empty {q : Parts} (hnone : files.find? q = none)
    (hq : ∀ shelf, isShelf shelf → ¬ base ++ [shelf] <+: q) :
    shelves (files.put q empty) base = shelves files base := by
  by_cases hpre : base <+: q
  · obtain ⟨r, rfl⟩ := hpre
    cases r with
    | nil =>
      rw [List.append_nil] at hnone ⊢
      rw [shelves, shelves, listing_put_self hnone, listing, hnone]
    | cons name r =>
      have hname : ¬ isShelf name := fun hshelf => hq name hshelf ⟨r, by simp⟩
      have hothers : ∀ entries : List (String × Tree), (entries.filter fun e => isShelf e.1) =
          (entries.filter (·.1 != name)).filter fun e => isShelf e.1 := by
        intro entries
        rw [List.filter_filter]
        refine List.filter_congr fun e _ => ?_
        by_cases heq : e.1 = name
        · simp [heq, hname]
        · simp [heq]
      rw [shelves, hothers, put, filter_listing_set, ← hothers, shelves]
  · rw [shelves, shelves, listing_put_empty hnone hpre]

end

/-! ### The directory -/

/-- What stands in the directory of a cache: every entry on its shelf, and nothing else. -/
structure Shelved (c : RouteCache) (base : Parts) (keys : List String) (files : Tree)
    (kept : List (String × RouteTable)) : Prop where
  known : ∀ e ∈ kept, e.1 ∈ keys
  nodup : (kept.map (·.1)).Nodup
  passable : ∀ e ∈ kept, isPassable (c.entryPath e.1)
  names : ((shelves files base).map (·.1)).Nodup
  shelf : ∀ e ∈ shelves files base, e.2.content? = none ∧
    ∃ key, shelfOf (hashOf key) = e.1 ∧ isPassable (c.shelfPath key)
  entries : ∀ shelf, isShelf shelf →
    (files.listing (base ++ [shelf])).Perm (onShelf kept shelf)

section
variable {c : RouteCache} {base : Parts} {keys : List String} {files : Tree}
  {kept : List (String × RouteTable)}

/-- What is kept stands on shelves that are there. -/
theorem Shelved.eq_nil (h : Shelved c base keys files kept)
    (hempty : ∀ shelf, isShelf shelf → ¬ files.HasDirectory (base ++ [shelf])) : kept = [] := by
  refine eq_nil_of_onShelf fun key => ?_
  have hperm := h.entries _ (isShelf_shelfOf key)
  rw [listing_eq_nil (hempty _ (isShelf_shelfOf key))] at hperm
  exact hperm.nil_eq.symm

/-- What is listed as a shelf stands there. -/
theorem Shelved.find?_eq_some_of_mem (h : Shelved c base keys files kept) {shelf : String}
    {node : Tree} (hmem : (shelf, node) ∈ shelves files base) :
    files.find? (base ++ [shelf]) = some node := by
  rw [find?_shelf (List.mem_filter.1 hmem).2, lookup_eq_some_iff h.names]
  exact hmem

theorem Shelved.perm (h : Shelved c base keys files kept) {kept' : List (String × RouteTable)}
    (hperm : kept.Perm kept') : Shelved c base keys files kept' where
  known e he := h.known e (hperm.mem_iff.2 he)
  nodup := (hperm.map _).nodup_iff.1 h.nodup
  passable e he := h.passable e (hperm.mem_iff.2 he)
  names := h.names
  shelf := h.shelf
  entries shelf hshelf := (h.entries shelf hshelf).trans (onShelf_perm hperm shelf)

theorem shelf_apart {base : Parts} {shelf shelf' : String} (h : shelf ≠ shelf') :
    ¬ base ++ [shelf] <+: base ++ [shelf'] := by
  simp [List.prefix_append_right_inj, h]

/-- In the place of an entry stands the text of what is kept under its key. -/
theorem Shelved.find?_eq_some_iff (h : Shelved c base keys files kept) (hkeys : Separate keys)
    {key : String} (hkey : key ∈ keys) {node : Tree} :
    files.find? (base ++ [shelfOf (hashOf key), fileName key]) = some node ↔
      ∃ table, (key, table) ∈ kept ∧ .file (entryValue key table).write = node := by
  have hsplit : base ++ [shelfOf (hashOf key), fileName key] =
      base ++ [shelfOf (hashOf key)] ++ [fileName key] := by simp
  have hperm := h.entries _ (isShelf_shelfOf key)
  have hnodup := nodup_onShelf hkeys h.known h.nodup (shelfOf (hashOf key))
  rw [hsplit, find?_child, lookup_eq_some_iff ((hperm.map _).nodup_iff.2 hnodup), hperm.mem_iff,
    mem_onShelf]
  constructor
  · rintro ⟨⟨key', table⟩, hmem, -, heq⟩
    obtain ⟨hname, hnode⟩ := Prod.mk.inj heq
    obtain rfl := hkeys _ (h.known _ hmem) _ hkey (hashOf_of_fileName hname)
    exact ⟨table, hmem, hnode⟩
  · rintro ⟨table, hmem, hnode⟩
    exact ⟨(key, table), hmem, rfl, by rw [hnode]⟩

/-- An entry is written, or it is removed. -/
theorem Shelved.set (h : Shelved c base keys files kept) (hkeys : Separate keys) {key : String}
    (hkey : key ∈ keys) (hdir : files.HasDirectory (base ++ [shelfOf (hashOf key)]))
    (saved : Option RouteTable) (hpass : saved.isSome → isPassable (c.entryPath key)) :
    Shelved c base keys
      (files.set (saved.map fun table => .file (entryValue key table).write)
        (base ++ [shelfOf (hashOf key), fileName key]))
      (kept.filter (·.1 != key) ++ saved.toList.map fun table => (key, table)) := by
  obtain ⟨below, hbelow⟩ := hasDirectory_iff.1 hdir
  have hmem := hbelow
  rw [find?_shelf (isShelf_shelfOf key), lookup_eq_some_iff h.names] at hmem
  have hshelves := shelves_set_below hbelow (isShelf_shelfOf key)
    (saved.map fun table => .file (entryValue key table).write) (List.cons_ne_nil (fileName key) [])
  refine ⟨forall_mem_given h.known saved fun _ _ => hkey, nodup_given h.nodup key saved,
    forall_mem_given h.passable saved fun table htable => ?_, ?_, ?_, fun shelf hshelf => ?_⟩
  · exact hpass (Option.isSome_iff_exists.2 ⟨table, htable⟩)
  · rw [hshelves]
    exact nodup_given h.names _ (some _)
  · rw [hshelves]
    refine forall_mem_given h.shelf (some _) fun node hnode => ?_
    obtain rfl := Option.some.inj hnode
    exact ⟨rfl, (h.shelf _ hmem).2⟩
  · rw [onShelf_append, onShelf_filter hkeys h.known hkey, onShelf_saved]
    by_cases hsame : shelfOf (hashOf key) = shelf
    · subst hsame
      rw [if_pos rfl, List.append_cons, listing_set_self hdir]
      exact ((h.entries _ hshelf).filter _).append (.refl _)
    · have hapart : ¬ base ++ [shelfOf (hashOf key), fileName key] <+: base ++ [shelf] := by
        simp [List.prefix_append_right_inj, hsame]
      have hapart' : ¬ base ++ [shelf] <+: base ++ [shelfOf (hashOf key), fileName key] := by
        simp [List.prefix_append_right_inj, Ne.symm hsame]
      rw [if_neg hsame, List.append_nil, filter_onShelf hsame, listing_set_apart hapart hapart']
      exact h.entries shelf hshelf

/-- A directory is made that is neither a shelf nor on one. -/
theorem Shelved.putEmpty (h : Shelved c base keys files kept) {q : Parts}
    (hnone : files.find? q = none) (hq : ∀ shelf, isShelf shelf → ¬ base ++ [shelf] <+: q) :
    Shelved c base keys (files.put q empty) kept where
  known := h.known
  nodup := h.nodup
  passable := h.passable
  names := by
    rw [shelves_put_empty hnone hq]
    exact h.names
  shelf := by
    rw [shelves_put_empty hnone hq]
    exact h.shelf
  entries shelf hshelf := by
    rw [listing_put_empty hnone (hq shelf hshelf)]
    exact h.entries shelf hshelf

/-- All directories on a way are made, if it leads through no shelf. -/
theorem Shelved.makeWay : ∀ {pieces : List String} {here : Parts} {files : Tree},
    Shelved c base keys files kept → Parts.enterAll? here pieces = some base →
      (∀ q ∈ here.way pieces, ∀ shelf, isShelf shelf → ¬ base ++ [shelf] <+: q) →
        Shelved c base keys (files.makeWay here pieces).1 kept
  | [], _, _, h, _, _ => h
  | piece :: rest, here, files, h, hend, hway => by
    rw [Tree.makeWay]
    rw [Parts.enterAll?, List.foldlM_cons] at hend
    rw [Parts.way] at hway
    cases hthere : here.enter? piece with
    | none => exact h
    | some there =>
      rw [hthere] at hend hway
      have hrest := fun q hq => hway q (List.mem_cons_of_mem here hq)
      have hnew : ∀ shelf, isShelf shelf → ¬ base ++ [shelf] <+: there := by
        cases rest with
        | nil =>
          obtain rfl : there = base := Option.some.inj hend
          exact fun shelf _ => not_child_prefix there shelf
        | cons piece rest => exact hrest there List.mem_cons_self
      dsimp only
      split
      · exact Shelved.makeWay h hend hrest
      · exact h
      next hnone => exact Shelved.makeWay (h.putEmpty hnone hnew) hend hrest

/-- A shelf is made. -/
theorem Shelved.makeShelf (h : Shelved c base keys files kept) {key : String}
    (hbase : files.HasDirectory base) (hnone : files.find? (base ++ [shelfOf (hashOf key)]) = none)
    (hpass : isPassable (c.shelfPath key)) :
    Shelved c base keys (files.put (base ++ [shelfOf (hashOf key)]) empty) kept := by
  have hshelves := shelves_set_self hbase (isShelf_shelfOf key) (some empty)
  refine ⟨h.known, h.nodup, h.passable, ?_, ?_, fun shelf hshelf => ?_⟩
  · rw [put, hshelves]
    exact nodup_given h.names _ (some empty)
  · rw [put, hshelves]
    refine forall_mem_given h.shelf (some empty) fun node hnode => ?_
    obtain rfl := Option.some.inj hnode
    exact ⟨rfl, key, rfl, hpass⟩
  · have hentries := h.entries shelf hshelf
    by_cases hsame : shelfOf (hashOf key) = shelf
    · subst hsame
      rw [listing, hnone] at hentries
      rwa [listing_put_self hnone]
    · rwa [listing_put_empty hnone (shelf_apart (Ne.symm hsame))]

/-- A shelf is removed, with all that stands on it. -/
theorem Shelved.removeShelf (h : Shelved c base keys files kept) (hbase : files.HasDirectory base)
    {shelf : String} (hshelf : isShelf shelf) :
    Shelved c base keys (files.prune (base ++ [shelf]))
      (kept.filter fun e => shelfOf (hashOf e.1) != shelf) := by
  have hshelves := shelves_set_self hbase hshelf none
  have hmem := fun e (he : e ∈ kept.filter fun e => shelfOf (hashOf e.1) != shelf) =>
    List.mem_of_mem_filter he
  refine ⟨fun e he => h.known e (hmem e he), h.nodup.sublist (List.filter_sublist.map _),
    fun e he => h.passable e (hmem e he), ?_, fun e he => ?_, fun other hother => ?_⟩
  · rw [prune, hshelves]
    exact nodup_given h.names shelf none
  · rw [prune, hshelves, Option.toList_none, List.map_nil, List.append_nil] at he
    exact h.shelf e (List.mem_of_mem_filter he)
  · rw [prune, onShelf_others]
    by_cases hsame : shelf = other
    · subst hsame
      have hgone : (files.set none (base ++ [shelf])).find? (base ++ [shelf]) = none := by
        rw [find?_set]
        exact ite_self none
      rw [if_pos rfl, listing, hgone]
    · rw [if_neg hsame, listing_set_apart (shelf_apart hsame) (shelf_apart (Ne.symm hsame))]
      exact h.entries other hother

end

end Routing.RouteCache
