import DeviceBus.Proofs.Files.Ways

/-!
# Paths below a directory

The path of something in a directory is the path of the directory with a name behind it.  It leads where the
name leads from the place of the directory, whichever way the directory was reached: the walk only has fewer
links to go.  How many are left matters to nothing but whether there are too many of them.

* `walkLinks_append`: a walk goes on from the directory that the names before lead to.
* `walkLinks_links`: more links change nothing where there are enough.
* `resolve_join_eq`: two paths of one directory lead to the same things below it.
* `KeepsWays.tooManyLinks`: whether there are too many links depends on the ways alone.
-/

namespace DeviceBus.FileTree

open DeviceBus.Path

variable {tree : FileTree} {followLast mustBeDirectory toMake : Bool}

/-! ## Going on from a directory -/

theorem LooksUp.append {name : String} {names rest : List String}
    (h : LooksUp mustBeDirectory toMake name names) (hrest : rest ≠ []) (mustBeDirectory' toMake' : Bool) :
    LooksUp mustBeDirectory' toMake' name (names ++ rest) where
  current := h.current
  up := h.up
  make := fun stops => hrest (List.append_eq_nil_iff.1 stops.1).2
  short := h.short

/-- What a walk over more names comes to, once it has come somewhere. -/
def Arrival.goesOn (tree : FileTree) (followLast mustBeDirectory toMake : Bool) (rest : List String) :
    Arrival → Except Condition Arrival
  | .spot there => tree.walk followLast mustBeDirectory toMake there.place rest
  | .link parent target names => .ok (.link parent target (names ++ rest))

/-- A walk over more names goes on where the one over the first names has come to a directory or a link. -/
theorem Walks.append {from_ : Place} {names : List String} {arrival : Arrival}
    (h : Walks tree followLast mustBeDirectory toMake from_ names arrival)
    (hend : ∀ spot, arrival = .spot spot → ∃ isSealed, spot.entry = some (.directory isSealed))
    {rest : List String} (hrest : rest ≠ []) (followLast' mustBeDirectory' toMake' : Bool) :
    tree.walk followLast' mustBeDirectory' toMake' from_ (names ++ rest) =
      arrival.goesOn tree followLast' mustBeDirectory' toMake' rest := by
  induction h with
  | done from_ => rfl
  | current from_ names _ _ ih => rw [List.cons_append, walk, if_pos rfl, ih hend]
  | up from_ names _ _ ih => rw [List.cons_append, walk, if_neg (by decide), if_pos rfl, ih hend]
  | enter from_ name names _ isSealed looksUp here _ ih =>
      rw [List.cons_append, walk_of_looksUp (looksUp.append hrest _ _), here]
      exact ih hend
  | follow from_ name names target looksUp here goesOn =>
      rw [List.cons_append, walk_of_looksUp (looksUp.append hrest _ _), here]
      exact if_neg fun stops => hrest (List.append_eq_nil_iff.1 stops.1).2
  | missing => obtain ⟨_, hentry⟩ := hend _ rfl; cases hentry
  | link => obtain ⟨_, hentry⟩ := hend _ rfl; cases hentry
  | plain _ _ _ _ _ isPlain _ =>
      obtain ⟨_, hentry⟩ := hend _ rfl
      cases hentry
      cases isPlain

/-- A walk over links goes on from the directory that the first names lead to, with the links that are
left. -/
theorem walkLinks_append {links : Nat} {from_ : Place} {names : List String} {spot : Spot}
    {isSealed : Bool}
    (h : tree.walkLinks followLast mustBeDirectory toMake links from_ names = .ok spot)
    (hspot : spot.entry = some (.directory isSealed)) {rest : List String} (hrest : rest ≠ []) :
    ∃ left, left ≤ links ∧ ∀ followLast' mustBeDirectory' toMake' : Bool,
      tree.walkLinks followLast' mustBeDirectory' toMake' links from_ (names ++ rest) =
        tree.walkLinks followLast' mustBeDirectory' toMake' left spot.place rest := by
  fun_induction walkLinks tree followLast mustBeDirectory toMake links from_ names with
  | case1 => cases h
  | case2 _ links from_ names _ harrival =>
      cases h
      refine ⟨links, Nat.le_refl _, fun followLast' mustBeDirectory' toMake' => ?_⟩
      rw [walkLinks, (walks_of_walk harrival).append (by rintro _ ⟨⟩; exact ⟨_, hspot⟩) hrest, Arrival.goesOn,
        walkLinks]
  | case3 => cases h
  | case4 _ from_ names parent target behind harrival links _ _ ih =>
      obtain ⟨left, hleft, heq⟩ := ih h
      refine ⟨left, by omega, fun followLast' mustBeDirectory' toMake' => ?_⟩
      have hlink := (walks_of_walk harrival).append (fun _ hspot => Arrival.noConfusion hspot) hrest
        followLast' mustBeDirectory' toMake'
      have hnot : behind ++ rest ≠ [] := fun hnil => hrest (List.append_eq_nil_iff.1 hnil).2
      rw [walkLinks_of_link (walks_of_walk hlink), ← List.append_assoc, decide_eq_false hnot,
        Bool.false_and, Bool.or_false]
      exact heq followLast' mustBeDirectory' toMake'

/-! ## How many links there may be -/

theorem mapError_eq_error_iff {α : Type} {result : Except Condition α} {condition : Condition} :
    result.mapError SystemFault.system = .error (.system condition) ↔ result = .error condition := by
  cases result with
  | error _ => simp [Except.mapError]
  | ok _ => simp [Except.mapError]

/-- No walk fails for the number of links before it comes to one. -/
theorem walk_ne_tooManyLinks (from_ : Place) (names : List String) :
    tree.walk followLast mustBeDirectory toMake from_ names ≠ .error .tooManyLinks := by
  fun_induction walk tree followLast mustBeDirectory toMake from_ names with
  | case1 => simp
  | case2 _ _ ih => exact ih
  | case3 _ _ _ ih => exact ih
  | case4 => simp
  | case5 => simp
  | case6 => simp
  | case7 => simp
  | case8 _ _ _ _ _ _ _ _ _ _ ih => exact ih
  | case9 => simp
  | case10 => simp
  | case11 => simp
  | case12 => simp

/-- More links than are enough change nothing. -/
theorem walkLinks_links {links : Nat} {from_ : Place} {names : List String}
    (h : tree.walkLinks followLast mustBeDirectory toMake links from_ names ≠ .error .tooManyLinks) :
    ∀ more, links ≤ more → tree.walkLinks followLast mustBeDirectory toMake more from_ names =
      tree.walkLinks followLast mustBeDirectory toMake links from_ names := by
  fun_induction walkLinks tree followLast mustBeDirectory toMake links from_ names with
  | case1 _ _ _ _ _ hwalk => intro more _; rw [walkLinks, hwalk]
  | case2 _ _ _ _ _ hwalk => intro more _; rw [walkLinks, hwalk]
  | case3 => exact absurd rfl h
  | case4 _ _ _ _ _ _ hwalk links _ _ ih =>
      intro more hmore
      obtain ⟨further, rfl⟩ : ∃ further, more = further + 1 := ⟨more - 1, by omega⟩
      rw [walkLinks_of_link (walks_of_walk hwalk)]
      exact ih h further (by omega)

/-- Two numbers of links that are both enough lead to the same. -/
theorem walkLinks_eq_of_enough {links links' : Nat} {from_ : Place} {names : List String}
    (h : tree.walkLinks followLast mustBeDirectory toMake links from_ names ≠ .error .tooManyLinks)
    (h' : tree.walkLinks followLast mustBeDirectory toMake links' from_ names ≠ .error .tooManyLinks) :
    tree.walkLinks followLast mustBeDirectory toMake links from_ names =
      tree.walkLinks followLast mustBeDirectory toMake links' from_ names := by
  rcases Nat.le_total links links' with hle | hle
  · exact (walkLinks_links h _ hle).symm
  · exact walkLinks_links h' _ hle

/-- A single name at which links are not followed needs none. -/
theorem walkLinks_last {name : String} (hname : IsName name) (links : Nat) (from_ : Place) :
    tree.walkLinks false false toMake links from_ [name] ≠ .error .tooManyLinks := by
  intro h
  rw [walkLinks] at h
  split at h
  · rename_i hwalk
    cases h
    exact walk_ne_tooManyLinks _ _ hwalk
  · cases h
  · rename_i hwalk
    cases walks_of_walk hwalk with
    | current => exact hname.current rfl
    | up => exact hname.up rfl
    | enter _ _ _ _ _ _ _ further => cases further
    | follow _ _ _ _ _ _ goesOn => exact goesOn ⟨rfl, rfl, rfl⟩

theorem KeepsWays.tooManyLinks_walkLinks {before after : FileTree} (h : before.KeepsWays after)
    {links : Nat} {from_ : Place} {names : List String}
    (hlinks : before.walkLinks followLast mustBeDirectory toMake links from_ names =
      .error .tooManyLinks) :
    after.walkLinks followLast mustBeDirectory toMake links from_ names = .error .tooManyLinks := by
  fun_induction FileTree.walkLinks before followLast mustBeDirectory toMake links from_ names with
  | case1 _ _ _ _ _ hwalk =>
      cases hlinks
      exact absurd hwalk (walk_ne_tooManyLinks _ _)
  | case2 => cases hlinks
  | case3 _ _ _ _ _ _ hwalk =>
      have hlink := h.walks (walks_of_walk hwalk) (fun _ hspot => Arrival.noConfusion hspot)
      rw [FileTree.walkLinks, walk_of_walks hlink]
      rfl
  | case4 _ _ _ _ _ _ hwalk _ _ _ ih =>
      have hlink := h.walks (walks_of_walk hwalk) (fun _ hspot => Arrival.noConfusion hspot)
      rw [walkLinks_of_link hlink]
      exact ih hlinks

/-- A path that leads through too many links does so in every tree with the same ways. -/
theorem KeepsWays.tooManyLinks {before after : FileTree} (h : before.KeepsWays after) {path : String}
    (htaken : IsTaken path)
    (hlinks : before.resolve followLast path toMake = .error (.system .tooManyLinks)) :
    after.resolve followLast path toMake = .error (.system .tooManyLinks) := by
  rw [resolve_of_isTaken htaken] at hlinks ⊢
  rw [h.start, h.tooManyLinks_walkLinks (mapError_eq_error_iff.1 hlinks)]
  rfl

/-! ## Names in a directory -/

/-- A name behind a path begins where the path does, and does not end in a slash. -/
theorem start_join (tree : FileTree) {base name : String} (hbase : base ≠ "") (hname : IsName name) :
    tree.start (join base name) = tree.start base ∧ (join base name).toList.getLast? ≠ some '/' := by
  obtain ⟨front, hfront⟩ : ∃ front, (join base name).toList = base.toList ++ front ++ name.toList := by
    have habsolute : isAbsolute name = false := by
      rw [isAbsolute, decide_eq_false_iff_not]
      exact fun hhead => hname.slash (List.mem_of_head? hhead)
    rw [join, habsolute, if_neg Bool.false_ne_true, if_neg hbase]
    split
    · exact ⟨[], by simp⟩
    · exact ⟨['/'], by simp⟩
  have hchars : base.toList ≠ [] := fun heq => hbase (String.toList_eq_nil_iff.1 heq)
  have hlast : name.toList ≠ [] := fun heq => hname.nonempty (String.toList_eq_nil_iff.1 heq)
  constructor
  · rw [start, start, isAbsolute, isAbsolute, hfront, List.append_assoc, List.head?_append_of_ne_nil _ hchars]
  · rw [hfront, List.getLast?_append_of_ne_nil _ hlast]
    exact fun heq => hname.slash (List.mem_of_getLast? heq)

/-- A name in a directory leads where it leads from the place of the directory. -/
theorem resolve_join {path : String} {place : Place} {isSealed : Bool}
    (hpath : tree.status followLast path = .ok (place, .directory isSealed)) {name : String}
    (hname : IsName name) (htaken : IsTaken (join path name)) :
    ∃ left, left ≤ linkLimit ∧ ∀ followLast' toMake' : Bool,
      tree.resolve followLast' (join path name) toMake' =
        (tree.walkLinks followLast' false toMake' left place [name]).mapError .system := by
  obtain ⟨hbase, hwalk⟩ := resolve_eq_ok_iff.1 (status_eq_ok_iff.1 hpath)
  obtain ⟨hstart, hslash⟩ := start_join tree hbase.nonempty hname
  obtain ⟨left, hleft, heq⟩ := walkLinks_append hwalk rfl (List.cons_ne_nil name [])
  refine ⟨left, hleft, fun followLast' toMake' => ?_⟩
  rw [resolve_of_isTaken htaken, hstart, pathNames_join hbase.nonempty hname, decide_eq_false hslash, heq]

/-- Two paths of one directory lead to the same in it, unless by one of them there are too many links. -/
theorem resolve_join_eq {first second : String} {place : Place} {isSealed : Bool}
    (hfirst : tree.status followLast first = .ok (place, .directory isSealed))
    (hsecond : tree.status followLast second = .ok (place, .directory isSealed)) {name : String}
    (hname : IsName name) (htaken : IsTaken (join first name)) (htaken' : IsTaken (join second name))
    {followLast' toMake' : Bool}
    (hlinks : tree.resolve followLast' (join first name) toMake' ≠ .error (.system .tooManyLinks))
    (hlinks' : tree.resolve followLast' (join second name) toMake' ≠ .error (.system .tooManyLinks)) :
    tree.resolve followLast' (join first name) toMake' =
      tree.resolve followLast' (join second name) toMake' := by
  obtain ⟨left, -, heq⟩ := resolve_join hfirst hname htaken
  obtain ⟨left', -, heq'⟩ := resolve_join hsecond hname htaken'
  rw [heq, Ne, mapError_eq_error_iff] at hlinks
  rw [heq', Ne, mapError_eq_error_iff] at hlinks'
  rw [heq, heq', walkLinks_eq_of_enough hlinks hlinks']

/-- Two paths of one directory lead to the same in it where links are not followed at the end. -/
theorem resolve_join_last {first second : String} {place : Place} {isSealed : Bool}
    (hfirst : tree.status followLast first = .ok (place, .directory isSealed))
    (hsecond : tree.status followLast second = .ok (place, .directory isSealed)) {name : String}
    (hname : IsName name) (htaken : IsTaken (join first name)) (htaken' : IsTaken (join second name))
    {toMake' : Bool} :
    tree.resolve false (join first name) toMake' = tree.resolve false (join second name) toMake' := by
  obtain ⟨left, -, heq⟩ := resolve_join hfirst hname htaken
  obtain ⟨left', -, heq'⟩ := resolve_join hsecond hname htaken'
  rw [heq, heq', walkLinks_eq_of_enough (walkLinks_last hname left place) (walkLinks_last hname left' place)]

end DeviceBus.FileTree
