import DeviceBus.Proofs.Files.Tree
import DeviceBus.Proofs.Path

/-!
# Where paths lead

A path is resolved by walking over its names, and over those in the links on the way.  A walk that comes
somewhere has gone through directories and links only, and it ends with what stands at its end.

* `Walks`, `walks_of_walk`, `walk_of_walks`: the walks that come somewhere, step by step.
* `resolve_eq_ok_iff`: a path that is resolved is one the system takes, walked over its names.
* `resolve_of_placeToWrite`: a path to write to leads to a file, to a device, or to nothing in a directory
  in which something can be made; and by it what is there is found.
* `Walks.relax`: a walk that asks for less comes to the same.
-/

namespace DeviceBus.FileTree

/-! ## Walks that come somewhere -/

/-- A name that is looked up where a walk has come: it is not made of dots and not too long, and it is not
the last name where something is to be made that would have to be a directory. -/
structure LooksUp (mustBeDirectory toMake : Bool) (name : String) (rest : List String) : Prop where
  current : name ≠ "."
  up : name ≠ ".."
  make : ¬(rest = [] ∧ mustBeDirectory = true ∧ toMake = true)
  short : name.utf8ByteSize ≤ nameLimit

/-- The walks that come to an end or to a link, step by step. -/
inductive Walks (tree : FileTree) (followLast mustBeDirectory toMake : Bool) :
    Place → List String → Arrival → Prop
  | done (from_ : Place) : Walks tree followLast mustBeDirectory toMake from_ []
      (.spot ⟨from_, tree.entry? from_⟩)
  | current (from_ : Place) (rest : List String) (arrival : Arrival)
      (further : Walks tree followLast mustBeDirectory toMake from_ rest arrival) :
      Walks tree followLast mustBeDirectory toMake from_ ("." :: rest) arrival
  | up (from_ : Place) (rest : List String) (arrival : Arrival)
      (further : Walks tree followLast mustBeDirectory toMake from_.dropLast rest arrival) :
      Walks tree followLast mustBeDirectory toMake from_ (".." :: rest) arrival
  | enter (from_ : Place) (name : String) (rest : List String) (arrival : Arrival) (isSealed : Bool)
      (looksUp : LooksUp mustBeDirectory toMake name rest)
      (here : tree.entry? (from_ ++ [name]) = some (.directory isSealed))
      (further : Walks tree followLast mustBeDirectory toMake (from_ ++ [name]) rest arrival) :
      Walks tree followLast mustBeDirectory toMake from_ (name :: rest) arrival
  | follow (from_ : Place) (name : String) (rest : List String) (target : String)
      (looksUp : LooksUp mustBeDirectory toMake name rest)
      (here : tree.entry? (from_ ++ [name]) = some (.link target))
      (goesOn : ¬(rest = [] ∧ followLast = false ∧ mustBeDirectory = false)) :
      Walks tree followLast mustBeDirectory toMake from_ (name :: rest) (.link from_ target rest)
  | missing (from_ : Place) (name : String) (looksUp : LooksUp mustBeDirectory toMake name [])
      (here : tree.entry? (from_ ++ [name]) = none) :
      Walks tree followLast mustBeDirectory toMake from_ [name] (.spot ⟨from_ ++ [name], none⟩)
  | link (from_ : Place) (name : String) (target : String)
      (looksUp : LooksUp mustBeDirectory toMake name [])
      (here : tree.entry? (from_ ++ [name]) = some (.link target))
      (stops : followLast = false ∧ mustBeDirectory = false) :
      Walks tree followLast mustBeDirectory toMake from_ [name]
        (.spot ⟨from_ ++ [name], some (.link target)⟩)
  | plain (from_ : Place) (name : String) (entry : Entry)
      (looksUp : LooksUp mustBeDirectory toMake name [])
      (here : tree.entry? (from_ ++ [name]) = some entry) (isPlain : entry.isWay = false)
      (stops : mustBeDirectory = false) :
      Walks tree followLast mustBeDirectory toMake from_ [name] (.spot ⟨from_ ++ [name], some entry⟩)

variable {tree : FileTree} {followLast mustBeDirectory toMake : Bool}

/-- What a name that is looked up leads to. -/
theorem walk_of_looksUp {from_ : Place} {name : String} {rest : List String}
    (h : LooksUp mustBeDirectory toMake name rest) :
    tree.walk followLast mustBeDirectory toMake from_ (name :: rest) =
      match tree.entry? (from_ ++ [name]) with
      | none =>
          if rest = [] then .ok (.spot ⟨from_ ++ [name], none⟩) else .error .noSuchFile
      | some (.directory _) => tree.walk followLast mustBeDirectory toMake (from_ ++ [name]) rest
      | some (.link target) =>
          if rest = [] ∧ !followLast ∧ !mustBeDirectory then
            .ok (.spot ⟨from_ ++ [name], some (.link target)⟩)
          else .ok (.link from_ target rest)
      | some entry =>
          if rest = [] ∧ !mustBeDirectory then .ok (.spot ⟨from_ ++ [name], some entry⟩)
          else .error .notDirectory := by
  rw [walk, if_neg h.current, if_neg h.up, if_neg h.make]
  exact if_neg (Nat.not_lt.2 h.short)

theorem walks_of_walk {from_ : Place} {names : List String} {arrival : Arrival}
    (h : tree.walk followLast mustBeDirectory toMake from_ names = .ok arrival) :
    Walks tree followLast mustBeDirectory toMake from_ names arrival := by
  fun_induction walk tree followLast mustBeDirectory toMake from_ names with
  | case1 from_ => cases h; exact .done from_
  | case2 from_ rest ih => exact .current from_ rest arrival (ih h)
  | case3 from_ rest _ ih => exact .up from_ rest arrival (ih h)
  | case6 from_ name hdot hdots hlong place hentry hmake =>
      cases h
      exact .missing from_ name ⟨hdot, hdots, hmake, Nat.not_lt.1 hlong⟩ hentry
  | case8 from_ name rest hdot hdots hmake hlong place isSealed hentry ih =>
      exact .enter from_ name rest arrival isSealed ⟨hdot, hdots, hmake, Nat.not_lt.1 hlong⟩ hentry (ih h)
  | case9 from_ name rest hdot hdots hmake hlong place target hentry hstops =>
      cases h
      obtain ⟨rfl, hfollow, hdirectory⟩ := hstops
      exact .link from_ name target ⟨hdot, hdots, hmake, Nat.not_lt.1 hlong⟩ hentry
        ⟨by simpa using hfollow, by simpa using hdirectory⟩
  | case10 from_ name rest hdot hdots hmake hlong place target hentry hgoesOn =>
      cases h
      exact .follow from_ name rest target ⟨hdot, hdots, hmake, Nat.not_lt.1 hlong⟩ hentry
        (by simpa using hgoesOn)
  | case11 from_ name rest hdot hdots hmake hlong place entry hdirectory hlink hentry hstops =>
      cases h
      obtain ⟨rfl, hdir⟩ := hstops
      refine .plain from_ name entry ⟨hdot, hdots, hmake, Nat.not_lt.1 hlong⟩ hentry ?_
        (by simpa using hdir)
      cases entry with
      | directory isSealed => exact absurd rfl (hdirectory isSealed)
      | link target => exact absurd rfl (hlink target)
      | file _ _ => rfl
      | socket _ => rfl
      | device => rfl
  | case4 => cases h
  | case5 => cases h
  | case7 => cases h
  | case12 => cases h

theorem walk_of_walks {from_ : Place} {names : List String} {arrival : Arrival}
    (h : Walks tree followLast mustBeDirectory toMake from_ names arrival) :
    tree.walk followLast mustBeDirectory toMake from_ names = .ok arrival := by
  induction h with
  | done => rfl
  | current _ _ _ _ ih => rw [walk, if_pos rfl, ih]
  | up _ _ _ _ ih => rw [walk, if_neg (by decide), if_pos rfl, ih]
  | enter _ _ _ _ _ looksUp here _ ih => rw [walk_of_looksUp looksUp, here]; exact ih
  | follow _ _ _ _ looksUp here goesOn =>
      rw [walk_of_looksUp looksUp, here]
      exact if_neg (by simpa using goesOn)
  | missing _ _ looksUp here => rw [walk_of_looksUp looksUp, here]; exact if_pos rfl
  | link _ _ _ looksUp here stops =>
      rw [walk_of_looksUp looksUp, here]
      exact if_pos (by simpa using stops)
  | plain _ _ entry looksUp here isPlain stops =>
      rw [walk_of_looksUp looksUp, here]
      cases entry with
      | directory _ => cases isPlain
      | link _ => cases isPlain
      | file _ _ => exact if_pos (by simpa using stops)
      | socket _ => exact if_pos (by simpa using stops)
      | device => exact if_pos (by simpa using stops)

/-- A walk ends with what stands at its end. -/
theorem Walks.entry_eq {from_ : Place} {names : List String} {arrival : Arrival}
    (h : Walks tree followLast mustBeDirectory toMake from_ names arrival) {spot : Spot}
    (hspot : arrival = .spot spot) : spot.entry = tree.entry? spot.place := by
  induction h with
  | done => cases hspot; rfl
  | current _ _ _ _ ih => exact ih hspot
  | up _ _ _ _ ih => exact ih hspot
  | enter _ _ _ _ _ _ _ _ ih => exact ih hspot
  | follow => cases hspot
  | missing _ _ _ here => cases hspot; exact here.symm
  | link _ _ _ _ here _ => cases hspot; exact here.symm
  | plain _ _ _ _ here _ _ => cases hspot; exact here.symm

/-- A walk that comes to its end leads there over any number of links. -/
theorem walkLinks_of_spot {links : Nat} {from_ : Place} {names : List String} {spot : Spot}
    (h : Walks tree followLast mustBeDirectory toMake from_ names (.spot spot)) :
    tree.walkLinks followLast mustBeDirectory toMake links from_ names = .ok spot := by
  rw [walkLinks, walk_of_walks h]

/-- A walk that comes to a link goes on over the names in the link, if there may be one more. -/
theorem walkLinks_of_link {links : Nat} {from_ parent : Place} {names rest : List String}
    {target : String}
    (h : Walks tree followLast mustBeDirectory toMake from_ names (.link parent target rest)) :
    tree.walkLinks followLast mustBeDirectory toMake (links + 1) from_ names =
      tree.walkLinks followLast
        (mustBeDirectory || (rest = [] && target.toList.getLast? = some '/')) toMake links
        (if Path.isAbsolute target then [] else parent) (pathNames target ++ rest) := by
  rw [walkLinks, walk_of_walks h]

/-- Walking over links comes to a place with what stands there. -/
theorem entry_eq_of_walkLinks {links : Nat} {from_ : Place} {names : List String} {spot : Spot}
    (h : tree.walkLinks followLast mustBeDirectory toMake links from_ names = .ok spot) :
    spot.entry = tree.entry? spot.place := by
  fun_induction walkLinks tree followLast mustBeDirectory toMake links from_ names with
  | case1 => cases h
  | case2 _ _ _ _ _ hwalk => cases h; exact (walks_of_walk hwalk).entry_eq rfl
  | case3 => cases h
  | case4 _ _ _ _ _ _ _ _ _ _ ih => exact ih h

/-! ## Paths -/

/-- A path that the system takes. -/
structure IsTaken (path : String) : Prop where
  zero : '\x00' ∉ path.toList
  nonempty : path ≠ ""
  short : path.utf8ByteSize < pathLimit

/-- Where a path begins. -/
def start (tree : FileTree) (path : String) : Place :=
  if Path.isAbsolute path then [] else tree.work

/-- A path is walked from where it begins. -/
theorem resolve_of_isTaken {path : String} (h : IsTaken path) :
    tree.resolve followLast path toMake =
      (tree.walkLinks followLast (path.toList.getLast? = some '/') toMake linkLimit (tree.start path)
        (pathNames path)).mapError .system := by
  rw [resolve, if_neg (by simpa using h.zero), if_neg h.nonempty, if_neg (Nat.not_le.2 h.short)]
  rfl

theorem mapError_eq_ok_iff {ε ε' α : Type} {result : Except ε α} {f : ε → ε'} {value : α} :
    result.mapError f = .ok value ↔ result = .ok value := by
  cases result with
  | error _ => simp [Except.mapError]
  | ok _ => simp [Except.mapError]

theorem resolve_eq_ok_iff {path : String} {spot : Spot} :
    tree.resolve followLast path toMake = .ok spot ↔
      IsTaken path ∧
        tree.walkLinks followLast (path.toList.getLast? = some '/') toMake linkLimit (tree.start path)
          (pathNames path) = .ok spot := by
  constructor
  · intro hresolve
    have htaken : IsTaken path := by
      rw [resolve] at hresolve
      split at hresolve
      · cases hresolve
      split at hresolve
      · cases hresolve
      split at hresolve
      · cases hresolve
      exact ⟨by simpa using ‹¬path.toList.contains '\x00' = true›, ‹_›, Nat.not_le.1 ‹_›⟩
    rw [resolve_of_isTaken htaken, mapError_eq_ok_iff] at hresolve
    exact ⟨htaken, hresolve⟩
  · rintro ⟨htaken, hwalk⟩
    rw [resolve_of_isTaken htaken, mapError_eq_ok_iff]
    exact hwalk

/-- A path leads to a place with what stands there. -/
theorem entry_eq_of_resolve {path : String} {spot : Spot}
    (h : tree.resolve followLast path toMake = .ok spot) : spot.entry = tree.entry? spot.place :=
  entry_eq_of_walkLinks (resolve_eq_ok_iff.1 h).2

theorem status_eq_ok_iff {path : String} {place : Place} {entry : Entry} :
    tree.status followLast path = .ok (place, entry) ↔
      tree.resolve followLast path = .ok ⟨place, some entry⟩ := by
  rw [status]
  split
  · simp [*]
  · simp [*]
  · simp_all

/-- What a path leads to stands at the place. -/
theorem entry_of_status {path : String} {place : Place} {entry : Entry}
    (h : tree.status followLast path = .ok (place, entry)) : tree.entry? place = some entry :=
  (entry_eq_of_resolve (status_eq_ok_iff.1 h)).symm

/-- A place that can be written to: a file or a device stands there, or nothing and it can be made. -/
def IsWritable (tree : FileTree) (place : Place) : Prop :=
  tree.entry? place = none ∧ tree.mayCreate place = true ∨
    (∃ contents modified, tree.entry? place = some (.file contents modified)) ∨
    tree.entry? place = some .device

/-- A path to write to leads to a place that can be written to. -/
theorem resolve_of_placeToWrite {path : String} {place : Place}
    (h : tree.placeToWrite path = .ok place) :
    tree.resolve true path true = .ok ⟨place, tree.entry? place⟩ ∧ IsWritable tree place := by
  rw [placeToWrite] at h
  split at h
  · cases h
  · rename_i other hresolve
    have hentry := entry_eq_of_resolve hresolve
    split at h
    · cases h
      exact ⟨by rw [hresolve, ← hentry], .inl ⟨hentry.symm, ‹_›⟩⟩
    · cases h
  · rename_i other contents modified hresolve
    have hentry := entry_eq_of_resolve hresolve
    cases h
    exact ⟨by rw [hresolve, ← hentry], .inr (.inl ⟨contents, modified, hentry.symm⟩)⟩
  · rename_i other hresolve
    have hentry := entry_eq_of_resolve hresolve
    cases h
    exact ⟨by rw [hresolve, ← hentry], .inr (.inr hentry.symm)⟩
  · cases h
  · cases h

/-- A file that a path leads to can be written to by it. -/
theorem placeToWrite_of_resolve {path : String} {place : Place} {contents : ByteArray} {modified : Int}
    (h : tree.resolve true path true = .ok ⟨place, some (.file contents modified)⟩) :
    tree.placeToWrite path = .ok place := by
  rw [placeToWrite, h]

/-- What can be written to has neither a directory nor a link. -/
theorem IsWritable.isPlain {place : Place} (h : IsWritable tree place) {entry : Entry}
    (hentry : tree.entry? place = some entry) : entry.isWay = false := by
  rcases h with ⟨hnone, -⟩ | ⟨contents, modified, hfile⟩ | hdevice
  · rw [hnone] at hentry
    cases hentry
  · rw [hfile] at hentry
    cases hentry
    rfl
  · rw [hdevice] at hentry
    cases hentry
    rfl

/-! ## Asking for less -/

/-- A walk comes to the same where nothing is to be made, or where no directory is asked for, and where links are
followed at its end, if there is none. -/
theorem Walks.relax {from_ : Place} {names : List String} {arrival : Arrival}
    (h : Walks tree followLast mustBeDirectory toMake from_ names arrival) {followLast' toMake' : Bool}
    (hmake : toMake' = true → toMake = true ∨ mustBeDirectory = false)
    (hfollow : followLast' = followLast ∨ followLast' = true ∧
      ∀ spot, arrival = .spot spot → ∀ target, spot.entry ≠ some (.link target)) :
    Walks tree followLast' mustBeDirectory toMake' from_ names arrival := by
  have hlooksUp : ∀ {name rest}, LooksUp mustBeDirectory toMake name rest →
      LooksUp mustBeDirectory toMake' name rest := by
    refine fun looksUp => ⟨looksUp.current, looksUp.up, ?_, looksUp.short⟩
    rintro ⟨hend, hdirectory, hmakes⟩
    rcases hmake hmakes with hmade | hfree
    · exact looksUp.make ⟨hend, hdirectory, hmade⟩
    · rw [hfree] at hdirectory
      cases hdirectory
  induction h with
  | done from_ => exact .done from_
  | current from_ rest _ _ ih => exact .current from_ rest _ (ih hfollow)
  | up from_ rest _ _ ih => exact .up from_ rest _ (ih hfollow)
  | enter from_ name rest _ isSealed looksUp here _ ih =>
      exact .enter from_ name rest _ isSealed (hlooksUp looksUp) here (ih hfollow)
  | follow from_ name rest target looksUp here goesOn =>
      refine .follow from_ name rest target (hlooksUp looksUp) here ?_
      rcases hfollow with rfl | ⟨rfl, -⟩
      · exact goesOn
      · simp
  | missing from_ name looksUp here => exact .missing from_ name (hlooksUp looksUp) here
  | link from_ name target looksUp here stops =>
      rcases hfollow with rfl | ⟨-, hend⟩
      · exact .link from_ name target (hlooksUp looksUp) here stops
      · exact absurd rfl (hend _ rfl target)
  | plain from_ name entry looksUp here isPlain stops =>
      exact .plain from_ name entry (hlooksUp looksUp) here isPlain stops

theorem walkLinks_relax {links : Nat} {from_ : Place} {names : List String} {spot : Spot}
    (h : tree.walkLinks followLast mustBeDirectory toMake links from_ names = .ok spot)
    {followLast' toMake' : Bool} (hmake : toMake' = true → toMake = true)
    (hfollow : followLast' = followLast ∨
      followLast' = true ∧ ∀ target, spot.entry ≠ some (.link target)) :
    tree.walkLinks followLast' mustBeDirectory toMake' links from_ names = .ok spot := by
  fun_induction walkLinks tree followLast mustBeDirectory toMake links from_ names with
  | case1 => cases h
  | case2 _ _ _ _ _ harrival =>
      cases h
      refine walkLinks_of_spot
        ((walks_of_walk harrival).relax (fun hmakes => .inl (hmake hmakes)) (hfollow.imp_right ?_))
      rintro ⟨hfollows, hend⟩
      exact ⟨hfollows, by rintro _ ⟨⟩; exact hend⟩
  | case3 => cases h
  | case4 _ _ _ _ _ _ harrival _ _ _ ih =>
      rw [walkLinks_of_link
        ((walks_of_walk harrival).relax (fun hmakes => .inl (hmake hmakes)) (hfollow.imp_right ?_))]
      · exact ih h
      · exact fun hfollows => ⟨hfollows.1, fun _ hspot => Arrival.noConfusion hspot⟩

/-- A path by which something can be made is also a path by which it is found. -/
theorem resolve_of_toMake {path : String} {spot : Spot}
    (h : tree.resolve followLast path true = .ok spot) : tree.resolve followLast path = .ok spot := by
  obtain ⟨htaken, hwalk⟩ := resolve_eq_ok_iff.1 h
  exact resolve_eq_ok_iff.2 ⟨htaken, walkLinks_relax hwalk (fun _ => rfl) (.inl rfl)⟩

/-- What a path leads to is the same whether links are followed at its end or not, if it is no link. -/
theorem status_of_follows {path : String} {place : Place} {entry : Entry}
    (h : tree.status false path = .ok (place, entry)) (hentry : ∀ target, entry ≠ .link target) :
    tree.status true path = .ok (place, entry) := by
  obtain ⟨htaken, hwalk⟩ := resolve_eq_ok_iff.1 (status_eq_ok_iff.1 h)
  refine status_eq_ok_iff.2 (resolve_eq_ok_iff.2 ⟨htaken, walkLinks_relax hwalk id (.inr ⟨rfl, ?_⟩)⟩)
  exact fun target heq => hentry target (Option.some.inj heq)

end DeviceBus.FileTree
