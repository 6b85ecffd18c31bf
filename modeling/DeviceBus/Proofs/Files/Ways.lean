import DeviceBus.Proofs.Files.Walk

/-!
# Trees with the same ways

A path leads through directories and links.  So it leads to the same place in every tree in which these
stand as before, whatever has become of the files, and what it leads to is what stands there.

* `KeepsWays.resolve`, `KeepsWays.status`, `KeepsWays.placeToWrite`: a path in two trees of which the second
  has every directory and link of the first.
* `KeepsDirectories.status`: where links may be gone, a path to a directory leads there still, or nowhere.
* `WellFormed.fileName?_of_status`: a path to what is no directory ends in a name.
* `WellFormed.placeToWrite_of_status`: a file that a path leads to can be written to by it.
-/

namespace DeviceBus.FileTree

variable {tree : FileTree} {followLast mustBeDirectory toMake : Bool}

/-- Every directory and every link of one tree stands in another one as well, and relative paths begin at
the same place. -/
structure KeepsWays (before after : FileTree) : Prop where
  work : after.work = before.work
  ways : ∀ place entry, entry.isWay = true →
    before.entry? place = some entry → after.entry? place = some entry

/-- What has no directory and no link. -/
def IsPlain (entry : Option Entry) : Prop := ∀ value, entry = some value → value.isWay = false

/-- Whether a walk that ends at a place in one tree can end there in another one: the same stands there, or
neither has a way there, and where one has nothing the walk may make it. -/
def EndsAlike (before after : FileTree) (toMake : Bool) (place : Place) : Prop :=
  after.entry? place = before.entry? place ∨
    IsPlain ( before.entry? place) ∧ IsPlain ( after.entry? place) ∧
      ( before.entry? place = none → toMake = true)

/-- An arrival as it is in another tree. -/
def Arrival.within (tree : FileTree) : Arrival → Arrival
  | .spot there => .spot ⟨there.place, tree.entry? there.place⟩
  | .link parent target rest => .link parent target rest

namespace KeepsWays

variable {before after : FileTree}

theorem refl (tree : FileTree) : tree.KeepsWays tree := ⟨rfl, fun _ _ _ h => h⟩

theorem trans {middle : FileTree} (first : before.KeepsWays middle) (second : middle.KeepsWays after) :
    before.KeepsWays after where
  work := second.work.trans first.work
  ways := fun place entry hway hentry =>
    second.ways place entry hway (first.ways place entry hway hentry)

/-- A walk comes to the same link in the other tree, or to the same place if it can end there. -/
theorem walks (h : before.KeepsWays after) {from_ : Place} {names : List String} {arrival : Arrival}
    (hwalk : Walks before followLast mustBeDirectory toMake from_ names arrival)
    (hend : ∀ spot, arrival = .spot spot → EndsAlike before after toMake spot.place) :
    Walks after followLast mustBeDirectory toMake from_ names (arrival.within after) := by
  induction hwalk with
  | done from_ => exact .done from_
  | current from_ rest _ _ ih => exact .current from_ rest _ (ih hend)
  | up from_ rest _ _ ih => exact .up from_ rest _ (ih hend)
  | enter from_ name rest _ isSealed looksUp here _ ih =>
      exact .enter from_ name rest _ isSealed looksUp (h.ways _ _ rfl here) (ih hend)
  | follow from_ name rest target looksUp here goesOn =>
      exact .follow from_ name rest target looksUp (h.ways _ _ rfl here) goesOn
  | link from_ name target looksUp here stops =>
      have hafter := h.ways _ _ rfl here
      rw [Arrival.within, hafter]
      exact .link from_ name target looksUp hafter stops
  | missing from_ name looksUp here =>
      cases hafter : after.entry? (from_ ++ [name]) with
      | none =>
          rw [Arrival.within, hafter]
          exact .missing from_ name looksUp hafter
      | some entry =>
          rw [Arrival.within, hafter]
          rcases hend _ rfl with hsame | ⟨-, hplain, hmake⟩
          · rw [hafter, here] at hsame
            cases hsame
          · have hdirectory : mustBeDirectory = false := by
              cases hmust : mustBeDirectory with
              | false => rfl
              | true => exact absurd ⟨rfl, hmust, hmake here⟩ looksUp.make
            exact .plain from_ name entry looksUp hafter (hplain entry hafter) hdirectory
  | plain from_ name entry looksUp here isPlain stops =>
      cases hafter : after.entry? (from_ ++ [name]) with
      | none =>
          rw [Arrival.within, hafter]
          exact .missing from_ name looksUp hafter
      | some value =>
          rw [Arrival.within, hafter]
          refine .plain from_ name value looksUp hafter ?_ stops
          rcases hend _ rfl with hsame | ⟨-, hplain, -⟩
          · rw [hafter, here] at hsame
            cases hsame
            exact isPlain
          · exact hplain value hafter

theorem walkLinks (h : before.KeepsWays after) {links : Nat} {from_ : Place} {names : List String}
    {spot : Spot}
    (hwalk : before.walkLinks followLast mustBeDirectory toMake links from_ names = .ok spot)
    (hend : EndsAlike before after toMake spot.place) :
    after.walkLinks followLast mustBeDirectory toMake links from_ names =
      .ok ⟨spot.place, after.entry? spot.place⟩ := by
  fun_induction FileTree.walkLinks before followLast mustBeDirectory toMake links from_ names with
  | case1 => cases hwalk
  | case2 _ _ _ _ _ harrival =>
      cases hwalk
      exact walkLinks_of_spot (h.walks (walks_of_walk harrival) (by rintro _ ⟨⟩; exact hend))
  | case3 => cases hwalk
  | case4 _ _ _ _ _ _ harrival _ _ _ ih =>
      have hlink := h.walks (walks_of_walk harrival) (fun _ hspot => Arrival.noConfusion hspot)
      rw [walkLinks_of_link hlink]
      exact ih hwalk

theorem start (h : before.KeepsWays after) (path : String) : after.start path = before.start path := by
  rw [FileTree.start, FileTree.start, h.work]

/-- A path leads to the same place in the other tree, if a walk can end there. -/
theorem resolve (h : before.KeepsWays after) {path : String} {spot : Spot}
    (hresolve : before.resolve followLast path toMake = .ok spot)
    (hend : EndsAlike before after toMake spot.place) :
    after.resolve followLast path toMake = .ok ⟨spot.place, after.entry? spot.place⟩ := by
  obtain ⟨htaken, hwalk⟩ := resolve_eq_ok_iff.1 hresolve
  refine resolve_eq_ok_iff.2 ⟨htaken, ?_⟩
  rw [h.start]
  exact h.walkLinks hwalk hend

/-- A path leads to what it led to, if that stands where it stood. -/
theorem status (h : before.KeepsWays after) {path : String} {place : Place} {entry : Entry}
    (hstatus : before.status followLast path = .ok (place, entry))
    (hentry : after.entry? place = some entry) :
    after.status followLast path = .ok (place, entry) := by
  have hbefore := entry_of_status hstatus
  rw [status_eq_ok_iff] at hstatus ⊢
  have hresolve := h.resolve hstatus (.inl (hentry.trans hbefore.symm))
  rw [hresolve, hentry]

/-- A path to what was neither a directory nor a link leads to the same place, if that has not become one. -/
theorem resolve_of_plain (h : before.KeepsWays after) {path : String} {place : Place} {entry : Entry}
    (hstatus : before.status followLast path = .ok (place, entry)) (hplain : entry.isWay = false)
    (hafter : IsPlain ( after.entry? place)) :
    after.resolve followLast path = .ok ⟨place, after.entry? place⟩ := by
  have hbefore := entry_of_status hstatus
  refine h.resolve (status_eq_ok_iff.1 hstatus) (.inr ⟨?_, hafter, ?_⟩)
  · intro value hvalue
    rw [hbefore] at hvalue
    cases hvalue
    exact hplain
  · intro hnone
    rw [hbefore] at hnone
    cases hnone

/-- A path leads nowhere, if what it led to is gone and was neither a directory nor a link. -/
theorem status_of_gone (h : before.KeepsWays after) {path : String} {place : Place} {entry : Entry}
    (hstatus : before.status followLast path = .ok (place, entry)) (hplain : entry.isWay = false)
    (hgone : after.entry? place = none) :
    after.status followLast path = .error (.system .noSuchFile) := by
  have hresolve := h.resolve_of_plain hstatus hplain fun value hvalue => by
    cases hgone.symm.trans hvalue
  rw [FileTree.status, hresolve, hgone]

/-- A path leads to what has come in the place of what it led to, if neither is a directory or a link. -/
theorem status_of_replaced (h : before.KeepsWays after) {path : String} {place : Place}
    {entry entry' : Entry} (hstatus : before.status followLast path = .ok (place, entry))
    (hplain : entry.isWay = false) (hentry : after.entry? place = some entry')
    (hplain' : entry'.isWay = false) : after.status followLast path = .ok (place, entry') := by
  have hresolve := h.resolve_of_plain hstatus hplain fun value hvalue => by
    cases hentry.symm.trans hvalue
    exact hplain'
  rw [status_eq_ok_iff, hresolve, hentry]

/-- A path to write to leads to the file that has come to stand where it led. -/
theorem placeToWrite (h : before.KeepsWays after) {path : String} {place : Place}
    (hplace : before.placeToWrite path = .ok place) {contents : ByteArray} {modified : Int}
    (hfile : after.entry? place = some (.file contents modified)) :
    after.placeToWrite path = .ok place ∧
      after.status true path = .ok (place, .file contents modified) := by
  obtain ⟨hresolve, hwritable⟩ := resolve_of_placeToWrite hplace
  have hend : EndsAlike before after true place := by
    refine .inr ⟨fun _ => hwritable.isPlain, ?_, fun _ => rfl⟩
    intro value hvalue
    rw [hfile] at hvalue
    cases hvalue
    rfl
  have hafter := h.resolve hresolve hend
  rw [hfile] at hafter
  exact ⟨placeToWrite_of_resolve hafter, status_eq_ok_iff.2 (resolve_of_toMake hafter)⟩

end KeepsWays

/-! ## Trees with fewer links -/

/-- Directories stand in another tree as in one, and so do links unless nothing stands in their place. -/
structure KeepsDirectories (before after : FileTree) : Prop where
  work : after.work = before.work
  directory : ∀ place isSealed, before.entry? place = some (.directory isSealed) →
    after.entry? place = some (.directory isSealed)
  link : ∀ place target, before.entry? place = some (.link target) →
    after.entry? place = some (.link target) ∨ after.entry? place = none

/-- What comes to nothing. -/
def IsLost (result : Except Condition Arrival) : Prop :=
  ∀ arrival, result = .ok arrival → ∃ place, arrival = .spot ⟨place, none⟩

/-- A walk that comes to nothing leads to nothing over links. -/
theorem entry_eq_none_of_isLost {links : Nat} {from_ : Place} {names : List String} {spot : Spot}
    (hlost : IsLost (tree.walk followLast mustBeDirectory toMake from_ names))
    (hwalk : tree.walkLinks followLast mustBeDirectory toMake links from_ names = .ok spot) :
    spot.entry = none := by
  rw [walkLinks] at hwalk
  split at hwalk
  · cases hwalk
  · rename_i there harrival
    cases hwalk
    obtain ⟨place, hspot⟩ := hlost _ harrival
    cases hspot
    rfl
  · rename_i harrival
    obtain ⟨_, hspot⟩ := hlost _ harrival
    cases hspot

namespace KeepsDirectories

variable {before after : FileTree}

/-- A walk comes to the same link or directory, or to nothing. -/
theorem walks (h : before.KeepsDirectories after) {from_ : Place} {names : List String}
    {arrival : Arrival}
    (hwalk : Walks before followLast mustBeDirectory toMake from_ names arrival)
    (hend : ∀ spot, arrival = .spot spot → ∃ isSealed, spot.entry = some (.directory isSealed)) :
    Walks after followLast mustBeDirectory toMake from_ names arrival ∨
      IsLost (after.walk followLast mustBeDirectory toMake from_ names) := by
  induction hwalk with
  | done from_ =>
      obtain ⟨isSealed, hentry⟩ := hend _ rfl
      refine .inl ?_
      rw [show before.entry? from_ = after.entry? from_ by
        rw [h.directory _ _ hentry]; exact hentry]
      exact .done from_
  | current from_ rest _ _ ih =>
      rw [walk, if_pos rfl]
      exact (ih hend).imp_left (.current from_ rest _)
  | up from_ rest _ _ ih =>
      rw [walk, if_neg (by decide), if_pos rfl]
      exact (ih hend).imp_left (.up from_ rest _)
  | enter from_ name rest _ isSealed looksUp here _ ih =>
      have hafter := h.directory _ _ here
      rw [walk_of_looksUp looksUp, hafter]
      exact (ih hend).imp_left (.enter from_ name rest _ isSealed looksUp hafter)
  | follow from_ name rest target looksUp here goesOn =>
      rcases h.link _ _ here with hafter | hafter
      · exact .inl (.follow from_ name rest target looksUp hafter goesOn)
      · refine .inr ?_
        intro arrival harrival
        rw [walk_of_looksUp looksUp, hafter] at harrival
        simp only at harrival
        split at harrival
        · cases harrival
          exact ⟨_, rfl⟩
        · cases harrival
  | missing => obtain ⟨_, hentry⟩ := hend _ rfl; cases hentry
  | link => obtain ⟨_, hentry⟩ := hend _ rfl; cases hentry
  | plain _ _ _ _ _ isPlain _ =>
      obtain ⟨_, hentry⟩ := hend _ rfl
      cases hentry
      cases isPlain

theorem walkLinks (h : before.KeepsDirectories after) {links : Nat} {from_ : Place}
    {names : List String} {spot : Spot} {isSealed : Bool}
    (hwalk : before.walkLinks followLast mustBeDirectory toMake links from_ names = .ok spot)
    (hdirectory : spot.entry = some (.directory isSealed)) :
    after.walkLinks followLast mustBeDirectory toMake links from_ names = .ok spot ∨
      ∀ other, after.walkLinks followLast mustBeDirectory toMake links from_ names = .ok other →
        other.entry = none := by
  fun_induction FileTree.walkLinks before followLast mustBeDirectory toMake links from_ names with
  | case1 => cases hwalk
  | case2 mustBeDirectory links from_ names _ harrival =>
      cases hwalk
      rcases h.walks (walks_of_walk harrival) (by rintro _ ⟨⟩; exact ⟨_, hdirectory⟩) with hsame | hlost
      · exact .inl (walkLinks_of_spot hsame)
      · exact .inr fun _ hother => entry_eq_none_of_isLost hlost hother
  | case3 => cases hwalk
  | case4 _ _ _ _ _ _ harrival _ _ _ ih =>
      rcases h.walks (walks_of_walk harrival) (fun _ hspot => Arrival.noConfusion hspot) with hsame | hlost
      · rw [walkLinks_of_link hsame]
        exact ih hwalk
      · exact .inr fun _ hother => entry_eq_none_of_isLost hlost hother

/-- A path to a directory leads there still, or it leads nowhere. -/
theorem status (h : before.KeepsDirectories after) {path : String} {place : Place} {isSealed : Bool}
    (hstatus : before.status followLast path = .ok (place, .directory isSealed)) :
    after.status followLast path = .ok (place, .directory isSealed) ∨
      ∃ fault, after.status followLast path = .error fault := by
  obtain ⟨htaken, hwalk⟩ := resolve_eq_ok_iff.1 (status_eq_ok_iff.1 hstatus)
  have hstart : after.start path = before.start path := by rw [start, start, h.work]
  rcases h.walkLinks hwalk rfl with hsame | hlost
  · refine .inl (status_eq_ok_iff.2 (resolve_eq_ok_iff.2 ⟨htaken, ?_⟩))
    rw [hstart]
    exact hsame
  · refine .inr ?_
    cases hafter : after.status followLast path with
    | error fault => exact ⟨fault, rfl⟩
    | ok found =>
        obtain ⟨htaken', hwalk'⟩ := resolve_eq_ok_iff.1 (status_eq_ok_iff.1 hafter)
        rw [hstart] at hwalk'
        cases hlost _ hwalk'

end KeepsDirectories

theorem KeepsWays.keepsDirectories {before middle after : FileTree} (h : before.KeepsWays middle)
    (h' : middle.KeepsDirectories after) : before.KeepsDirectories after where
  work := h'.work.trans h.work
  directory := fun place isSealed hentry => h'.directory place isSealed (h.ways _ _ rfl hentry)
  link := fun place target hentry => h'.link place target (h.ways _ _ rfl hentry)

/-! ## The name at the end -/

/-- Names of which the last one is not made of dots. -/
def EndsInName (names : List String) : Prop :=
  ∃ name, names.getLast? = some name ∧ name ≠ "." ∧ name ≠ ".."

theorem EndsInName.cons {names : List String} (h : EndsInName names) (name : String) :
    EndsInName (name :: names) := by
  obtain ⟨last, hlast, hdots⟩ := h
  exact ⟨last, by rw [List.getLast?_cons, hlast]; rfl, hdots⟩

theorem EndsInName.of_append {front behind : List String} (h : EndsInName (front ++ behind)) :
    behind = [] ∨ EndsInName behind := by
  obtain ⟨last, hlast, hdots⟩ := h
  cases behind with
  | nil => exact .inl rfl
  | cons name rest =>
      refine .inr ⟨last, ?_, hdots⟩
      rw [List.getLast?_append] at hlast
      simpa [List.getLast?_cons] using hlast

/-- Whether a directory stands at a place. -/
def HasDirectory (tree : FileTree) (place : Place) : Prop :=
  ∃ isSealed, tree.entry? place = some (.directory isSealed)

namespace WellFormed

/-- Paths begin at a directory. -/
theorem hasDirectory_start (h : tree.WellFormed) (path : String) :
    tree.HasDirectory (tree.start path) := by
  rw [start]
  split
  · exact ⟨false, rfl⟩
  · exact h.work

/-- A walk from a directory to what is no directory is over names of which the last one names it.  One to
a link comes to a directory, and the name of the link is not made of dots. -/
theorem walks (h : tree.WellFormed) {from_ : Place} {names : List String} {arrival : Arrival}
    (hfrom : tree.HasDirectory from_)
    (hwalk : Walks tree followLast mustBeDirectory toMake from_ names arrival) :
    match arrival with
    | .spot spot => (∀ isSealed, spot.entry ≠ some (.directory isSealed)) → EndsInName names
    | .link parent _ rest => tree.HasDirectory parent ∧ (rest = [] ∨ EndsInName rest → EndsInName names) := by
  induction hwalk with
  | done from_ =>
      intro hentry
      obtain ⟨isSealed, hdirectory⟩ := hfrom
      exact absurd hdirectory (hentry isSealed)
  | current from_ rest arrival _ ih =>
      cases arrival with
      | spot spot => exact fun hentry => (ih hfrom hentry).cons _
      | link parent target rest => exact (ih hfrom).imp_right fun ends hrest => (ends hrest).cons _
  | up from_ rest arrival _ ih =>
      obtain ⟨isSealed, hdirectory⟩ := hfrom
      have hparent := h.parent _ _ hdirectory
      cases arrival with
      | spot spot => exact fun hentry => (ih hparent hentry).cons _
      | link parent target rest => exact (ih hparent).imp_right fun ends hrest => (ends hrest).cons _
  | enter from_ name rest arrival isSealed looksUp here _ ih =>
      cases arrival with
      | spot spot => exact fun hentry => (ih ⟨isSealed, here⟩ hentry).cons _
      | link parent target rest =>
          exact (ih ⟨isSealed, here⟩).imp_right fun ends hrest => (ends hrest).cons _
  | follow from_ name rest target looksUp here goesOn =>
      refine ⟨hfrom, ?_⟩
      rintro (rfl | hrest)
      · exact ⟨name, rfl, looksUp.current, looksUp.up⟩
      · exact hrest.cons _
  | missing from_ name looksUp here => exact fun _ => ⟨name, rfl, looksUp.current, looksUp.up⟩
  | link from_ name target looksUp here stops => exact fun _ => ⟨name, rfl, looksUp.current, looksUp.up⟩
  | plain from_ name entry looksUp here isPlain stops =>
      exact fun _ => ⟨name, rfl, looksUp.current, looksUp.up⟩

theorem walkLinks (h : tree.WellFormed) {links : Nat} {from_ : Place} {names : List String}
    {spot : Spot} (hfrom : tree.HasDirectory from_)
    (hwalk : tree.walkLinks followLast mustBeDirectory toMake links from_ names = .ok spot)
    (hentry : ∀ isSealed, spot.entry ≠ some (.directory isSealed)) : EndsInName names := by
  fun_induction FileTree.walkLinks tree followLast mustBeDirectory toMake links from_ names with
  | case1 => cases hwalk
  | case2 _ _ _ _ _ harrival =>
      cases hwalk
      exact h.walks hfrom (walks_of_walk harrival) hentry
  | case3 => cases hwalk
  | case4 _ _ _ parent target _ harrival _ _ _ ih =>
      obtain ⟨hparent, hends⟩ := h.walks hfrom (walks_of_walk harrival)
      have hstart : tree.HasDirectory (if Path.isAbsolute target then [] else parent) := by
        split
        · exact ⟨false, rfl⟩
        · exact hparent
      exact hends (ih hstart hwalk).of_append

/-- A path to what is no directory ends in its name. -/
theorem fileName?_of_status (h : tree.WellFormed) {path : String} {place : Place} {entry : Entry}
    (hstatus : tree.status followLast path = .ok (place, entry))
    (hentry : ∀ isSealed, entry ≠ .directory isSealed) :
    ∃ name, Path.fileName? path = some name ∧ Path.IsName name := by
  obtain ⟨-, hwalk⟩ := resolve_eq_ok_iff.1 (status_eq_ok_iff.1 hstatus)
  obtain ⟨name, hlast, hcurrent, hup⟩ := h.walkLinks (h.hasDirectory_start path) hwalk
    (fun isSealed hsome => hentry isSealed (Option.some.inj hsome))
  exact ⟨name, fileName?_of_getLast? hlast hcurrent hup⟩

/-! ## Files that can be written to -/

/-- A walk from a directory to what is neither a directory nor a link has not asked for a directory. -/
theorem mustBeDirectory_of_walks (h : tree.WellFormed) {from_ : Place} {names : List String}
    {arrival : Arrival} (hfrom : tree.HasDirectory from_)
    (hwalk : Walks tree followLast mustBeDirectory toMake from_ names arrival) {place : Place}
    {entry : Entry} (harrival : arrival = .spot ⟨place, some entry⟩) (hplain : entry.isWay = false) :
    mustBeDirectory = false := by
  induction hwalk with
  | done from_ =>
      obtain ⟨isSealed, hdirectory⟩ := hfrom
      rw [hdirectory] at harrival
      cases harrival
      cases hplain
  | current _ _ _ _ ih => exact ih hfrom harrival
  | up _ _ _ _ ih =>
      obtain ⟨isSealed, hdirectory⟩ := hfrom
      exact ih (h.parent _ _ hdirectory) harrival
  | enter _ _ _ _ isSealed _ here _ ih => exact ih ⟨isSealed, here⟩ harrival
  | follow => cases harrival
  | missing => cases harrival
  | link =>
      cases harrival
      cases hplain
  | plain _ _ _ _ _ _ stops => exact stops

/-- By names that lead to what is neither a directory nor a link, it could also be made. -/
theorem walkLinks_toMake (h : tree.WellFormed) {links : Nat} {from_ : Place} {names : List String}
    {place : Place} {entry : Entry} (hfrom : tree.HasDirectory from_)
    (hwalk : tree.walkLinks followLast mustBeDirectory toMake links from_ names = .ok ⟨place, some entry⟩)
    (hplain : entry.isWay = false) :
    mustBeDirectory = false ∧
      tree.walkLinks followLast mustBeDirectory true links from_ names = .ok ⟨place, some entry⟩ := by
  fun_induction FileTree.walkLinks tree followLast mustBeDirectory toMake links from_ names with
  | case1 => cases hwalk
  | case2 _ _ _ _ _ harrival =>
      cases hwalk
      have hwalks := walks_of_walk harrival
      have hfree := h.mustBeDirectory_of_walks hfrom hwalks rfl hplain
      exact ⟨hfree, walkLinks_of_spot (hwalks.relax (fun _ => .inr hfree) (.inl rfl))⟩
  | case3 => cases hwalk
  | case4 mustBeDirectory from_ names parent target rest harrival _ _ _ ih =>
      have hwalks := walks_of_walk harrival
      obtain ⟨hparent, -⟩ := h.walks hfrom hwalks
      have hstart : tree.HasDirectory (if Path.isAbsolute target then [] else parent) := by
        split
        · exact ⟨false, rfl⟩
        · exact hparent
      obtain ⟨hfree, hmakes⟩ := ih hstart hwalk
      have hfree' : mustBeDirectory = false := (Bool.or_eq_false_iff.1 hfree).1
      refine ⟨hfree', ?_⟩
      rw [walkLinks_of_link (hwalks.relax (fun _ => .inr hfree') (.inl rfl))]
      exact hmakes

/-- A file that a path leads to can be written to by it. -/
theorem placeToWrite_of_status (h : tree.WellFormed) {path : String} {place : Place}
    {contents : ByteArray} {modified : Int}
    (hstatus : tree.status true path = .ok (place, .file contents modified)) :
    tree.placeToWrite path = .ok place := by
  obtain ⟨htaken, hwalk⟩ := resolve_eq_ok_iff.1 (status_eq_ok_iff.1 hstatus)
  obtain ⟨-, hmakes⟩ := h.walkLinks_toMake (h.hasDirectory_start path) hwalk rfl
  exact placeToWrite_of_resolve (resolve_eq_ok_iff.2 ⟨htaken, hmakes⟩)

end WellFormed

end DeviceBus.FileTree
