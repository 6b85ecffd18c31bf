import DeviceBus.Proofs.Topic
import DeviceBus.Registry
import Mathlib.Tactic.ByContra

/-!
# What a lookup finds

A lookup takes the first entry with the method whose whole topic contains the head.  A head without a slash
cannot reach over the slash of a topic, so it lies in the head of the entry or in its method, which is the
method that is looked up.  So there are two ways to miss an entry: the head of another entry with the same
method contains the head, or the method does.  Heads that are apart exclude the first way, not the second.

* `addAll`, `registered`: a registry that was filled by calls, and the calls that were accepted; `add_cases` is
  what one call comes to.
* `IsFirst`, `find?_eq_some_iff`: the index that a lookup gives is that of the first entry that answers.
* `answersTo_entry_iff`: an entry answers to a head and its method exactly in those two ways.
* `lookup_of_sharers_apart`: what a lookup finds where heads that share a method are apart.
-/

namespace DeviceBus.Registry

variable {η : Type}

/-! ## Registries that were filled by calls -/

/-- A call that registers a topic, or tries to. -/
structure Addition (η : Type) where
  head : String
  method : String
  handler : Option η
  deriving DecidableEq

namespace Addition

/-- The topic of an addition. -/
def topic (addition : Addition η) : String := Topic.compose addition.head addition.method

/-- The entry that an addition leaves behind. -/
def entry (addition : Addition η) : Entry η := ⟨addition.method, addition.topic, addition.handler⟩

end Addition

/-- The registry after some calls, one after the other. -/
def addAll (registry : Registry η) (additions : List (Addition η)) : Registry η :=
  additions.foldl
    (fun registry addition => (registry.add addition.head addition.method addition.handler).2) registry

theorem addAll_cons (registry : Registry η) (addition : Addition η) (additions : List (Addition η)) :
    registry.addAll (addition :: additions) =
      (registry.add addition.head addition.method addition.handler).2.addAll additions := rfl

theorem addAll_append (registry : Registry η) (first second : List (Addition η)) :
    registry.addAll (first ++ second) = (registry.addAll first).addAll second :=
  List.foldl_append

/-- The calls that are accepted. -/
def registered (additions : List (Addition η)) : List (Addition η) :=
  additions.filter fun addition => Topic.fault? addition.head addition.method = none

/-- A call is accepted exactly if its pair has no fault; then it adds its entry at the end and answers with the
size so far.  Any other call changes nothing. -/
theorem add_cases (registry : Registry η) (head method : String) (handler : Option η) :
    (Topic.fault? head method = none ∧
        registry.add head method handler = (.ok registry.size, registry.push head method handler)) ∨
      ∃ fault, Topic.fault? head method = some fault ∧
        registry.add head method handler = (.error (.invalidTopic (fault.reason head method)), registry) := by
  unfold add Topic.validate
  cases hfault : Topic.fault? head method with
  | none => exact .inl ⟨rfl, rfl⟩
  | some fault => exact .inr ⟨fault, rfl, rfl⟩

/-- A call that is accepted adds its entry at the end, and any other one adds nothing. -/
theorem entries_add (registry : Registry η) (addition : Addition η) :
    (registry.add addition.head addition.method addition.handler).2.entries =
      registry.entries ++ (registered [addition]).map Addition.entry := by
  obtain ⟨hfault, hadd⟩ | ⟨fault, hfault, hadd⟩ :=
    registry.add_cases addition.head addition.method addition.handler
  · simp [hadd, registered, hfault, push, Addition.entry, Addition.topic]
  · simp [hadd, registered, hfault]

/-- The entries are those of the accepted calls, in their order. -/
theorem entries_addAll (registry : Registry η) (additions : List (Addition η)) :
    (registry.addAll additions).entries =
      registry.entries ++ (registered additions).map Addition.entry := by
  induction additions generalizing registry with
  | nil => simp [addAll, registered]
  | cons addition additions ih =>
      have hsplit : registered (addition :: additions) =
          registered [addition] ++ registered additions := List.filter_append [addition] additions
      rw [addAll_cons, ih, entries_add, hsplit, List.map_append, List.append_assoc]

theorem slash_not_mem_head {additions : List (Addition η)} {addition : Addition η}
    (h : addition ∈ registered additions) : '/' ∉ addition.head.toList := by
  have hfault : Topic.fault? addition.head addition.method = none := by
    simpa using (List.mem_filter.1 h).2
  obtain ⟨-, -, ⟨hslash, -⟩, -⟩ := (Topic.fault?_eq_none_iff _ _).1 hfault
  exact hslash

/-! ## The first entry -/

/-- The entry at an index is the first one with a property. -/
def IsFirst (registry : Registry η) (property : Entry η → Prop) (index : Nat) : Prop :=
  (∃ entry, registry.entry? index = some entry ∧ property entry) ∧
    ∀ earlier < index, ∀ entry, registry.entry? earlier = some entry → ¬property entry

/-- Only what the property says of the entries counts. -/
theorem isFirst_congr {registry : Registry η} {property property' : Entry η → Prop}
    (h : ∀ entry ∈ registry.entries, (property entry ↔ property' entry)) (index : Nat) :
    registry.IsFirst property index ↔ registry.IsFirst property' index := by
  have hat : ∀ {position : Nat} {entry : Entry η}, registry.entry? position = some entry →
      (property entry ↔ property' entry) := fun hentry => h _ (List.mem_of_getElem? hentry)
  refine and_congr (exists_congr fun entry => and_congr_right fun hentry => hat hentry) ?_
  exact forall₂_congr fun earlier _ => forall₂_congr fun entry hentry => not_congr (hat hentry)

/-- A lookup gives the index of the first entry that answers. -/
theorem find?_eq_some_iff (registry : Registry η) (head method : String) (index : Nat) :
    registry.find? head method = some index ↔
      registry.IsFirst (fun entry => entry.answersTo head method = true) index := by
  rw [find?, List.findIdx?_eq_some_iff_getElem, IsFirst]
  constructor
  · rintro ⟨hinside, hanswers, hearlier⟩
    refine ⟨⟨_, List.getElem?_eq_getElem hinside, hanswers⟩, fun earlier hlt entry hentry => ?_⟩
    have hsame : registry.entries[earlier] = entry :=
      Option.some.inj ((List.getElem?_eq_getElem (by omega)).symm.trans hentry)
    exact hsame ▸ hearlier earlier hlt
  · rintro ⟨⟨entry, hentry, hanswers⟩, hearlier⟩
    obtain ⟨hinside, hsame⟩ := List.getElem?_eq_some_iff.1 hentry
    refine ⟨hinside, hsame ▸ hanswers, fun earlier hlt => ?_⟩
    exact hearlier earlier hlt _ (List.getElem?_eq_getElem (by omega))

/-- An entry that answers is found, or one before it. -/
theorem exists_find?_of_answersTo {registry : Registry η} {head method : String} {entry : Entry η}
    (hmem : entry ∈ registry.entries) (hanswers : entry.answersTo head method = true) :
    ∃ index, registry.find? head method = some index := by
  rw [← Option.isSome_iff_exists, find?, List.findIdx?_isSome, List.any_eq_true]
  exact ⟨entry, hmem, hanswers⟩

/-! ## Which entries answer -/

/-- A text without slashes lies on one side of a slash. -/
theorem isInfix_append_slash_iff {part left right : List Char} (h : '/' ∉ part) :
    part <:+: left ++ '/' :: right ↔ part <:+: left ∨ part <:+: right := by
  constructor
  · intro hpart
    rcases List.infix_append_iff.1 hpart with hleft | hright | ⟨front, back, rfl, hfront, hback⟩
    · exact .inl hleft
    · rcases List.infix_cons_iff.1 hright with hbegins | hinside
      · -- a beginning of what follows the left side is empty, or holds the slash
        rcases List.prefix_cons_iff.1 hbegins with rfl | ⟨rest, rfl, -⟩
        · exact .inr List.nil_infix
        · exact absurd List.mem_cons_self h
      · exact .inr hinside
    · rcases List.prefix_cons_iff.1 hback with rfl | ⟨rest, rfl, -⟩
      · rw [List.append_nil]
        exact .inl hfront.isInfix
      · exact absurd (List.mem_append_right front List.mem_cons_self) h
  · rintro (hleft | hright)
    · exact hleft.trans (List.prefix_append left _).isInfix
    · exact hright.trans (List.suffix_append_of_suffix (List.suffix_cons '/' right)).isInfix

/-- An entry answers to a head and a method exactly if it has the method, and the head occurs in its own head
or in the method. -/
theorem answersTo_entry_iff {head : String} (hslash : '/' ∉ head.toList) (method : String)
    (addition : Addition η) :
    addition.entry.answersTo head method = true ↔
      addition.method = method ∧
        (head.toList <:+: addition.head.toList ∨ head.toList <:+: method.toList) := by
  rw [Entry.answersTo, Bool.and_eq_true, decide_eq_true_iff, occursIn_iff_isInfix]
  refine and_congr_right fun hmethod => ?_
  show head.toList <:+: (Topic.compose addition.head addition.method).toList ↔ _
  have hmethod : addition.method = method := hmethod
  rw [Topic.toList_compose, isInfix_append_slash_iff hslash, hmethod]

/-! ## Heads that are apart -/

/-- No two different heads that share a method are such that one occurs in the other. -/
def SharersApart (additions : List (Addition η)) : Prop :=
  ∀ first ∈ additions, ∀ second ∈ additions, first.method = second.method →
    first.head ≠ second.head → ¬first.head.toList <:+: second.head.toList

/-- **What a lookup finds where heads are apart.**  Let a registry be filled by any calls, and let no two
different heads that share a method occur in one another.  Then for every registered pair of head and method
a lookup finds an entry:

* the first one with that very topic, if the head does not occur in the method;
* the first one with that method, whatever its head is, if it does. -/
theorem lookup_of_sharers_apart (additions : List (Addition η))
    (happart : SharersApart (registered additions)) (addition : Addition η)
    (hregistered : addition ∈ registered additions) :
    let registry := (∅ : Registry η).addAll additions
    ∃ index, registry.find? addition.head addition.method = some index ∧
      (¬addition.head.toList <:+: addition.method.toList →
        registry.IsFirst (fun entry => entry.topic = addition.topic) index) ∧
      (addition.head.toList <:+: addition.method.toList →
        registry.IsFirst (fun entry => entry.method = addition.method) index) := by
  intro registry
  have hentries : registry.entries = (registered additions).map Addition.entry :=
    entries_addAll ∅ additions
  have hslash := slash_not_mem_head hregistered
  have hanswers := answersTo_entry_iff (η := η) hslash addition.method
  obtain ⟨index, hfound⟩ : ∃ index, registry.find? addition.head addition.method = some index := by
    have hmem : addition.entry ∈ registry.entries := by
      rw [hentries]
      exact List.mem_map_of_mem hregistered
    exact exists_find?_of_answersTo hmem ((hanswers addition).2 ⟨rfl, .inl (List.infix_refl _)⟩)
  have hfirst := (find?_eq_some_iff registry _ _ index).1 hfound
  refine ⟨index, hfound, fun houtside => ?_, fun hinside => ?_⟩
  · refine (isFirst_congr (fun entry hentry => ?_) index).1 hfirst
    rw [hentries] at hentry
    obtain ⟨other, hother, rfl⟩ := List.mem_map.1 hentry
    have hotherSlash := slash_not_mem_head hother
    rw [hanswers]
    constructor
    · rintro ⟨hmethod, hhead | hinside⟩
      · -- an entry with the method whose head contains the head has that very head
        have hsame : addition.head = other.head := by
          by_contra hne
          exact happart _ hregistered _ hother hmethod.symm hne hhead
        exact (Topic.compose_inj hotherSlash hslash).2 ⟨hsame.symm, hmethod⟩
      · exact absurd hinside houtside
    · intro htopic
      obtain ⟨hhead, hmethod⟩ := (Topic.compose_inj hotherSlash hslash).1 htopic
      exact ⟨hmethod, .inl (hhead ▸ List.infix_refl _)⟩
  · refine (isFirst_congr (fun entry hentry => ?_) index).1 hfirst
    rw [hentries] at hentry
    obtain ⟨other, -, rfl⟩ := List.mem_map.1 hentry
    rw [hanswers]
    exact ⟨fun hmethod => hmethod.1, fun hmethod => ⟨hmethod, .inr hinside⟩⟩

/-- Three topics that share a method, and one that is refused. -/
def reports : List (Addition Nat) :=
  [⟨"cam", "report", some 1⟩, ⟨"hub", "", none⟩, ⟨"hub", "report", some 2⟩, ⟨"report", "report", none⟩]

/-- The heads of the three topics are apart.  One is found by its topic, and another one, whose head occurs in
the method, is not. -/
theorem lookup_of_sharers_apart_reports :
    let registry := (∅ : Registry Nat).addAll reports
    (registry.find? "hub" "report" = some 1 ∧
        registry.IsFirst (fun entry => entry.topic = "hub/report") 1) ∧
      registry.find? "report" "report" = some 0 ∧
        registry.IsFirst (fun entry => entry.method = "report") 0 := by
  intro registry
  have happart : SharersApart (registered reports) := by
    unfold SharersApart
    decide +kernel
  have hhub : registry.find? "hub" "report" = some 1 := by decide +kernel
  have hreport : registry.find? "report" "report" = some 0 := by decide +kernel
  obtain ⟨hub, hfoundHub, houtside, -⟩ :=
    lookup_of_sharers_apart reports happart ⟨"hub", "report", some 2⟩ (by decide +kernel)
  obtain ⟨report, hfoundReport, -, hinside⟩ :=
    lookup_of_sharers_apart reports happart ⟨"report", "report", none⟩ (by decide +kernel)
  obtain rfl := Option.some.inj (hhub.symm.trans hfoundHub)
  obtain rfl := Option.some.inj (hreport.symm.trans hfoundReport)
  exact ⟨⟨hhub, houtside (by decide +kernel)⟩, hreport, hinside (List.infix_refl _)⟩

/-- Heads that are apart are not enough: where a head occurs in the method, the entry of another topic with
that method is found. -/
theorem not_topic_found_where_apart :
    ¬∀ additions : List (Addition Nat),
      (registered additions).Pairwise (fun first second => first.method = second.method →
        ¬first.head.toList <:+: second.head.toList ∧ ¬second.head.toList <:+: first.head.toList) →
      ∀ addition ∈ registered additions, ∃ index entry,
        ((∅ : Registry Nat).addAll additions).find? addition.head addition.method = some index ∧
          Registry.entry? ((∅ : Registry Nat).addAll additions) index = some entry ∧
            entry.topic = addition.topic := by
  intro h
  obtain ⟨index, entry, hfound, hentry, htopic⟩ :=
    h [⟨"cam", "report", none⟩, ⟨"report", "report", none⟩] (by decide +kernel)
      ⟨"report", "report", none⟩ (by decide +kernel)
  have hfirst : ((∅ : Registry Nat).addAll
      [⟨"cam", "report", none⟩, ⟨"report", "report", none⟩]).find? "report" "report" = some 0 := by
    decide +kernel
  obtain rfl := Option.some.inj (hfirst.symm.trans hfound)
  obtain rfl := Option.some.inj hentry
  exact absurd htopic (by decide +kernel)

end DeviceBus.Registry
