import DeviceBus.Proofs.Receive
import DeviceBus.Proofs.Registry.Growth

/-!
# What a lookup finds, exactly

A lookup compares methods, but looks for the head anywhere in a whole topic.  A head without a slash cannot
reach over the slash of a topic, so the search comes down to two places, the head of the entry and the method
that is looked up.  Entries have a method without slashes, and not an empty one; so a message whose topic is not
cut by exactly one slash resolves to nothing.

* `Entry.Holds`: the entries that a head and a method are looked up for.
* `answersTo_iff_holds`, `find?_eq_none_iff`: the test of a lookup, and a lookup that fails.
* `exists_find?_of_added`: a pair that was registered is found.
* `handlerFor?_of_count_ne`: messages without exactly one slash in their topic.
* `lookup_criterion`: all of that for every registry that was filled by calls.
-/

namespace DeviceBus.Registry

variable {η : Type} {registry : Registry η}

/-- An entry is one that a head and a method are looked up for: it has the method, and the head occurs in its
own head, which is what its topic has before the first slash, or in the method. -/
def Entry.Holds (head method : String) (entry : Entry η) : Prop :=
  entry.method = method ∧
    (head.toList <:+: (Topic.head entry.topic).toList ∨ head.toList <:+: method.toList)

/-- Every entry comes from a call that was accepted. -/
theorem exists_of_mem_entries {additions : List (Addition η)} {entry : Entry η}
    (hmem : entry ∈ ((∅ : Registry η).addAll additions).entries) :
    ∃ addition ∈ registered additions, addition.entry = entry := by
  rw [entries_addAll] at hmem
  exact List.mem_map.1 hmem

/-- An entry that comes from a call answers exactly if it is one that is looked up for. -/
theorem answersTo_iff_holds {additions : List (Addition η)} {entry : Entry η}
    (hmem : entry ∈ ((∅ : Registry η).addAll additions).entries) {head : String}
    (hslash : '/' ∉ head.toList) (method : String) :
    entry.answersTo head method = true ↔ entry.Holds head method := by
  obtain ⟨addition, hregistered, rfl⟩ := exists_of_mem_entries hmem
  have hhead : Topic.head addition.entry.topic = addition.head :=
    Topic.head_compose addition.method (slash_not_mem_head hregistered)
  rw [answersTo_entry_iff hslash, Entry.Holds, hhead]
  rfl

/-- A lookup finds nothing exactly if no entry answers. -/
theorem find?_eq_none_iff (registry : Registry η) (head method : String) :
    registry.find? head method = none ↔
      ∀ entry ∈ registry.entries, ¬entry.answersTo head method = true := by
  rw [find?, List.findIdx?_eq_none_iff]
  exact forall₂_congr fun entry _ => Bool.eq_false_iff

/-- A lookup for which an entry answers finds one that is not behind it. -/
theorem exists_find?_le {own : Nat} {entry : Entry η} {head method : String}
    (hentry : registry.entry? own = some entry) (hanswers : entry.answersTo head method = true) :
    ∃ index ≤ own, registry.find? head method = some index := by
  obtain ⟨index, hfound⟩ := exists_find?_of_answersTo (List.mem_of_getElem? hentry) hanswers
  obtain ⟨-, hearlier⟩ := (find?_eq_some_iff registry head method index).1 hfound
  refine ⟨index, ?_, hfound⟩
  by_contra hlt
  exact hearlier own (by omega) entry hentry hanswers

/-- Where all entries have handlers, what is found has one. -/
theorem exists_handler_of_find? {head method : String} {index : Nat}
    (hfound : registry.find? head method = some index)
    (hhandlers : ∀ entry ∈ registry.entries, entry.handler.isSome = true) :
    ∃ handler, registry.handler? index = some handler := by
  have hinside := lt_size_of_find? hfound
  have hentry : registry.entry? index = some registry.entries[index] := List.getElem?_eq_getElem hinside
  obtain ⟨handler, hhandler⟩ := Option.isSome_iff_exists.1 (hhandlers _ (List.getElem_mem hinside))
  refine ⟨handler, ?_⟩
  rw [handler?, hentry, Option.bind_some, hhandler]

/-- A message whose topic does not have exactly one slash resolves to nothing: its method is empty, or it holds
a slash. -/
theorem handlerFor?_of_count_ne (additions : List (Addition η)) {message : Message}
    (hcount : message.topic.toList.count '/' ≠ 1) :
    ((∅ : Registry η).addAll additions).handlerFor? message = none := by
  have hnone : ((∅ : Registry η).addAll additions).find? message.head message.method = none := by
    rw [find?_eq_none_iff]
    intro entry hmem hanswers
    obtain ⟨addition, hregistered, rfl⟩ := exists_of_mem_entries hmem
    have hmethod : addition.method = message.method := by
      rw [Entry.answersTo, Bool.and_eq_true, decide_eq_true_iff] at hanswers
      exact hanswers.1
    have hfault : Topic.fault? addition.head addition.method = none := by
      simpa using (List.mem_filter.1 hregistered).2
    obtain ⟨⟨-, hsome⟩, -, ⟨-, hfree⟩, -⟩ := (Topic.fault?_eq_none_iff _ _).1 hfault
    rw [hmethod] at hsome hfree
    exact hcount (Topic.count_slash hsome hfree)
  rw [handlerFor?, hnone, Option.bind_none]

/-- A pair that was registered is found for ever, and not behind the entry that its call has left. -/
theorem exists_find?_of_added {before : Registry η} {addition : Addition η} {own : Nat}
    (hown : (before.add addition.head addition.method addition.handler).1 = .ok own)
    (later : List (Addition η)) :
    ∃ index ≤ own,
      (before.addAll (addition :: later)).find? addition.head addition.method = some index := by
  have hentry : entry? (before.addAll (addition :: later)) own = some addition.entry := by
    rw [addAll_cons]
    exact (grows_addAll _ later).entry_eq (entry_of_add hown)
  obtain ⟨hfault, -⟩ := (fst_add_eq_ok_iff _ _ _ _ _).1 hown
  obtain ⟨-, -, ⟨hslash, -⟩, -⟩ := (Topic.fault?_eq_none_iff _ _).1 hfault
  refine exists_find?_le hentry ((answersTo_entry_iff hslash _ _).2 ⟨rfl, .inl ?_⟩)
  exact List.infix_refl _

/-- A message for a pair without slashes is looked up by that pair. -/
theorem handlerFor?_of {head : String} (hslash : '/' ∉ head.toList) (registry : Registry η)
    (method : String) (payload : ByteArray) :
    registry.handlerFor? (.of head method payload) =
      (registry.find? head method).bind registry.handler? := by
  have hhead : (Message.of head method payload).head = head := Topic.head_compose method hslash
  have hmethod : (Message.of head method payload).method = method := Topic.method_compose method hslash
  rw [handlerFor?, hhead, hmethod]

/-- **What a lookup finds.**  Let a registry be filled by any sequence of calls.

* For every head without a slash and every method a lookup gives the least index whose entry has the method,
  such that the head occurs in the head of the entry or in the method; and it gives none if there is no such
  entry.
* So a pair that was registered, by any of the calls, is found, and not behind its own entry; and if all entries
  have handlers, a message for it never comes to nothing.
* A message whose topic has no slash, or more than one, calls nobody and changes nothing. -/
theorem lookup_criterion (additions : List (Addition η)) :
    let registry := (∅ : Registry η).addAll additions
    (∀ head method, '/' ∉ head.toList →
      (∀ index, registry.find? head method = some index ↔
        registry.IsFirst (Entry.Holds head method) index) ∧
      (registry.find? head method = none ↔
        ∀ entry ∈ registry.entries, ¬entry.Holds head method)) ∧
    (∀ before addition after own, additions = before ++ addition :: after →
      (((∅ : Registry η).addAll before).add addition.head addition.method addition.handler).1 = .ok own →
        (∃ index ≤ own, registry.find? addition.head addition.method = some index) ∧
        ((∀ entry ∈ registry.entries, entry.handler.isSome = true) → ∀ behaviour payload,
          (registry.dispatch behaviour (.of addition.head addition.method payload)).result ≠ .notFound)) ∧
    (∀ message : Message, message.topic.toList.count '/' ≠ 1 → ∀ behaviour,
      registry.dispatch behaviour message = ⟨none, .notFound, registry⟩) := by
  intro registry
  refine ⟨fun head method hslash => ⟨fun index => ?_, ?_⟩,
    fun before addition after own hsplit hown => ?_, fun message hcount behaviour => ?_⟩
  · rw [find?_eq_some_iff]
    exact isFirst_congr (fun entry hmem => answersTo_iff_holds hmem hslash method) index
  · rw [find?_eq_none_iff]
    exact forall₂_congr fun entry hmem => not_congr (answersTo_iff_holds hmem hslash method)
  · have hrun : registry = ((∅ : Registry η).addAll before).addAll (addition :: after) := by
      rw [← addAll_append, ← hsplit]
    obtain ⟨index, hle, hfound⟩ := exists_find?_of_added hown after
    rw [← hrun] at hfound
    refine ⟨⟨index, hle, hfound⟩, fun hhandlers behaviour payload => ?_⟩
    obtain ⟨hfault, -⟩ := (fst_add_eq_ok_iff _ _ _ _ _).1 hown
    obtain ⟨-, -, ⟨hslash, -⟩, -⟩ := (Topic.fault?_eq_none_iff _ _).1 hfault
    obtain ⟨handler, hhandler⟩ := exists_handler_of_find? hfound hhandlers
    have hresolved : registry.handlerFor? (.of addition.head addition.method payload) = some handler := by
      rw [handlerFor?_of hslash, hfound, Option.bind_some, hhandler]
    rw [dispatch_of_some hresolved]
    exact RoutingResult.ofVerdict_ne_notFound _
  · exact dispatch_of_none (handlerFor?_of_count_ne additions hcount) behaviour

/-- A head that occurs in an earlier one is found there. -/
example :
    ((∅ : Registry Nat).addAll [⟨"hubCam", "report", none⟩, ⟨"hub", "report", none⟩]).find? "hub" "report" =
      some 0 := by
  decide +kernel

end DeviceBus.Registry
