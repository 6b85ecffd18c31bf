import DeviceBus.Topic
import Mathlib.Data.List.TakeWhile
import Mathlib.Tactic.ByContra

/-!
# Splitting topics

A topic is cut at its first slash.  For a head without a slash the cut undoes the composition, whatever the
method holds, and it does so for every text that begins with the composed topic.

* `Topic.fault?_eq_none_iff`: the pairs that may be registered, condition by condition.
* `Topic.head_compose`, `Topic.method_compose`: cutting a composed topic gives back its parts.
* `Topic.compose_head_method`: composing the parts of a topic that has a slash gives back the topic.
* `Topic.head_eq_of_begins`: a topic that extends a composed one has the same head.
* `Topic.begins_iff`: what begins with a head and a slash has that very head.
* `Topic.count_slash`: a topic that is cut into a head and a method without slashes has one slash.
-/

namespace DeviceBus.Topic

/-- A pair may be registered exactly if both parts are there, hold neither the zero character nor a slash,
and keep to their lengths. -/
theorem fault?_eq_none_iff (head method : String) :
    fault? head method = none ↔
      (head ≠ "" ∧ method ≠ "") ∧
      ('\x00' ∉ head.toList ∧ '\x00' ∉ method.toList) ∧
      ('/' ∉ head.toList ∧ '/' ∉ method.toList) ∧
      method.utf8ByteSize ≤ methodLimit ∧
      head.utf8ByteSize + 1 + method.utf8ByteSize ≤ topicLimit := by
  unfold fault?
  constructor
  · intro hnone
    repeat' split at hnone
    all_goals cases hnone
    simp_all
  · rintro ⟨hthere, hzero, hslash, hmethod, htopic⟩
    rw [if_neg (by simp [hthere]), if_neg (by simp [hzero]), if_neg (by simp [hslash]),
      if_neg (by omega), if_neg (by omega)]

theorem toList_compose (head method : String) :
    (compose head method).toList = head.toList ++ '/' :: method.toList := by
  simp [compose]

/-- No character before the first slash is one. -/
theorem takeWhile_eq_of_slash {head rest : List Char} (h : '/' ∉ head) :
    (head ++ '/' :: rest).takeWhile (· ≠ '/') = head := by
  rw [List.takeWhile_append_of_pos]
  · simp
  · intro c hmem
    have hne : c ≠ '/' := ne_of_mem_of_not_mem hmem h
    simpa using hne

theorem dropWhile_eq_of_slash {head rest : List Char} (h : '/' ∉ head) :
    (head ++ '/' :: rest).dropWhile (· ≠ '/') = '/' :: rest := by
  rw [List.dropWhile_append_of_pos]
  · simp
  · intro c hmem
    have hne : c ≠ '/' := ne_of_mem_of_not_mem hmem h
    simpa using hne

/-- A topic that begins with a composed one has the same head. -/
theorem head_eq_of_begins {head method topic : String} (hslash : '/' ∉ head.toList)
    (hbegins : (compose head method).toList <+: topic.toList) : Topic.head topic = head := by
  obtain ⟨rest, hrest⟩ := hbegins
  rw [toList_compose, List.append_assoc, List.cons_append] at hrest
  rw [Topic.head, ← hrest, takeWhile_eq_of_slash hslash, String.ofList_toList]

theorem head_compose {head : String} (method : String) (hslash : '/' ∉ head.toList) :
    Topic.head (compose head method) = head :=
  head_eq_of_begins hslash (List.prefix_refl _)

theorem method_compose {head : String} (method : String) (hslash : '/' ∉ head.toList) :
    Topic.method (compose head method) = method := by
  rw [Topic.method, toList_compose, dropWhile_eq_of_slash hslash, List.drop_one, List.tail_cons,
    String.ofList_toList]

/-- Composed topics are the same exactly if their parts are. -/
theorem compose_inj {head head' method method' : String} (h : '/' ∉ head.toList)
    (h' : '/' ∉ head'.toList) :
    compose head method = compose head' method' ↔ head = head' ∧ method = method' := by
  constructor
  · intro heq
    constructor
    · rw [← head_compose method h, heq, head_compose method' h']
    · rw [← method_compose method h, heq, method_compose method' h']
  · rintro ⟨rfl, rfl⟩
    rfl

/-- A topic with a slash is composed of its parts. -/
theorem compose_head_method {topic : String} (hslash : '/' ∈ topic.toList) :
    compose (Topic.head topic) (Topic.method topic) = topic := by
  obtain ⟨head, method, hsplit, hfree⟩ := List.eq_append_cons_of_mem hslash
  apply String.toList_inj.1
  rw [toList_compose, Topic.head, Topic.method, String.toList_ofList, String.toList_ofList, hsplit,
    takeWhile_eq_of_slash hfree, dropWhile_eq_of_slash hfree, List.drop_one, List.tail_cons]

/-- A head holds no slash. -/
theorem slash_not_mem_head (topic : String) : '/' ∉ (Topic.head topic).toList := by
  intro hmem
  rw [Topic.head, String.toList_ofList] at hmem
  simpa using List.mem_takeWhile_imp hmem

/-- A topic without a slash has no method. -/
theorem method_of_slash_not_mem {topic : String} (h : '/' ∉ topic.toList) : Topic.method topic = "" := by
  have hnone : topic.toList.dropWhile (· ≠ '/') = [] := by
    rw [List.dropWhile_eq_nil_iff]
    intro c hmem
    have hne : c ≠ '/' := ne_of_mem_of_not_mem hmem h
    simpa using hne
  rw [Topic.method, hnone]
  rfl

/-- A text begins with a head and a slash exactly if that is its head and it has a slash. -/
theorem begins_iff {head : String} (hslash : '/' ∉ head.toList) (topic : String) :
    (head ++ "/").toList <+: topic.toList ↔ Topic.head topic = head ∧ '/' ∈ topic.toList := by
  have hcomposed : compose head "" = head ++ "/" := String.append_empty
  rw [← hcomposed]
  constructor
  · intro hbegins
    refine ⟨head_eq_of_begins hslash hbegins, hbegins.subset ?_⟩
    rw [toList_compose]
    exact List.mem_append_right _ List.mem_cons_self
  · rintro ⟨rfl, hcut⟩
    have htopic := toList_compose (Topic.head topic) (Topic.method topic)
    rw [compose_head_method hcut] at htopic
    rw [htopic, toList_compose]
    exact (List.prefix_append_right_inj _).2 (List.cons_prefix_cons.2 ⟨rfl, List.nil_prefix⟩)

/-- A topic with a method that holds no slash has exactly one. -/
theorem count_slash {topic : String} (hsome : Topic.method topic ≠ "")
    (hfree : '/' ∉ (Topic.method topic).toList) : topic.toList.count '/' = 1 := by
  have hcut : '/' ∈ topic.toList := by
    by_contra hnone
    exact hsome (method_of_slash_not_mem hnone)
  rw [← compose_head_method hcut, toList_compose, List.count_append, List.count_cons_self,
    List.count_eq_zero.2 (slash_not_mem_head topic), List.count_eq_zero.2 hfree]

end DeviceBus.Topic
