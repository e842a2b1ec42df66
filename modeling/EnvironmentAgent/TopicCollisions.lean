import EnvironmentAgent.MessagingTopics

/-! # Names of different agents

Every agent derives its subjects, its retry stream and its durable consumers from its base name, and
all agents put their request consumers on one stream. -/
namespace TopicCollisions

open MessagingTopics

def dots (s : String) : ℕ := s.toList.count '.'

@[simp] theorem dots_append (s t : String) : dots (s ++ t) = dots s + dots t := by
  simp [dots]

theorem dots_base {base : String} (h : Admitted base) : dots base = 0 :=
  List.count_eq_zero.mpr h.no_dots

theorem append_left_inj {a b s : String} : a ++ s = b ++ s ↔ a = b := by
  constructor
  · intro h
    have hlist := congrArg String.toList h
    rw [String.toList_append, String.toList_append] at hlist
    exact String.toList_injective (List.append_cancel_right hlist)
  · intro h
    rw [h]

theorem append_right_inj {a b s : String} : s ++ a = s ++ b ↔ a = b := by
  constructor
  · intro h
    have hlist := congrArg String.toList h
    rw [String.toList_append, String.toList_append] at hlist
    exact String.toList_injective (List.append_cancel_left hlist)
  · intro h
    rw [h]

def subjects (t : TopicNames) : List String := [t.main, t.cancel, t.retry]
def requestConsumers (t : TopicNames) : List String :=
  [t.mainConsumer, t.cancelConsumer]

structure Separate (t u : TopicNames) : Prop where
  subjects : (subjects t).Disjoint (subjects u)
  streams : t.retryStream ≠ u.retryStream
  consumers : (requestConsumers t).Disjoint (requestConsumers u)
  own : (requestConsumers t).Nodup ∧ (requestConsumers u).Nodup

section

variable {t u : TopicNames}

structure Derived (t : TopicNames) : Prop where
  main : t.main = requestSubjectPrefix ++ t.base
  cancel : t.cancel = requestSubjectPrefix ++ t.base ++ ".cancel"
  retry : t.retry = t.base ++ ".retry"
  admitted : Admitted t.base

theorem Derived.dots_main (h : Derived t) : dots t.main = 2 := by
  rw [h.main, dots_append, dots_base h.admitted]
  decide

theorem Derived.dots_cancel (h : Derived t) : dots t.cancel = 3 := by
  rw [h.cancel, dots_append, dots_append, dots_base h.admitted]
  decide

theorem Derived.dots_retry (h : Derived t) : dots t.retry = 1 := by
  rw [h.retry, dots_append, dots_base h.admitted]
  decide

theorem subjects_disjoint (ht : Derived t) (hu : Derived u) (hne : t.base ≠ u.base) :
    (subjects t).Disjoint (subjects u) := by
  have htmain := ht.dots_main
  have htcancel := ht.dots_cancel
  have htretry := ht.dots_retry
  have humain := hu.dots_main
  have hucancel := hu.dots_cancel
  have huretry := hu.dots_retry
  intro s hs hs'
  simp only [subjects, List.mem_cons, List.not_mem_nil, or_false] at hs hs'
  rcases hs with rfl | rfl | rfl
  · rcases hs' with h | h | h
    · rw [ht.main, hu.main, append_right_inj] at h
      exact hne h
    · rw [h] at htmain
      omega
    · rw [h] at htmain
      omega
  · rcases hs' with h | h | h
    · rw [h] at htcancel
      omega
    · rw [ht.cancel, hu.cancel, append_left_inj, append_right_inj] at h
      exact hne h
    · rw [h] at htcancel
      omega
  · rcases hs' with h | h | h
    · rw [h] at htretry
      omega
    · rw [h] at htretry
      omega
    · rw [ht.retry, hu.retry, append_left_inj] at h
      exact hne h

theorem mainConsumer_eq_iff : t.mainConsumer = u.mainConsumer ↔ t.base = u.base := append_left_inj

theorem cancelConsumer_eq_iff : t.cancelConsumer = u.cancelConsumer ↔ t.base = u.base :=
  append_left_inj

theorem mainConsumer_eq_cancelConsumer :
    t.mainConsumer = u.cancelConsumer ↔ t.base = u.base ++ "-cancel" := by
  have hsuffix : u.cancelConsumer = u.base ++ "-cancel" ++ "-consumer" := by
    rw [String.append_assoc]
    rfl
  rw [hsuffix]
  exact append_left_inj

theorem requestConsumers_nodup (t : TopicNames) : (requestConsumers t).Nodup := by
  have hne : t.mainConsumer ≠ t.cancelConsumer := by
    intro h
    have hbase := congrArg (fun s => s.toList.length) (mainConsumer_eq_cancelConsumer.mp h)
    simp [String.toList_append] at hbase
  simpa [requestConsumers] using hne

theorem consumers_disjoint_iff (hne : t.base ≠ u.base) :
    (requestConsumers t).Disjoint (requestConsumers u) ↔
      t.base ≠ u.base ++ "-cancel" ∧ u.base ≠ t.base ++ "-cancel" := by
  constructor
  · intro h
    constructor
    · intro hbase
      have hsame := mainConsumer_eq_cancelConsumer.mpr hbase
      exact h (a := t.mainConsumer) (by simp [requestConsumers])
        (by simp [requestConsumers, hsame])
    · intro hbase
      have hsame := mainConsumer_eq_cancelConsumer.mpr hbase
      exact h (a := t.cancelConsumer) (by simp [requestConsumers])
        (by simp [requestConsumers, ← hsame])
  · rintro ⟨hcancel, hcancel'⟩ s hs hs'
    simp only [requestConsumers, List.mem_cons, List.not_mem_nil, or_false] at hs hs'
    rcases hs with rfl | rfl
    · rcases hs' with h | h
      · exact hne (mainConsumer_eq_iff.mp h)
      · exact hcancel (mainConsumer_eq_cancelConsumer.mp h)
    · rcases hs' with h | h
      · exact hcancel' (mainConsumer_eq_cancelConsumer.mp h.symm)
      · exact hne (cancelConsumer_eq_iff.mp h)

end

/-- Two agents with different admitted base names use no name in common exactly if neither
base name is the other one followed by `-cancel`. -/
theorem separate_iff {agent override agent' override' : String}
    (h : Admitted (deriveTopicNames agent override).base)
    (h' : Admitted (deriveTopicNames agent' override').base)
    (hne : (deriveTopicNames agent override).base ≠ (deriveTopicNames agent' override').base) :
    Separate (deriveTopicNames agent override) (deriveTopicNames agent' override') ↔
      (deriveTopicNames agent override).base ≠
          (deriveTopicNames agent' override').base ++ "-cancel" ∧
        (deriveTopicNames agent' override').base ≠
          (deriveTopicNames agent override).base ++ "-cancel" := by
  constructor
  · intro hsep
    exact (consumers_disjoint_iff hne).mp hsep.consumers
  · intro hbases
    have ht : Derived (deriveTopicNames agent override) := ⟨rfl, rfl, rfl, h⟩
    have hu : Derived (deriveTopicNames agent' override') := ⟨rfl, rfl, rfl, h'⟩
    constructor
    · exact subjects_disjoint ht hu hne
    · intro hstream
      exact hne (append_left_inj.mp hstream)
    · exact (consumers_disjoint_iff hne).mpr hbases
    · exact ⟨requestConsumers_nodup _, requestConsumers_nodup _⟩

theorem separate_iff_east_west :
    Separate (deriveTopicNames "east" "") (deriveTopicNames "agent" "west") :=
  (separate_iff (by decide) (by decide) (by decide)).mpr (by decide)

theorem agents_share_consumer :
    Admitted "east" ∧ Admitted "east-cancel" ∧
      (deriveTopicNames "east-cancel" "").mainConsumer =
        (deriveTopicNames "east" "").cancelConsumer ∧
      ¬ Separate (deriveTopicNames "east" "") (deriveTopicNames "east-cancel" "") := by
  refine ⟨by decide, by decide, by decide, ?_⟩
  intro h
  exact h.consumers (a := "east-cancel-consumer") (by decide) (by decide)

end TopicCollisions
