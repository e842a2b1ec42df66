import Mathlib.Data.List.Basic
import Mathlib.Data.List.Infix

/-! # Topic names

The subjects, streams and durable consumers derived from the agent's base name, and the two
checks a base name has to pass. A check returns the text of its error. -/
namespace MessagingTopics

def requestStreamName := "dcm-agent-requests"
def requestSubjectPrefix := "dcm.agent."

structure TopicNames where
  base : String
  main : String
  cancel : String
  retry : String
  deriving DecidableEq, Repr

def deriveTopicNames (agentName topicNameOverride : String) : TopicNames :=
  let base := if topicNameOverride ≠ "" then topicNameOverride else agentName
  let main := requestSubjectPrefix ++ base
  ⟨base, main, main ++ ".cancel", base ++ ".retry"⟩

def TopicNames.mainConsumer (t : TopicNames) : String := t.base ++ "-consumer"
def TopicNames.cancelConsumer (t : TopicNames) : String := t.base ++ "-cancel-consumer"
def TopicNames.retryStream (t : TopicNames) : String := t.base ++ "-retry"
def TopicNames.retryConsumer (t : TopicNames) : String := t.base ++ "-retry-consumer"

def hasPrefix (s pre : String) : Bool := decide (pre.toList <+: s.toList)
def hasSuffix (s suf : String) : Bool := decide (suf.toList <:+ s.toList)
def containsText (s sub : String) : Bool := decide (sub.toList <:+: s.toList)

def isTopicChar (c : Char) : Bool :=
  ('A' ≤ c && c ≤ 'Z') || ('a' ≤ c && c ≤ 'z') || ('0' ≤ c && c ≤ '9') ||
    c == '.' || c == '_' || c == '-'

def validTopicNameRe (name : String) : Bool := name ≠ "" && name.toList.all isTopicChar

def reservedBase := "dcm.agent"

def validateTopicName (name : String) : Option String :=
  if name = "" then some "topic name must not be empty"
  else if name.utf8ByteSize > 255 then some "topic name exceeds 255 characters"
  else if !validTopicNameRe name then
    some ("topic name contains invalid characters " ++
      "(allowed: alphanumeric, hyphens, dots, underscores)")
  else if hasPrefix name "." || hasSuffix name "." || containsText name ".." then
    some "topic name must not contain empty dot-separated tokens"
  else if name = reservedBase ∨ hasPrefix name requestSubjectPrefix then
    some ("topic name must not start with the reserved \"dcm.agent.\" prefix " ++
      "(it is added automatically)")
  else none

def jsMaxNameLen := 255
def longestJetStreamSuffix := "-cancel-consumer"

def validateJetStreamSafeName (name : String) : Option String :=
  if containsText name "." then
    some ("topic name must not contain dots (NATS JetStream stream/consumer names forbid dots, " ++
      "even though subject tokens allow them)")
  else if name.utf8ByteSize + longestJetStreamSuffix.utf8ByteSize > jsMaxNameLen then
    some ("topic name too long: combined with JetStream consumer/stream suffixes it must not " ++
      "exceed 255 characters (max 239)")
  else none

structure Admitted (base : String) : Prop where
  topicName : validateTopicName base = none
  jetStreamSafe : validateJetStreamSafeName base = none

instance (base : String) : Decidable (Admitted base) :=
  decidable_of_iff (validateTopicName base = none ∧ validateJetStreamSafeName base = none)
    ⟨fun h => ⟨h.1, h.2⟩, fun h => ⟨h.topicName, h.jetStreamSafe⟩⟩

theorem Admitted.no_dots {base : String} (h : Admitted base) : '.' ∉ base.toList := by
  intro hdot
  have hjs := h.jetStreamSafe
  have hsub : [('.' : Char)] <:+: base.toList := by
    obtain ⟨before, after, hsplit⟩ := List.append_of_mem hdot
    exact ⟨before, after, by simp [hsplit]⟩
  have hcontains : containsText base "." = true := decide_eq_true hsub
  unfold validateJetStreamSafeName at hjs
  rw [if_pos hcontains] at hjs
  cases hjs

end MessagingTopics
