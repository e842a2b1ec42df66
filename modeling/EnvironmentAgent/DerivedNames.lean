import Mathlib.Data.String.Basic
import EnvironmentAgent.MessagingTopics

/-! # What the broker makes of the derived names

A subject is read as its tokens, the texts between the dots, and a stream takes the subjects that
its pattern matches. -/
namespace DerivedNames

open MessagingTopics

def tokens (subject : String) : List (List Char) := subject.toList.splitOn '.'

/-- `*` stands for one token and a last `>` for all that are left, at least one. -/
def matchTokens : List (List Char) → List (List Char) → Bool
  | [['>']], _ :: _ => true
  | p :: ps, t :: ts => (p == ['*'] || p == t) && matchTokens ps ts
  | [], [] => true
  | _, _ => false

def subjectMatches (pattern subject : String) : Bool :=
  matchTokens (tokens pattern) (tokens subject)

/-- Messages can be published on it: no token is empty and none is or contains a wildcard. -/
structure Literal (subject : String) : Prop where
  nonempty : ∀ token ∈ tokens subject, token ≠ []
  noWildcard : ∀ token ∈ tokens subject, '*' ∉ token ∧ '>' ∉ token

def requestSubjects := "dcm.agent.>"

theorem tokens_dot (s t : String) : tokens (s ++ "." ++ t) = tokens s ++ tokens t := by
  have hlist : (s ++ "." ++ t).toList = s.toList ++ '.' :: t.toList := by
    simp [String.toList_append]
  rw [tokens, hlist]
  exact List.splitOnP_append_cons s.toList t.toList (by simp)

theorem tokens_of_no_dots {s : String} (h : '.' ∉ s.toList) : tokens s = [s.toList] :=
  List.splitOn_eq_singleton h

theorem Literal.dot {s t : String} (hs : Literal s) (ht : Literal t) : Literal (s ++ "." ++ t) := by
  constructor
  · intro token htoken
    rw [tokens_dot, List.mem_append] at htoken
    exact htoken.elim (hs.nonempty token) (ht.nonempty token)
  · intro token htoken
    rw [tokens_dot, List.mem_append] at htoken
    exact htoken.elim (hs.noWildcard token) (ht.noWildcard token)

instance (s : String) : Decidable (Literal s) :=
  decidable_of_iff ((∀ token ∈ tokens s, token ≠ []) ∧
      ∀ token ∈ tokens s, '*' ∉ token ∧ '>' ∉ token)
    ⟨fun h => ⟨h.1, h.2⟩, fun h => ⟨h.nonempty, h.noWildcard⟩⟩

def forbiddenChars : List Char := ['>', '*', '.', '/', ' ', '\t', '\r', '\n']

theorem length_le_utf8ByteSize (s : String) : s.length ≤ s.utf8ByteSize := by
  have hchars : ∀ cs : List Char, cs.length ≤ String.utf8Len cs := by
    intro cs
    induction cs with
    | nil => exact le_rfl
    | cons c cs ih =>
      have hc := c.utf8Size_pos
      rw [String.utf8Len_cons, List.length_cons]
      omega
  have hs := hchars s.toList
  rwa [← String.utf8ByteSize_ofList, String.ofList_toList] at hs

structure JetStreamName (name : String) : Prop where
  nonempty : name ≠ ""
  bytes : name.utf8ByteSize ≤ 255
  chars : name.length ≤ 255
  free : ∀ c ∈ name.toList, c ∉ forbiddenChars

section

variable {base : String}

theorem validateTopicName_eq_none (h : validateTopicName base = none) :
    base ≠ "" ∧ ∀ c ∈ base.toList, isTopicChar c = true := by
  unfold validateTopicName at h
  split at h
  · cases h
  rename_i hne
  split at h
  · cases h
  split at h
  · cases h
  rename_i hre
  simpa [validTopicNameRe, hne] using hre

theorem validateJetStreamSafeName_eq_none (h : validateJetStreamSafeName base = none) :
    base.utf8ByteSize + longestJetStreamSuffix.utf8ByteSize ≤ 255 := by
  unfold validateJetStreamSafeName at h
  split at h
  · cases h
  split at h
  · cases h
  rename_i hlen
  exact Nat.le_of_not_lt hlen

theorem isTopicChar_free {c : Char} (h : isTopicChar c = true) (hdot : c ≠ '.') :
    c ∉ forbiddenChars := by
  intro hc
  simp only [forbiddenChars, List.mem_cons, List.not_mem_nil, or_false] at hc
  rcases hc with rfl | rfl | rfl | rfl | rfl | rfl | rfl | rfl
  all_goals first | exact hdot rfl | exact absurd h (by decide)

theorem free_of_admitted (h : Admitted base) : ∀ c ∈ base.toList, c ∉ forbiddenChars := by
  intro c hc
  refine isTopicChar_free ((validateTopicName_eq_none h.topicName).2 c hc) ?_
  rintro rfl
  exact h.no_dots hc

theorem literal_of_admitted (h : Admitted base) : Literal base := by
  have hne := (validateTopicName_eq_none h.topicName).1
  have hfree := free_of_admitted h
  constructor
  all_goals
    intro token htoken
    rw [tokens_of_no_dots h.no_dots, List.mem_singleton] at htoken
    subst htoken
  · exact fun hnil => hne (String.toList_eq_nil_iff.mp hnil)
  · exact ⟨fun hstar => hfree _ hstar (by decide), fun hgt => hfree _ hgt (by decide)⟩

theorem jetStreamName_append (h : Admitted base) {suffix : String}
    (hlen : suffix.utf8ByteSize ≤ longestJetStreamSuffix.utf8ByteSize)
    (hfree : suffix.toList.all (· ∉ forbiddenChars)) : JetStreamName (base ++ suffix) := by
  have hbytes : (base ++ suffix).utf8ByteSize ≤ 255 := by
    have hbase := validateJetStreamSafeName_eq_none h.jetStreamSafe
    rw [String.utf8ByteSize_append]
    omega
  refine ⟨?_, hbytes, ?_, ?_⟩
  · intro hempty
    exact (validateTopicName_eq_none h.topicName).1 (String.append_eq_empty_iff.mp hempty).1
  · exact le_trans (length_le_utf8ByteSize _) hbytes
  · intro c hc
    rw [String.toList_append, List.mem_append] at hc
    exact hc.elim (free_of_admitted h c)
      fun hsuffix => of_decide_eq_true (List.all_eq_true.mp hfree c hsuffix)

end

structure Sound (t : TopicNames) : Prop where
  mainConsumer : JetStreamName t.mainConsumer
  cancelConsumer : JetStreamName t.cancelConsumer
  retryStream : JetStreamName t.retryStream
  retryConsumer : JetStreamName t.retryConsumer
  main : Literal t.main
  cancel : Literal t.cancel
  retry : Literal t.retry
  mainRequested : subjectMatches requestSubjects t.main = true
  cancelRequested : subjectMatches requestSubjects t.cancel = true
  retryPrivate : subjectMatches requestSubjects t.retry = false

theorem matchTokens_stem {stem : List (List Char)} (hstem : ['*'] ∉ stem)
    (ts : List (List Char)) :
    matchTokens (stem ++ [['>']]) ts = true ↔ ∃ token rest, ts = stem ++ token :: rest := by
  induction stem generalizing ts with
  | nil =>
    cases ts with
    | nil => simp [matchTokens]
    | cons t ts => simp [matchTokens]
  | cons p stem ih =>
    obtain ⟨hp, hstem⟩ := not_or.mp (fun h => hstem (List.mem_cons.mpr h))
    cases ts with
    | nil => simp [matchTokens]
    | cons t ts =>
      have hunfold : matchTokens (p :: stem ++ [['>']]) (t :: ts) =
          ((p == ['*'] || p == t) && matchTokens (stem ++ [['>']]) ts) := by
        cases stem <;> rw [List.cons_append, matchTokens] <;> simp
      have hstar : (p == ['*']) = false := beq_false_of_ne (Ne.symm hp)
      rw [hunfold, hstar, Bool.false_or, Bool.and_eq_true, beq_iff_eq, ih hstem ts]
      constructor
      · rintro ⟨rfl, token, rest, rfl⟩
        exact ⟨token, rest, rfl⟩
      · rintro ⟨token, rest, hts⟩
        obtain ⟨rfl, rfl⟩ := List.cons.inj hts
        exact ⟨rfl, token, rest, rfl⟩

theorem requestSubjects_matches_iff {subject : String} :
    subjectMatches requestSubjects subject = true ↔
      ∃ token rest, tokens subject = "dcm".toList :: "agent".toList :: token :: rest := by
  have hpattern : tokens requestSubjects = ["dcm".toList, "agent".toList] ++ [['>']] := by decide
  rw [subjectMatches, hpattern, matchTokens_stem (by decide)]
  rfl

section

variable (agentName topicNameOverride : String)

theorem main_eq : (deriveTopicNames agentName topicNameOverride).main =
    "dcm.agent" ++ "." ++ (deriveTopicNames agentName topicNameOverride).base := rfl

theorem cancel_eq : (deriveTopicNames agentName topicNameOverride).cancel =
    (deriveTopicNames agentName topicNameOverride).main ++ "." ++ "cancel" := by
  rw [String.append_assoc]
  rfl

theorem retry_eq : (deriveTopicNames agentName topicNameOverride).retry =
    (deriveTopicNames agentName topicNameOverride).base ++ "." ++ "retry" := by
  rw [String.append_assoc]
  rfl

theorem derived_names_sound (h : Admitted (deriveTopicNames agentName topicNameOverride).base) :
    Sound (deriveTopicNames agentName topicNameOverride) := by
  have hbase := literal_of_admitted h
  have hmain : Literal (deriveTopicNames agentName topicNameOverride).main := by
    have hreserved : Literal "dcm.agent" := by decide
    exact hreserved.dot hbase
  have hmainTokens : tokens (deriveTopicNames agentName topicNameOverride).main =
      ["dcm".toList, "agent".toList,
        (deriveTopicNames agentName topicNameOverride).base.toList] := by
    rw [main_eq, tokens_dot, tokens_of_no_dots h.no_dots]
    rfl
  constructor
  case mainConsumer => exact jetStreamName_append h (by decide) (by decide)
  case cancelConsumer => exact jetStreamName_append h (by decide) (by decide)
  case retryStream => exact jetStreamName_append h (by decide) (by decide)
  case retryConsumer => exact jetStreamName_append h (by decide) (by decide)
  case main => exact hmain
  case cancel =>
    rw [cancel_eq]
    exact hmain.dot (by decide)
  case retry =>
    rw [retry_eq]
    exact hbase.dot (by decide)
  case mainRequested => exact requestSubjects_matches_iff.mpr ⟨_, [], hmainTokens⟩
  case cancelRequested =>
    rw [requestSubjects_matches_iff, cancel_eq, tokens_dot, hmainTokens]
    exact ⟨_, tokens "cancel", rfl⟩
  case retryPrivate =>
    rw [Bool.eq_false_iff]
    intro hmatches
    obtain ⟨token, rest, htokens⟩ := requestSubjects_matches_iff.mp hmatches
    -- the base is one token, so there are only two
    rw [retry_eq, tokens_dot, tokens_of_no_dots h.no_dots, tokens_of_no_dots (by decide)] at htokens
    simp at htokens

end

theorem derived_names_sound_east :
    Admitted (deriveTopicNames "agent_1" "east-2").base ∧
      Sound (deriveTopicNames "agent_1" "east-2") :=
  ⟨by decide, derived_names_sound "agent_1" "east-2" (by decide)⟩

end DerivedNames
