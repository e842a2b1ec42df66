import Mathlib.Data.Int.Notation
import Mathlib.Data.List.Basic

/-! # The audit entry of a request

The middleware of `apiserver` around a handler, which writes into a buffer through a recorder of its
status; `RequestTimeout` decides what of it reaches the client and writes the audit entry. A panic
unwinds through the deferred calls. -/
namespace RequestAudit

abbrev Bytes := List UInt8

inductive Panic where
  | abortHandler
  | value (text : String)
  deriving DecidableEq, Repr

structure Response where
  status : Option ℤ
  body : Bytes
  deriving DecidableEq, Repr

structure Buffer where
  code : ℤ
  wroteHeader : Bool
  body : Bytes
  deriving DecidableEq, Repr

structure Recorder where
  code : ℤ
  wroteHeader : Bool
  deriving DecidableEq, Repr

/-- `outcome` is the shared status, zero if none is recorded, and `audit` what `LogRequest` was
given. -/
structure World where
  response : Response
  buffer : Buffer
  recorder : Recorder
  outcome : ℤ
  audit : List ℤ
  deriving DecidableEq, Repr

abbrev M := EStateM Panic World

structure ResponseWriter where
  writeHeader : ℤ → M Unit
  write : Bytes → M Unit

abbrev Handler := ResponseWriter → M Unit

section

variable {α β : Type} {x : M α} {f : α → M β} {s s' : World} {a : α} {p : Panic}

theorem bind_ok (h : x.run s = .ok a s') : (x >>= f).run s = (f a).run s' := by
  change EStateM.bind x f s = f a s'
  have hx : x s = .ok a s' := h
  rw [EStateM.bind, hx]

theorem bind_error (h : x.run s = .error p s') : (x >>= f).run s = .error p s' := by
  change EStateM.bind x f s = .error p s'
  have hx : x s = .error p s' := h
  rw [EStateM.bind, hx]

theorem modify_bind {g : World → World} {f : Unit → M β} :
    (modify g >>= f : M β).run s = (f ()).run (g s) := rfl

theorem get_bind {f : World → M β} : (get >>= f : M β).run s = (f s).run s := rfl

theorem tryCatch_ok {g : Panic → M α} (h : x.run s = .ok a s') :
    (tryCatch x g).run s = .ok a s' := by
  change EStateM.tryCatch x g s = .ok a s'
  have hx : x s = .ok a s' := h
  rw [EStateM.tryCatch, hx]

theorem tryCatch_error {g : Panic → M α} (h : x.run s = .error p s') :
    (tryCatch x g).run s = (g p).run s' := by
  change EStateM.tryCatch x g s = g p s'
  have hx : x s = .error p s' := h
  rw [EStateM.tryCatch, hx]
  rfl

end

/-- A status outside the three-digit range is a panic, an informational one is not final. -/
def responseWriteHeader (code : ℤ) : M Unit := fun s =>
  if s.response.status.isSome then .ok () s
  else if code < 100 ∨ 999 < code then
    .error (.value ("invalid WriteHeader code " ++ toString code)) s
  else if code ≤ 199 ∧ code ≠ 101 then .ok () s
  else .ok () { s with response.status := some code }

def bodyAllowedForStatus (status : ℤ) : Bool :=
  !((100 ≤ status && status ≤ 199) || status = 204 || status = 304)

def responseWrite (b : Bytes) : M Unit := do
  responseWriteHeader 200
  modify fun s =>
    if bodyAllowedForStatus (s.response.status.getD 200) then
      { s with response.body := s.response.body ++ b }
    else s

def responseWriter : ResponseWriter := ⟨responseWriteHeader, responseWrite⟩

def bufferedWriteHeader (code : ℤ) : M Unit := modify fun s =>
  if s.buffer.wroteHeader then s
  else { s with buffer.code := code, buffer.wroteHeader := true }

def bufferedWrite (b : Bytes) : M Unit := do
  bufferedWriteHeader 200
  modify fun s => { s with buffer.body := s.buffer.body ++ b }

def bufferedWriter : ResponseWriter := ⟨bufferedWriteHeader, bufferedWrite⟩

def recordingWriteHeader (w : ResponseWriter) (code : ℤ) : M Unit := do
  if !(← get).recorder.wroteHeader then
    modify fun s => { s with recorder := ⟨code, true⟩ }
    w.writeHeader code

def recordingWrite (w : ResponseWriter) (b : Bytes) : M Unit := do
  if !(← get).recorder.wroteHeader then
    modify fun s => { s with recorder := ⟨200, true⟩ }
  w.write b

def recordingWriter (w : ResponseWriter) : ResponseWriter :=
  ⟨recordingWriteHeader w, recordingWrite w⟩

def flushTo (dst : ResponseWriter) : M Unit := do
  let buf := (← get).buffer
  if 0 < buf.code then dst.writeHeader buf.code
  dst.write buf.body

inductive ErrorType where
  | invalidArgument
  | unauthenticated
  | permissionDenied
  | notFound
  | alreadyExists
  | unprocessableEntity
  | internal
  | unavailable
  | other (text : String)
  deriving DecidableEq, Repr

structure ProblemFields where
  type : ErrorType
  status : ℤ
  title : String
  detail : String
  deriving DecidableEq, Repr

def internalTitle := "Internal Server Error"
def internalDetail := "An unexpected internal error occurred"

def mapErrorType : ErrorType → ℤ × String
  | .invalidArgument => (400, "Invalid argument")
  | .unauthenticated => (401, "Unauthenticated")
  | .permissionDenied => (403, "Permission denied")
  | .notFound => (404, "Not found")
  | .alreadyExists => (409, "Already exists")
  | .unprocessableEntity => (422, "Unprocessable entity")
  | .internal => (500, internalTitle)
  | .unavailable => (503, "Service unavailable")
  | .other _ => (500, internalTitle)

def problem (errType : ErrorType) (detail : String) : ProblemFields :=
  let errType := match errType with
    | .other _ => .internal
    | t => t
  let detail := if errType = .internal then internalDetail else detail
  ⟨errType, (mapErrorType errType).1, (mapErrorType errType).2, detail⟩

section

-- `render` is `json.Marshal`, which does not fail on these fields; `uri` is the request's
variable (render : ProblemFields → String → Bytes) (uri : String)

def writeType (w : ResponseWriter) (errType : ErrorType) (detail : String) : M Unit := do
  let p := problem errType detail
  w.writeHeader p.status
  w.write (render p uri ++ [10])

def panicRecovery (next : Handler) : Handler := fun w =>
  tryCatch (next w) fun p =>
    match p with
    | .abortHandler => throw p
    | .value text => writeType render uri w .internal text

def requestContext (next : Handler) : Handler := fun w => do
  modify fun s => { s with outcome := 0 }
  next w

def logRequest (status : ℤ) : M Unit := modify fun s => { s with audit := s.audit ++ [status] }

def detailRequestTimeout := "request timeout exceeded"

/-- What follows once the handler is done; `expired` tells whether the deadline has passed then. -/
def finish (expired : Bool) (w : ResponseWriter) : M Unit := do
  if expired then
    writeType render uri w .unavailable detailRequestTimeout
    logRequest 503
  else
    flushTo w
    let s ← get
    logRequest (if s.outcome ≠ 0 then s.outcome else s.buffer.code)

def logPanic (p : Panic) : M Unit := do
  let s ← get
  logRequest (if s.outcome ≠ 0 then s.outcome else 500)
  throw p

def requestTimeout (expired : Bool) (next : Handler) : Handler := fun w => do
  modify fun s => { s with buffer := ⟨0, false, []⟩ }
  tryCatch
    (do
      next bufferedWriter
      finish render uri expired w)
    logPanic

inductive Authentication where
  | accepted
  | rejected
  | panicked (p : Panic)
  deriving DecidableEq, Repr

def invalidTokenDetail := "invalid Bearer token"

def writeAuthError (w : ResponseWriter) : M Unit := do
  writeType render uri w .unauthenticated invalidTokenDetail
  modify fun s => { s with outcome := 401 }

def authMiddleware (authentication : Authentication) (next : Handler) : Handler := fun w =>
  match authentication with
  | .accepted => next w
  | .rejected => writeAuthError render uri w
  | .panicked p => throw p

def requestLogger (next : Handler) : Handler := fun w => do
  modify fun s => { s with recorder := ⟨200, false⟩ }
  tryCatch (next (recordingWriter w)) fun p => do
    modify fun s => { s with outcome := 500 }
    throw p
  modify fun s => { s with outcome := s.recorder.code }

inductive Write where
  | header (code : ℤ)
  | body (b : Bytes)
  deriving DecidableEq, Repr

def performWrite (w : ResponseWriter) : Write → M Unit
  | .header code => w.writeHeader code
  | .body b => w.write b

def performWrites (w : ResponseWriter) : List Write → M Unit
  | [] => pure ()
  | x :: xs => do
    performWrite w x
    performWrites w xs

/-- Whoever answers writes and then returns or panics. -/
structure Behaviour where
  authentication : Authentication
  writes : List Write
  panics : Option Panic
  expired : Bool
  deriving DecidableEq, Repr

def handler (b : Behaviour) : Handler := fun w => do
  performWrites w b.writes
  match b.panics with
  | none => pure ()
  | some p => throw p

def chain (b : Behaviour) : Handler :=
  panicRecovery render uri
    (requestContext
      (requestTimeout render uri b.expired
        (authMiddleware render uri b.authentication
          (requestLogger (handler b)))))

def newWorld : World := ⟨⟨none, []⟩, ⟨0, false, []⟩, ⟨200, false⟩, 0, []⟩

def serve (b : Behaviour) : EStateM.Result Panic World Unit :=
  (chain render uri b responseWriter).run newWorld

end

/-- `finishRequest`: without a header the status is 200. A panic that nobody recovers closes the
connection. -/
def delivered : EStateM.Result Panic World Unit → Option ℤ
  | .ok _ s => some (s.response.status.getD 200)
  | .error _ _ => none

def audited : EStateM.Result Panic World Unit → List ℤ
  | .ok _ s => s.audit
  | .error _ s => s.audit

def firstCode : List Write → Option ℤ
  | [] => none
  | .header code :: _ => some code
  | .body _ :: _ => some 200

structure Aside (s s' : World) : Prop where
  response : s'.response = s.response
  outcome : s'.outcome = s.outcome
  audit : s'.audit = s.audit

theorem Aside.refl (s : World) : Aside s s := ⟨rfl, rfl, rfl⟩

theorem Aside.trans {s s' s'' : World} (h : Aside s s') (h' : Aside s' s'') : Aside s s'' :=
  ⟨h'.response.trans h.response, h'.outcome.trans h.outcome, h'.audit.trans h.audit⟩

theorem performWrite_spec (x : Write) (s : World)
    (hstep : s.recorder.wroteHeader = s.buffer.wroteHeader) :
    ∃ s', (performWrite (recordingWriter bufferedWriter) x).run s = .ok () s' ∧ Aside s s' ∧
      s'.recorder.wroteHeader = true ∧ s'.buffer.wroteHeader = true ∧
      (s.buffer.wroteHeader = true →
        s'.recorder.code = s.recorder.code ∧ s'.buffer.code = s.buffer.code) ∧
      (s.buffer.wroteHeader = false → ∀ xs,
        firstCode (x :: xs) = some s'.recorder.code ∧ s'.buffer.code = s'.recorder.code) := by
  obtain ⟨response, ⟨code, wrote, body⟩, ⟨rcode, rwrote⟩, outcome, audit⟩ := s
  dsimp only at hstep
  subst hstep
  cases x with
  | header c =>
    cases rwrote with
    | true => exact ⟨_, rfl, ⟨rfl, rfl, rfl⟩, rfl, rfl, fun _ => ⟨rfl, rfl⟩, nofun⟩
    | false => exact ⟨_, rfl, ⟨rfl, rfl, rfl⟩, rfl, rfl, nofun, fun _ _ => ⟨rfl, rfl⟩⟩
  | body b =>
    cases rwrote with
    | true => exact ⟨_, rfl, ⟨rfl, rfl, rfl⟩, rfl, rfl, fun _ => ⟨rfl, rfl⟩, nofun⟩
    | false => exact ⟨_, rfl, ⟨rfl, rfl, rfl⟩, rfl, rfl, nofun, fun _ _ => ⟨rfl, rfl⟩⟩

theorem performWrites_later (xs : List Write) (s : World) (hr : s.recorder.wroteHeader = true)
    (hb : s.buffer.wroteHeader = true) :
    ∃ s', (performWrites (recordingWriter bufferedWriter) xs).run s = .ok () s' ∧ Aside s s' ∧
      s'.recorder.code = s.recorder.code ∧ s'.buffer.code = s.buffer.code := by
  induction xs generalizing s with
  | nil => exact ⟨s, rfl, .refl s, rfl, rfl⟩
  | cons x xs ih =>
    obtain ⟨s₁, hrun, haside, hr₁, hb₁, hkept, _⟩ := performWrite_spec x s (hr.trans hb.symm)
    obtain ⟨hrcode, hbcode⟩ := hkept hb
    obtain ⟨s₂, hrest, haside', hrcode', hbcode'⟩ := ih s₁ hr₁ hb₁
    refine ⟨s₂, ?_, haside.trans haside', hrcode'.trans hrcode, hbcode'.trans hbcode⟩
    rw [performWrites, bind_ok hrun, hrest]

theorem performWrites_spec (xs : List Write) (s : World) (hr : s.recorder = ⟨200, false⟩)
    (hb : s.buffer = ⟨0, false, []⟩) :
    ∃ s', (performWrites (recordingWriter bufferedWriter) xs).run s = .ok () s' ∧ Aside s s' ∧
      s'.recorder.code = (firstCode xs).getD 200 ∧ s'.buffer.code = (firstCode xs).getD 0 := by
  cases xs with
  | nil => exact ⟨s, rfl, .refl s, by rw [hr]; rfl, by rw [hb]; rfl⟩
  | cons x xs =>
    have hstep : s.recorder.wroteHeader = s.buffer.wroteHeader := by rw [hr, hb]
    obtain ⟨s₁, hrun, haside, hr₁, hb₁, _, hfirst⟩ := performWrite_spec x s hstep
    obtain ⟨hcode, hsame⟩ := hfirst (by rw [hb]) xs
    obtain ⟨s₂, hrest, haside', hrcode, hbcode⟩ := performWrites_later xs s₁ hr₁ hb₁
    refine ⟨s₂, ?_, haside.trans haside', ?_, ?_⟩
    · rw [performWrites, bind_ok hrun, hrest]
    · rw [hcode, hrcode]
      rfl
    · rw [hcode, hbcode, hsame]
      rfl

section

variable (render : ProblemFields → String → Bytes) (uri : String) (b : Behaviour)

def ending : Option Panic :=
  match b.authentication with
  | .accepted => b.panics
  | .rejected => none
  | .panicked p => some p

def recordedStatus : ℤ :=
  match b.authentication with
  | .accepted => if b.panics.isSome then 500 else (firstCode b.writes).getD 200
  | .rejected => 401
  | .panicked _ => 0

def bufferedCode : ℤ :=
  match b.authentication with
  | .rejected => 401
  | _ => (firstCode b.writes).getD 0

def resultOf (o : Option Panic) (s : World) : EStateM.Result Panic World Unit :=
  match o with
  | none => .ok () s
  | some p => .error p s

structure Inner (s s' : World) : Prop where
  response : s'.response = s.response
  audit : s'.audit = s.audit
  outcome : s'.outcome = recordedStatus b
  code : ending b = none → s'.buffer.code = bufferedCode b

theorem handler_run {s s' : World} {w : ResponseWriter}
    (h : (performWrites w b.writes).run s = .ok () s') :
    (handler b w).run s = resultOf b.panics s' := by
  rw [handler, bind_ok h]
  cases b.panics <;> rfl

theorem requestLogger_spec (s : World) (hb : s.buffer = ⟨0, false, []⟩)
    (hauth : b.authentication = .accepted) :
    ∃ s', (requestLogger (handler b) bufferedWriter).run s = resultOf (ending b) s' ∧
      Inner b s s' := by
  obtain ⟨s₁, hwrites, haside, hrcode, hbcode⟩ :=
    performWrites_spec b.writes { s with recorder := ⟨200, false⟩ } rfl hb
  have hhandler := handler_run b hwrites
  have hending : ending b = b.panics := by rw [ending, hauth]
  rw [requestLogger, modify_bind]
  cases hpanics : b.panics with
  | none =>
    rw [hpanics] at hhandler hending
    rw [bind_ok (tryCatch_ok hhandler), hending]
    refine ⟨{ s₁ with outcome := s₁.recorder.code }, rfl, haside.response, haside.audit, ?_,
      fun _ => ?_⟩
    · rw [recordedStatus, hauth, hpanics]
      exact hrcode
    · rw [bufferedCode, hauth]
      exact hbcode
  | some p =>
    rw [hpanics] at hhandler hending
    have hpanicked : (tryCatch (handler b (recordingWriter bufferedWriter)) fun p => do
        modify fun s => { s with outcome := 500 }
        throw p : M Unit).run { s with recorder := ⟨200, false⟩ } =
          .error p { s₁ with outcome := 500 } := tryCatch_error hhandler
    rw [bind_error hpanicked, hending]
    refine ⟨{ s₁ with outcome := 500 }, rfl, haside.response, haside.audit, ?_, fun h => ?_⟩
    · rw [recordedStatus, hauth, hpanics]
      rfl
    · rw [hending] at h
      cases h

theorem authMiddleware_spec (s : World) (hb : s.buffer = ⟨0, false, []⟩) (ho : s.outcome = 0) :
    ∃ s', (authMiddleware render uri b.authentication (requestLogger (handler b))
        bufferedWriter).run s = resultOf (ending b) s' ∧ Inner b s s' := by
  cases hauth : b.authentication with
  | accepted => exact requestLogger_spec b s hb hauth
  | rejected =>
    obtain ⟨response, buffer, recorder, outcome, audit⟩ := s
    dsimp only at hb
    subst hb
    rw [ending, hauth]
    refine ⟨⟨response,
      ⟨401, true, render (problem .unauthenticated invalidTokenDetail) uri ++ [10]⟩, recorder, 401,
      audit⟩, rfl, rfl, rfl, ?_, fun _ => ?_⟩
    · rw [recordedStatus, hauth]
    · rw [bufferedCode, hauth]
  | panicked p =>
    refine ⟨s, by rw [ending, hauth]; rfl, rfl, rfl, ?_, fun h => ?_⟩
    · rw [recordedStatus, hauth, ho]
    · rw [ending, hauth] at h
      cases h

end

variable {code : ℤ}

section

variable {s : World}

theorem responseWriteHeader_run (code : ℤ) : (responseWriteHeader code).run s =
    if s.response.status.isSome then .ok () s
    else if code < 100 ∨ 999 < code then
      .error (.value ("invalid WriteHeader code " ++ toString code)) s
    else if code ≤ 199 ∧ code ≠ 101 then .ok () s
    else .ok () { s with response.status := some code } := rfl

theorem responseWriteHeader_valid (hs : s.response.status = none) (hlo : 200 ≤ code)
    (hhi : code ≤ 999) :
    (responseWriteHeader code).run s = .ok () { s with response.status := some code } := by
  rw [responseWriteHeader_run, hs, if_neg (by simp), if_neg (by omega), if_neg (by omega)]

theorem responseWriteHeader_invalid (hs : s.response.status = none) (h : 999 < code) :
    (responseWriteHeader code).run s =
      .error (.value ("invalid WriteHeader code " ++ toString code)) s := by
  rw [responseWriteHeader_run, hs, if_neg (by simp), if_pos (Or.inr h)]

theorem responseWrite_spec (s : World) (b : Bytes) :
    ∃ s', (responseWrite b).run s = .ok () s' ∧
      s'.response.status = some (s.response.status.getD 200) ∧
      s'.outcome = s.outcome ∧ s'.audit = s.audit ∧ s'.buffer = s.buffer := by
  rw [responseWrite]
  cases hs : s.response.status with
  | none =>
    rw [bind_ok (responseWriteHeader_valid hs (by omega) (by omega))]
    exact ⟨_, rfl, rfl, rfl, rfl, rfl⟩
  | some status =>
    have hheader : (responseWriteHeader 200).run s = .ok () s := by
      rw [responseWriteHeader_run, hs]
      rfl
    rw [bind_ok hheader]
    refine ⟨_, rfl, ?_⟩
    dsimp only
    split
    · exact ⟨hs, rfl, rfl, rfl⟩
    · exact ⟨hs, rfl, rfl, rfl⟩

theorem writeType_spec (render : ProblemFields → String → Bytes) (uri : String)
    (hs : s.response.status = none) (errType : ErrorType) (detail : String) :
    ∃ s', (writeType render uri responseWriter errType detail).run s = .ok () s' ∧
      s'.response.status = some (problem errType detail).status ∧ s'.outcome = s.outcome ∧
      s'.audit = s.audit := by
  have hrange : 200 ≤ (problem errType detail).status ∧ (problem errType detail).status ≤ 999 := by
    cases errType <;> constructor <;> simp [problem, mapErrorType]
  dsimp only [writeType, responseWriter]
  rw [bind_ok (responseWriteHeader_valid hs hrange.1 hrange.2)]
  obtain ⟨s', hrun, hstatus, houtcome, haudit, _⟩ := responseWrite_spec
    { s with response.status := some (problem errType detail).status }
    (render (problem errType detail) uri ++ [10])
  exact ⟨s', hrun, hstatus, houtcome, haudit⟩

end

section

variable (render : ProblemFields → String → Bytes) (uri : String) (b : Behaviour)

variable {s : World}

theorem flushTo_spec (hs : s.response.status = none)
    (hcode : s.buffer.code = 0 ∨ 200 ≤ s.buffer.code ∧ s.buffer.code ≤ 999) :
    ∃ s', (flushTo responseWriter).run s = .ok () s' ∧
      s'.response.status = some (if s.buffer.code = 0 then 200 else s.buffer.code) ∧
      s'.outcome = s.outcome ∧ s'.audit = s.audit ∧ s'.buffer = s.buffer := by
  dsimp only [flushTo, responseWriter]
  rw [get_bind]
  rcases hcode with hzero | ⟨hlo, hhi⟩
  · rw [hzero, if_neg (by omega), if_pos rfl]
    obtain ⟨s', hrun, hstatus, hrest⟩ := responseWrite_spec s s.buffer.body
    refine ⟨s', hrun, ?_, hrest⟩
    rw [hstatus, hs]
    rfl
  · rw [if_pos (by omega), if_neg (by omega), bind_ok (responseWriteHeader_valid hs hlo hhi)]
    exact responseWrite_spec { s with response.status := some s.buffer.code } s.buffer.body

theorem flushTo_invalid (hs : s.response.status = none) (hcode : 999 < s.buffer.code) :
    (flushTo responseWriter).run s =
      .error (.value ("invalid WriteHeader code " ++ toString s.buffer.code)) s := by
  dsimp only [flushTo, responseWriter]
  rw [get_bind, if_pos (by omega), bind_error (responseWriteHeader_invalid hs hcode)]

theorem logRequest_run (status : ℤ) (s : World) :
    (logRequest status).run s = .ok () { s with audit := s.audit ++ [status] } := rfl

theorem logPanic_run (p : Panic) (s : World) : (logPanic p).run s = .error p
    { s with audit := s.audit ++ [if s.outcome ≠ 0 then s.outcome else 500] } := rfl

def timed : M Unit :=
  requestTimeout render uri b.expired
    (authMiddleware render uri b.authentication (requestLogger (handler b))) responseWriter

theorem timed_run : (timed render uri b).run newWorld =
    (tryCatch (authMiddleware render uri b.authentication (requestLogger (handler b))
      bufferedWriter >>= fun _ => finish render uri b.expired responseWriter) logPanic).run
      newWorld := rfl

theorem inner_run :
    ∃ s, (authMiddleware render uri b.authentication (requestLogger (handler b))
        bufferedWriter).run newWorld = resultOf (ending b) s ∧ Inner b newWorld s ∧
      s.response.status = none := by
  obtain ⟨s, hinner, hspec⟩ := authMiddleware_spec render uri b newWorld rfl rfl
  exact ⟨s, hinner, hspec, by rw [hspec.response]; rfl⟩

structure Ended (r : EStateM.Result Panic World Unit) (status entry : ℤ) : Prop where
  client : delivered r = some status
  log : audited r = [entry]

theorem chain_panicked {text : String} {entry : ℤ}
    (hrun : (timed render uri b).run newWorld = .error (.value text) s)
    (hs : s.response.status = none) (haudit : s.audit = [entry]) :
    Ended (serve render uri b) 500 entry := by
  obtain ⟨s', hproblem, hstatus, _, haudit'⟩ :=
    writeType_spec render uri hs .internal text
  have hserve : serve render uri b = .ok () s' := by
    have hcaught := tryCatch_error (g := fun p => match p with
      | .abortHandler => throw p
      | .value text => writeType render uri responseWriter .internal text) hrun
    exact hcaught.trans hproblem
  rw [hserve]
  constructor
  · rw [delivered, hstatus]
    rfl
  · rw [audited, haudit', haudit]

theorem chain_returned {status entry : ℤ} (hrun : (timed render uri b).run newWorld = .ok () s)
    (hs : s.response.status = some status) (haudit : s.audit = [entry]) :
    Ended (serve render uri b) status entry := by
  have hserve : serve render uri b = .ok () s := by
    have hcaught := tryCatch_ok (g := fun p => match p with
      | .abortHandler => throw p
      | .value text => writeType render uri responseWriter .internal text) hrun
    exact hcaught
  rw [hserve]
  constructor
  · rw [delivered, hs]
    rfl
  · rw [audited, haudit]

theorem serve_panicked {text : String} (h : ending b = some (.value text)) :
    Ended (serve render uri b) 500 500 := by
  obtain ⟨s, hinner, hspec, hs⟩ := inner_run render uri b
  rw [h] at hinner
  have hentry : (if s.outcome ≠ 0 then s.outcome else 500) = 500 := by
    rw [hspec.outcome, recordedStatus]
    rw [ending] at h
    cases hauth : b.authentication with
    | accepted =>
      rw [hauth] at h
      dsimp only at h
      rw [h]
      rfl
    | rejected =>
      rw [hauth] at h
      cases h
    | panicked p => rfl
  have hrun : (timed render uri b).run newWorld =
      .error (.value text) { s with audit := s.audit ++ [500] } := by
    rw [timed_run, tryCatch_error (bind_error hinner), logPanic_run, hentry]
  exact chain_panicked render uri b hrun hs (congrArg (· ++ [500]) hspec.audit)

theorem serve_expired (h : ending b = none) (hexpired : b.expired = true) :
    Ended (serve render uri b) 503 503 := by
  obtain ⟨s, hinner, hspec, hs⟩ := inner_run render uri b
  rw [h] at hinner
  obtain ⟨s', hproblem, hstatus, _, haudit⟩ :=
    writeType_spec render uri hs .unavailable detailRequestTimeout
  have hfinish : (finish render uri b.expired responseWriter).run s =
      .ok () { s' with audit := s'.audit ++ [503] } := by
    rw [finish, if_pos hexpired, bind_ok hproblem, logRequest_run]
  have hrun : (timed render uri b).run newWorld =
      .ok () { s' with audit := s'.audit ++ [503] } := by
    rw [timed_run, tryCatch_ok ((bind_ok hinner).trans hfinish)]
  exact chain_returned render uri b hrun hstatus
    (congrArg (· ++ [503]) (haudit.trans hspec.audit))

theorem serve_flushed (h : ending b = none) (hexpired : b.expired = false)
    (hcode : bufferedCode b = 0 ∨ 200 ≤ bufferedCode b ∧ bufferedCode b ≤ 999) :
    Ended (serve render uri b) (if bufferedCode b = 0 then 200 else bufferedCode b)
      (if recordedStatus b ≠ 0 then recordedStatus b else bufferedCode b) := by
  obtain ⟨s, hinner, hspec, hs⟩ := inner_run render uri b
  rw [h] at hinner
  have hbuffered := hspec.code h
  obtain ⟨s', hflush, hstatus, houtcome, haudit, hbuffer⟩ :=
    flushTo_spec hs (by rw [hbuffered]; exact hcode)
  rw [hbuffered] at hstatus
  have hfinish : (finish render uri b.expired responseWriter).run s =
      .ok () { s' with audit :=
        s'.audit ++ [if s'.outcome ≠ 0 then s'.outcome else s'.buffer.code] } := by
    rw [finish, if_neg (by rw [hexpired]; simp), bind_ok hflush, get_bind, logRequest_run]
  have hrun : (timed render uri b).run newWorld = .ok () { s' with audit :=
      s'.audit ++ [if s'.outcome ≠ 0 then s'.outcome else s'.buffer.code] } := by
    rw [timed_run, tryCatch_ok ((bind_ok hinner).trans hfinish)]
  refine chain_returned render uri b hrun hstatus ?_
  rw [haudit, hspec.audit, houtcome, hspec.outcome, hbuffer, hbuffered]
  rfl

theorem serve_unsendable (h : ending b = none) (hexpired : b.expired = false)
    (hcode : 999 < bufferedCode b) :
    Ended (serve render uri b) 500 (if recordedStatus b ≠ 0 then recordedStatus b else 500) := by
  obtain ⟨s, hinner, hspec, hs⟩ := inner_run render uri b
  rw [h] at hinner
  have hflush := flushTo_invalid hs (by rw [hspec.code h]; exact hcode)
  have hfinish : (finish render uri b.expired responseWriter).run s =
      .error (.value ("invalid WriteHeader code " ++ toString s.buffer.code)) s := by
    rw [finish, if_neg (by rw [hexpired]; simp), bind_error hflush]
  have hrun : (timed render uri b).run newWorld =
      .error (.value ("invalid WriteHeader code " ++ toString s.buffer.code))
        { s with audit := s.audit ++ [if s.outcome ≠ 0 then s.outcome else 500] } := by
    rw [timed_run, tryCatch_error ((bind_ok hinner).trans hfinish), logPanic_run]
  refine chain_panicked render uri b hrun hs ?_
  rw [hspec.audit, hspec.outcome]
  rfl

def Unsendable : Prop :=
  b.authentication = .accepted ∧ b.panics = none ∧ b.expired = false ∧
    999 < (firstCode b.writes).getD 200

theorem firstCode_ge {xs : List Write} (h : ∀ code, .header code ∈ xs → 200 ≤ code)
    (hfirst : firstCode xs = some code) : 200 ≤ code := by
  match xs with
  | [] => cases hfirst
  | .header c :: _ =>
    obtain rfl := Option.some.inj hfirst
    exact h c List.mem_cons_self
  | .body _ :: _ =>
    obtain rfl := Option.some.inj hfirst
    exact Int.le_refl 200

theorem recordedStatus_eq (hcodes : ∀ code, .header code ∈ b.writes → 200 ≤ code)
    (h : ending b = none) :
    recordedStatus b = (if bufferedCode b = 0 then 200 else bufferedCode b) ∧
      (bufferedCode b = 0 ∨ 200 ≤ bufferedCode b) := by
  rw [ending] at h
  rw [recordedStatus, bufferedCode]
  cases hauth : b.authentication with
  | accepted =>
    rw [hauth] at h
    dsimp only at h ⊢
    rw [h]
    cases hfirst : firstCode b.writes with
    | none => exact ⟨rfl, Or.inl rfl⟩
    | some code =>
      have hlo := firstCode_ge hcodes hfirst
      exact ⟨(if_neg (by dsimp only [Option.getD]; omega)).symm, Or.inr hlo⟩
  | rejected => exact ⟨rfl, Or.inr (show (200 : ℤ) ≤ 401 by decide)⟩
  | panicked p =>
    rw [hauth] at h
    cases h

theorem unsendable_iff : Unsendable b ↔
    ending b = none ∧ b.expired = false ∧ 999 < bufferedCode b := by
  rw [Unsendable, ending, bufferedCode]
  cases b.authentication with
  | accepted =>
    cases hfirst : firstCode b.writes <;> simp
  | rejected => simp
  | panicked p => simp

theorem Ended.truthful_iff {r : EStateM.Result Panic World Unit} {status entry : ℤ}
    (h : Ended r status entry) {P : Prop} (hP : status = entry ↔ P) :
    (audited r).length = 1 ∧
      ((∃ status, audited r = [status] ∧ delivered r = some status) ↔ P) := by
  rw [h.log, h.client, ← hP]
  refine ⟨rfl, ?_, ?_⟩
  · rintro ⟨x, hentry, hstatus⟩
    rw [Option.some.inj hstatus, List.singleton_inj.mp hentry]
  · rintro rfl
    exact ⟨status, rfl, rfl⟩

end

def exampleCreated : Behaviour := ⟨.accepted, [.header 201, .body [123, 125]], none, false⟩

def exampleOverlong : Behaviour := ⟨.accepted, [.header 1000], none, false⟩

end RequestAudit
