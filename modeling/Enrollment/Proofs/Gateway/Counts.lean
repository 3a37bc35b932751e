import Enrollment.Proofs.Gateway.Handling
import Enrollment.Proofs.Gateway.Runs

/-!
# What is counted of requests

Every reply is counted once, by the class of its status, however far its request came. A request
that is turned back or cut off is counted as such besides, and a request that gets no answer is not
counted at all. So the counts are those of the replies, each a word that wraps.
-/

namespace Enrollment.Gateway

/-- The classes that replies are counted by. -/
inductive StatusClass where
  | success
  | clientError
  | serverError
  deriving Repr, DecidableEq

/-- The class of a status. What says that nobody is at fault counts as a success. -/
def StatusClass.of (status : UInt16) : StatusClass :=
  if Http.isServerError status then .serverError
  else if Http.isClientError status then .clientError
  else .success

namespace Course

def isTurnedBack : Course → Bool
  | .turnedBack _ _ => true
  | _ => false

def isCutOff : Course → Bool
  | .cutOff => true
  | _ => false

end Course

namespace Metrics

/-- The count of a class. -/
def ofClass (m : Metrics) : StatusClass → UInt64
  | .success => m.success
  | .clientError => m.clientError
  | .serverError => m.serverError

/-- Counts how far a request came that is not served. -/
def note (m : Metrics) : Course → Metrics
  | .turnedBack _ _ => m.countRateLimited
  | .cutOff => m.countTimeout
  | _ => m

/-- Every reply is in one of the classes. -/
def AddsUp (m : Metrics) : Prop :=
  m.total = m.success + m.clientError + m.serverError

section Counting

variable (m : Metrics) (course : Course) (status : UInt16) (latencyMillis : UInt64)

@[simp] theorem total_note : (m.note course).total = m.total := by
  cases course <;> rfl

@[simp] theorem ofClass_note (k : StatusClass) : (m.note course).ofClass k = m.ofClass k := by
  cases course <;> cases k <;> rfl

@[simp] theorem rateLimited_note : (m.note course).rateLimited =
    m.rateLimited + if course.isTurnedBack then 1 else 0 := by
  cases course <;> simp [note, countRateLimited, countTimeout, Course.isTurnedBack]

@[simp] theorem timeouts_note : (m.note course).timeouts =
    m.timeouts + if course.isCutOff then 1 else 0 := by
  cases course <;> simp [note, countRateLimited, countTimeout, Course.isCutOff]

@[simp] theorem total_record : (m.record status latencyMillis).total = m.total + 1 := by
  unfold record
  split_ifs <;> rfl

@[simp] theorem ofClass_record (k : StatusClass) : (m.record status latencyMillis).ofClass k =
    m.ofClass k + if StatusClass.of status = k then 1 else 0 := by
  unfold record StatusClass.of
  split_ifs <;> cases k <;> simp_all [ofClass]

@[simp] theorem rateLimited_record :
    (m.record status latencyMillis).rateLimited = m.rateLimited := by
  unfold record
  split_ifs <;> rfl

@[simp] theorem timeouts_record : (m.record status latencyMillis).timeouts = m.timeouts := by
  unfold record
  split_ifs <;> rfl

variable {m}

theorem AddsUp.note (h : m.AddsUp) : (m.note course).AddsUp := by
  cases course <;> exact h

theorem AddsUp.record (h : m.AddsUp) : (m.record status latencyMillis).AddsUp := by
  unfold AddsUp at *
  unfold Metrics.record
  split_ifs <;> grind

end Counting

end Metrics

section Handling

variable {g : Gateway} {reading : Reading} {found : Circumstances} {r : Http.Request}

/-- A reply is recorded by its status, after how far its request came is noted. Without a reply
nothing is counted. -/
theorem metrics_handle (g : Gateway) (reading : Reading) (found : Circumstances)
    (r : Http.Request) : (g.handle reading found r).2.metrics =
      match (g.handle reading found r).1 with
      | .ok reply => (g.metrics.note (g.course found.now r)).record reply.response.status
          found.latencyMillis
      | .error _ => g.metrics := by
  cases hcourse : g.course found.now r with
  | unchecked e =>
      rw [handle_of_unchecked hcourse]
      rfl
  | turnedBack wait limited =>
      rw [handle_of_turnedBack hcourse]
      simp only [turnBack, status_finish]
      rfl
  | cutOff =>
      rw [handle_of_cutOff hcourse]
      simp only [status_finish]
      rfl
  | served =>
      rw [handle_of_served hcourse]
      cases hanswer : (g.dispatched reading found r).answer with
      | error e => simp only [hanswer, Except.map, counted]
      | ok response =>
          simp only [hanswer, Except.map, counted, status_finish]
          rfl

/-- Whoever is turned back or cut off gets a reply, of the class that says who is at fault. -/
theorem exists_reply_of_isTurnedBack (reading : Reading)
    (h : (g.course found.now r).isTurnedBack = true) :
    ∃ reply, (g.handle reading found r).1 = .ok reply ∧
      StatusClass.of reply.response.status = .clientError := by
  cases hcourse : g.course found.now r with
  | turnedBack wait limited =>
      rw [handle_of_turnedBack hcourse]
      exact ⟨_, rfl, congrArg StatusClass.of (status_finish r _)⟩
  | _ => rw [hcourse] at h; cases h

theorem exists_reply_of_isCutOff (reading : Reading)
    (h : (g.course found.now r).isCutOff = true) :
    ∃ reply, (g.handle reading found r).1 = .ok reply ∧
      StatusClass.of reply.response.status = .serverError := by
  cases hcourse : g.course found.now r with
  | cutOff =>
      rw [handle_of_cutOff hcourse]
      exact ⟨_, rfl, congrArg StatusClass.of (status_finish r _)⟩
  | _ => rw [hcourse] at h; cases h

end Handling

namespace Session

/-! ## What an event is counted as -/

/-- The reply of an event. -/
def reply? (e : Occurrence) : Option Reply :=
  match e.answer with
  | .ok (.reply reply) => some reply
  | _ => none

/-- How far the request of an event came. -/
def course? (e : Occurrence) : Option Course :=
  match e.action with
  | .request found r => some (e.before.gateway.course found.now r)
  | _ => none

def isReplied (e : Occurrence) : Bool :=
  (reply? e).isSome

/-- Whether an event has a reply of a class. -/
def isRepliedAs (k : StatusClass) (e : Occurrence) : Bool :=
  (reply? e).any fun reply => StatusClass.of reply.response.status = k

def isTurnedBack (e : Occurrence) : Bool :=
  (course? e).any Course.isTurnedBack

def isCutOff (e : Occurrence) : Bool :=
  (course? e).any Course.isCutOff

/-- What an event adds to the counts. -/
structure Adds (m m' : Metrics) (e : Occurrence) : Prop where
  total_eq : m'.total = m.total + if isReplied e then 1 else 0
  ofClass_eq : ∀ k, m'.ofClass k = m.ofClass k + if isRepliedAs k e then 1 else 0
  rateLimited_eq : m'.rateLimited = m.rateLimited + if isTurnedBack e then 1 else 0
  timeouts_eq : m'.timeouts = m.timeouts + if isCutOff e then 1 else 0

variable {s : Session} {found : Circumstances} {r : Http.Request} {action : Action}

theorem isTurnedBack_request : isTurnedBack (eventOf step s (.request found r)) =
    (s.gateway.course found.now r).isTurnedBack := rfl

theorem isCutOff_request : isCutOff (eventOf step s (.request found r)) =
    (s.gateway.course found.now r).isCutOff := rfl

theorem reply?_of_answered {reply : Reply}
    (hreply : (s.gateway.handle s.clock.read found r).1 = .ok reply) :
    reply? (eventOf step s (.request found r)) = some reply := by
  simp only [reply?, eventOf, step_request, hreply, Except.map]

theorem reply?_of_unanswered {e : TimeOverflow}
    (hnone : (s.gateway.handle s.clock.read found r).1 = .error e) :
    reply? (eventOf step s (.request found r)) = none := by
  simp only [reply?, eventOf, step_request, hnone, Except.map]

theorem isRepliedAs_of_isTurnedBack (h : isTurnedBack (eventOf step s action) = true) :
    isRepliedAs .clientError (eventOf step s action) = true := by
  cases action with
  | request found r =>
      obtain ⟨reply, hreply, hclass⟩ := exists_reply_of_isTurnedBack
        (g := s.gateway) s.clock.read h
      rw [isRepliedAs, reply?_of_answered hreply]
      exact decide_eq_true hclass
  | _ => cases h

theorem isRepliedAs_of_isCutOff (h : isCutOff (eventOf step s action) = true) :
    isRepliedAs .serverError (eventOf step s action) = true := by
  cases action with
  | request found r =>
      obtain ⟨reply, hreply, hclass⟩ := exists_reply_of_isCutOff
        (g := s.gateway) s.clock.read h
      rw [isRepliedAs, reply?_of_answered hreply]
      exact decide_eq_true hclass
  | _ => cases h

/-- What has no reply is neither turned back nor cut off, and is not counted. -/
theorem adds_of_unreplied {m : Metrics} (hreply : reply? (eventOf step s action) = none) :
    Adds m m (eventOf step s action) := by
  have hclass (k : StatusClass) : isRepliedAs k (eventOf step s action) = false := by
    rw [isRepliedAs, hreply]
    rfl
  have hturned : isTurnedBack (eventOf step s action) = false :=
    Bool.eq_false_iff.mpr fun h => by simpa [hclass] using isRepliedAs_of_isTurnedBack h
  have hcut : isCutOff (eventOf step s action) = false :=
    Bool.eq_false_iff.mpr fun h => by simpa [hclass] using isRepliedAs_of_isCutOff h
  constructor <;> simp [isReplied, hreply, hclass, hturned, hcut]

theorem adds_step (s : Session) (action : Action) :
    Adds s.gateway.metrics (s.step action).2.gateway.metrics (eventOf step s action) := by
  cases action with
  | request found r =>
      have hmetrics := metrics_handle s.gateway s.clock.read found r
      change Adds _ (s.gateway.handle s.clock.read found r).2.metrics _
      cases hresult : (s.gateway.handle s.clock.read found r).1 with
      | error e =>
          rw [hresult] at hmetrics
          rw [hmetrics]
          exact adds_of_unreplied (reply?_of_unanswered hresult)
      | ok reply =>
          rw [hresult] at hmetrics
          rw [hmetrics]
          have hreply := reply?_of_answered hresult
          refine ⟨by simp [isReplied, hreply], fun k => by simp [isRepliedAs, hreply], ?_, ?_⟩
          · rw [isTurnedBack_request, Metrics.rateLimited_record, Metrics.rateLimited_note]
          · rw [isCutOff_request, Metrics.timeouts_record, Metrics.timeouts_note]
  | sweep =>
      have hmetrics : (s.step .sweep).2.gateway.metrics = s.gateway.metrics := by
        simp only [step, sweep]
        split <;> rfl
      have hreply : reply? (eventOf step s .sweep) = none := by
        simp only [reply?, eventOf, step]
        cases (s.gateway.sweep s.clock.read).1 <;> rfl
      rw [hmetrics]
      exact adds_of_unreplied hreply
  | advance span =>
      have hreply : reply? (eventOf step s (.advance span)) = none := by
        simp only [reply?, eventOf, step]
        cases (s.clock.advance span).1 <;> rfl
      exact adds_of_unreplied hreply

/-! ## Runs -/

/-- A count that each event adds to once or not at all counts the events of a run that do. -/
theorem count_outcome (count : Metrics → UInt64) {isCounted : Occurrence → Bool}
    (hstep : ∀ s action, count (s.step action).2.gateway.metrics =
      count s.gateway.metrics + if isCounted (eventOf step s action) then 1 else 0)
    (s : Session) (actions : List Action) : count (outcome step s actions).gateway.metrics =
      count s.gateway.metrics + UInt64.ofNat ((events step s actions).countP isCounted) := by
  induction actions generalizing s with
  | nil => simp
  | cons action rest ih =>
      -- The first event may add one, and the rest of the run what the induction says.
      rw [outcome_cons, ih, hstep, events_cons, List.countP_cons]
      split
      · rw [UInt64.ofNat_add]
        grind
      · simp

theorem count_of_fresh (count : Metrics → UInt64) {isCounted : Occurrence → Bool}
    (hstep : ∀ s action, count (s.step action).2.gateway.metrics =
      count s.gateway.metrics + if isCounted (eventOf step s action) then 1 else 0)
    (hfresh : count s.gateway.metrics = 0) (actions : List Action) :
    count (outcome step s actions).gateway.metrics =
      UInt64.ofNat ((events step s actions).countP isCounted) := by
  rw [count_outcome count hstep, hfresh, UInt64.zero_add]

theorem addsUp_outcome (h : s.gateway.metrics.AddsUp) (actions : List Action) :
    (outcome step s actions).gateway.metrics.AddsUp := by
  refine outcome_induction (motive := fun s : Session => s.gateway.metrics.AddsUp) ?_ h actions
  intro s action h
  cases action with
  | request found r =>
      have hmetrics := metrics_handle s.gateway s.clock.read found r
      change (s.gateway.handle s.clock.read found r).2.metrics.AddsUp
      rw [hmetrics]
      split
      · exact (h.note _).record _ _
      · exact h
  | sweep =>
      simp only [step, sweep]
      split <;> exact h
  | advance span => exact h

theorem exists_of_mem_events {actions : List Action} {e : Occurrence}
    (he : e ∈ events step s actions) : ∃ s action, e = eventOf step s action := by
  obtain ⟨past, future, hsplit⟩ := List.append_of_mem he
  obtain ⟨first, action, -, -, -, hevent, -⟩ := exists_split_of_events hsplit
  exact ⟨_, action, hevent⟩

theorem countP_le_countP {p q : Occurrence → Bool}
    (himp : ∀ s action, p (eventOf step s action) = true → q (eventOf step s action) = true)
    (s : Session) (actions : List Action) :
    (events step s actions).countP p ≤ (events step s actions).countP q := by
  refine List.countP_mono_left fun e he => ?_
  obtain ⟨s, action, rfl⟩ := exists_of_mem_events he
  exact himp s action

/-- A word for no more than another number, which fits. -/
theorem ofNat_le_ofNat {m n : Nat} (hle : m ≤ n) (hfits : n < UInt64.size) :
    UInt64.ofNat m ≤ UInt64.ofNat n := by
  rw [UInt64.le_iff_toNat_le, UInt64.toNat_ofNat_of_lt' hfits,
    UInt64.toNat_ofNat_of_lt' (Nat.lt_of_le_of_lt hle hfits)]
  exact hle

/-- Of whatever happens to a gateway that starts with nothing counted, exactly the replies are
counted: each by the class of its status, so that the classes add up to the total, and those to
requests that are turned back or cut off as such besides. Every count is that number as a word. So
as long as no count of a class wraps, no more requests count as turned back than as errors of the
client, and no more as cut off than as errors of the server. -/
theorem requests_counted (hfresh : s.gateway.metrics = {}) (actions : List Action) :
    let trail := events step s actions
    let m := (outcome step s actions).gateway.metrics
    (∀ e ∈ trail, Adds e.before.gateway.metrics e.after.gateway.metrics e) ∧
      m.total = UInt64.ofNat (trail.countP isReplied) ∧
      m.total = m.success + m.clientError + m.serverError ∧
      (∀ k, m.ofClass k = UInt64.ofNat (trail.countP (isRepliedAs k))) ∧
      m.rateLimited = UInt64.ofNat (trail.countP isTurnedBack) ∧
      m.timeouts = UInt64.ofNat (trail.countP isCutOff) ∧
      (trail.countP (isRepliedAs .clientError) < UInt64.size → m.rateLimited ≤ m.clientError) ∧
      (trail.countP (isRepliedAs .serverError) < UInt64.size → m.timeouts ≤ m.serverError) := by
  intro trail m
  have hclass (k : StatusClass) : m.ofClass k = UInt64.ofNat (trail.countP (isRepliedAs k)) :=
    count_of_fresh (·.ofClass k) (fun s action => (adds_step s action).ofClass_eq k)
      (by rw [hfresh]; cases k <;> rfl) actions
  have hturned : m.rateLimited = UInt64.ofNat (trail.countP isTurnedBack) :=
    count_of_fresh (·.rateLimited) (fun s action => (adds_step s action).rateLimited_eq)
      (by rw [hfresh]) actions
  have hcut : m.timeouts = UInt64.ofNat (trail.countP isCutOff) :=
    count_of_fresh (·.timeouts) (fun s action => (adds_step s action).timeouts_eq)
      (by rw [hfresh]) actions
  have htotal : m.total = UInt64.ofNat (trail.countP isReplied) :=
    count_of_fresh (·.total) (fun s action => (adds_step s action).total_eq)
      (by rw [hfresh]) actions
  have hadds : ∀ e ∈ trail, Adds e.before.gateway.metrics e.after.gateway.metrics e := by
    intro e he
    obtain ⟨s, action, rfl⟩ := exists_of_mem_events he
    exact adds_step s action
  have hsum : m.AddsUp := addsUp_outcome (by rw [hfresh]; rfl) actions
  refine ⟨hadds, htotal, hsum, hclass, hturned, hcut, fun hfits => ?_, fun hfits => ?_⟩
  · have hle : trail.countP isTurnedBack ≤ trail.countP (isRepliedAs .clientError) :=
      countP_le_countP (fun _ _ => isRepliedAs_of_isTurnedBack) s actions
    have hclient : m.clientError = _ := hclass .clientError
    rw [hturned, hclient]
    exact ofNat_le_ofNat hle hfits
  · have hle : trail.countP isCutOff ≤ trail.countP (isRepliedAs .serverError) :=
      countP_le_countP (fun _ _ => isRepliedAs_of_isCutOff) s actions
    have hserver : m.serverError = _ := hclass .serverError
    rw [hcut, hserver]
    exact ofNat_le_ofNat hle hfits

/-- Of eight requests one is served, one is turned back and one cut off; four are refused for their
path, their method, their length and their nonce. The last gets no answer, as a nonce would not
last, and is not counted. -/
theorem seven_of_eight_requests_counted :
    let rates : Config.RateLimit := { burstSize := some 1 }
    let registry : Registry :=
      .create ⟨.ofSeconds 60, 10, [], none, {}⟩ ⟨[1], by decide⟩ (.create "server" (.ofSeconds 300))
    let json := [("content-type", Utf8.encode "application/json")]
    let body := Utf8.encode (Wire.registerRequest.render
      ⟨"m", "alice", "pw", false, none, none, ""⟩)
    let ask (method path : String) (headers : List (String × List UInt8)) (peer : Address)
        (arrival : Span) : Action :=
      .request ⟨0, "n", default, 0, 0⟩ ⟨method, path, headers, body, some peer, arrival⟩
    let alice : Address := .v4 ⟨1, 2, 3, 4⟩
    let actions : List Action :=
      [ask "GET" Wire.noncePath [] alice .zero, ask "GET" Wire.noncePath [] alice .zero,
        ask "POST" Wire.registerPath json .localhost (.ofSeconds 11),
        ask "GET" "/nowhere" [] alice .zero, ask "DELETE" "/health" [] alice .zero,
        ask "GET" "/health" [("content-length", Utf8.encode "65537")] alice .zero,
        ask "POST" Wire.registerPath json .localhost .zero, .sweep,
        .advance (.ofSeconds 0x7fffffffffffffff), ask "GET" Wire.noncePath [] .localhost .zero]
    let start : Session := ⟨.start, { rateLimit := rates }, some registry, .create rates, {}⟩
    let trail := events step start actions
    let m := (outcome step start actions).gateway.metrics
    trail.length = 10 ∧ trail.countP isReplied = 7 ∧ m.total = 7 ∧
      m.success = 1 ∧ m.clientError = 5 ∧ m.serverError = 1 ∧ m.rateLimited = 1 ∧ m.timeouts = 1 := by
  intro rates registry json body ask alice actions start trail m
  obtain ⟨hreplied, hsuccess, hclient, hserver, hturnedBack, hcutOff⟩ :
      trail.countP isReplied = 7 ∧ trail.countP (isRepliedAs .success) = 1 ∧
        trail.countP (isRepliedAs .clientError) = 5 ∧
        trail.countP (isRepliedAs .serverError) = 1 ∧ trail.countP isTurnedBack = 1 ∧
        trail.countP isCutOff = 1 := by
    decide +kernel
  have hlength : trail.length = 10 := rfl
  obtain ⟨-, htotal, -, hclass, hturned, hcut, -⟩ := requests_counted (s := start) rfl actions
  have hofSuccess : m.success = UInt64.ofNat (trail.countP (isRepliedAs .success)) :=
    hclass .success
  have hofClient : m.clientError = UInt64.ofNat (trail.countP (isRepliedAs .clientError)) :=
    hclass .clientError
  have hofServer : m.serverError = UInt64.ofNat (trail.countP (isRepliedAs .serverError)) :=
    hclass .serverError
  change m.total = UInt64.ofNat (trail.countP isReplied) at htotal
  change m.rateLimited = UInt64.ofNat (trail.countP isTurnedBack) at hturned
  change m.timeouts = UInt64.ofNat (trail.countP isCutOff) at hcut
  rw [htotal, hofSuccess, hofClient, hofServer, hturned, hcut, hreplied, hsuccess, hclient,
    hserver, hturnedBack, hcutOff]
  exact ⟨hlength, rfl, rfl, rfl, rfl, rfl, rfl, rfl⟩

end Session

end Enrollment.Gateway
