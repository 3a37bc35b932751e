import Enrollment.Proofs.Gateway.Creation

/-!
# The size of a body

An attempt is refused for its size exactly if its body is longer than the limit that is set, or
longer than the greatest length that is ever read. So the limit that is set is the one that counts
only as long as it is no greater than that length. Whether a caller announces the length makes no
difference to what is refused, only to the words.
-/

namespace Enrollment

namespace Gateway

/-- A POST of JSON to the register path that announces no other length than its body has. -/
structure PostsJson (r : Http.Request) : Prop where
  method_eq : r.method = "POST"
  path_eq : r.path = Wire.registerPath
  json : isAnnouncedAsJson r = true
  length_eq : ∀ length, announcedLength? r = some length → length = r.body.length

/-- A body that is longer than the limit or than any body that is read. -/
def IsOversized (limit : UInt64) (r : Http.Request) : Prop :=
  limit.toNat < r.body.length ∨ greatestBody < r.body.length

/-- A POST of a body, which is announced as JSON and at no length. -/
def posting (body : List UInt8) : Http.Request :=
  ⟨"POST", Wire.registerPath, [("content-type", Utf8.encode "application/json")], body,
    some .localhost, .zero⟩

variable {g : Gateway} {registry : Registry} {reading : Reading} {found : Circumstances}
  {r : Http.Request} {status : UInt16} {limit : UInt64}

/-! ## Which limit counts -/

theorem postsJson_posting (body : List UInt8) : PostsJson (posting body) := by
  -- Nothing depends on the body here.
  have hpath : (posting body).path = (posting []).path := rfl
  have hjson : isAnnouncedAsJson (posting body) = isAnnouncedAsJson (posting []) := rfl
  have hlength : announcedLength? (posting body) = announcedLength? (posting []) := rfl
  have hnone : announcedLength? (posting []) = none := by decide +kernel
  refine ⟨rfl, hpath.trans (by decide +kernel), hjson.trans (by decide +kernel), fun length h => ?_⟩
  cases hnone.symm.trans (hlength.symm.trans h)

/-- The limit that is set is the one that counts exactly if some body of its length can be read. -/
theorem isOversized_iff_all : (∀ r, PostsJson r →
    (IsOversized limit r ↔ limit.toNat < r.body.length)) ↔ limit.toNat ≤ greatestBody := by
  constructor
  · intro hall
    let body : List UInt8 := List.replicate (greatestBody + 1) 0x20
    have hlength : (posting body).body.length = greatestBody + 1 := List.length_replicate
    have hlonger := (hall _ (postsJson_posting body)).mp (.inr (by omega))
    omega
  · intro hlimit r _
    unfold IsOversized
    omega

/-! ## Which refusals are for the size -/

theorem status_respond (status : UInt16) (answer : Except RegistrationError AccountInfo) :
    (respond status answer).status ∈ [200, 400, 500, status] := by
  rcases answer with (_ | _ | _ | _) | _ <;> simp [respond, Refusal.ofRegistration,
    Refusal.response, Http.Response.json, Refusal.invalidParam, Refusal.denied, Refusal.userInUse,
    Refusal.internal, Refusal.plain]

theorem status_respond_ne (hstatus : status ≠ 413)
    (answer : Except RegistrationError AccountInfo) : (respond status answer).status ≠ 413 := by
  intro heq
  have hmem := heq ▸ status_respond status answer
  simp [hstatus.symm] at hmem

theorem status_ofFault (fault : Json.Fault) : (Refusal.ofFault fault).status = 400 := by
  cases fault <;> rfl

/-- A body announced at its own length exceeds what may be read of it exactly if it is oversized. -/
theorem bodyLimit_lt_iff (hposts : PostsJson r) :
    bodyLimit limit r < r.body.length ↔ IsOversized limit r := by
  unfold bodyLimit IsOversized
  cases hannounced : announcedLength? r with
  | none =>
      simp only [Option.getD_none]
      omega
  | some length =>
      simp only [Option.getD_some, hposts.length_eq length hannounced]
      omega

theorem readAttempt_of_oversized (hposts : PostsJson r) (hoversized : IsOversized limit r) :
    readAttempt limit r = .error .tooLarge := by
  simp only [readAttempt, hposts.json, Bool.not_true, Bool.false_eq_true, if_false,
    (bodyLimit_lt_iff hposts).mpr hoversized, if_true]

/-- A body of the right size may still be no attempt, but that is another refusal. -/
theorem status_of_readAttempt_ne (hposts : PostsJson r) (hfits : ¬ IsOversized limit r)
    {refusal : Refusal} (hread : readAttempt limit r = .error refusal) : refusal.status ≠ 413 := by
  simp only [readAttempt, hposts.json, Bool.not_true, Bool.false_eq_true, if_false,
    mt (bodyLimit_lt_iff hposts).mp hfits] at hread
  split at hread
  next => cases hread
  next fault hfault =>
    cases hread
    rw [status_ofFault]
    decide

theorem announcesTooMuch_of_posts (hposts : PostsJson r)
    (hannounced : announcesTooMuch limit r = true) : limit.toNat < r.body.length := by
  unfold announcesTooMuch at hannounced
  split at hannounced
  next length hlength =>
    rw [← hposts.length_eq length hlength]
    exact of_decide_eq_true hannounced
  next => cases hannounced

/-! ## Serving -/

/-- The answer to an oversized body, whose words depend on whether its length is announced. -/
def oversizedAnswer (limit : UInt64) (r : Http.Request) : Http.Response :=
  if announcesTooMuch limit r then announcedTooMuch else Refusal.tooLarge.response

theorem status_oversizedAnswer (limit : UInt64) (r : Http.Request) :
    (oversizedAnswer limit r).status = 413 := by
  unfold oversizedAnswer
  split <;> rfl

theorem dispatch_of_oversized (hregistry : g.registry = some registry) (hposts : PostsJson r)
    (hoversized : IsOversized g.config.limits.maxRequestSize r) :
    (g.dispatch reading found r).answer =
      .ok (oversizedAnswer g.config.limits.maxRequestSize r) := by
  unfold oversizedAnswer
  cases hannounced : announcesTooMuch g.config.limits.maxRequestSize r with
  | true => simp only [dispatch, hannounced, if_true]
  | false =>
      rw [dispatch_of_allowed hposts.path_eq (register_allows_iff.mpr hposts.method_eq) hannounced,
        serveAttempt_of_unread hregistry (readAttempt_of_oversized hposts hoversized)]
      rfl

theorem status_dispatch_ne (hregistry : g.registry = some registry)
    (hstatus : g.denialStatus ≠ 413) (hposts : PostsJson r)
    (hfits : ¬ IsOversized g.config.limits.maxRequestSize r) {response : Http.Response}
    (hanswer : (g.dispatch reading found r).answer = .ok response) : response.status ≠ 413 := by
  have hannounced : announcesTooMuch g.config.limits.maxRequestSize r = false :=
    Bool.eq_false_iff.mpr fun h => hfits (.inl (announcesTooMuch_of_posts hposts h))
  rw [dispatch_of_allowed hposts.path_eq (register_allows_iff.mpr hposts.method_eq) hannounced]
    at hanswer
  cases hread : readAttempt g.config.limits.maxRequestSize r with
  | error refusal =>
      rw [serveAttempt_of_unread hregistry hread] at hanswer
      cases hanswer
      exact status_of_readAttempt_ne hposts hfits hread
  | ok request =>
      rw [serveAttempt_of_read hregistry hread] at hanswer
      obtain ⟨v, -, rfl⟩ := Config.map_eq_ok_iff.mp hanswer
      exact status_respond_ne hstatus v.answer

/-! ## Handling -/

theorem exists_reply_of_oversized (reading : Reading) (hregistry : g.registry = some registry)
    (hposts : PostsJson r) (hserved : g.course found.now r = .served)
    (hoversized : IsOversized g.config.limits.maxRequestSize r) :
    ∃ reply, (g.handle reading found r).1 = .ok reply ∧
      reply.response = oversizedAnswer g.config.limits.maxRequestSize r := by
  have hanswer : (g.dispatched reading found r).answer =
      .ok (oversizedAnswer g.config.limits.maxRequestSize r) :=
    dispatch_of_oversized (g := g.afterCheck found.now r) hregistry hposts hoversized
  rw [handle_of_served hserved]
  simp only [hanswer, Except.map]
  exact ⟨_, rfl, finish_of_attempt hposts.path_eq hposts.method_eq _⟩

/-- Whoever is turned back or cut off gets another status. -/
theorem oversized_of_status (hregistry : g.registry = some registry)
    (hstatus : g.denialStatus ≠ 413) (hposts : PostsJson r) {reply : Reply}
    (hreply : (g.handle reading found r).1 = .ok reply) (h413 : reply.response.status = 413) :
    g.course found.now r = .served ∧ IsOversized g.config.limits.maxRequestSize r := by
  rcases exists_of_handle hreply with ⟨wait, limited, -, hresponse, -⟩ | ⟨-, hresponse, -⟩ |
    ⟨hserved, response, hanswer, hresponse, -⟩ <;> rw [hresponse, status_finish] at h413
  · cases h413
  · cases h413
  · refine ⟨hserved, ?_⟩
    by_contra hfits
    exact status_dispatch_ne (g := g.afterCheck found.now r) hregistry hstatus hposts hfits
      hanswer h413

/-- With valid settings, registration enabled and denials told by another status, a gateway starts,
and in every state that it reaches a POST of JSON to the register path is refused for its size
exactly if it is served and its body is oversized. All that are oversized are answered alike, but
for the words. What is oversized is decided by the limit that is set alone exactly if that limit is
no greater than the length of the longest body that is ever read. -/
theorem refused_for_size_iff {c : Config} (hvalid : c.validate = .ok ())
    (henabled : c.registration.enabled = true) (hstatus : c.registration.denialStatus ≠ 413) :
    ((∀ r, PostsJson r → (IsOversized c.limits.maxRequestSize r ↔
        c.limits.maxRequestSize.toNat < r.body.length)) ↔
      c.limits.maxRequestSize.toNat ≤ greatestBody) ∧
    ∃ g, create c = .ok g ∧ ∀ clock actions found r,
      let s := outcome Session.step ⟨clock, g⟩ actions
      PostsJson r →
        ((∃ reply, (s.gateway.handle s.clock.read found r).1 = .ok reply ∧
            reply.response.status = 413) ↔
          s.gateway.course found.now r = .served ∧ IsOversized c.limits.maxRequestSize r) ∧
        (s.gateway.course found.now r = .served → IsOversized c.limits.maxRequestSize r →
          ∃ reply, (s.gateway.handle s.clock.read found r).1 = .ok reply ∧
            reply.response = oversizedAnswer c.limits.maxRequestSize r) := by
  obtain ⟨given, hcreate, -⟩ := exists_started hvalid
  refine ⟨isOversized_iff_all, _, hcreate, ?_⟩
  intro clock actions found r s hposts
  have hruns : Session.RunsAsSet c s :=
    (Session.runsAsSet_of_create hvalid hcreate clock).outcome actions
  have hdenials : s.gateway.denialStatus ≠ 413 := by
    rw [denialStatus_of_valid (by rw [hruns.config_eq, hvalid]), hruns.config_eq]
    exact hstatus
  obtain ⟨registry, hregistry⟩ : ∃ registry, s.gateway.registry = some registry :=
    Option.isSome_iff_exists.mp (hruns.isSome_registry.trans henabled)
  have hoversized (hserved : s.gateway.course found.now r = .served)
      (hlong : IsOversized c.limits.maxRequestSize r) :
      ∃ reply, (s.gateway.handle s.clock.read found r).1 = .ok reply ∧
        reply.response = oversizedAnswer c.limits.maxRequestSize r := by
    rw [← hruns.config_eq] at hlong ⊢
    exact exists_reply_of_oversized s.clock.read hregistry hposts hserved hlong
  refine ⟨⟨fun ⟨reply, hreply, h413⟩ => ?_, fun ⟨hserved, hlong⟩ => ?_⟩, hoversized⟩
  · exact hruns.config_eq ▸ oversized_of_status hregistry hdenials hposts hreply h413
  · obtain ⟨reply, hreply, hresponse⟩ := hoversized hserved hlong
    exact ⟨reply, hreply, hresponse ▸ status_oversizedAnswer _ _⟩

/-- Where a limit of sixty-four bytes is set, a body of sixty-five is refused for its size and one
of sixty-four is not. -/
theorem refused_beyond_sixty_four :
    let c : Config :=
      { registration := { enabled := true, sharedSecret := some "abc" }, limits := ⟨64⟩ }
    let found : Circumstances := ⟨0, "n", default, 0, 0⟩
    let blanks (n : Nat) : Http.Request := posting (List.replicate n 0x20)
    c.validate = .ok () ∧ ∃ g, create c = .ok g ∧
      (∃ reply, (g.handle (.ok .origin) found (blanks 65)).1 = .ok reply ∧
        reply.response.status = 413) ∧
      ¬ ∃ reply, (g.handle (.ok .origin) found (blanks 64)).1 = .ok reply ∧
        reply.response.status = 413 := by
  intro c found blanks
  have hvalid : c.validate = .ok () := by decide +kernel
  obtain ⟨hlimit, g, hcreate, hrefused⟩ := refused_for_size_iff hvalid rfl (by decide)
  obtain rfl : g = ⟨c, some (registryAsSet c.registration ⟨Utf8.encode "abc", by decide⟩),
      .create c.rateLimit, {}⟩ := Except.ok.inj (hcreate.symm.trans (by decide +kernel))
  have hrefused' (n : Nat) := (hrefused .start [] found (blanks n) (postsJson_posting _)).1
  have hsize (n : Nat) := hlimit.mpr (by decide) (blanks n) (postsJson_posting _)
  refine ⟨hvalid, _, hcreate, (hrefused' 65).mpr ⟨by decide +kernel, (hsize 65).mpr (by decide)⟩,
    fun hreply => ?_⟩
  exact absurd ((hsize 64).mp ((hrefused' 64).mp hreply).2) (by decide)

/-- Where a limit of four mebibytes is set, an attempt of no more than that is refused for its size,
for the blanks that follow it. -/
theorem refused_within_limit :
    let c : Config :=
      { registration := { enabled := true, sharedSecret := some "abc" }, limits := ⟨4194304⟩ }
    let found : Circumstances := ⟨0, "n", default, 0, 0⟩
    let attempt := Wire.registerRequest.render ⟨"n", "alice", "pw", false, none, none, ""⟩
    let r := posting (Utf8.encode attempt ++ List.replicate greatestBody 0x20)
    c.validate = .ok () ∧ c.registration.denialStatus ≠ 413 ∧ PostsJson r ∧
      r.body.length ≤ c.limits.maxRequestSize.toNat ∧
      ∃ g, create c = .ok g ∧ g.course found.now r = .served ∧
        ∃ reply, (g.handle (.ok .origin) found r).1 = .ok reply ∧ reply.response.status = 413 := by
  intro c found attempt r
  let g : Gateway := ⟨c, some (registryAsSet c.registration ⟨Utf8.encode "abc", by decide⟩),
    .create c.rateLimit, {}⟩
  have hlength : r.body.length = (Utf8.encode attempt).length + greatestBody :=
    List.length_append.trans (congrArg (_ + ·) List.length_replicate)
  have hattempt : 0 < (Utf8.encode attempt).length ∧ (Utf8.encode attempt).length < 1000 := by
    decide +kernel
  have hserved : g.course found.now r = .served := by decide +kernel
  have hoversized : IsOversized c.limits.maxRequestSize r := .inr (by omega)
  obtain ⟨reply, hreply, hresponse⟩ := exists_reply_of_oversized (.ok .origin) rfl
    (postsJson_posting _) hserved hoversized
  refine ⟨by decide +kernel, by decide, postsJson_posting _, ?_, g, by decide +kernel, hserved,
    reply, hreply, hresponse ▸ status_oversizedAnswer _ _⟩
  have hlimit : c.limits.maxRequestSize.toNat = 4194304 := rfl
  rw [hlimit, hlength, greatestBody]
  omega

end Gateway

end Enrollment
