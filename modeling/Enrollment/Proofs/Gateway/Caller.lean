import Enrollment.Proofs.Gateway.Limits
import Enrollment.Proofs.Http.Headers
import Enrollment.Proofs.Net.Address

/-!
# Who counts as the caller

Behind a proxy that is trusted, the caller of a limited request is whom the proxy names: in the
first element of `X-Forwarded-For`, else in `X-Real-IP`. A name that is an address as addresses are
written is taken whatever else the request says, and it is passed over only if it is no address.
Without such a proxy nothing that a request says of itself counts.
-/

namespace Enrollment.Gateway

open Http (IsFirstElement IsTrimmed Request)

variable {r : Request} {name : List Char} {a : Address}

/-- The name of the caller in the first element of `X-Forwarded-For`. There is none without such a
header, or if its value is not text. -/
def IsForwarded (r : Request) (name : List Char) : Prop :=
  ∃ text first, r.Says "x-forwarded-for" text ∧ IsFirstElement text first ∧ IsTrimmed first name

/-- The name of the caller in `X-Real-IP`, which is its whole value. -/
def IsRealIp (r : Request) (name : List Char) : Prop :=
  ∃ text, r.Says "x-real-ip" text ∧ IsTrimmed text name

theorem isForwarded_iff : IsForwarded r name ↔ ∃ first,
    (r.headerText? "x-forwarded-for").map (List.takeWhile (· != ',')) = some first ∧
      Unicode.trim first = name := by
  have htrim {text first : List Char} (hsaid : r.Says "x-forwarded-for" text)
      (hfirst : IsFirstElement text first) : Unicode.trim first = name ↔ IsTrimmed first name :=
    Http.trim_eq_iff_isTrimmed fun c hc => hsaid.isTextCharacter c (hfirst.subset hc)
  simp only [IsForwarded, Option.map_eq_some_iff, Request.headerText?_eq_some_iff,
    Http.takeWhile_eq_iff]
  constructor
  · rintro ⟨text, first, hsaid, hfirst, hname⟩
    exact ⟨first, ⟨text, hsaid, hfirst⟩, (htrim hsaid hfirst).mpr hname⟩
  · rintro ⟨first, ⟨text, hsaid, hfirst⟩, hname⟩
    exact ⟨text, first, hsaid, hfirst, (htrim hsaid hfirst).mp hname⟩

theorem isRealIp_iff : IsRealIp r name ↔
    ∃ text, r.headerText? "x-real-ip" = some text ∧ Unicode.trim text = name := by
  simp only [IsRealIp, Request.headerText?_eq_some_iff]
  refine exists_congr fun text => and_congr_right fun hsaid => ?_
  exact (Http.trim_eq_iff_isTrimmed hsaid.isTextCharacter).symm

/-! ## The address that is named -/

/-- An address is found exactly if it is what one of the names says. -/
def Resolves (found : Option Address) (named : List Char → Prop) : Prop :=
  ∀ a, found = some a ↔ ∃ name, named name ∧ Address.parse? name = some a

namespace Resolves

variable {found : Option Address} {named : List Char → Prop}

theorem eq_some (h : Resolves found named) (hnamed : named a.write) : found = some a :=
  (h a).mpr ⟨a.write, hnamed, Address.parse?_write a⟩

theorem eq_none (h : Resolves found named)
    (hnone : ∀ name, named name → Address.parse? name = none) : found = none := by
  refine Option.eq_none_iff_forall_ne_some.mpr fun a ha => ?_
  obtain ⟨name, hnamed, hparse⟩ := (h a).mp ha
  rw [hnone name hnamed] at hparse
  cases hparse

/-- A text with blanks around it is resolved as what is left of it without them. -/
theorem of_padded {text? : Option (List Char)}
    (h : ∀ {name}, named name ↔ ∃ text, text? = some text ∧ Unicode.trim text = name) :
    Resolves (text?.bind paddedAddress?) named := by
  intro a
  simp only [Option.bind_eq_some_iff, paddedAddress?, h]
  constructor
  · rintro ⟨text, htext, ha⟩
    exact ⟨_, ⟨text, htext, rfl⟩, ha⟩
  · rintro ⟨-, ⟨text, htext, rfl⟩, ha⟩
    exact ⟨text, htext, ha⟩

end Resolves

theorem resolves_forwarded (r : Request) :
    Resolves (((r.headerText? "x-forwarded-for").map (List.takeWhile (· != ','))).bind
      paddedAddress?) (IsForwarded r) :=
  .of_padded isForwarded_iff

theorem resolves_realIp (r : Request) :
    Resolves ((r.headerText? "x-real-ip").bind paddedAddress?) (IsRealIp r) :=
  .of_padded isRealIp_iff

theorem forwardedAddress?_of_forwarded (h : IsForwarded r a.write) :
    forwardedAddress? r = some a := by
  simp only [forwardedAddress?, (resolves_forwarded r).eq_some h, Option.some_or]

/-- Names that are no address are passed over. -/
theorem forwardedAddress?_of_unresolved
    (hnone : ∀ name, IsForwarded r name → Address.parse? name = none) :
    forwardedAddress? r = (r.headerText? "x-real-ip").bind paddedAddress? := by
  simp only [forwardedAddress?, (resolves_forwarded r).eq_none hnone, Option.none_or]

/-! ## The caller -/

theorem lookup_handle_of_ne (g : Gateway) (reading : Reading) (found : Circumstances)
    {other : Address} (hne : other ≠ callerAddress g.limiter.settings.trustForwarded r) :
    (g.handle reading found r).2.limiter.buckets.lookup other =
      g.limiter.buckets.lookup other := by
  rw [limiter_handle, checkRate]
  split
  next => rfl
  next c _ => exact g.limiter.lookup_check_of_ne found.now hne c

/-- Behind a trusted proxy, an address that stands in the first element of `X-Forwarded-For` is the
caller's, whatever follows there and whatever else the request says. Where that header is missing
or is no text, or its first element is no address, an address that is all of `X-Real-IP` is the
caller's; where there is none either, and without such a proxy in any case, it is the peer's
address, or 0.0.0.0 if there is no peer. A limited request is checked against the bucket of that
address, and no request changes the bucket of another one. -/
theorem callers_named_by_proxy (r : Request) :
    (∀ a, IsForwarded r a.write → callerAddress true r = a) ∧
    ((∀ name, IsForwarded r name → Address.parse? name = none) →
      (∀ a, IsRealIp r a.write → callerAddress true r = a) ∧
      ((∀ name, IsRealIp r name → Address.parse? name = none) →
        callerAddress true r = r.peer.getD (.v4 ⟨0, 0, 0, 0⟩))) ∧
    callerAddress false r = r.peer.getD (.v4 ⟨0, 0, 0, 0⟩) ∧
    ∀ (g : Gateway) reading found,
      let caller := callerAddress g.limiter.settings.trustForwarded r
      (∀ c, EndpointClass.ofPath? r.path = some c →
        (g.handle reading found r).2.limiter = (g.limiter.check found.now caller c).2) ∧
      ∀ other, other ≠ caller → (g.handle reading found r).2.limiter.buckets.lookup other =
        g.limiter.buckets.lookup other := by
  refine ⟨fun a ha => ?_, fun hnone => ⟨fun a ha => ?_, fun hreal => ?_⟩, rfl,
    fun g reading found => ⟨fun c hc => ?_, fun other hne => ?_⟩⟩
  · simp only [callerAddress, if_true, forwardedAddress?_of_forwarded ha, Option.getD_some]
  · simp only [callerAddress, if_true, forwardedAddress?_of_unresolved hnone,
      (resolves_realIp r).eq_some ha, Option.getD_some]
  · simp only [callerAddress, if_true, forwardedAddress?_of_unresolved hnone,
      (resolves_realIp r).eq_none hreal, Option.getD_none]
    rfl
  · rw [limiter_handle, checkRate, hc]
  · exact lookup_handle_of_ne g reading found hne

/-- A forwarded address among blanks and other elements, then a name that is no address, which is
passed over for `X-Real-IP`, then a value that is no text, which leaves the peer. -/
theorem three_callers_behind_a_proxy :
    let peer := Address.v4 ⟨192, 0, 2, 7⟩
    let ask (forwarded real : List UInt8) : Request :=
      ⟨"GET", Wire.noncePath, [("Host", []), ("X-Forwarded-For", forwarded),
        ("x-forwarded-for", Utf8.encode "10.0.0.9"), ("X-Real-IP", real)], [], some peer, .zero⟩
    let far := Address.v6 ⟨[0x2001, 0xDB8, 0, 0, 0, 0, 0, 1], rfl⟩
    let near := Address.v4 ⟨10, 0, 0, 1⟩
    let first := ask (Utf8.encode "\t 2001:db8::1 ,unknown") (Utf8.encode "10.0.0.1")
    let second := ask (Utf8.encode "unknown, 10.0.0.2") (Utf8.encode " 10.0.0.1\t")
    let third := ask [0xFF] (Utf8.encode "10.0.0.1:80")
    (IsForwarded first far.write ∧ callerAddress true first = far) ∧
    ((∀ name, IsForwarded second name → Address.parse? name = none) ∧
      IsRealIp second near.write ∧ callerAddress true second = near) ∧
    (∀ name, IsForwarded third name → Address.parse? name = none) ∧
      (∀ name, IsRealIp third name → Address.parse? name = none) ∧
      callerAddress true third = peer ∧ callerAddress false first = peer := by
  intro peer ask far near first second third
  have hfirst : IsForwarded first far.write :=
    isForwarded_iff.mpr ⟨"\t 2001:db8::1 ".toList, by decide, by decide⟩
  have hsecond : ∀ name, IsForwarded second name → Address.parse? name = none := by
    intro name hname
    obtain ⟨text, htext, rfl⟩ := isForwarded_iff.mp hname
    have hunknown : (second.headerText? "x-forwarded-for").map (List.takeWhile (· != ',')) =
        some "unknown".toList := by
      decide
    obtain rfl := Option.some.inj (hunknown.symm.trans htext)
    decide
  have hreal : IsRealIp second near.write :=
    isRealIp_iff.mpr ⟨" 10.0.0.1\t".toList, by decide, by decide⟩
  have hthird : ∀ name, IsForwarded third name → Address.parse? name = none := by
    intro name hname
    obtain ⟨text, htext, rfl⟩ := isForwarded_iff.mp hname
    have hnone : third.headerText? "x-forwarded-for" = none := by decide
    rw [hnone, Option.map_none] at htext
    cases htext
  have hport : ∀ name, IsRealIp third name → Address.parse? name = none := by
    intro name hname
    obtain ⟨text, htext, rfl⟩ := isRealIp_iff.mp hname
    have hvalue : third.headerText? "x-real-ip" = some "10.0.0.1:80".toList := by decide
    obtain rfl := Option.some.inj (hvalue.symm.trans htext)
    decide
  obtain ⟨hforwarded, -, hpeer, -⟩ := callers_named_by_proxy first
  obtain ⟨-, hpassed, -⟩ := callers_named_by_proxy second
  obtain ⟨-, hleft, -⟩ := callers_named_by_proxy third
  exact ⟨⟨hfirst, hforwarded far hfirst⟩, ⟨hsecond, hreal, (hpassed hsecond).1 near hreal⟩, hthird,
    hport, (hleft hthird).2 hport, hpeer⟩

end Enrollment.Gateway
