/-
**The texts handed to polkit.**

Action ids, locales and object paths are handed over in Latin-1 when an agent is registered or an
authorization checked; object paths when an agent is unregistered, cookies and the ids of temporary
authorizations in UTF-8.  Everything that polkit hands back is read as UTF-8.  So a text of the first
kind arrives as it was only if it is ASCII, and an agent is unregistered under the path it was
registered under only if that is.

Main definitions:

* `PolkitQt.Authority.Operation.texts`, `PolkitQt.Request.texts` — the texts of a call, before and
  after they are converted;
* `PolkitQt.Authority.Sends` — the request a call sends, if it sends one;
* `PolkitQt.Authority.Operation.Survives` — what the texts have to be like.

Main result:

* `PolkitQt.Authority.texts_intact_iff` — the texts of a call arrive intact exactly then.
-/

import PolkitQt.QStringCodec
import PolkitQt.AuthoritySystem
import PolkitQt.AgentListener

set_option relaxedAutoImplicit false
set_option autoImplicit false

namespace PolkitQt

open QString

/-- The texts of a request, in order. -/
def Request.texts : Request → List Bytes
  | checkAuthorization _ _ actionId _ _ => [actionId]
  | registerAuthenticationAgent _ _ locale objectPath => [locale, objectPath]
  | unregisterAuthenticationAgent _ _ objectPath => [objectPath]
  | authenticationAgentResponse _ cookie _ => [cookie]
  | revokeTemporaryAuthorizationById _ id => [id]
  | enumerateActions _ | enumerateTemporaryAuthorizations .. | revokeTemporaryAuthorizations .. => []

/-- The path of an agent that is registered or unregistered. -/
def Request.objectPath? : Request → Option Bytes
  | registerAuthenticationAgent _ _ _ objectPath => some objectPath
  | unregisterAuthenticationAgent _ _ objectPath => some objectPath
  | _ => none

/-- The path a listener registers its agent under. -/
def Agent.PolkitCall.objectPath? : Agent.PolkitCall → Option Bytes
  | register _ _ objectPath _ => some objectPath
  | _ => none

namespace Authority

namespace Operation

/-- The texts among the arguments, in order.  The details are converted by a function of their
own. -/
def texts : Operation → List QString
  | checkAuthorization actionId .. => [actionId]
  | registerAuthenticationAgent _ locale objectPath => [locale, objectPath]
  | unregisterAuthenticationAgent _ objectPath => [objectPath]
  | authenticationAgentResponse cookie _ => [cookie]
  | revokeTemporaryAuthorization id => [id]
  | enumerateActions | revokeTemporaryAuthorizations _ => []

/-- Texts in Latin-1 are ASCII, and texts in UTF-8 do not start with a byte order mark. -/
def Survives : Operation → Prop
  | checkAuthorization actionId .. => actionId.IsAscii
  | registerAuthenticationAgent _ locale objectPath => locale.IsAscii ∧ objectPath.IsAscii
  | unregisterAuthenticationAgent _ objectPath => objectPath.utf16.head? ≠ some 0xFEFF
  | authenticationAgentResponse cookie _ => cookie.utf16.head? ≠ some 0xFEFF
  | revokeTemporaryAuthorization id => id.utf16.head? ≠ some 0xFEFF
  | enumerateActions | revokeTemporaryAuthorizations _ => True

end Operation

/-! ### What is sent -/

/-- The synchronous or the asynchronous method sends this request. -/
def Sends (d : Private) (op : Operation) (request : Request) : Prop :=
  (∃ reply, (op.sync d reply).request = some request) ∨ (op.start d).request = some request

/-- It is the one the operation stands for. -/
theorem Sends.eq_request {d : Private} {op : Operation} {request : Request}
    (h : Sends d op request) : request = op.request d.pkAuthority := by
  rcases h with ⟨reply, hsync⟩ | hstart
  · cases hrefused : op.syncRefusal d with
    | some d' =>
        rw [Operation.sync_of_refused hrefused] at hsync
        simp at hsync
    | none =>
        rw [Operation.sync_of_asked hrefused] at hsync
        cases houtcome : op.kind.outcome reply with
        | ok v =>
            rw [houtcome] at hsync
            exact (Option.some.inj hsync).symm
        | error x =>
            rw [houtcome] at hsync
            exact (Option.some.inj hsync).symm
  · rw [Operation.start_eq] at hstart
    cases hrefused : d.refuse op.badArgument op.badCode with
    | some d' =>
        rw [hrefused] at hstart
        simp [asyncCall] at hstart
    | none =>
        rw [hrefused] at hstart
        exact (Option.some.inj hstart).symm

/-! ### What arrives -/

/-- A text in UTF-8 is read back as it was unless it starts with a byte order mark. -/
theorem fromUtf8_toUtf8_iff {s : QString} (h : s.Plain) :
    (fromUtf8 (cString s.toUtf8)).utf16 = s.utf16 ↔ s.utf16.head? ≠ some 0xFEFF := by
  rw [fromUtf8_toUtf8 h]
  exact dropBom_eq_self_iff s.utf16

/-- Each text of the request is read back as the text of the call. -/
def ReadBack (op : Operation) (request : Request) : Prop :=
  request.texts.map (fun b => (fromUtf8 b).utf16) = op.texts.map QString.utf16

theorem readBack_iff {op : Operation} (h : ∀ s ∈ op.texts, s.Plain)
    (authority : Option PolkitAuthority) :
    ReadBack op (op.request authority) ↔ op.Survives := by
  unfold ReadBack
  cases op with
  | checkAuthorization actionId subject flags details =>
      have hactionId := h actionId (List.mem_singleton.2 rfl)
      have hiff := fromUtf8_toLatin1_iff hactionId.nulFree
      simpa [Operation.request, Operation.texts, Request.texts, Operation.Survives] using hiff
  | registerAuthenticationAgent subject locale objectPath =>
      have hlocale := h locale (List.mem_cons_self ..)
      have hobjectPath := h objectPath (List.mem_cons_of_mem _ (List.mem_singleton.2 rfl))
      have hiff := and_congr (fromUtf8_toLatin1_iff hlocale.nulFree)
        (fromUtf8_toLatin1_iff hobjectPath.nulFree)
      simpa [Operation.request, Operation.texts, Request.texts, Operation.Survives] using hiff
  | unregisterAuthenticationAgent subject objectPath =>
      have hiff := fromUtf8_toUtf8_iff (h objectPath (List.mem_singleton.2 rfl))
      simpa [Operation.request, Operation.texts, Request.texts, Operation.Survives] using hiff
  | authenticationAgentResponse cookie identity =>
      have hiff := fromUtf8_toUtf8_iff (h cookie (List.mem_singleton.2 rfl))
      simpa [Operation.request, Operation.texts, Request.texts, Operation.Survives] using hiff
  | revokeTemporaryAuthorization id =>
      have hiff := fromUtf8_toUtf8_iff (h id (List.mem_singleton.2 rfl))
      simpa [Operation.request, Operation.texts, Request.texts, Operation.Survives] using hiff
  | enumerateActions | revokeTemporaryAuthorizations subject =>
      simp [Operation.request, Operation.texts, Request.texts, Operation.Survives]

/-! ### One text in both conversions -/

theorem toLatin1_eq_toUtf8 {units : List UInt16} (h : ∀ u ∈ units, u.toNat < 0x80) :
    units.map latin1Byte = utf8EncodeUnits units := by
  induction units with
  | nil => rfl
  | cons u rest ih =>
      obtain ⟨hu, hrest⟩ := List.forall_mem_cons.1 h
      have hsurrogate : isSurrogate u = false := (isSurrogate_eq_false_iff u).2 (by omega)
      have hhigh : isHighSurrogate u = false := by
        rw [isSurrogate, Bool.or_eq_false_iff] at hsurrogate
        exact hsurrogate.1
      have hone : utf8EncodeUnit u = [latin1Byte u] := by
        rw [utf8EncodeUnit, hsurrogate, if_neg Bool.false_ne_true, utf8Encode, if_pos hu, latin1Byte,
          if_pos (by omega)]
      rw [utf8EncodeUnits_cons hhigh, hone, List.map_cons, ih hrest]
      rfl

/-- **The two conversions agree on ASCII and on nothing else.** -/
theorem cString_toLatin1_eq_iff {s : QString} (h : s.Plain) :
    cString s.toLatin1 = cString s.toUtf8 ↔ s.IsAscii := by
  rw [cString_toLatin1 h.nulFree, h.cString_toUtf8]
  constructor
  · intro heq
    have hdecode := h.utf8DecodeBytes_toUtf8
    rw [← heq] at hdecode
    exact (utf8DecodeBytes_latin1_iff s.utf16).1 hdecode
  · exact toLatin1_eq_toUtf8

/-- Different ASCII texts are handed over as different bytes. -/
theorem toLatin1_injective {s t : QString} (hs : s.Plain) (ht : t.Plain) (hs' : s.IsAscii)
    (ht' : t.IsAscii) (h : cString s.toLatin1 = cString t.toLatin1) : s.utf16 = t.utf16 := by
  rw [(cString_toLatin1_eq_iff hs).2 hs', (cString_toLatin1_eq_iff ht).2 ht'] at h
  exact toUtf8_injective hs ht h

/-! ### Over all calls -/

/-- The path of the registration is read back as the path of the call. -/
def ListenerReadBack (l : Agent.Listener) (r : Agent.Listener.Registration) : Prop :=
  ∀ call ∈ (l.registerListener r).calls, ∀ path, call.objectPath? = some path →
    (fromUtf8 path).utf16 = r.objectPath.utf16

theorem listenerReadBack_iff (l : Agent.Listener) {r : Agent.Listener.Registration}
    (h : r.objectPath.Plain) : ListenerReadBack l r ↔ r.objectPath.IsAscii := by
  rw [← fromUtf8_toLatin1_iff h.nulFree]
  simp [ListenerReadBack, Agent.Listener.registerListener, Agent.PolkitCall.objectPath?]

/-- Checks of different ASCII action ids are different requests. -/
theorem texts_injective_of_check {d d' : Private} {op op' : Operation} {request request' : Request}
    (hsends : Sends d op request) (hsends' : Sends d' op' request')
    (hplain : ∀ s ∈ op.texts ++ op'.texts, s.Plain) (hop : op.kind = .checkAuthorization)
    (hop' : op'.kind = .checkAuthorization) (hsurvives : op.Survives) (hsurvives' : op'.Survives)
    (hsame : request.texts = request'.texts) :
    op.texts.map QString.utf16 = op'.texts.map QString.utf16 := by
  rw [hsends.eq_request, hsends'.eq_request] at hsame
  cases op with
  | checkAuthorization a subject flags details =>
      cases op' with
      | checkAuthorization b subject' flags' details' =>
          have ha := hplain a (by simp [Operation.texts])
          have hb := hplain b (by simp [Operation.texts])
          have hunits := toLatin1_injective ha hb hsurvives hsurvives' (List.cons.inj hsame).1
          simp [Operation.texts, hunits]
      | _ => simp [Operation.kind] at hop'
  | _ => simp [Operation.kind] at hop

/-- The path of a registration and that of an unregistration. -/
theorem objectPath_register (authority : Option PolkitAuthority) (subject : Subject)
    (locale path : QString) :
    ((Operation.registerAuthenticationAgent subject locale path).request authority).objectPath? =
      some (cString path.toLatin1) := rfl

theorem objectPath_unregister (authority : Option PolkitAuthority) (subject : Subject)
    (path : QString) :
    ((Operation.unregisterAuthenticationAgent subject path).request authority).objectPath? =
      some (cString path.toUtf8) := rfl

/-- **The texts of a call arrive intact exactly if those in Latin-1 are ASCII and those in UTF-8 do
not start with a byte order mark.**  This holds of every request that an operation of the authority
sends in any state, synchronously or not, and of every registration of a listener.  As a consequence
different action ids that are ASCII are sent as different ids; and the path an agent is registered
under, by the authority or by a listener, is the one it is unregistered under if and only if it is
ASCII. -/
theorem texts_intact_iff {d d' : Private} {op op' : Operation} {request request' : Request}
    (hsends : Sends d op request) (hsends' : Sends d' op' request')
    (hplain : ∀ s ∈ op.texts ++ op'.texts, s.Plain) (l : Agent.Listener)
    {r : Agent.Listener.Registration} (hpath : r.objectPath.Plain) :
    (ReadBack op request ↔ op.Survives) ∧
      (ListenerReadBack l r ↔ r.objectPath.IsAscii) ∧
      (op.kind = .checkAuthorization → op'.kind = .checkAuthorization → op.Survives →
        op'.Survives → request.texts = request'.texts →
          op.texts.map QString.utf16 = op'.texts.map QString.utf16) ∧
      (∀ subject subject' locale path, op = .registerAuthenticationAgent subject locale path →
        op' = .unregisterAuthenticationAgent subject' path →
          (request.objectPath? = request'.objectPath? ↔ path.IsAscii)) ∧
      ∀ subject', op' = .unregisterAuthenticationAgent subject' r.objectPath →
        ((∃ call ∈ (l.registerListener r).calls, call.objectPath? = request'.objectPath?) ↔
          r.objectPath.IsAscii) := by
  refine ⟨?_, listenerReadBack_iff l hpath, ?_, ?_, ?_⟩
  · rw [hsends.eq_request]
    exact readBack_iff (fun s hs => hplain s (List.mem_append_left _ hs)) d.pkAuthority
  · exact texts_injective_of_check hsends hsends' hplain
  · rintro subject subject' locale path rfl rfl
    have hplainPath : path.Plain := hplain path (by simp [Operation.texts])
    rw [hsends.eq_request, hsends'.eq_request, objectPath_register, objectPath_unregister,
      ← cString_toLatin1_eq_iff hplainPath]
    exact Option.some_inj
  · rintro subject' rfl
    rw [hsends'.eq_request, objectPath_unregister, ← cString_toLatin1_eq_iff hpath]
    simp [Agent.Listener.registerListener, Agent.PolkitCall.objectPath?]

/-- An agent is registered under an ASCII path, by the authority and by a listener, and unregistered
under it. -/
theorem texts_intact_ascii :
    let subject : Subject := ⟨some (.unixSession [0x31])⟩
    let d := freshAuthority
    let path : QString := .ofUtf16 [0x2F, 0x6B]
    let register : Operation := .registerAuthenticationAgent subject path path
    let unregister : Operation := .unregisterAuthenticationAgent subject path
    let r : Agent.Listener.Registration := ⟨subject, path, .ok none⟩
    ReadBack register (register.request d.pkAuthority) ∧ ListenerReadBack ⟨0, none, none⟩ r ∧
      (register.request d.pkAuthority).objectPath? =
        (unregister.request d.pkAuthority).objectPath? := by
  intro subject d path register unregister r
  have hplain : ∀ s ∈ register.texts ++ unregister.texts, s.Plain := by decide
  have hascii : path.IsAscii := by decide
  have hpath : r.objectPath.Plain := by decide
  have hregister : Sends d register (register.request d.pkAuthority) := Or.inr rfl
  have hunregister : Sends d unregister (unregister.request d.pkAuthority) := Or.inr rfl
  obtain ⟨hread, hlistener, -, hsame, -⟩ :=
    texts_intact_iff hregister hunregister hplain ⟨0, none, none⟩ hpath
  exact ⟨hread.2 ⟨hascii, hascii⟩, hlistener.2 hascii, (hsame _ _ _ _ rfl rfl).2 hascii⟩

/-- An accented letter arrives as the replacement character; two Greek letters arrive as one question
mark; and an agent under such a path is unregistered under another. -/
theorem texts_garbled :
    let subject : Subject := ⟨some (.unixSession [0x31])⟩
    let check : QString → Operation := fun actionId => .checkAuthorization actionId subject 0 .empty
    let path : QString := .ofUtf16 [0x2F, 0xE9]
    Sends freshAuthority (check (.ofUtf16 [0xE9])) ((check (.ofUtf16 [0xE9])).request (some 1)) ∧
      ¬ ReadBack (check (.ofUtf16 [0xE9])) ((check (.ofUtf16 [0xE9])).request (some 1)) ∧
      (check (.ofUtf16 [0x3B1])).request (some 1) = (check (.ofUtf16 [0x3B2])).request (some 1) ∧
      (Operation.registerAuthenticationAgent subject .null path |>.request (some 1)).objectPath? ≠
        (Operation.unregisterAuthenticationAgent subject path |>.request (some 1)).objectPath? := by
  intro subject check path
  refine ⟨Or.inr rfl, ?_, rfl, ?_⟩
  · unfold ReadBack
    decide
  · decide

end Authority

end PolkitQt
