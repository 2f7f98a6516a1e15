/-
**Authorization results are faithful.**

A program that guards an operation with `checkAuthorization` acts on what the wrapper returns or
signals, so the wrapper must not invent a `Yes`, lose an answer or deliver one twice — whatever
else is going on: other checks in flight, errors latched by unrelated operations, cancels, replies
out of order.  The results below are about the whole trace of a run.

Main definitions:

* `Obs.saysYes`, `YesJustified` — a `Yes`, and what has to precede it: a reply of polkit that says
  so, to a check sent with a valid subject while no error was latched;
* `finishedResults`, `repliedResults` — the results signalled, and the results replied;
* `Obs.startsCheck`, `Obs.signalsCheck`, `Obs.endsCheck`, `checksInFlight` — the ledger of
  asynchronous checks.

Main results:

* `yes_justified`, `finishedResults_eq`, `returned_unknown_iff`, `ledger_balanced` — the four
  parts;
* `checkAuthorization_faithful` — together.
-/

import PolkitQt.AuthoritySystem

set_option relaxedAutoImplicit false
set_option autoImplicit false

namespace PolkitQt

namespace Authority

open Runs

/-! ### A Yes has a reason -/

/-- The observation hands a `Yes` to the client, as a return value or as a signal. -/
def Obs.saysYes : Obs → Bool
  | .finished .checkAuthorization v => v == .yes
  | .returned .checkAuthorization v _ => v == .yes
  | _ => false

/-- A check that was handed to polkit with a subject while no error was latched. -/
def SentCheck (past : List Obs) (id : Nat) : Prop :=
  ∃ cancellable request, Obs.sent id cancellable request false ∈ past ∧
    request.kind = .checkAuthorization ∧ request.objectValid = true

/-- Just before a `Yes` polkit answered a check, and its answer was: authorized, no challenge. -/
def YesJustified (past : List Obs) (o : Obs) : Prop :=
  o.saysYes = true → ∃ earlier id async r,
    past = earlier ++ [.answered id async .checkAuthorization (.ok (some r))] ∧
      r.isAuthorized = true ∧ r.isChallenge = false ∧ SentCheck earlier id

theorem SentCheck.append {past : List Obs} {id : Nat} (h : SentCheck past id) (t : List Obs) :
    SentCheck (past ++ t) id := by
  obtain ⟨c, request, hmem, hcheck⟩ := h
  exact ⟨c, request, List.mem_append_left t hmem, hcheck⟩

theorem Admitted.sentCheck {s : System} {k : Kind} {request : Request} (h : Admitted s k request)
    (hk : k = .checkAuthorization) (id : Nat) (c : Option GCancellable) (past : List Obs) :
    SentCheck (past ++ [.sent id c request s.d.hasError]) id := by
  obtain ⟨herr, hvalid⟩ := h.check hk
  rw [herr]
  have hmem : Obs.sent id c request false ∈ past ++ [.sent id c request false] :=
    List.mem_append_right past (List.mem_singleton.2 rfl)
  exact ⟨c, request, hmem, hk ▸ h.kind, hvalid⟩

/-- An observation that says no `Yes` needs no reason. -/
theorem YesJustified.of_not {past : List Obs} {o : Obs} (h : o.saysYes = false) :
    YesJustified past o := by
  intro hyes
  rw [h] at hyes
  exact absurd hyes (by simp)

theorem saysYes_returned_fallback (k : Kind) (b : Bool) :
    (Obs.returned k k.fallback b).saysYes = false := by
  cases k <;> rfl

/-- The reason of a value that is the outcome of the reply just received. -/
theorem YesJustified.of_outcome {past : List Obs} {id : Nat} (async : Bool) {k : Kind}
    {reply : Reply k} {v : k.Value} {o : Obs} (hv : k.outcome reply = .ok v)
    (ho : o = .finished k v ∨ ∃ b, o = .returned k v b)
    (hsent : k = .checkAuthorization → SentCheck past id) :
    YesJustified (past ++ [.answered id async k reply]) o := by
  intro hyes
  cases k with
  | checkAuthorization =>
      obtain ⟨r, rfl, rfl⟩ := Kind.outcome_check_eq_ok.1 hv
      have hr : polkitResultToResult r = .yes := by
        rcases ho with rfl | ⟨b, rfl⟩ <;> simpa [Obs.saysYes] using hyes
      obtain ⟨hauth, hchal⟩ := polkitResultToResult_eq_yes.1 hr
      exact ⟨past, id, async, r, rfl, hauth, hchal, hsent rfl⟩
  | _ => rcases ho with rfl | ⟨b, rfl⟩ <;> simp [Obs.saysYes] at hyes

/-- A request and the reply to it say no `Yes`. -/
theorem justified_exchange {t : List Obs} (h : Justified YesJustified t) (id : Nat)
    (c : Option GCancellable) (request : Request) (latched async : Bool) {k : Kind}
    (reply : Reply k) :
    Justified YesJustified
      (t ++ [.sent id c request latched] ++ [.answered id async k reply]) := by
  have hsent := justified_concat.2
    ⟨h, YesJustified.of_not (o := .sent id c request latched) rfl⟩
  exact justified_concat.2 ⟨hsent, YesJustified.of_not rfl⟩

/-- The invariant behind `yes_justified`: every check in flight was sent as it should be. -/
structure Reasoned (s : System) (t : List Obs) : Prop where
  justified : Justified YesJustified t
  inFlight : ∀ p ∈ s.inFlight, p.kind = .checkAuthorization → SentCheck t p.id

theorem Reasoned.step {s : System} {t : List Obs} (h : Reasoned s t) (e : Event) :
    Reasoned (step s e) (t ++ out s e) := by
  have keep : ∀ {s' : System} {u : List Obs}, (∀ p ∈ s'.inFlight, p ∈ s.inFlight) →
      ∀ p ∈ s'.inFlight, p.kind = .checkAuthorization → SentCheck (t ++ u) p.id :=
    fun hin p hp hk => (h.inFlight p (hin p hp) hk).append _
  refine reaction_elim s e fun s' obs hreact => ?_
  cases hreact with
  | quiet hin _ => exact ⟨by simpa using h.justified, keep fun p hp => hin ▸ hp⟩
  | refused k hin _ _ =>
      refine ⟨?_, keep fun p hp => hin ▸ hp⟩
      exact justified_concat.2
        ⟨h.justified, YesJustified.of_not (saysYes_returned_fallback k _)⟩
  | asked k request reply v hin _ hreq hv _ =>
      refine ⟨?_, keep fun p hp => hin ▸ hp⟩
      have hjust := YesJustified.of_outcome false hv (Or.inr ⟨s'.d.hasError, rfl⟩)
        (fun hk => hreq.sentCheck hk s.next none t)
      have hexchange :=
        justified_exchange h.justified s.next none request s.d.hasError false reply
      simpa using justified_concat.2 ⟨hexchange, hjust⟩
  | failed k request reply x hin _ _ _ _ =>
      refine ⟨?_, keep fun p hp => hin ▸ hp⟩
      have hexchange :=
        justified_exchange h.justified s.next none request s.d.hasError false reply
      simpa using justified_concat.2
        ⟨hexchange, YesJustified.of_not (saysYes_returned_fallback k s'.d.hasError)⟩
  | started k request hreq _ hin _ =>
      refine ⟨justified_concat.2 ⟨h.justified, YesJustified.of_not rfl⟩, ?_⟩
      intro p hp hk
      rw [hin] at hp
      rcases List.mem_cons.1 hp with rfl | hp
      · exact hreq.sentCheck hk s.next _ t
      · exact (h.inFlight p hp hk).append _
  | signalled p reply v hp hin _ hv =>
      refine ⟨?_, keep fun q hq => List.mem_of_mem_erase (hin ▸ hq)⟩
      have hanswered := justified_concat.2
        ⟨h.justified, YesJustified.of_not (o := .answered p.id true p.kind reply) rfl⟩
      -- the reason is the one recorded when the request went out
      have hjust := YesJustified.of_outcome true hv (Or.inl rfl) (h.inFlight p hp)
      simpa using justified_concat.2 ⟨hanswered, hjust⟩
  | ended p reply x hp hin _ _ =>
      refine ⟨?_, keep fun q hq => List.mem_of_mem_erase (hin ▸ hq)⟩
      exact justified_concat.2 ⟨h.justified, YesJustified.of_not rfl⟩

/-- **No invented Yes.** -/
theorem yes_justified (d : Private) (es : List Event) :
    Justified YesJustified (traceFrom d es) := by
  have hinit : Reasoned (System.start d) [] := ⟨justified_nil, fun p hp => absurd hp List.not_mem_nil⟩
  have hstep : ∀ s t e, Reasoned s t → Reasoned (step s e) (t ++ out s e) :=
    fun s t e h => h.step e
  exact (trace_induction hstep hinit es).justified

/-! ### Signals and replies -/

/-- The results signalled by `checkAuthorizationFinished`. -/
def Obs.finishedResult? : Obs → Option Result
  | .finished .checkAuthorization v => some v
  | _ => none

/-- The result a reply to an asynchronous check carries, when it reports no error and is not
null. -/
def Obs.repliedResult? : Obs → Option Result
  | .answered _ true .checkAuthorization (.ok (some r)) => some (polkitResultToResult r)
  | _ => none

def finishedResults (t : List Obs) : List Result := t.filterMap Obs.finishedResult?

def repliedResults (t : List Obs) : List Result := t.filterMap Obs.repliedResult?

theorem repliedResult?_of_outcome_ok (id : Nat) {k : Kind} {reply : Reply k} {v : k.Value}
    (hv : k.outcome reply = .ok v) :
    (Obs.answered id true k reply).repliedResult? = (Obs.finished k v).finishedResult? := by
  cases k with
  | checkAuthorization =>
      obtain ⟨r, rfl, rfl⟩ := Kind.outcome_check_eq_ok.1 hv
      rfl
  | _ => rfl

theorem repliedResult?_of_outcome_error (id : Nat) {k : Kind} {reply : Reply k}
    {x : ErrorCode × QString} (hx : k.outcome reply = .error x) :
    (Obs.answered id true k reply).repliedResult? = none := by
  cases k with
  | checkAuthorization =>
      rcases Kind.outcome_check_eq_error hx with ⟨e, rfl⟩ | rfl
      · rfl
      · rfl
  | _ => rfl

/-- One event adds the same results to both sequences. -/
theorem finishedResults_out (s : System) (e : Event) :
    finishedResults (out s e) = repliedResults (out s e) := by
  refine reaction_elim s e fun s' obs hreact => ?_
  rw [finishedResults, repliedResults]
  cases hreact with
  | quiet => rfl
  | refused => rfl
  | asked k request reply v => rfl
  | failed k request reply => rfl
  | started => rfl
  | signalled p reply v _ _ _ hv =>
      have hrep := repliedResult?_of_outcome_ok p.id hv
      have hfin : (Obs.answered p.id true p.kind reply).finishedResult? = none := rfl
      have hrep' : (Obs.finished p.kind v).repliedResult? = none := rfl
      cases hres : (Obs.finished p.kind v).finishedResult? with
      | none => simp [hfin, hrep, hrep', hres]
      | some r => simp [hfin, hrep, hrep', hres]
  | ended p reply x _ _ _ hx =>
      have hrep := repliedResult?_of_outcome_error p.id hx
      have hfin : (Obs.answered p.id true p.kind reply).finishedResult? = none := rfl
      simp [hfin, hrep]

/-- **Every reply is signalled once, in the order of arrival**, and nothing else is. -/
theorem finishedResults_eq (d : Private) (es : List Event) :
    finishedResults (traceFrom d es) = repliedResults (traceFrom d es) := by
  refine trace_induction (P := fun _ t => finishedResults t = repliedResults t) ?_ rfl es
  intro s t e h
  have hout := finishedResults_out s e
  simp only [finishedResults, repliedResults, List.filterMap_append] at h hout ⊢
  rw [h, hout]

/-- No signal carries `Unknown`. -/
theorem unknown_not_mem_repliedResults (t : List Obs) : Result.unknown ∉ repliedResults t := by
  intro hmem
  obtain ⟨o, -, ho⟩ := List.mem_filterMap.1 hmem
  unfold Obs.repliedResult? at ho
  split at ho
  · simp at ho
  · simp at ho

/-! ### Unknown means an error -/

/-- A synchronous check that returned: `Unknown` and `hasError()` go together. -/
def Obs.UnknownIffError : Obs → Prop
  | .returned .checkAuthorization v hasError => v = .unknown ↔ hasError = true
  | _ => True

theorem unknownIffError_out (s : System) (e : Event) : ∀ o ∈ out s e, o.UnknownIffError := by
  refine reaction_elim s e fun s' obs hreact => ?_
  cases hreact with
  | quiet => simp
  | refused k _ _ herr =>
      cases k with
      | checkAuthorization => simp [Obs.UnknownIffError, Kind.fallback, herr rfl]
      | _ => simp [Obs.UnknownIffError]
  | asked k request reply v _ _ hreq hv hd =>
      cases k with
      | checkAuthorization =>
          obtain ⟨r, rfl, rfl⟩ := Kind.outcome_check_eq_ok.1 hv
          simp [Obs.UnknownIffError, hd, (hreq.check rfl).1]
      | _ => simp [Obs.UnknownIffError]
  | failed k request reply x _ _ _ _ hd =>
      cases k with
      | checkAuthorization => simp [Obs.UnknownIffError, Kind.fallback, hd]
      | _ => simp [Obs.UnknownIffError]
  | started => simp [Obs.UnknownIffError]
  | signalled => simp [Obs.UnknownIffError]
  | ended => simp [Obs.UnknownIffError]

/-- **A synchronous check returns `Unknown` exactly when it leaves an error latched.** -/
theorem returned_unknown_iff (d : Private) (es : List Event) :
    ∀ o ∈ traceFrom d es, o.UnknownIffError := by
  refine trace_induction (P := fun _ t => ∀ o ∈ t, Obs.UnknownIffError o) ?_ (by simp) es
  intro s t e h o ho
  rcases List.mem_append.1 ho with ho | ho
  · exact h o ho
  · exact unknownIffError_out s e o ho

/-! ### The ledger of asynchronous checks -/

/-- An asynchronous check is accepted. -/
def Obs.startsCheck : Obs → Bool
  | .sent _ (some _) request _ => request.kind == .checkAuthorization
  | _ => false

/-- An asynchronous check is signalled. -/
def Obs.signalsCheck : Obs → Bool
  | .finished .checkAuthorization _ => true
  | _ => false

/-- An asynchronous check ends without a result: an error, a cancellation or a null reply. -/
def Obs.endsCheck : Obs → Bool
  | .answered _ true .checkAuthorization (.ok (some _)) => false
  | .answered _ true .checkAuthorization _ => true
  | _ => false

/-- How many asynchronous checks are in flight. -/
def checksInFlight (s : System) : Nat :=
  s.inFlight.countP fun p => p.kind == .checkAuthorization

/-- The accepted asynchronous checks are those in flight, those signalled and those ended. -/
def LedgerBalanced (s : System) (t : List Obs) : Prop :=
  t.countP Obs.startsCheck =
    checksInFlight s + t.countP Obs.signalsCheck + t.countP Obs.endsCheck

theorem signalsCheck_finished (k : Kind) (v : k.Value) :
    (Obs.finished k v).signalsCheck = (k == .checkAuthorization) := by
  cases k <;> rfl

theorem endsCheck_of_outcome_ok (id : Nat) {k : Kind} {reply : Reply k} {v : k.Value}
    (hv : k.outcome reply = .ok v) : (Obs.answered id true k reply).endsCheck = false := by
  cases k with
  | checkAuthorization =>
      obtain ⟨r, rfl, -⟩ := Kind.outcome_check_eq_ok.1 hv
      rfl
  | _ => rfl

theorem endsCheck_of_outcome_error (id : Nat) {k : Kind} {reply : Reply k}
    {x : ErrorCode × QString} (hx : k.outcome reply = .error x) :
    (Obs.answered id true k reply).endsCheck = (k == .checkAuthorization) := by
  cases k with
  | checkAuthorization =>
      rcases Kind.outcome_check_eq_error hx with ⟨e, rfl⟩ | rfl
      · rfl
      · rfl
  | _ => rfl

theorem checksInFlight_congr {s s' : System} (h : s'.inFlight = s.inFlight) :
    checksInFlight s' = checksInFlight s := by
  rw [checksInFlight, checksInFlight, h]

/-- Taking a request off the list takes one check off the count if it was one. -/
theorem checksInFlight_of_erase {s s' : System} {p : Pending} (hp : p ∈ s.inFlight)
    (hin : s'.inFlight = s.inFlight.erase p) :
    checksInFlight s = checksInFlight s' + (if p.kind == .checkAuthorization then 1 else 0) := by
  have hperm := List.perm_cons_erase hp
  rw [checksInFlight, checksInFlight, hin, hperm.countP_eq, List.countP_cons]

/-- One event keeps the ledger balanced. -/
theorem LedgerBalanced.step {s : System} {t : List Obs} (h : LedgerBalanced s t) (e : Event) :
    LedgerBalanced (step s e) (t ++ out s e) := by
  refine reaction_elim s e fun s' obs hreact => ?_
  rw [LedgerBalanced] at h ⊢
  simp only [List.countP_append]
  cases hreact with
  | quiet hin _ =>
      have hsame := checksInFlight_congr hin
      simp only [List.countP_nil]
      omega
  | refused k hin _ _ =>
      have hsame := checksInFlight_congr hin
      simp only [List.countP_singleton, Obs.startsCheck, Obs.signalsCheck, Obs.endsCheck]
      simp only [Bool.false_eq_true, if_false]
      omega
  | asked k request reply v hin _ _ _ _ =>
      have hsame := checksInFlight_congr hin
      simp only [List.countP_cons, List.countP_nil, Obs.startsCheck, Obs.signalsCheck,
        Obs.endsCheck, Bool.false_eq_true, if_false]
      omega
  | failed k request reply x hin _ _ _ _ =>
      have hsame := checksInFlight_congr hin
      simp only [List.countP_cons, List.countP_nil, Obs.startsCheck, Obs.signalsCheck,
        Obs.endsCheck, Bool.false_eq_true, if_false]
      omega
  | started k request hreq _ hin _ =>
      have hnew : checksInFlight s' =
          checksInFlight s + (if k == .checkAuthorization then 1 else 0) := by
        rw [checksInFlight, hin, List.countP_cons]
        rfl
      simp only [List.countP_cons, List.countP_nil, Obs.startsCheck, Obs.signalsCheck,
        Obs.endsCheck, Bool.false_eq_true, if_false, hreq.kind]
      omega
  | signalled p reply v hp hin _ hv =>
      have hold := checksInFlight_of_erase hp hin
      have hans : (Obs.answered p.id true p.kind reply).signalsCheck = false := rfl
      have hfin : (Obs.finished p.kind v).endsCheck = false := rfl
      simp only [List.countP_cons, List.countP_nil, signalsCheck_finished,
        endsCheck_of_outcome_ok p.id hv, hans, hfin, Obs.startsCheck, Bool.false_eq_true, if_false]
      omega
  | ended p reply x hp hin _ hx =>
      have hold := checksInFlight_of_erase hp hin
      have hans : (Obs.answered p.id true p.kind reply).signalsCheck = false := rfl
      simp only [List.countP_cons, List.countP_nil, endsCheck_of_outcome_error p.id hx, hans,
        Obs.startsCheck, Bool.false_eq_true, if_false]
      omega

/-- **No check is lost and none is answered twice.** -/
theorem ledger_balanced (d : Private) (es : List Event) :
    LedgerBalanced (runFrom d es) (traceFrom d es) := by
  have hinit : LedgerBalanced (System.start d) [] := rfl
  exact trace_induction (P := LedgerBalanced) (fun s t e h => h.step e) hinit es

/-! ### Together -/

/-- **Authorization results are faithful.**  Over every run of an authority, from whatever its
constructor left: a `Yes` has its reason, the signals are the replies, a synchronous check returns
`Unknown` exactly when it leaves an error latched, and every accepted asynchronous check is in
flight, signalled or ended. -/
theorem checkAuthorization_faithful (lastError : ErrorCode) (authority : Option PolkitAuthority)
    (get : Except GError (Option PolkitAuthority)) (es : List Event) :
    let d := Private.construct lastError authority get
    Justified YesJustified (traceFrom d es) ∧
      (finishedResults (traceFrom d es) = repliedResults (traceFrom d es) ∧
        Result.unknown ∉ finishedResults (traceFrom d es)) ∧
      (∀ v hasError, Obs.returned .checkAuthorization v hasError ∈ traceFrom d es →
        (v = .unknown ↔ hasError = true)) ∧
      (traceFrom d es).countP Obs.startsCheck =
        checksInFlight (runFrom d es) + (traceFrom d es).countP Obs.signalsCheck +
          (traceFrom d es).countP Obs.endsCheck := by
  intro d
  refine ⟨yes_justified d es, ⟨finishedResults_eq d es, ?_⟩, ?_, ledger_balanced d es⟩
  · rw [finishedResults_eq]
    exact unknown_not_mem_repliedResults _
  · intro v hasError hmem
    exact returned_unknown_iff d es _ hmem

end Authority

end PolkitQt
