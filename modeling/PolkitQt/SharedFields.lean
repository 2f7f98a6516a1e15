/-
**Setters of objects that copies share.**

The subclasses of `Subject` and `Identity` have a getter and a setter for what they are about: a pid,
a bus name, a session, a uid, a gid.  Both call polkit on the object behind the pointer, and a copy of
a wrapper, what `toUnixUserIdentity` returns and the `subject()` of a temporary authorization all
share that object with the original.  So a setter is heard by every variable that refers to the object
at that time, or comes to refer to it later, and by no other.

polkit's functions check the type of the object: a setter on an object of another type does nothing,
a getter returns a default.  Whether polkit's setter takes the value is part of the event.

Main definitions:

* `PolkitQt.Wrappers.setField`, and the setters and getters by their names;
* `PolkitQt.Wrappers.fieldStep` — a program that uses wrappers and setters;
* `PolkitQt.Wrappers.Setting.concerns` — the object is of the type that the setter is for;
* `PolkitQt.Wrappers.Shows` — what the getter returns after the setter.

Main results:

* `PolkitQt.Wrappers.applyAll_eq` — of any settings the last that concerns the object counts;
* `PolkitQt.Wrappers.holds_run` — what an object holds after any run;
* `PolkitQt.Wrappers.setters_shared` — **what every variable shows**, whichever variable was used to
  set it.
-/

import PolkitQt.ProcessSubjects
import PolkitQt.SharedDetails

set_option relaxedAutoImplicit false
set_option autoImplicit false

namespace PolkitQt

namespace Wrappers

open QString RefCount Runs Gui

/-! ### polkit's side -/

/-- A setter and the value it is given. -/
inductive Setting
  | pid (pid : Int64)
  | name (name : QString)
  | sessionId (sessionId : QString)
  | uid (uid : UInt32)
  | gid (gid : UInt32)
  deriving DecidableEq, Repr

namespace Setting

/-- What polkit's setter makes of the object: nothing new, if it is of another type. -/
def apply : Setting → PolkitObject → PolkitObject
  | pid p, .subject (.unixProcess _ startTime owner) =>
      .subject (.unixProcess p.toInt32 startTime owner)
  | name n, .subject (.systemBusName _) => .subject (.systemBusName (cString n.toUtf8))
  | sessionId n, .subject (.unixSession _) => .subject (.unixSession (cString n.toUtf8))
  | uid u, .identity (.unixUser _) => .identity (.unixUser u)
  | gid g, .identity (.unixGroup _) => .identity (.unixGroup g)
  | _, v => v

/-- The object is of the type that the setter is for. -/
def concerns : Setting → PolkitObject → Bool
  | pid _, .subject (.unixProcess ..) => true
  | name _, .subject (.systemBusName _) => true
  | sessionId _, .subject (.unixSession _) => true
  | uid _, .identity (.unixUser _) => true
  | gid _, .identity (.unixGroup _) => true
  | _, _ => false

end Setting

/-- `polkit_unix_process_get_uid`: -1 if the pointer is null or not to a process. -/
def polkitUnixProcessGetUid : Option PolkitSubject → Int32
  | some (.unixProcess _ _ uid) => uid
  | _ => -1

/-- `polkit_system_bus_name_get_name`: null if the pointer is null or not to a bus name. -/
def polkitSystemBusNameGetName : Option PolkitSubject → Option Bytes
  | some (.systemBusName name) => some name
  | _ => none

/-- `polkit_unix_session_get_session_id`: null if the pointer is null or not to a session. -/
def polkitUnixSessionGetSessionId : Option PolkitSubject → Option Bytes
  | some (.unixSession sessionId) => some sessionId
  | _ => none

/-- `polkit_unix_user_get_uid`: -1, as a `uid_t`, if the pointer is null or not to a user. -/
def polkitUnixUserGetUid : Option PolkitIdentity → UInt32
  | some (.unixUser uid) => uid
  | _ => 0xFFFFFFFF

/-- `polkit_unix_group_get_gid`: -1, as a `gid_t`, if the pointer is null or not to a group. -/
def polkitUnixGroupGetGid : Option PolkitIdentity → UInt32
  | some (.unixGroup gid) => gid
  | _ => 0xFFFFFFFF

/-! ### The wrappers -/

section Methods

variable (h : Heap) (i : Nat)

/-- `subject()`, of a variable. -/
def Heap.subject? : Option PolkitSubject :=
  match (h.refers i).bind (content? h.objects) with
  | some (.subject s) => some s
  | _ => none

/-- `identity()`, of a variable. -/
def Heap.identity? : Option PolkitIdentity :=
  match (h.refers i).bind (content? h.objects) with
  | some (.identity s) => some s
  | _ => none

/-- The object holds `v` from now on. -/
def setContent (o : ObjectId) (v : PolkitObject) : Heap :=
  { h with objects := replace h.objects o v }

/-- A setter, of a variable.  polkit refuses a null pointer. -/
def setField (s : Setting) (accepted : Bool) : Heap :=
  match h.refers i with
  | none => h
  | some o =>
      match content? h.objects o with
      | none => h
      | some v => if accepted then setContent h o (s.apply v) else h

def UnixProcessSubject.pid : Int64 := (polkitUnixProcessGetPid (h.subject? i)).toInt64

def UnixProcessSubject.startTime : Int64 := (polkitUnixProcessGetStartTime (h.subject? i)).toInt64

def UnixProcessSubject.uid : Int64 := (polkitUnixProcessGetUid (h.subject? i)).toInt64

def UnixProcessSubject.setPid (pid : Int64) : Heap := setField h i (.pid pid) true

def SystemBusNameSubject.name : QString :=
  (polkitSystemBusNameGetName (h.subject? i)).elim .null fromUtf8

def SystemBusNameSubject.setName (name : QString) (accepted : Bool) : Heap :=
  setField h i (.name name) accepted

def UnixSessionSubject.sessionId : QString :=
  (polkitUnixSessionGetSessionId (h.subject? i)).elim .null fromUtf8

def UnixSessionSubject.setSessionId (sessionId : QString) : Heap :=
  setField h i (.sessionId sessionId) true

def UnixUserIdentity.uid : UInt32 := polkitUnixUserGetUid (h.identity? i)

def UnixUserIdentity.setUid (uid : UInt32) (accepted : Bool) : Heap :=
  setField h i (.uid uid) accepted

def UnixGroupIdentity.gid : UInt32 := polkitUnixGroupGetGid (h.identity? i)

def UnixGroupIdentity.setGid (gid : UInt32) (accepted : Bool) : Heap :=
  setField h i (.gid gid) accepted

end Methods

/-- What a program does: with the wrappers, and with the objects through them. -/
inductive FieldEvent
  | wrapper (e : Event)
  | setPid (i : Nat) (pid : Int64)
  | setName (i : Nat) (name : QString) (accepted : Bool)
  | setSessionId (i : Nat) (sessionId : QString)
  | setUid (i : Nat) (uid : UInt32) (accepted : Bool)
  | setGid (i : Nat) (gid : UInt32) (accepted : Bool)

def fieldStep (h : Heap) : FieldEvent → Heap
  | .wrapper e => step h e
  | .setPid i pid => UnixProcessSubject.setPid h i pid
  | .setName i name accepted => SystemBusNameSubject.setName h i name accepted
  | .setSessionId i sessionId => UnixSessionSubject.setSessionId h i sessionId
  | .setUid i uid accepted => UnixUserIdentity.setUid h i uid accepted
  | .setGid i gid accepted => UnixGroupIdentity.setGid h i gid accepted

/-- The variable, the setting, and whether polkit takes it. -/
def FieldEvent.call? : FieldEvent → Option (Nat × Setting × Bool)
  | wrapper _ => none
  | setPid i pid => some (i, .pid pid, true)
  | setName i name accepted => some (i, .name name, accepted)
  | setSessionId i sessionId => some (i, .sessionId sessionId, true)
  | setUid i uid accepted => some (i, .uid uid, accepted)
  | setGid i gid accepted => some (i, .gid gid, accepted)

/-- What an event sets of the object `o`. -/
def settings (o : ObjectId) (h : Heap) (e : FieldEvent) : List Setting :=
  match e.call? with
  | none => []
  | some (i, s, accepted) => if h.refers i = some o ∧ accepted = true then [s] else []

/-- An event is one of the wrappers, or a setter. -/
theorem fieldStep_cases (h : Heap) (e : FieldEvent) :
    (∃ w, fieldStep h e = step h w ∧ e.call? = none) ∨
      ∃ i s accepted, fieldStep h e = setField h i s accepted ∧ e.call? = some (i, s, accepted) := by
  cases e with
  | wrapper e => exact Or.inl ⟨e, rfl, rfl⟩
  | setPid i pid => exact Or.inr ⟨i, _, _, rfl, rfl⟩
  | setName i name accepted => exact Or.inr ⟨i, _, _, rfl, rfl⟩
  | setSessionId i sessionId => exact Or.inr ⟨i, _, _, rfl, rfl⟩
  | setUid i uid accepted => exact Or.inr ⟨i, _, _, rfl, rfl⟩
  | setGid i gid accepted => exact Or.inr ⟨i, _, _, rfl, rfl⟩

/-! ### One object and its settings -/

namespace Setting

/-- A setting that is not for the object leaves it as it is. -/
theorem apply_of_not_concerns {s : Setting} {v : PolkitObject} (h : s.concerns v = false) :
    s.apply v = v := by
  rcases v with (_ | _ | _) | (_ | _ | _) | _
  all_goals cases s
  all_goals first | rfl | cases h

/-- The object keeps its type. -/
@[simp] theorem concerns_apply (s t : Setting) (v : PolkitObject) :
    s.concerns (t.apply v) = s.concerns v := by
  rcases v with (_ | _ | _) | (_ | _ | _) | _
  all_goals cases t
  all_goals first | rfl | (cases s <;> rfl)

/-- Nothing is left of an earlier setting. -/
theorem apply_apply {s t : Setting} {v : PolkitObject} (hs : s.concerns v = true)
    (ht : t.concerns v = true) : s.apply (t.apply v) = s.apply v := by
  rcases v with (_ | _ | _) | (_ | _ | _) | _
  all_goals cases t
  all_goals cases ht
  all_goals cases s
  all_goals first | rfl | cases hs

end Setting

/-- Settings one after the other. -/
def applyAll (v : PolkitObject) (ss : List Setting) : PolkitObject :=
  ss.foldl (fun v s => s.apply v) v

/-- The last setting that is for the object. -/
def lastSetting (v : PolkitObject) (ss : List Setting) : Option Setting :=
  (ss.filter fun s => s.concerns v).getLast?

theorem concerns_of_lastSetting {v : PolkitObject} {ss : List Setting} {s : Setting}
    (h : lastSetting v ss = some s) : s.concerns v = true :=
  (List.mem_filter.1 (List.mem_of_getLast? h)).2

/-- **Of any settings the last that concerns the object counts.** -/
theorem applyAll_eq (v : PolkitObject) (ss : List Setting) :
    applyAll v ss = (lastSetting v ss).elim v fun s => s.apply v := by
  induction ss using List.reverseRecOn with
  | nil => rfl
  | append_singleton ss s ih =>
      rw [applyAll, List.foldl_append, List.foldl_cons, List.foldl_nil, ← applyAll, ih]
      cases hs : s.concerns v with
      | true =>
          have hlast : lastSetting v (ss ++ [s]) = some s := by
            have hfilter : [s].filter (fun s => s.concerns v) = [s] := by simp [hs]
            rw [lastSetting, List.filter_append, hfilter, List.getLast?_concat]
          rw [hlast, Option.elim_some]
          cases hbefore : lastSetting v ss with
          | none => rfl
          | some t => exact Setting.apply_apply hs (concerns_of_lastSetting hbefore)
      | false =>
          have hlast : lastSetting v (ss ++ [s]) = lastSetting v ss := by
            have hfilter : [s].filter (fun s => s.concerns v) = [] := by simp [hs]
            rw [lastSetting, List.filter_append, hfilter, List.append_nil, lastSetting]
          rw [hlast]
          refine Setting.apply_of_not_concerns ?_
          cases lastSetting v ss with
          | none => exact hs
          | some t => exact (Setting.concerns_apply s t v).trans hs

/-! ### What a setter leaves alone -/

theorem setField_cases (h : Heap) (i : Nat) (s : Setting) (accepted : Bool) :
    (setField h i s accepted = h ∧
        ∀ o v, h.refers i = some o → content? h.objects o = some v → accepted = false) ∨
      ∃ o v, h.refers i = some o ∧ content? h.objects o = some v ∧ accepted = true ∧
        setField h i s accepted = setContent h o (s.apply v) := by
  rw [setField]
  cases hrefers : h.refers i with
  | none => exact Or.inl ⟨rfl, fun o v ho => by cases ho⟩
  | some o =>
      dsimp only
      cases hcontent : content? h.objects o with
      | none =>
          refine Or.inl ⟨rfl, fun o' v ho' hv => ?_⟩
          obtain rfl := Option.some.inj ho'
          rw [hcontent] at hv
          cases hv
      | some v =>
          cases accepted with
          | true => exact Or.inr ⟨o, v, rfl, hcontent, rfl, rfl⟩
          | false => exact Or.inl ⟨rfl, fun _ _ _ _ => rfl⟩

/-- Nothing is counted anew when an object changes. -/
theorem change_setContent (h : Heap) (o : ObjectId) (v : PolkitObject) :
    Change h (setContent h o v) 0 := by
  refine ⟨fun hcounted => ⟨hcounted.objects.replace _ _, hcounted.authorizations,
    hcounted.blocks, hcounted.authorizationBlocks⟩, fun x => ?_⟩
  cases x with
  | object o' =>
      have hcount := countAt_replace (s := h.objects) o v o'
      simp only [spare, count, held, setContent, hcount, Pi.zero_apply, Int.add_zero]
  | _ => exact (Int.add_zero _).symm

theorem sound_fieldStep {h : Heap} (hsound : Sound h) (e : FieldEvent) :
    Sound (fieldStep h e) := by
  obtain ⟨w, hstep, -⟩ | ⟨i, s, accepted, hstep, -⟩ := fieldStep_cases h e
  · rw [hstep]
    exact sound_step hsound w
  · rw [hstep]
    obtain ⟨heq, -⟩ | ⟨o, v, -, -, -, heq⟩ := setField_cases h i s accepted
    · rw [heq]
      exact hsound
    · have hchange := change_setContent h o (s.apply v)
      rw [heq]
      refine ⟨hchange.counted hsound.counted, hchange.nonneg hsound.nonneg fun _ =>
        Int.le_refl 0, fun x hx => ?_⟩
      rw [hchange.spare, hsound.zero x hx]
      rfl

/-- The object holds `v`, or it is freed. -/
structure Holds (o : ObjectId) (v : PolkitObject) (h : Heap) : Prop where
  lt_length : o < h.objects.length
  content : cell? h.objects o = none ∨ content? h.objects o = some v

namespace Holds

variable {o : ObjectId} {v : PolkitObject} {h h' : Heap}

theorem of_content (hv : content? h.objects o = some v) : Holds o v h := by
  obtain ⟨c, hc, -⟩ := Option.map_eq_some_iff.1 hv
  exact ⟨lt_of_cell? hc, Or.inr hv⟩

theorem of_keeps (hholds : Holds o v h) (hkeeps : Keeps h h') : Holds o v h' := by
  refine ⟨Nat.lt_of_lt_of_le hholds.lt_length hkeeps.length_le, ?_⟩
  rcases hkeeps.kept o hholds.lt_length with hfreed | hsame
  · exact Or.inl hfreed
  · rcases hholds.content with hfreed | hv
    · left
      rwa [content?_eq_none_iff.2 hfreed, content?_eq_none_iff] at hsame
    · exact Or.inr (hsame.trans hv)

/-- What a live object holds. -/
theorem content_eq (hholds : Holds o v h) {w : PolkitObject}
    (hw : content? h.objects o = some w) : w = v := by
  rcases hholds.content with hfreed | hv
  · rw [content?_eq_none_iff.2 hfreed] at hw
    cases hw
  · exact Option.some.inj (hw.symm.trans hv)

theorem setContent_self (hholds : Holds o v h) {w : PolkitObject}
    (hw : content? h.objects o = some w) (u : PolkitObject) : Holds o u (setContent h o u) := by
  refine ⟨?_, Or.inr (content?_replace_self hw u)⟩
  rw [setContent, length_replace]
  exact hholds.lt_length

theorem setContent_other (hholds : Holds o v h) {o' : ObjectId} (hne : o ≠ o')
    (u : PolkitObject) : Holds o v (setContent h o' u) := by
  refine ⟨?_, ?_⟩
  · rw [setContent, length_replace]
    exact hholds.lt_length
  · simp only [setContent, content?, cell?_replace_of_ne hne]
    exact hholds.content

/-- **What one event does to what an object holds.** -/
theorem fieldStep (hholds : Holds o v h) (hsound : Sound h) (e : FieldEvent) :
    Holds o (applyAll v (settings o h e)) (Wrappers.fieldStep h e) := by
  obtain ⟨w, hstep, hcall⟩ | ⟨i, s, accepted, hstep, hcall⟩ := fieldStep_cases h e
  · rw [hstep, settings, hcall]
    exact hholds.of_keeps (persists_step h w)
  · rw [hstep, settings, hcall]
    dsimp only
    obtain ⟨heq, hnot⟩ | ⟨o', w, hrefers, hw, haccepted, heq⟩ := setField_cases h i s accepted
    · -- the setter did nothing, so polkit refused it or the variable is none of the object's
      have hsilent : ¬(h.refers i = some o ∧ accepted = true) := by
        rintro ⟨hrefers, haccepted⟩
        obtain ⟨w, hw⟩ := exists_content_of_refers hsound hrefers
        rw [hnot o w hrefers hw] at haccepted
        cases haccepted
      rw [heq, if_neg hsilent]
      exact hholds
    · rw [heq]
      by_cases hsame : o = o'
      · obtain rfl := hsame
        rw [if_pos ⟨hrefers, haccepted⟩, hholds.content_eq hw]
        exact hholds.setContent_self hw _
      · have hsilent : ¬(h.refers i = some o ∧ accepted = true) := by
          rintro ⟨hrefers', -⟩
          exact hsame (Option.some.inj (hrefers'.symm.trans hrefers))
        rw [if_neg hsilent]
        exact hholds.setContent_other hsame _

end Holds

/-- Along a run, with all that is set meanwhile. -/
theorem holds_run {o : ObjectId} {v : PolkitObject} {h : Heap} (hsound : Sound h)
    (hholds : Holds o v h) (es : List FieldEvent) :
    Sound (run fieldStep h es) ∧
      Holds o (applyAll v (trace fieldStep (settings o) h es)) (run fieldStep h es) := by
  refine trace_induction (P := fun h' ss => Sound h' ∧ Holds o (applyAll v ss) h') ?_
    ⟨hsound, hholds⟩ es
  rintro h' ss e ⟨hsound', hholds'⟩
  rw [applyAll, List.foldl_append, ← applyAll]
  exact ⟨sound_fieldStep hsound' e, hholds'.fieldStep hsound' e⟩

/-! ### What the getters return -/

/-- The getter returns what the setter was given, as far as polkit can hold it. -/
def Shows (h : Heap) (i : Nat) : Setting → Prop
  | .pid pid => UnixProcessSubject.pid h i = pid ↔ FitsGint pid
  | .name name => name.Plain → SystemBusNameSubject.name h i = ofUtf16 (dropBom name.utf16)
  | .sessionId sessionId =>
      sessionId.Plain → UnixSessionSubject.sessionId h i = ofUtf16 (dropBom sessionId.utf16)
  | .uid uid => UnixUserIdentity.uid h i = uid
  | .gid gid => UnixGroupIdentity.gid h i = gid

section Reading

variable {h : Heap} {i : Nat} {o : ObjectId}

theorem subject?_of_content {subject : PolkitSubject} (hrefers : h.refers i = some o)
    (hcontent : content? h.objects o = some (.subject subject)) : h.subject? i = some subject := by
  rw [Heap.subject?, hrefers, Option.bind_some, hcontent]

theorem identity?_of_content {identity : PolkitIdentity} (hrefers : h.refers i = some o)
    (hcontent : content? h.objects o = some (.identity identity)) :
    h.identity? i = some identity := by
  rw [Heap.identity?, hrefers, Option.bind_some, hcontent]

theorem shows_of_content {s : Setting} {v : PolkitObject} (hs : s.concerns v = true)
    (hrefers : h.refers i = some o) (hcontent : content? h.objects o = some (s.apply v)) :
    Shows h i s := by
  rcases v with (_ | _ | _) | (_ | _ | _) | _
  all_goals cases s
  all_goals cases hs
  · have hsubject := subject?_of_content hrefers hcontent
    rw [Shows, UnixProcessSubject.pid, hsubject]
    exact toInt64_toInt32_iff
  · have hsubject := subject?_of_content hrefers hcontent
    intro hplain
    rw [SystemBusNameSubject.name, hsubject]
    exact fromUtf8_toUtf8 hplain
  · have hsubject := subject?_of_content hrefers hcontent
    intro hplain
    rw [UnixSessionSubject.sessionId, hsubject]
    exact fromUtf8_toUtf8 hplain
  · have hidentity := identity?_of_content hrefers hcontent
    rw [Shows, UnixUserIdentity.uid, hidentity]
    rfl
  · have hidentity := identity?_of_content hrefers hcontent
    rw [Shows, UnixGroupIdentity.gid, hidentity]
    rfl

end Reading

/-- **Setters are heard through every variable.**  Let an object hold `v` at some time.  Whatever the
program did before and does afterwards, with the wrappers and with setters of any variables: if the
object is alive at the end, it holds `v` with the last setting applied that was for its type and was
made through a variable that referred to it at that time, be there a variable left or not.  Every
variable that refers to it then shows that setting: a uid and a gid as they are, a pid exactly if it
fits a `gint`, a plain name but for a byte order mark. -/
theorem setters_shared (before after : List FieldEvent) {o : ObjectId} {v : PolkitObject}
    (hv : content? (run fieldStep Heap.empty before).objects o = some v) :
    let h₀ := run fieldStep Heap.empty before
    let h := run fieldStep h₀ after
    let last := lastSetting v (trace fieldStep (settings o) h₀ after)
    (∀ w, content? h.objects o = some w → w = last.elim v fun s => s.apply v) ∧
      ∀ i, h.refers i = some o →
        content? h.objects o = some (last.elim v fun s => s.apply v) ∧
          ∀ s, last = some s → Shows h i s := by
  intro h₀ h last
  have hsound₀ : Sound h₀ :=
    run_inv (I := Sound) (fun _ e hsound => sound_fieldStep hsound e) sound_empty before
  obtain ⟨hsound, hholds⟩ := holds_run hsound₀ (Holds.of_content hv) after
  rw [applyAll_eq] at hholds
  have hlive : ∀ w, content? h.objects o = some w → w = last.elim v fun s => s.apply v :=
    fun w hw => hholds.content_eq hw
  refine ⟨hlive, fun i hrefers => ?_⟩
  obtain ⟨w, hw⟩ := exists_content_of_refers hsound hrefers
  have hcontent : content? h.objects o = some (last.elim v fun s => s.apply v) := by
    rw [← hlive w hw]
    exact hw
  refine ⟨hcontent, fun s hs => ?_⟩
  rw [hs] at hcontent
  exact shows_of_content (concerns_of_lastSetting hs) hrefers hcontent

/-- A subject is copied, the original is destroyed after the copy was copied again, and the first copy
is given a new pid, then another subject: the second copy shows the pid.  Without any copies the
object still holds it while the caller keeps a reference. -/
theorem setters_shared_copies :
    let copied := run fieldStep (run fieldStep Heap.empty [.wrapper (.unixProcessSubject 7)])
      [.wrapper (.copy 0), .wrapper (.copy 1), .wrapper (.destroy 0), .setPid 1 42,
        .wrapper (.unixProcessSubject 8), .wrapper (.assign 1 3), .setPid 1 9]
    let kept := run fieldStep (run fieldStep Heap.empty [.wrapper (.unixProcessSubject 7)])
      [.wrapper (.ref 0), .setPid 0 42, .wrapper (.destroy 0)]
    (content? copied.objects 0 = some (.subject (.unixProcess 42 0 (-1))) ∧
      UnixProcessSubject.pid copied 2 = 42) ∧
    kept.refers 0 = none ∧ content? kept.objects 0 = some (.subject (.unixProcess 42 0 (-1))) := by
  intro copied kept
  obtain ⟨-, hrefers⟩ := setters_shared [.wrapper (.unixProcessSubject 7)]
    [.wrapper (.copy 0), .wrapper (.copy 1), .wrapper (.destroy 0), .setPid 1 42,
      .wrapper (.unixProcessSubject 8), .wrapper (.assign 1 3), .setPid 1 9]
    (o := 0) (v := .subject (.unixProcess 7 0 (-1))) (by decide)
  obtain ⟨hcontent, hshows⟩ := hrefers 2 (by decide)
  have hpid := hshows (.pid 42) (by decide)
  obtain ⟨hlive, -⟩ := setters_shared [.wrapper (.unixProcessSubject 7)]
    [.wrapper (.ref 0), .setPid 0 42, .wrapper (.destroy 0)]
    (o := 0) (v := .subject (.unixProcess 7 0 (-1))) (by decide)
  obtain ⟨w, hw⟩ : ∃ w, content? kept.objects 0 = some w := Option.isSome_iff_exists.1 (by decide)
  have hkept : w = .subject (.unixProcess 42 0 (-1)) := (hlive w hw).trans (by decide)
  exact ⟨⟨hcontent.trans (by decide), hpid.2 (by decide)⟩, by decide, by rw [hw, hkept]⟩

end Wrappers

end PolkitQt
