/-
**The listener adapter: an authentication request reaches the agent.**

polkit asks an agent to authenticate by calling `initiate_authentication` with C data; the adapter
turns the data into Qt values and passes them to `Listener::initiateAuthentication`.  polkit may
name an identity more than once, so the adapter first puts the identities into a `QHash` and hands
over its values.  The table is keyed by the hash of the identity alone: two identities that are
not equal and have the same hash — user 0 and group 0, say — become one, and the agent can no
longer choose the other.

What polkit computes is a parameter here: `polkit_identity_hash` and `polkit_identity_equal`.

Main definitions:

* `PolkitQt.ListenerAdapter.uniqueIdentities` — the table;
* `PolkitQt.ListenerAdapter.polkitQtListenerInitiateAuthentication` — the arguments the listener
  is called with;
* `PolkitQt.ListenerAdapter.IdentitiesUnique` — every identity once and no other, up to
  `polkit_identity_equal`.

Main results:

* `PolkitQt.ListenerAdapter.identitiesUnique_iff` — the identities handed over are unique in this
  sense exactly when identities of the input with the same hash are equal;
* `PolkitQt.ListenerAdapter.identities_upToOrder` — **their order is that of the table**, which can
  be any.
-/

import PolkitQt.HashTable
import PolkitQt.Polkit

set_option relaxedAutoImplicit false
set_option autoImplicit false

namespace PolkitQt

namespace ListenerAdapter

open HashTable

/-! ### The request -/

/-- `Details`: a wrapped `PolkitDetails *`. -/
structure Details where
  details : Option PolkitDetails
  deriving DecidableEq, Repr

/-- The arguments of `Listener::initiateAuthentication`; `result` is the task the agent completes,
known by its address. -/
structure AuthenticationRequest where
  actionId : QString
  message : QString
  iconName : QString
  details : Details
  cookie : QString
  identities : List Identity
  result : Nat

/-- `QString::fromUtf8` of a C string that may be null. -/
def fromUtf8OrNull : Option Bytes → QString
  | none => .null
  | some b => QString.fromUtf8 b

/-- `uniqueIdentities`, a `QHash` from hash values to identities.  The order in which a `QHash`
lists its values is not specified. -/
def uniqueIdentities (polkitIdentityHash : PolkitIdentity → UInt32)
    (identities : List PolkitIdentity) : Table UInt32 PolkitIdentity :=
  index polkitIdentityHash identities

/-- `polkit_qt_listener_initiate_authentication`. -/
def polkitQtListenerInitiateAuthentication (polkitIdentityHash : PolkitIdentity → UInt32)
    (it : IterationOrder UInt32 PolkitIdentity) (actionId message iconName : Option Bytes)
    (details : Option PolkitDetails) (cookie : Option Bytes) (identities : List PolkitIdentity)
    (result : Nat) : AuthenticationRequest where
  actionId := fromUtf8OrNull actionId
  message := fromUtf8OrNull message
  iconName := fromUtf8OrNull iconName
  details := ⟨details⟩
  cookie := fromUtf8OrNull cookie
  identities := ((uniqueIdentities polkitIdentityHash identities).values it).map fun identity =>
    ⟨some identity⟩
  result := result

/-! ### Every identity once -/

/-- What polkit promises of its two functions: `polkit_identity_equal` is an equivalence, and equal
identities have the same hash. -/
structure IdentityLaws (polkitIdentityEqual : PolkitIdentity → PolkitIdentity → Bool)
    (polkitIdentityHash : PolkitIdentity → UInt32) : Prop where
  equivalence : Equivalence fun a b => polkitIdentityEqual a b = true
  hash_eq : ∀ a b, polkitIdentityEqual a b = true → polkitIdentityHash a = polkitIdentityHash b

/-- Up to `polkit_identity_equal`, the output has every identity of the input and no other, each
once. -/
structure IdentitiesUnique (polkitIdentityEqual : PolkitIdentity → PolkitIdentity → Bool)
    (input : List PolkitIdentity) (output : List Identity) : Prop where
  covers : ∀ a ∈ input, ∃ o ∈ output, ∃ b, o.identity = some b ∧ polkitIdentityEqual a b = true
  sound : ∀ o ∈ output, ∃ b, o.identity = some b ∧
    ∃ a ∈ input, polkitIdentityEqual a b = true
  once : output.Pairwise fun o p => ∀ a b, o.identity = some a → p.identity = some b →
    polkitIdentityEqual a b = false

/-- **De-duplication loses an identity exactly when two unequal ones share a hash.** -/
theorem identitiesUnique_iff {polkitIdentityEqual : PolkitIdentity → PolkitIdentity → Bool}
    {polkitIdentityHash : PolkitIdentity → UInt32}
    (laws : IdentityLaws polkitIdentityEqual polkitIdentityHash)
    (it : IterationOrder UInt32 PolkitIdentity) (actionId message iconName : Option Bytes)
    (details : Option PolkitDetails) (cookie : Option Bytes) (identities : List PolkitIdentity)
    (result : Nat) :
    IdentitiesUnique polkitIdentityEqual identities
        (polkitQtListenerInitiateAuthentication polkitIdentityHash it actionId message iconName
          details cookie identities result).identities ↔
      ∀ a ∈ identities, ∀ b ∈ identities, polkitIdentityHash a = polkitIdentityHash b →
        polkitIdentityEqual a b = true := by
  have hcovers := covers_index_iff laws.equivalence laws.hash_eq it identities
  rw [← hcovers]
  constructor
  · intro h a ha
    obtain ⟨o, ho, b, hb, hab⟩ := h.covers a ha
    obtain ⟨c, hc, rfl⟩ := List.mem_map.1 ho
    obtain rfl := Option.some.inj hb
    exact ⟨c, hc, hab⟩
  · intro h
    refine ⟨?_, ?_, ?_⟩
    · intro a ha
      obtain ⟨b, hb, hab⟩ := h a ha
      exact ⟨⟨some b⟩, List.mem_map_of_mem hb, b, rfl, hab⟩
    · -- a value of the table is itself an identity of the input
      intro o ho
      obtain ⟨b, hb, rfl⟩ := List.mem_map.1 ho
      exact ⟨b, rfl, b, mem_of_mem_values_index hb, laws.equivalence.refl b⟩
    · -- two values have different hashes, so they are not equal
      have hkeys := pairwise_values_index polkitIdentityHash it identities
      refine List.pairwise_map.2 (hkeys.imp ?_)
      intro b c hne x y hx hy
      obtain rfl := Option.some.inj hx
      obtain rfl := Option.some.inj hy
      rw [← Bool.not_eq_true]
      exact fun heq => hne (laws.hash_eq b c heq)

/-! ### A user and a group with the same number -/

/-- `g_str_hash`: the bytes are read as signed characters. -/
def gStrHash (s : Bytes) : UInt32 :=
  s.foldl (fun h c => h * 33 + c.toInt8.toInt32.toUInt32) 5381

/-- polkit's own hash of each kind of identity. -/
def numericHash : PolkitIdentity → UInt32
  | .unixUser uid => uid
  | .unixGroup gid => gid
  | .unixNetgroup name => gStrHash name

/-- Identities are equal when they are of one kind and have the same number or name. -/
def sameIdentity (a b : PolkitIdentity) : Bool := a == b

theorem identityLaws_sameIdentity : IdentityLaws sameIdentity numericHash := by
  have hiff : ∀ a b, sameIdentity a b = true ↔ a = b := fun a b => beq_iff_eq
  refine ⟨⟨?_, ?_, ?_⟩, ?_⟩
  · intro a
    exact (hiff a a).2 rfl
  · intro a b hab
    exact (hiff b a).2 ((hiff a b).1 hab).symm
  · intro a b c hab hbc
    exact (hiff a c).2 (((hiff a b).1 hab).trans ((hiff b c).1 hbc))
  · intro a b hab
    rw [(hiff a b).1 hab]

/-- Administrators as polkit lists them, with a repetition. -/
theorem identitiesUnique_iff_repeated :
    IdentityLaws sameIdentity numericHash ∧
      (IdentitiesUnique sameIdentity [.unixUser 0, .unixGroup 27, .unixUser 0]
          (polkitQtListenerInitiateAuthentication numericHash .asInserted none none none none none
            [.unixUser 0, .unixGroup 27, .unixUser 0] 0).identities ↔
        ∀ a ∈ [PolkitIdentity.unixUser 0, .unixGroup 27, .unixUser 0],
          ∀ b ∈ [PolkitIdentity.unixUser 0, .unixGroup 27, .unixUser 0],
            numericHash a = numericHash b → sameIdentity a b = true) :=
  ⟨identityLaws_sameIdentity,
    identitiesUnique_iff identityLaws_sameIdentity .asInserted none none none none none _ 0⟩

/-- User 0 is lost to group 0. -/
theorem user_lost_to_group :
    ¬ IdentitiesUnique sameIdentity [.unixUser 0, .unixGroup 0]
      (polkitQtListenerInitiateAuthentication numericHash .asInserted none none none none none
        [.unixUser 0, .unixGroup 0] 0).identities := by
  have houtput : (polkitQtListenerInitiateAuthentication numericHash .asInserted none none none
      none none [.unixUser 0, .unixGroup 0] 0).identities = [⟨some (.unixGroup 0)⟩] := by decide
  intro h
  obtain ⟨o, ho, b, hb, heq⟩ := h.covers (.unixUser 0) (List.mem_cons_self ..)
  rw [houtput, List.mem_singleton] at ho
  subst ho
  obtain rfl := Option.some.inj hb
  exact absurd heq (by decide)

/-! ### The order of the identities -/

/-- **The agent sees polkit's identities in an order that is left open.**  When different identities
have different hashes, it gets those of the input without their repetitions; every arrangement of
them occurs for some order of the table; and it is the same for all orders exactly if there are no
two different identities. -/
theorem identities_upToOrder {polkitIdentityHash : PolkitIdentity → UInt32}
    {identities : List PolkitIdentity}
    (hdistinct : ∀ a ∈ identities, ∀ b ∈ identities,
      polkitIdentityHash a = polkitIdentityHash b → a = b)
    (actionId message iconName : Option Bytes) (details : Option PolkitDetails)
    (cookie : Option Bytes) (result : Nat) :
    let delivered := fun it => (polkitQtListenerInitiateAuthentication polkitIdentityHash it actionId
      message iconName details cookie identities result).identities
    (∀ it, (delivered it).Perm (identities.eraseDups.map fun identity => ⟨some identity⟩)) ∧
      (∀ output : List PolkitIdentity, output.Perm identities.eraseDups →
        ∃ it, delivered it = output.map fun identity => ⟨some identity⟩) ∧
      ((∀ it it', delivered it = delivered it') ↔
        ∀ a ∈ identities, ∀ b ∈ identities, a = b) := by
  intro delivered
  have hinjective : Function.Injective fun identity : PolkitIdentity =>
      (⟨some identity⟩ : Identity) := fun a b h => Option.some.inj (Identity.mk.inj h)
  have hiff := values_index_eq_iff hdistinct
  refine ⟨?_, ?_, ?_⟩
  · intro it
    exact (values_index_perm hdistinct it).map _
  · intro output houtput
    obtain ⟨it, hit⟩ := exists_values_index hdistinct houtput
    exact ⟨it, congrArg (List.map _) hit⟩
  · rw [← hiff]
    constructor
    · exact fun h it it' => List.map_injective_iff.2 hinjective (h it it')
    · exact fun h it it' => congrArg (List.map _) (h it it')

/-- Two users and a group, one of them listed twice. -/
theorem identities_upToOrder_three :
    let identities : List PolkitIdentity := [.unixUser 0, .unixUser 1000, .unixUser 0, .unixGroup 27]
    let delivered := fun it => (polkitQtListenerInitiateAuthentication numericHash it none none none
      none none identities 0).identities
    (∀ it, (delivered it).Perm
      [⟨some (.unixUser 0)⟩, ⟨some (.unixUser 1000)⟩, ⟨some (.unixGroup 27)⟩]) ∧
      ∃ it it', delivered it ≠ delivered it' := by
  intro identities delivered
  have hdistinct : ∀ a ∈ identities, ∀ b ∈ identities, numericHash a = numericHash b → a = b := by
    decide
  obtain ⟨hperm, -, hsame⟩ := identities_upToOrder hdistinct none none none none none 0
  refine ⟨hperm, ?_⟩
  have hdiffer : ¬ ∀ a ∈ identities, ∀ b ∈ identities, a = b := by decide
  by_contra hall
  refine hdiffer (hsame.1 fun it it' => ?_)
  by_contra hne
  exact hall ⟨it, it', hne⟩

/-- The table may list two users in reverse. -/
theorem users_reversed :
    let identities : List PolkitIdentity := [.unixUser 1000, .unixUser 0]
    let reversed : IterationOrder UInt32 PolkitIdentity := ⟨List.reverse, List.reverse_perm⟩
    (∀ a ∈ identities, ∀ b ∈ identities, numericHash a = numericHash b → a = b) ∧
      (polkitQtListenerInitiateAuthentication numericHash reversed none none none none none
        identities 0).identities = [⟨some (.unixUser 0)⟩, ⟨some (.unixUser 1000)⟩] ∧
      (polkitQtListenerInitiateAuthentication numericHash .asInserted none none none none none
        identities 0).identities = [⟨some (.unixUser 1000)⟩, ⟨some (.unixUser 0)⟩] := by
  decide

end ListenerAdapter

end PolkitQt
