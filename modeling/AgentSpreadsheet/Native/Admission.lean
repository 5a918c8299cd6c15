import AgentSpreadsheet.Revision
import Mathlib.Data.List.Nodup
import Mathlib.Data.Finset.Card
import Mathlib.Data.List.Count

/-! Admission of requests by the native host. A request is checked for freshness
with a clock read before its body arrives; its nonce goes into a table that other
requests prune with the clock values they read. -/
namespace AgentSpreadsheet
namespace NativeHost

/-- The headers and the line of a request, as the host reads them. -/
structure HttpRequest where
  origin : Bool
  method : String
  uri : String
  nonce : Option String
  time : Option String
  signature : Option String

structure SignedRequest where
  nonce : String
  time : UInt64
  body : List UInt8
  signature : String
  deriving DecidableEq

section Auth

def bytesOf (text : String) : List UInt8 := text.toUTF8.toList

def toBeBytes (n : UInt64) : List UInt8 :=
  (List.range 8).map fun i => UInt8.ofNat (n.toNat / 256 ^ (7 - i))

/-- HMAC-SHA-256 is a parameter; every part goes into it after its length. -/
def mac (hmac : List UInt8 → List UInt8 → List UInt8) (key domain nonce : String)
    (metadata : UInt64) (body : List UInt8) : List UInt8 :=
  let parts := [bytesOf "asp-resident-http-v1", bytesOf domain, bytesOf nonce,
    toBeBytes metadata, body]
  hmac (bytesOf key) (parts.flatMap fun part => toBeBytes (UInt64.ofNat part.length) ++ part)

def hexDigit (c : Char) : Option Nat :=
  if c.isDigit then some (c.toNat - '0'.toNat)
  else if 'a' ≤ c ∧ c ≤ 'f' then some (c.toNat - 'a'.toNat + 10)
  else if 'A' ≤ c ∧ c ≤ 'F' then some (c.toNat - 'A'.toNat + 10)
  else none

def isHex (text : String) : Bool := text.toList.all fun c => (hexDigit c).isSome

def hexBytes : List Char → List UInt8
  | high :: low :: rest =>
    UInt8.ofNat ((hexDigit high).getD 0 * 16 + (hexDigit low).getD 0) :: hexBytes rest
  | _ => []

def verify (hmac : List UInt8 → List UInt8 → List UInt8) (key domain nonce : String)
    (metadata : UInt64) (body : List UInt8) (signature : String) : Bool :=
  signature.length == 64 && isHex signature &&
    mac hmac key domain nonce metadata body == hexBytes signature.toList

end Auth

inductive Stage where
  /-- Its body is awaited. -/
  | receiving
  /-- Its signature is verified; the nonce table is next. -/
  | verified (body : List UInt8)
  /-- It was passed on to the handler. -/
  | handling
  deriving DecidableEq

/-- `now` is the clock value the request was found fresh with. -/
structure Flight where
  nonce : String
  time : UInt64
  signature : String
  now : UInt64
  stage : Stage

/-- `nonces` are the accepted nonces with the clock value of their acceptance;
`passed` is what the handler was given, in order. -/
structure Admission where
  credential : String
  ingress : Nat
  nonces : List (String × UInt64)
  flights : Nat → Option Flight
  passed : List SignedRequest

def maxRequestBytes : Nat := 4 * 1024 * 1024

def Admission.start (credential : String) : Admission := ⟨credential, 32, [], fun _ => none, []⟩

/-- The points at which other requests' steps come in between: the first poll
reads the clock, and the body, the table's lock and the handler are awaited. -/
inductive AdmissionEvent where
  | arrive (ticket : Nat) (request : HttpRequest) (now : UInt64)
  | receive (ticket : Nat) (body : Option (List UInt8))
  | claim (ticket : Nat)
  | respond (ticket : Nat)
  /-- The connection is gone and the request's future dropped. -/
  | abandon (ticket : Nat)

def absDiff (a b : UInt64) : Nat := max (a.toNat - b.toNat) (b.toNat - a.toNat)

/-- The headers of a request that passes the checks before its body. -/
def fresh (request : HttpRequest) (now : UInt64) : Option Flight :=
  if request.origin || request.method != "POST" || request.uri != "/" then none
  else
    match request.nonce, request.time.bind (fun text => parseU64 text.toList),
        request.signature with
    | some nonce, some time, some signature =>
      if nonce.length != 32 || !isHex nonce || 60 < absDiff now time then none
      else some ⟨nonce, time, signature, now, .receiving⟩
    | _, _, _ => none

namespace Admission
variable (state : Admission)

def set (ticket : Nat) (flight : Flight) : Admission :=
  { state with flights := Function.update state.flights ticket (some flight) }

/-- The request is answered and its permit returned. -/
def release (ticket : Nat) : Admission :=
  { state with
    ingress := state.ingress + 1
    flights := Function.update state.flights ticket none }

/-- `retain` keeps a nonce for 120 seconds by the clock value of the request at hand. -/
def retained (now : UInt64) : List (String × UInt64) :=
  state.nonces.filter fun entry => now.toNat - entry.2.toNat ≤ 120

def insertNonce (nonces : List (String × UInt64)) (nonce : String) (now : UInt64) :
    List (String × UInt64) :=
  (nonce, now) :: nonces.filter fun entry => entry.1 != nonce

/-- The table step. An insertion replaces the value it finds, also when the
request is refused for it. -/
def claimNonce (ticket : Nat) (flight : Flight) (body : List UInt8) : Admission :=
  let nonces := state.retained flight.now
  if 65536 ≤ nonces.length then { state with nonces }.release ticket
  else
    let inserted := insertNonce nonces flight.nonce flight.now
    if nonces.any fun entry => entry.1 == flight.nonce then
      { state with nonces := inserted }.release ticket
    else
      let passed := state.passed ++ [⟨flight.nonce, flight.time, body, flight.signature⟩]
      { state with nonces := inserted, passed }.set ticket { flight with stage := .handling }

/-- The body is in, or not: it broke off, is too long or is signed by no client. -/
def receive (hmac : List UInt8 → List UInt8 → List UInt8) (ticket : Nat) (flight : Flight)
    (body : Option (List UInt8)) : Admission :=
  match body with
  | none => state.release ticket
  | some body =>
    if maxRequestBytes < body.length then state.release ticket
    else if verify hmac state.credential "request" flight.nonce flight.time body flight.signature
    then state.set ticket { flight with stage := .verified body }
    else state.release ticket

def step (hmac : List UInt8 → List UInt8 → List UInt8) : AdmissionEvent → Admission
  | .arrive ticket request now =>
    match state.flights ticket, fresh request now with
    | none, some flight =>
      if state.ingress = 0 then state
      else { state with ingress := state.ingress - 1 }.set ticket flight
    | _, _ => state
  | .receive ticket body =>
    match state.flights ticket with
    | some flight =>
      if flight.stage = .receiving then state.receive hmac ticket flight body else state
    | none => state
  | .claim ticket =>
    match state.flights ticket with
    | some flight =>
      match flight.stage with
      | .verified body => state.claimNonce ticket flight body
      | _ => state
    | none => state
  | .respond ticket =>
    match state.flights ticket with
    | some flight => if flight.stage = .handling then state.release ticket else state
    | none => state
  | .abandon ticket =>
    match state.flights ticket with
    | some _ => state.release ticket
    | none => state

def run (hmac : List UInt8 → List UInt8 → List UInt8) (events : List AdmissionEvent) : Admission :=
  events.foldl (fun state event => state.step hmac event) state

end Admission

/-- The clock values the requests of a run are found fresh with. -/
def readings (events : List AdmissionEvent) : List UInt64 :=
  events.filterMap fun event =>
    match event with
    | .arrive _ _ now => some now
    | _ => none

/-- The request carries the identity of one that was passed on. -/
def Flight.Copies (flight : Flight) (signed : SignedRequest) : Prop :=
  flight.nonce = signed.nonce ∧ flight.time = signed.time

/-- A table step forgets no request it should remember: it prunes no nonce of a
passed request of which a copy is still being admitted, and a refused request
that carries such a nonce leaves a value no older than the passed request's window. -/
def Remembers (state : Admission) : AdmissionEvent → Prop
  | .claim ticket => ∀ flight body, state.flights ticket = some flight →
      flight.stage = .verified body → ∀ signed ∈ state.passed,
      (∀ other copy, state.flights other = some copy → copy.stage ≠ .handling →
        copy.Copies signed → ∀ entry ∈ state.nonces, entry.1 = signed.nonce →
          flight.now.toNat - entry.2.toNat ≤ 120) ∧
      (flight.nonce = signed.nonce → signed.time.toNat ≤ flight.now.toNat + 60)
  | _ => True

/-- Every table step of the run remembers what it should. -/
def RemembersAll (hmac : List UInt8 → List UInt8 → List UInt8) (state : Admission) :
    List AdmissionEvent → Prop
  | [] => True
  | event :: rest => Remembers state event ∧ RemembersAll hmac (state.step hmac event) rest

section Protection
variable {hmac : List UInt8 → List UInt8 → List UInt8} {state : Admission} {clock : Nat}

/-- The table remembers the request for as long as its time is fresh, or it is
stale and no copy of it is being admitted. -/
def Covered (clock : Nat) (state : Admission) (signed : SignedRequest) : Prop :=
  (∃ accepted, (signed.nonce, accepted) ∈ state.nonces ∧
    signed.time.toNat ≤ accepted.toNat + 60) ∨
  (signed.time.toNat + 60 < clock ∧ ∀ ticket flight, state.flights ticket = some flight →
    flight.stage ≠ .handling → ¬ flight.Copies signed)

/-- `clock` is the last clock value read. -/
structure Guarded (clock : Nat) (state : Admission) : Prop where
  read : ∀ ticket flight, state.flights ticket = some flight → flight.now.toNat ≤ clock
  fresh : ∀ ticket flight, state.flights ticket = some flight →
    absDiff flight.now flight.time ≤ 60
  covered : ∀ signed ∈ state.passed, Covered clock state signed
  once : state.passed.Pairwise fun p q => ¬ (p.nonce = q.nonce ∧ p.time = q.time)

theorem Guarded.start (credential : String) : Guarded 0 (.start credential) := by
  constructor <;> simp [Admission.start]

/-- No request comes in, and none goes back to the table. -/
def Thins (flights flights' : Nat → Option Flight) : Prop :=
  ∀ ticket flight', flights' ticket = some flight' → ∃ flight, flights ticket = some flight ∧
    flight'.nonce = flight.nonce ∧ flight'.time = flight.time ∧ flight'.now = flight.now ∧
    (flight'.stage ≠ .handling → flight.stage ≠ .handling)

theorem thins_release (ticket : Nat) (state : Admission) :
    Thins state.flights (state.release ticket).flights := by
  intro other flight' h
  by_cases hother : other = ticket
  · subst hother
    simp [Admission.release] at h
  · simp only [Admission.release, Function.update_of_ne hother] at h
    exact ⟨flight', h, rfl, rfl, rfl, id⟩

theorem thins_set {ticket : Nat} {flight : Flight} (hflight : state.flights ticket = some flight)
    {stage : Stage} (hstage : stage ≠ .handling → flight.stage ≠ .handling) :
    Thins state.flights (state.set ticket { flight with stage }).flights := by
  intro other flight' h
  by_cases hother : other = ticket
  · subst hother
    simp only [Admission.set, Function.update_self, Option.some.injEq] at h
    subst h
    exact ⟨flight, hflight, rfl, rfl, rfl, hstage⟩
  · simp only [Admission.set, Function.update_of_ne hother] at h
    exact ⟨flight', h, rfl, rfl, rfl, id⟩

theorem Guarded.read_of_thins (h : Guarded clock state) {state' : Admission}
    (hthins : Thins state.flights state'.flights) (ticket : Nat) (flight : Flight)
    (hflight : state'.flights ticket = some flight) :
    flight.now.toNat ≤ clock ∧ absDiff flight.now flight.time ≤ 60 := by
  obtain ⟨old, hold, _, htime, hnow, _⟩ := hthins ticket flight hflight
  rw [htime, hnow]
  exact ⟨h.read ticket old hold, h.fresh ticket old hold⟩

/-- The second way to be covered needs only that no request comes in. -/
theorem Covered.stale {signed : SignedRequest} {state' : Admission}
    (hthins : Thins state.flights state'.flights) (hstale : signed.time.toNat + 60 < clock)
    (hgone : ∀ ticket flight, state.flights ticket = some flight → flight.stage ≠ .handling →
      ¬ flight.Copies signed) : Covered clock state' signed := by
  refine .inr ⟨hstale, fun ticket flight hflight hstage hcopies => ?_⟩
  obtain ⟨old, hold, hnonce, htime, _, hold'⟩ := hthins ticket flight hflight
  refine hgone ticket old hold (hold' hstage) ⟨?_, ?_⟩
  · rw [← hnonce, hcopies.1]
  · rw [← htime, hcopies.2]

theorem Guarded.thin (h : Guarded clock state) {state' : Admission}
    (hnonces : state'.nonces = state.nonces) (hpassed : state'.passed = state.passed)
    (hthins : Thins state.flights state'.flights) : Guarded clock state' := by
  refine ⟨fun ticket flight hflight => (h.read_of_thins hthins ticket flight hflight).1,
    fun ticket flight hflight => (h.read_of_thins hthins ticket flight hflight).2, ?_, ?_⟩
  · rw [hpassed]
    intro signed hsigned
    rcases h.covered signed hsigned with hkept | ⟨hstale, hgone⟩
    · exact .inl (hnonces ▸ hkept)
    · exact .stale hthins hstale hgone
  · rw [hpassed]
    exact h.once

theorem fresh_eq_some {request : HttpRequest} {now : UInt64} {flight : Flight}
    (h : fresh request now = some flight) :
    flight.now = now ∧ absDiff now flight.time ≤ 60 := by
  unfold fresh at h
  split at h
  · cases h
  split at h
  · split at h
    · cases h
    · rename_i hchecks
      cases h
      simp only [Bool.or_eq_true, decide_eq_true_eq, not_or] at hchecks
      exact ⟨rfl, Nat.le_of_not_lt hchecks.2⟩
  · cases h

theorem Guarded.arrive (h : Guarded clock state) {ticket : Nat} {request : HttpRequest}
    {now : UInt64} (hnow : clock ≤ now.toNat) :
    Guarded now.toNat (state.step hmac (.arrive ticket request now)) := by
  have hlater : Guarded now.toNat state := by
    refine ⟨fun other flight hflight => Nat.le_trans (h.read other flight hflight) hnow, h.fresh, ?_,
      h.once⟩
    intro signed hsigned
    rcases h.covered signed hsigned with hkept | ⟨hstale, hgone⟩
    · exact .inl hkept
    · exact .inr ⟨by omega, hgone⟩
  simp only [Admission.step]
  split
  · rename_i flight _ hfresh
    obtain ⟨rfl, hwindow⟩ := fresh_eq_some hfresh
    split
    · exact hlater
    have hflights (other : Nat) (old : Flight)
        (hold : Function.update state.flights ticket (some flight) other = some old) :
        old = flight ∨ state.flights other = some old := by
      by_cases hother : other = ticket
      · subst hother
        rw [Function.update_self] at hold
        exact .inl (Option.some.inj hold).symm
      · rw [Function.update_of_ne hother] at hold
        exact .inr hold
    refine ⟨?_, ?_, ?_, h.once⟩
    · intro other old hold
      rcases hflights other old hold with rfl | hold
      · exact Nat.le_refl _
      · exact hlater.read other old hold
    · intro other old hold
      rcases hflights other old hold with rfl | hold
      · exact hwindow
      · exact hlater.fresh other old hold
    · intro signed hsigned
      rcases h.covered signed hsigned with hkept | ⟨hstale, hgone⟩
      · exact .inl hkept
      refine .inr ⟨by omega, fun other old hold hstage hcopies => ?_⟩
      rcases hflights other old hold with rfl | hold
      · have htime := hcopies.2
        unfold absDiff at hwindow
        rw [htime] at hwindow
        omega
      · exact hgone other old hold hstage hcopies
  · exact hlater

/-- A passed request whose nonce is pruned is stale by now, and no copy of it is
being admitted. -/
theorem Covered.retain {signed : SignedRequest} {ticket : Nat} {flight : Flight}
    {body : List UInt8} (hread : flight.now.toNat ≤ clock)
    (hflight : state.flights ticket = some flight) (hstage : flight.stage = .verified body)
    (hremembers : Remembers state (.claim ticket)) (hsigned : signed ∈ state.passed)
    (h : Covered clock state signed) :
    (∃ accepted, (signed.nonce, accepted) ∈ state.retained flight.now ∧
      signed.time.toNat ≤ accepted.toNat + 60) ∨
    (signed.time.toNat + 60 < clock ∧ ∀ ticket flight, state.flights ticket = some flight →
      flight.stage ≠ .handling → ¬ flight.Copies signed) := by
  rcases h with ⟨accepted, hentry, hwindow⟩ | hstale
  swap
  · exact .inr hstale
  by_cases hkept : flight.now.toNat - accepted.toNat ≤ 120
  · refine .inl ⟨accepted, ?_, hwindow⟩
    unfold Admission.retained
    exact List.mem_filter.mpr ⟨hentry, by simpa using hkept⟩
  · refine .inr ⟨by omega, fun other copy hother hwaits hcopies => hkept ?_⟩
    exact (hremembers flight body hflight hstage signed hsigned).1 other copy hother hwaits hcopies
      _ hentry rfl

theorem mem_insertNonce {nonces : List (String × UInt64)} {nonce : String} {now : UInt64}
    {entry : String × UInt64} :
    entry ∈ Admission.insertNonce nonces nonce now ↔
      entry = (nonce, now) ∨ entry ∈ nonces ∧ entry.1 ≠ nonce := by
  simp [Admission.insertNonce]

theorem Guarded.claimNonce (h : Guarded clock state) {ticket : Nat} {flight : Flight}
    {body : List UInt8} (hflight : state.flights ticket = some flight)
    (hstage : flight.stage = .verified body) (hremembers : Remembers state (.claim ticket)) :
    Guarded clock (state.claimNonce ticket flight body) := by
  have hread := h.read ticket flight hflight
  have hfresh := h.fresh ticket flight hflight
  have hwaits : flight.stage ≠ .handling := by
    rw [hstage]
    simp
  have hretain (signed : SignedRequest) (hsigned : signed ∈ state.passed) :=
    (h.covered signed hsigned).retain hread hflight hstage hremembers hsigned
  unfold Admission.claimNonce
  dsimp only
  split
  · -- the table is full: it is pruned, and nothing inserted
    have hthins := thins_release ticket { state with nonces := state.retained flight.now }
    refine ⟨fun other old hold => (h.read_of_thins hthins other old hold).1,
      fun other old hold => (h.read_of_thins hthins other old hold).2, ?_, h.once⟩
    intro signed hsigned
    rcases hretain signed hsigned with hkept | ⟨hstale, hgone⟩
    · exact .inl hkept
    · exact .stale hthins hstale hgone
  split
  · have hthins := thins_release ticket
      { state with nonces := Admission.insertNonce (state.retained flight.now) flight.nonce flight.now }
    refine ⟨fun other old hold => (h.read_of_thins hthins other old hold).1,
      fun other old hold => (h.read_of_thins hthins other old hold).2, ?_, h.once⟩
    intro signed hsigned
    rcases hretain signed hsigned with ⟨accepted, hentry, hwindow⟩ | ⟨hstale, hgone⟩
    · by_cases hnonce : flight.nonce = signed.nonce
      · refine .inl ⟨flight.now, mem_insertNonce.mpr (.inl (by rw [hnonce])), ?_⟩
        exact (hremembers flight body hflight hstage signed hsigned).2 hnonce
      · exact .inl ⟨accepted, mem_insertNonce.mpr (.inr ⟨hentry, Ne.symm hnonce⟩), hwindow⟩
    · exact .stale hthins hstale hgone
  · rename_i habsent
    have hnew (signed : SignedRequest) (hsigned : signed ∈ state.passed) :
        ¬ flight.Copies signed := by
      intro hcopies
      rcases hretain signed hsigned with ⟨accepted, hentry, _⟩ | ⟨_, hgone⟩
      · apply habsent
        exact List.any_eq_true.mpr ⟨_, hentry, beq_iff_eq.mpr hcopies.1.symm⟩
      · exact hgone ticket flight hflight hwaits hcopies
    have hthins : Thins state.flights (Admission.set { state with
        nonces := Admission.insertNonce (state.retained flight.now) flight.nonce flight.now
        passed := state.passed ++ [⟨flight.nonce, flight.time, body, flight.signature⟩] } ticket { flight with stage := .handling }).flights := thins_set hflight fun hne => absurd rfl hne
    refine ⟨fun other old hold => (h.read_of_thins hthins other old hold).1,
      fun other old hold => (h.read_of_thins hthins other old hold).2, ?_, ?_⟩
    · intro signed hsigned
      rcases List.mem_append.mp hsigned with hsigned | hsigned
      · rcases hretain signed hsigned with ⟨accepted, hentry, hwindow⟩ | ⟨hstale, hgone⟩
        · refine .inl ⟨accepted, mem_insertNonce.mpr (.inr ⟨hentry, fun hnonce => ?_⟩), hwindow⟩
          exact habsent (List.any_eq_true.mpr ⟨_, hentry, beq_iff_eq.mpr hnonce⟩)
        · exact .stale hthins hstale hgone
      · rw [List.mem_singleton.mp hsigned]
        refine .inl ⟨flight.now, mem_insertNonce.mpr (.inl rfl), ?_⟩
        unfold absDiff at hfresh
        dsimp only
        omega
    · refine List.pairwise_append.mpr ⟨h.once, List.pairwise_singleton _ _, ?_⟩
      intro signed hsigned last hlast hsame
      rw [List.mem_singleton.mp hlast] at hsame
      exact hnew signed hsigned ⟨hsame.1.symm, hsame.2.symm⟩

theorem Guarded.step (h : Guarded clock state) {event : AdmissionEvent}
    (hremembers : Remembers state event) (hlater : ∀ now ∈ readings [event], clock ≤ now.toNat) :
    ∃ clock', (clock' = clock ∨ ∃ now ∈ readings [event], clock' = now.toNat) ∧
      Guarded clock' (state.step hmac event) := by
  cases event with
  | arrive ticket request now =>
    have hnow : clock ≤ now.toNat := hlater now (by simp [readings])
    exact ⟨now.toNat, .inr ⟨now, by simp [readings], rfl⟩, h.arrive hnow⟩
  | receive ticket body =>
    refine ⟨clock, .inl rfl, ?_⟩
    simp only [Admission.step]
    split
    · rename_i flight hflight
      split
      · rename_i hstage
        have hrelease : Guarded clock (state.release ticket) :=
          h.thin rfl rfl (thins_release ticket state)
        unfold Admission.receive
        split
        · exact hrelease
        split
        · exact hrelease
        split
        · refine h.thin rfl rfl (thins_set hflight fun _ => ?_)
          rw [hstage]
          simp
        · exact hrelease
      · exact h
    · exact h
  | claim ticket =>
    refine ⟨clock, .inl rfl, ?_⟩
    simp only [Admission.step]
    split
    · rename_i flight hflight
      split
      · rename_i body hstage
        exact h.claimNonce hflight hstage hremembers
      · exact h
    · exact h
  | respond ticket =>
    refine ⟨clock, .inl rfl, ?_⟩
    simp only [Admission.step]
    split
    · split
      · exact h.thin rfl rfl (thins_release ticket state)
      · exact h
    · exact h
  | abandon ticket =>
    refine ⟨clock, .inl rfl, ?_⟩
    simp only [Admission.step]
    split
    · exact h.thin rfl rfl (thins_release ticket state)
    · exact h

theorem Guarded.run {events : List AdmissionEvent} (h : Guarded clock state)
    (hremembers : RemembersAll hmac state events)
    (hlater : ∀ now ∈ readings events, clock ≤ now.toNat)
    (hclock : (readings events).Pairwise (· ≤ ·)) :
    ∃ clock', Guarded clock' (state.run hmac events) := by
  induction events generalizing state clock with
  | nil => exact ⟨clock, h⟩
  | cons event rest ih =>
    have hreadings : readings (event :: rest) = readings [event] ++ readings rest := by
      simp only [readings]
      rw [← List.filterMap_append, List.singleton_append]
    rw [hreadings] at hlater hclock
    obtain ⟨_, hrest, hbetween⟩ := List.pairwise_append.mp hclock
    have hstep : ∃ clock', (clock' = clock ∨ ∃ now ∈ readings [event], clock' = now.toNat) ∧
        Guarded clock' (state.step hmac event) :=
      h.step hremembers.1 fun now hnow => hlater now (List.mem_append_left _ hnow)
    obtain ⟨clock', hread, hnext⟩ := hstep
    refine ih hnext hremembers.2 (fun now hnow => ?_) hrest
    rcases hread with rfl | ⟨read, hread, rfl⟩
    · exact hlater now (List.mem_append_right _ hnow)
    · exact UInt64.le_iff_toNat_le.mp (hbetween read hread now hnow)

end Protection

section Limits
variable {hmac : List UInt8 → List UInt8 → List UInt8} {state : Admission}
  {flights : Nat → Option Flight} {ingress ticket : Nat} {flight : Flight}
  {nonces : List (String × UInt64)}

/-- Of the 32 permits, those that are out are held by the requests on their way. -/
def Permits (flights : Nat → Option Flight) (ingress : Nat) : Prop :=
  ∃ tickets : Finset Nat, (∀ ticket, ticket ∈ tickets ↔ (flights ticket).isSome = true) ∧
    tickets.card + ingress = 32

/-- The table has room, and each nonce is there once. -/
structure Table (nonces : List (String × UInt64)) : Prop where
  room : nonces.length ≤ 65536
  once : (nonces.map Prod.fst).Nodup

structure Admission.Limited (state : Admission) : Prop where
  permits : Permits state.flights state.ingress
  table : Table state.nonces

theorem Permits.take (h : Permits flights ingress) (hfree : flights ticket = none)
    (hingress : ingress ≠ 0) :
    Permits (Function.update flights ticket (some flight)) (ingress - 1) := by
  obtain ⟨tickets, hmem, hcard⟩ := h
  have hnew : ticket ∉ tickets := by simp [hmem, hfree]
  refine ⟨insert ticket tickets, fun other => ?_, ?_⟩
  · by_cases hother : other = ticket
    · simp [hother]
    · simp [hother, hmem, Function.update_of_ne]
  · rw [Finset.card_insert_of_notMem hnew]
    omega

theorem Permits.keep (h : Permits flights ingress) (hheld : (flights ticket).isSome = true) :
    Permits (Function.update flights ticket (some flight)) ingress := by
  obtain ⟨tickets, hmem, hcard⟩ := h
  refine ⟨tickets, fun other => ?_, hcard⟩
  by_cases hother : other = ticket
  · simp [hother, hmem, hheld]
  · simp [hmem, Function.update_of_ne hother]

theorem Permits.give (h : Permits flights ingress) (hheld : (flights ticket).isSome = true) :
    Permits (Function.update flights ticket none) (ingress + 1) := by
  obtain ⟨tickets, hmem, hcard⟩ := h
  have hticket : ticket ∈ tickets := (hmem ticket).mpr hheld
  refine ⟨tickets.erase ticket, fun other => ?_, ?_⟩
  · by_cases hother : other = ticket
    · simp [hother]
    · simp [hother, hmem, Function.update_of_ne]
  · have hpositive := Finset.card_pos.mpr ⟨ticket, hticket⟩
    rw [Finset.card_erase_of_mem hticket]
    omega

theorem Table.filter (h : Table nonces) (keep : String × UInt64 → Bool) :
    Table (nonces.filter keep) where
  room := Nat.le_trans (List.length_filter_le _ _) h.room
  once := h.once.sublist (List.filter_sublist.map _)

theorem Table.insert (h : Table nonces) (hroom : nonces.length < 65536) (nonce : String)
    (now : UInt64) : Table (Admission.insertNonce nonces nonce now) where
  room := by
    have hle := List.length_filter_le (fun entry : String × UInt64 => entry.1 != nonce) nonces
    rw [Admission.insertNonce, List.length_cons]
    omega
  once := by
    rw [Admission.insertNonce, List.map_cons]
    refine List.nodup_cons.mpr ⟨?_, (h.filter _).once⟩
    simp

theorem Admission.Limited.release (h : state.Limited)
    (hheld : (state.flights ticket).isSome = true) : (state.release ticket).Limited :=
  ⟨h.permits.give hheld, h.table⟩

theorem Admission.Limited.set (h : state.Limited)
    (hheld : (state.flights ticket).isSome = true) : (state.set ticket flight).Limited :=
  ⟨h.permits.keep hheld, h.table⟩

theorem Admission.Limited.step (h : state.Limited) (event : AdmissionEvent) :
    (state.step hmac event).Limited := by
  cases event with
  | arrive ticket request now =>
    simp only [Admission.step]
    split
    · rename_i hfree _
      split
      · exact h
      · rename_i hingress
        exact ⟨h.permits.take hfree hingress, h.table⟩
    · exact h
  | receive ticket body =>
    simp only [Admission.step]
    split
    · rename_i flight hflight
      have hheld : (state.flights ticket).isSome = true := by simp [hflight]
      split
      · unfold Admission.receive
        split
        · exact h.release hheld
        split
        · exact h.release hheld
        split
        · exact h.set hheld
        · exact h.release hheld
      · exact h
    · exact h
  | claim ticket =>
    simp only [Admission.step]
    split
    · rename_i flight hflight
      have hheld : (state.flights ticket).isSome = true := by simp [hflight]
      have hretained : Table (state.retained flight.now) := h.table.filter _
      split
      · unfold Admission.claimNonce
        dsimp only
        split
        · exact Admission.Limited.release ⟨h.permits, hretained⟩ hheld
        · rename_i hroom
          have hinserted := hretained.insert (Nat.lt_of_not_le hroom) flight.nonce flight.now
          split
          · exact Admission.Limited.release ⟨h.permits, hinserted⟩ hheld
          · exact Admission.Limited.set ⟨h.permits, hinserted⟩ hheld
      · exact h
    · exact h
  | respond ticket =>
    simp only [Admission.step]
    split
    · rename_i flight hflight
      split
      · exact h.release (by simp [hflight])
      · exact h
    · exact h
  | abandon ticket =>
    simp only [Admission.step]
    split
    · rename_i flight hflight
      exact h.release (by simp [hflight])
    · exact h

theorem Admission.Limited.run (h : state.Limited) (events : List AdmissionEvent) :
    (state.run hmac events).Limited := by
  induction events generalizing state with
  | nil => exact h
  | cons event rest ih => exact ih (h.step event)

end Limits

/-- However requests arrive, break off and are answered, no permit is lost or given
twice, and the nonce table never outgrows its limit. -/
theorem admission_limited {hmac : List UInt8 → List UInt8 → List UInt8} (credential : String)
    (events : List AdmissionEvent) :
    ((Admission.start credential).run hmac events).Limited := by
  have hstart : (Admission.start credential).Limited :=
    ⟨⟨∅, by simp [Admission.start], rfl⟩, by simp [Admission.start], List.nodup_nil⟩
  exact hstart.run events

/-- However the steps of the requests interleave, a signed request reaches the
handler at most once in the lifetime of a host whose table steps forget no
request they should remember. -/
theorem signed_requests_pass_once {hmac : List UInt8 → List UInt8 → List UInt8}
    (credential : String) {events : List AdmissionEvent}
    (hclock : (readings events).Pairwise (· ≤ ·))
    (hremembers : RemembersAll hmac (.start credential) events) (signed : SignedRequest) :
    ((Admission.start credential).run hmac events).passed.count signed ≤ 1 := by
  obtain ⟨clock, h⟩ := (Guarded.start credential).run hremembers (fun _ _ => Nat.zero_le _) hclock
  have hnodup := h.once.imp fun hne heq => hne ⟨congrArg _ heq, congrArg _ heq⟩
  exact List.nodup_iff_count_le_one.mp hnodup signed

/-- A keyed digest of 32 bytes for the sample requests. -/
def sampleHmac (key message : List UInt8) : List UInt8 :=
  List.replicate 32 ((key ++ message).foldl (fun acc b => acc * 31 + b) 7)

def sampleSigned (nonce : String) (time : UInt64) : SignedRequest :=
  ⟨nonce, time, [0x7B, 0x7D], String.ofList ((mac sampleHmac "credential" "request" nonce time
    [0x7B, 0x7D]).flatMap fun b => [Nat.digitChar (b.toNat / 16), Nat.digitChar (b.toNat % 16)])⟩

def sampleArrival (ticket : Nat) (signed : SignedRequest) (now : UInt64) : AdmissionEvent :=
  .arrive ticket ⟨false, "POST", "/", some signed.nonce,
    some (String.ofList (Nat.toDigits 10 signed.time.toNat)), some signed.signature⟩ now

def sampleNonce (c : Char) : String := String.ofList (List.replicate 32 c)

/-- Two copies of one request, one after the other. -/
def sampleReplay : List AdmissionEvent :=
  let signed := sampleSigned (sampleNonce 'a') 1000
  [sampleArrival 0 signed 1000, .receive 0 (some signed.body), .claim 0, .respond 0,
    sampleArrival 1 signed 1030, .receive 1 (some signed.body), .claim 1]

theorem sampleReplay_passes_once :
    ((Admission.start "credential").run sampleHmac sampleReplay).passed.count
      (sampleSigned (sampleNonce 'a') 1000) ≤ 1 := by
  refine signed_requests_pass_once "credential" (by decide) ?_ _
  refine ⟨trivial, trivial, ?_, trivial, trivial, trivial, ?_, trivial⟩
  · intro flight body hflight hstage signed hsigned
    have hpassed : ((Admission.start "credential").run sampleHmac
        (sampleReplay.take 2)).passed = [] := by decide +kernel
    change signed ∈ ((Admission.start "credential").run sampleHmac
      (sampleReplay.take 2)).passed at hsigned
    simp [hpassed] at hsigned
  · intro flight body hflight hstage signed hsigned
    have hnow : flight.now = 1030 := by
      have hread : Option.map Flight.now (((Admission.start "credential").run sampleHmac
          (sampleReplay.take 6)).flights 1) = some 1030 := by decide +kernel
      have hmap := congrArg (Option.map Flight.now) hflight
      exact Option.some.inj (hmap.symm.trans hread)
    have hnonces : ∀ entry ∈ ((Admission.start "credential").run sampleHmac
        (sampleReplay.take 6)).nonces, 1030 - entry.2.toNat ≤ 120 := by decide +kernel
    have hpassed : ∀ signed ∈ ((Admission.start "credential").run sampleHmac
        (sampleReplay.take 6)).passed, signed.time.toNat ≤ 1030 + 60 := by decide +kernel
    rw [hnow]
    exact ⟨fun _ _ _ _ _ entry hentry _ => hnonces entry hentry, fun _ => hpassed signed hsigned⟩

/-- Of a second copy the body is held back; meanwhile a request of 121 seconds
later prunes the nonce. -/
def stalledReplay : List AdmissionEvent :=
  let signed := sampleSigned (sampleNonce 'a') 1000
  let later := sampleSigned (sampleNonce 'b') 1121
  [sampleArrival 0 signed 1000, sampleArrival 1 signed 1000, .receive 0 (some signed.body),
    .claim 0, sampleArrival 2 later 1121, .receive 2 (some later.body), .claim 2,
    .receive 1 (some signed.body), .claim 1]

/-- The handler gets the stalled copy too. -/
theorem stalled_replay_passes_twice :
    ¬ ∀ hmac credential (events : List AdmissionEvent), (readings events).Pairwise (· ≤ ·) →
      ∀ signed, ((Admission.start credential).run hmac events).passed.count signed ≤ 1 := by
  intro h
  have honce := h sampleHmac "credential" stalledReplay (by decide)
    (sampleSigned (sampleNonce 'a') 1000)
  revert honce
  decide +kernel

end NativeHost
end AgentSpreadsheet
