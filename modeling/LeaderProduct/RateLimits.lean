import Mathlib.Logic.Function.Basic
import LeaderProduct.FixedWindow
import LeaderProduct.Transition

/-! How many requests of one address get through in a time. -/
namespace LeaderProduct
open FixedWindow Transition

section Code

structure RateLimiter where
  windowSec : Nat
  limit : Nat
  positive : 0 < limit

structure SenderInfo where
  ip : Option String
  forwardedFor : Option String
  remoteAddress : Option String

def SenderInfo.address (sender : SenderInfo) : String :=
  ((sender.ip.filter (· ≠ "")).or
    ((sender.forwardedFor.filter (· ≠ "")).or (sender.remoteAddress.filter (· ≠ "")))).getD "unknown"

abbrev RateKey := String × Nat

structure RateTag where
  id : Nat
  limit : Nat

inductive RatePhase where
  /-- The first of its window, which asks for the end of it. -/
  | expiring (key : RateKey) (limit : Nat)
  | passed
  | refused
  deriving DecidableEq, Repr

structure RateSite where
  now : Nat
  counters : RateKey → Counted RateTag
  requests : Nat → Option RatePhase

inductive RateEvent where
  | request (id : Nat) (sender : SenderInfo) (limiter : RateLimiter) (reached : Bool)
  | expired (id : Nat) (done : Bool)
  | wait (time : Nat)

namespace RateSite
variable (s : RateSite)

def started (now : Nat) : RateSite := ⟨now, fun _ => .empty, fun _ => none⟩

def decided (count limit : Nat) : RatePhase := if limit < count then .refused else .passed

def counted (key : RateKey) (count limit : Nat) : RatePhase :=
  if count = 1 then .expiring key limit else decided count limit

def setRequest (id : Nat) (phase : RatePhase) : RateSite :=
  { s with requests := Function.update s.requests id (some phase) }

def request (id : Nat) (sender : SenderInfo) (limiter : RateLimiter) (reached : Bool) : RateSite :=
  match s.requests id with
  | some _ => s
  | none =>
    if reached then
      let key := (sender.address, limiter.windowSec)
      { s.setRequest id (counted key ((s.counters key).next s.now).count limiter.limit) with
        counters := Function.update s.counters key
          ((s.counters key).hit ⟨id, limiter.limit⟩ s.now) }
    else s.setRequest id .passed

def expired (id : Nat) (done : Bool) : RateSite :=
  match s.requests id with
  | some (.expiring key limit) =>
    if done then
      { s.setRequest id (decided 1 limit) with
        counters := Function.update s.counters key ((s.counters key).expire s.now (key.2 * 1000)) }
    else s.setRequest id .passed
  | _ => s

def step (s : RateSite) : RateEvent → RateSite
  | .request id sender limiter reached => s.request id sender limiter reached
  | .expired id done => s.expired id done
  | .wait time => { s with now := s.now + time }

end RateSite
end Code

section Invariant
namespace RateSite
variable {s : RateSite}

structure Held (s : RateSite) (hit : Hit RateTag) : Prop where
  positive : 0 < hit.tag.limit
  known : (s.requests hit.tag.id).isSome = true
  passed : s.requests hit.tag.id = some .passed → hit.count ≤ hit.tag.limit
  first : ∀ key limit, s.requests hit.tag.id = some (.expiring key limit) → hit.count = 1

structure Sound (s : RateSite) : Prop where
  counters : ∀ key, FixedWindow.Sound (key.2 * 1000) s.now (s.counters key)
  held : ∀ key, ∀ hit ∈ (s.counters key).hits, s.Held hit

theorem sound_started (now : Nat) : Sound (started now) where
  counters _ := sound_empty _ now
  held := nofun

theorem Held.setRequest {hit : Hit RateTag} (held : s.Held hit) {id : Nat} {phase : RatePhase}
    (passes : hit.tag.id = id → phase = .passed → hit.count ≤ hit.tag.limit)
    (starts : ∀ key limit, phase ≠ .expiring key limit) : (s.setRequest id phase).Held hit := by
  unfold RateSite.setRequest
  by_cases same : hit.tag.id = id
  · refine ⟨held.positive, ?_, ?_, ?_⟩
    · simp [same]
    · simpa [same] using passes same
    · intro key limit
      simpa [same] using fun now => absurd now (starts key limit)
  · exact ⟨held.positive, by simpa [same] using held.known, by simpa [same] using held.passed,
      by simpa [same] using held.first⟩

theorem Held.of_new {hit : Hit RateTag} (held : s.Held hit) {id : Nat} (unused : s.requests id = none)
    (phase : RatePhase) : (s.setRequest id phase).Held hit := by
  have apart : hit.tag.id ≠ id := by
    rintro rfl
    have known := held.known
    rw [unused] at known
    cases known
  exact ⟨held.positive, by simpa [RateSite.setRequest, apart] using held.known,
    by simpa [RateSite.setRequest, apart] using held.passed,
    by simpa [RateSite.setRequest, apart] using held.first⟩

variable {count limit : Nat} {key : RateKey}

theorem decided_eq_passed : decided count limit = .passed ↔ count ≤ limit := by
  unfold decided
  split <;> simp <;> omega

theorem decided_ne_expiring (count limit : Nat) (key : RateKey) (other : Nat) :
    decided count limit ≠ .expiring key other := by
  unfold decided
  split <;> exact nofun

theorem counted_passed (passed : counted key count limit = .passed) : count ≤ limit := by
  unfold counted at passed
  split at passed
  · cases passed
  · exact decided_eq_passed.mp passed

theorem counted_expiring {other : RateKey} {given : Nat}
    (starts : counted key count limit = .expiring other given) : count = 1 := by
  unfold counted at starts
  split at starts
  · assumption
  · exact absurd starts (decided_ne_expiring _ _ _ _)

theorem sound_update {counters : RateKey → Counted RateTag} {now : Nat}
    (each : ∀ key, FixedWindow.Sound (key.2 * 1000) now (counters key)) {counter : Counted RateTag}
    (new : FixedWindow.Sound (key.2 * 1000) now counter) (other : RateKey) :
    FixedWindow.Sound (other.2 * 1000) now (Function.update counters key counter other) := by
  by_cases same : other = key
  · rw [same, Function.update_self]
    exact new
  · rw [Function.update_of_ne same]
    exact each other

theorem held_hit {counters : RateKey → Counted RateTag} {s : RateSite}
    (each : ∀ key, ∀ hit ∈ (counters key).hits, s.Held hit) {tag : RateTag} {now : Nat}
    (new : s.Held ⟨tag, now, ((counters key).next now).window,
      ((counters key).next now).count⟩) (other : RateKey) :
    ∀ hit ∈ (Function.update counters key ((counters key).hit tag now) other).hits, s.Held hit := by
  by_cases same : other = key
  · rw [same, Function.update_self]
    exact List.forall_mem_cons.mpr ⟨new, each key⟩
  · rw [Function.update_of_ne same]
    exact each other

theorem sound_request (sound : Sound s) (id : Nat) (sender : SenderInfo) (limiter : RateLimiter)
    (reached : Bool) : Sound (s.request id sender limiter reached) := by
  unfold request
  split
  · exact sound
  · next unused =>
    have others (phase : RatePhase) (key : RateKey) (hit : Hit RateTag)
        (here : hit ∈ (s.counters key).hits) : (s.setRequest id phase).Held hit :=
      (sound.held key hit here).of_new unused phase
    split
    · refine ⟨sound_update sound.counters (sound_hit (sound.counters _) _), fun other hit here => ?_⟩
      generalize (sender.address, limiter.windowSec) = key at here ⊢
      have held := held_hit (others (counted key ((s.counters key).next s.now).count limiter.limit))
        ?_ other hit here
      · exact ⟨held.positive, held.known, held.passed, held.first⟩
      · refine ⟨limiter.positive, by simp [RateSite.setRequest], fun passed => ?_, ?_⟩
        · exact counted_passed (by simpa [RateSite.setRequest] using passed)
        · intro given limit starts
          exact counted_expiring (by simpa [RateSite.setRequest] using starts)
    · exact ⟨sound.counters, others _⟩

theorem sound_expired (sound : Sound s) (id : Nat) (done : Bool) : Sound (s.expired id done) := by
  unfold expired
  split
  · next key limit asked =>
    have others (phase : RatePhase) (starts : ∀ key limit, phase ≠ .expiring key limit)
        (other : RateKey) (hit : Hit RateTag) (here : hit ∈ (s.counters other).hits) :
        (s.setRequest id phase).Held hit := by
      have before := sound.held other hit here
      refine before.setRequest (fun own _ => ?_) starts
      rw [before.first key limit (by rw [own, asked])]
      exact before.positive
    split
    · refine ⟨sound_update sound.counters (sound_expire (sound.counters key)), ?_⟩
      intro other hit here
      have known : hit ∈ (s.counters other).hits := by
        by_cases same : other = key
        · subst same
          simpa [Counted.expire] using here
        · simpa [same] using here
      have held := others (decided 1 limit) (decided_ne_expiring 1 limit) other hit known
      exact ⟨held.positive, held.known, held.passed, held.first⟩
    · exact ⟨sound.counters, others .passed (by simp)⟩
  · exact sound

theorem sound_step (sound : Sound s) (event : RateEvent) : Sound (s.step event) := by
  cases event with
  | request id sender limiter reached => exact sound_request sound id sender limiter reached
  | expired id done => exact sound_expired sound id done
  | wait time =>
    refine ⟨fun key => (sound.counters key).later (Nat.le_add_right _ _), fun key hit here => ?_⟩
    have held := sound.held key hit here
    exact ⟨held.positive, held.known, held.passed, held.first⟩

theorem sound_run (now : Nat) (events : List RateEvent) : Sound (run step (started now) events) :=
  run_invariant (I := Sound) (fun _ event _ sound => sound_step sound event) (sound_started now)

def throughIn (s : RateSite) (limit start length : Nat) (hit : Hit RateTag) : Bool :=
  decide (s.requests hit.tag.id = some .passed) && decide (hit.tag.limit ≤ limit) &&
    decide (start ≤ hit.time) && decide (hit.time < start + length)

/-- However the requests and the commands to Redis overlap, and whether the ends of the windows are
set or not: of the requests of one address that are counted, in no time of the length of a window do
more than twice as many get through as the limit says. -/
theorem through_in_window_le (now : Nat) (events : List RateEvent) (sender : SenderInfo)
    (limiter : RateLimiter) (start : Nat) :
    let s := run step (started now) events
    ((s.counters (sender.address, limiter.windowSec)).hits.countP
      (s.throughIn limiter.limit start (limiter.windowSec * 1000))) ≤ 2 * limiter.limit := by
  intro s
  have sound : Sound s := sound_run now events
  refine hits_in_length_le (sound.counters (sender.address, limiter.windowSec)) _ _ start ?_ ?_
  · intro hit here through
    simp only [throughIn, Bool.and_eq_true, decide_eq_true_eq] at through
    exact ((sound.held _ hit here).passed through.1.1.1).trans through.1.1.2
  · intro hit here through
    simp only [throughIn, Bool.and_eq_true, decide_eq_true_eq] at through
    exact ⟨through.1.2, through.2⟩

end RateSite
end Invariant

end LeaderProduct
