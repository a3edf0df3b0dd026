import Mathlib.Tactic.Common

/-!
# Python datetimes

The part of `datetime` the reference planner uses, with its bounded range. Times are counted in
microseconds from `0001-01-01T00:00:00`; a `datetime` exists for the years 1 to 9999 only, so both
`astimezone` and the addition of a `timedelta` raise `OverflowError` outside that range.

* `UtcTime`: a `datetime` in UTC. It carries its range, so no value outside it can be built.
* `AwareTime`: a `datetime` with an offset; `AwareTime.toUtc` is `astimezone(timezone.utc)`.
* `Moment`: a `datetime` that a caller hands in, which may be naive. The parsers reject naive
  timestamps (`PyDateTime.naive`).
* `timedeltaSeconds`, `UtcTime.add`: `timedelta(seconds=n)` and `datetime + timedelta`.
-/

namespace Nlboot.Reference

/-- Microseconds from `datetime.min` to the end of year 9999. -/
def rangeMicros : Int := 3652059 * 86400 * 1000000

/-- A reading inside the range of `datetime`. -/
def InRange (micros : Int) : Prop := 0 ≤ micros ∧ micros < rangeMicros

instance (micros : Int) : Decidable (InRange micros) := inferInstanceAs (Decidable (_ ∧ _))

/-- A `datetime` in UTC. -/
@[ext]
structure UtcTime where
  micros : Int
  inRange : InRange micros
  deriving DecidableEq

/-- A `datetime` with a fixed offset: the wall reading and the offset, below one day. -/
structure AwareTime where
  wall : Int
  offset : Int
  inRange : InRange wall
  small : -86400000000 < offset ∧ offset < 86400000000
  deriving DecidableEq

/-- A `datetime` handed in by a caller: with an offset, or naive. `astimezone` reads a naive one as
local time, so it comes with what the zone of the machine makes of it: a time with an offset, or
none where that raises `ValueError`, as it does next to `datetime.min`. -/
inductive Moment where
  | aware (t : AwareTime)
  | naive (localTime : Option AwareTime)
  deriving DecidableEq

instance : Coe AwareTime Moment := ⟨.aware⟩

/-- What `datetime.fromisoformat` returns: with or without an offset. -/
inductive PyDateTime where
  | naive (wall : Int)
  | aware (t : AwareTime)
  deriving DecidableEq

/-- The instant an aware time names, in microseconds of UTC. It need not be a `datetime`. -/
def AwareTime.instant (t : AwareTime) : Int := t.wall - t.offset

/-- `astimezone(timezone.utc)`: none where it raises `OverflowError`. -/
def AwareTime.toUtc (t : AwareTime) : Option UtcTime :=
  if h : InRange t.instant then some ⟨t.instant, h⟩ else none

/-- A UTC time as an aware time of offset zero. -/
def UtcTime.toAware (t : UtcTime) : AwareTime := ⟨t.micros, 0, t.inRange, by decide⟩

/-- A UTC time as a time that is handed in. -/
def UtcTime.toMoment (t : UtcTime) : Moment := t.toAware

instance : Coe UtcTime Moment := ⟨UtcTime.toMoment⟩

/-- `timedelta(seconds=n)` in microseconds: none where it raises `OverflowError`. -/
def timedeltaSeconds (n : Int) : Option Int :=
  if -999999999 ≤ n / 86400 ∧ n / 86400 ≤ 999999999 then some (n * 1000000) else none

/-- `t + delta`: none where it raises `OverflowError`. -/
def UtcTime.add (t : UtcTime) (delta : Int) : Option UtcTime :=
  if h : InRange (t.micros + delta) then some ⟨t.micros + delta, h⟩ else none

/-- `t + timedelta(seconds=n)`. -/
def UtcTime.addSeconds (t : UtcTime) (n : Int) : Option UtcTime :=
  (timedeltaSeconds n).bind t.add

theorem AwareTime.toUtc_eq_some {t : AwareTime} {u : UtcTime} :
    t.toUtc = some u ↔ u.micros = t.instant := by
  unfold AwareTime.toUtc
  constructor
  · intro h
    split_ifs at h
    obtain rfl := Option.some.inj h
    rfl
  · intro h
    rw [dif_pos (h ▸ u.inRange)]
    exact congrArg some (UtcTime.ext h.symm)

@[simp] theorem UtcTime.toUtc_toAware (t : UtcTime) : t.toAware.toUtc = some t :=
  AwareTime.toUtc_eq_some.mpr (by simp [UtcTime.toAware, AwareTime.instant])

theorem UtcTime.toMoment_injective : Function.Injective UtcTime.toMoment := by
  intro t t' h
  exact UtcTime.ext (congrArg AwareTime.wall (Moment.aware.inj h))

theorem UtcTime.add_micros {t u : UtcTime} {delta : Int} (h : t.add delta = some u) :
    u.micros = t.micros + delta := by
  unfold UtcTime.add at h
  split_ifs at h
  obtain rfl := Option.some.inj h
  rfl

/-- A sum with a positive number of seconds is later, with any other number it is not. -/
theorem UtcTime.lt_addSeconds_iff {t u : UtcTime} {n : Int} (h : t.addSeconds n = some u) :
    t.micros < u.micros ↔ 0 < n := by
  unfold UtcTime.addSeconds timedeltaSeconds at h
  split_ifs at h with hn
  · rw [UtcTime.add_micros h]
    omega
  · exact absurd h (by simp)

end Nlboot.Reference
