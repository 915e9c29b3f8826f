import BlocksGenesis.Auth.Fallback
import Mathlib.Tactic.Linarith

/-! The certificate of a tenant, and how long it stays in the cache. -/

namespace BlocksGenesis.Auth
open Python

/-! ## Dates that are computed with -/

/-- A `datetime`: what its clock shows, in microseconds, and its time zone, which may know no offset. -/
structure ClockTime where
  clock : Jwt.Micros
  tzinfo : Option (Option Jwt.Micros) := none
deriving DecidableEq, Repr

namespace ClockTime

/-- `replace(tzinfo=timezone.utc)`, of a date without a time zone. -/
def orUtc (t : ClockTime) : ClockTime :=
  match t.tzinfo with
  | none => { t with tzinfo := some (some 0) }
  | some _ => t

/-- `now - t`, where `now` has a time zone. -/
def elapsed (t : ClockTime) (now : Jwt.Micros) : Except Exc Jwt.Micros :=
  match t.tzinfo with
  | some (some offset) => .ok (now - (t.clock - offset))
  | _ => .error (.typeError "can't subtract offset-naive and offset-aware datetimes")

/-- The time that is meant; a date without an offset is read in UTC. -/
def instant (t : ClockTime) : Jwt.Micros := t.clock - (t.tzinfo.getD none).getD 0

theorem orUtc_elapsed {t : ClockTime} {now passed : Jwt.Micros} (h : t.orUtc.elapsed now = .ok passed) :
    passed = now - t.instant := by
  obtain ⟨clock, tzinfo⟩ := t
  rcases tzinfo with _ | _ | offset
  · exact (Except.ok.inj h).symm
  · cases h
  · exact (Except.ok.inj h).symm

end ClockTime

def dayMicros : Jwt.Micros := Jwt.seconds 86400

/-- `timedelta.days`, which is rounded down before zero as well. -/
def days (elapsed : Jwt.Micros) : Int := elapsed / dayMicros

/-- The day that has begun is not over, so the days after it end before as many whole ones do. -/
theorem days_left_le (now issued validity : Int) :
    now + (validity - days (now - issued) - 1) * dayMicros ≤ issued + validity * dayMicros := by
  have hday : now - issued < (days (now - issued) + 1) * dayMicros := Int.lt_ediv_add_one_mul_self _ (by decide)
  linarith

/-! ## `get_tenant_cert` -/

structure CertificateParameters extends JwtTokenParameters where
  certificateValidForNumberOfDays : Int := 365
  issueDate : Option ClockTime := none
deriving DecidableEq, Repr

/-- When the certificate is no longer valid. -/
def CertificateParameters.validUntil (parameters : CertificateParameters) (issueDate : ClockTime) : Jwt.Micros :=
  issueDate.instant + parameters.certificateValidForNumberOfDays * dayMicros

/-- The whole days that are left, in seconds, and no less than a minute. -/
def CertificateParameters.ttl (parameters : CertificateParameters) (issueDate : ClockTime) (now : Jwt.Micros) :
    Except Exc Int := do
  let elapsed ← issueDate.orUtc.elapsed now
  let daysRemaining := parameters.certificateValidForNumberOfDays - days elapsed - 1
  return max 60 (daysRemaining * 86400)

/-- What `add_bytes_value_async` is called with. -/
structure AddedBytes where
  key : String
  value : Bytes
  keyLifeSpan : Int
deriving DecidableEq, Repr

structure TenantCert where
  answer : Except Exc (Option Bytes)
  added : Option AddedBytes := none

/-- `fetch_cert_bytes`, which begins with `cert_url.startswith`. -/
def fetchCertificate (w : World) : Option String → Except Exc Bytes
  | some url => w.fetchCertBytes url
  | none => .error (.attributeError "'NoneType' object has no attribute 'startswith'")

/-- The fetched bytes, for the cache. An error on the way is logged only. -/
def addFetched (parameters : CertificateParameters) (now : Jwt.Micros) (key : String) (bytes : Bytes) :
    Option AddedBytes := do
  let issueDate ← parameters.issueDate
  let ttl ← (parameters.ttl issueDate now).toOption
  if 0 < ttl then some ⟨key, bytes, ttl⟩ else none

def getTenantCert (w : World) (now : Jwt.Micros) (parameters : Option CertificateParameters)
    (tenantId : Option String) : TenantCert :=
  match parameters with
  | none => { answer := .ok none }
  | some parameters =>
    let key := "tetocertpublic::" ++ tenantId.getD "None"
    -- A cache that raises is passed over, and so is an empty value.
    match (w.cachedBytes key).toOption.join.filter (fun bytes => !bytes.isEmpty) with
    | some bytes => { answer := .ok (some bytes) }
    | none =>
      match fetchCertificate w parameters.publicCertificatePath with
      | .error e => { answer := .error e }
      | .ok bytes =>
        if bytes.isEmpty then { answer := .ok none }
        else { answer := .ok (some bytes), added := addFetched parameters now key bytes }

/-! ## The expiry -/

section Expiry
variable {w : World} {now : Jwt.Micros} {parameters : CertificateParameters} {tenantId : Option String}
  {issueDate : ClockTime} {entry : AddedBytes} {ttl : Int}

/-- What is added was fetched just now, and stays for the time that follows from its issue date. -/
theorem getTenantCert_added (h : (getTenantCert w now (some parameters) tenantId).added = some entry) :
    fetchCertificate w parameters.publicCertificatePath = .ok entry.value ∧
      ∃ issueDate, parameters.issueDate = some issueDate ∧ parameters.ttl issueDate now = .ok entry.keyLifeSpan := by
  unfold getTenantCert at h
  dsimp only at h
  split at h
  · cases h
  · split at h
    · cases h
    · rename_i bytes hfetched
      split at h
      · cases h
      · obtain ⟨issueDate, hissued, h⟩ := Option.bind_eq_some_iff.mp h
        obtain ⟨ttl, httl, h⟩ := Option.bind_eq_some_iff.mp h
        split at h
        · cases h
          refine ⟨hfetched, issueDate, hissued, ?_⟩
          cases hresult : parameters.ttl issueDate now with
          | error e =>
            rw [hresult] at httl
            cases httl
          | ok found =>
            rw [hresult] at httl
            exact congrArg Except.ok (Option.some.inj httl)
        · cases h

/-- The days that have begun since the issue date are counted as over, so none of the rest is after the end. -/
theorem ttl_within_validity (h : parameters.ttl issueDate now = .ok ttl) :
    60 ≤ ttl ∧ (ttl = 60 ∨ now + Jwt.seconds ttl ≤ parameters.validUntil issueDate) := by
  obtain ⟨elapsed, helapsed, h⟩ := bind_ok_iff.mp h
  cases pure_ok_iff.mp h
  rw [ClockTime.orUtc_elapsed helapsed]
  let daysRemaining := parameters.certificateValidForNumberOfDays - days (now - issueDate.instant) - 1
  refine ⟨Int.le_max_left _ _, ?_⟩
  rcases Int.le_total (daysRemaining * 86400) 60 with hlate | hleft
  · exact .inl (Int.max_eq_left hlate)
  · right
    rw [Int.max_eq_right hleft, Jwt.seconds, mul_assoc]
    exact days_left_le now issueDate.instant parameters.certificateValidForNumberOfDays

/-- A certificate leaves the cache in a minute, or before it is no longer valid. -/
theorem cached_cert_expires (h : (getTenantCert w now (some parameters) tenantId).added = some entry) :
    fetchCertificate w parameters.publicCertificatePath = .ok entry.value ∧ 60 ≤ entry.keyLifeSpan ∧
      ∃ issueDate, parameters.issueDate = some issueDate ∧
        (entry.keyLifeSpan = 60 ∨ now + Jwt.seconds entry.keyLifeSpan ≤ parameters.validUntil issueDate) := by
  obtain ⟨hfetched, issueDate, hissued, httl⟩ := getTenantCert_added h
  obtain ⟨hleast, hends⟩ := ttl_within_validity httl
  exact ⟨hfetched, hleast, issueDate, hissued, hends⟩

end Expiry

/-- A certificate for a year, whose date says no time zone. -/
def yearCert : CertificateParameters := { publicCertificatePath := some "c", issueDate := some ⟨0, none⟩ }

/-- In the eleventh day 354 whole ones are left. -/
theorem cached_cert_expires_year :
    60 ≤ (354 * 86400 : Int) ∧ ∃ issueDate, yearCert.issueDate = some issueDate ∧
      ((354 * 86400 : Int) = 60 ∨
        10 * dayMicros + 1 + Jwt.seconds (354 * 86400) ≤ yearCert.validUntil issueDate) :=
  (@cached_cert_expires (World.ofTables [] [] []) (10 * dayMicros + 1) yearCert (some "acme")
    ⟨"tetocertpublic::acme", [99], 354 * 86400⟩ rfl).2

end BlocksGenesis.Auth
